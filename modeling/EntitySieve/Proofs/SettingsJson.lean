import Mathlib.Data.List.TakeWhile
import EntitySieve.Proofs.JsonRecords
import EntitySieve.Render.Settings

/-! The JSON form of the settings. It is well formed, and reading it back gives the settings, as
does reading any object that holds them. -/
namespace EntitySieve

namespace Text

theorem isDigit_ofNat {n : Nat} {c : Char} (h : c ∈ ofNat n) : c.isDigit = true :=
  Nat.isDigit_of_mem_toDigits (by decide) (by decide) h

theorem isDigits_ofNat (n : Nat) : isDigits (ofNat n) = true := by
  have hne : ofNat n ≠ [] := Nat.toDigits_ne_nil
  simp only [isDigits, Bool.and_eq_true, Bool.not_eq_true', List.isEmpty_eq_false_iff,
    List.all_eq_true]
  exact ⟨hne, fun c hc => isDigit_ofNat hc⟩

@[simp] theorem natural?_ofNat (n : Nat) : natural? (ofNat n) = some n := by
  rw [natural?, if_pos (isDigits_ofNat n), ← Nat.ofDigitChars_eq_foldl, ofNat,
    Nat.ofDigitChars_ten_toDigits]

/-- A number other than zero has no leading zero. -/
theorem head?_ofNat {n : Nat} (h : 0 < n) : (ofNat n).head? ≠ some '0' := by
  induction n using Nat.strongRecOn with
  | ind n ih =>
    rw [ofNat, Nat.toDigits_eq_if (by decide)]
    split
    case isTrue hlt =>
      have hdigit : ∀ m < 10, 0 < m → m.digitChar ≠ '0' := by decide
      simpa using hdigit n hlt h
    case isFalse hge =>
      have hrest := ih (n / 10) (by omega) (by omega)
      rwa [List.head?_append_of_ne_nil _ Nat.toDigits_ne_nil]

end Text

namespace Json

theorem isNumber_ofNat (n : Nat) : isNumber (Text.ofNat n) = true := by
  have hdigit : ∀ c ∈ Text.ofNat n, c.isDigit = true := fun c hc => Text.isDigit_ofNat hc
  have hsign : ∀ t, Text.ofNat n ≠ '-' :: t := by
    intro t ht
    have hminus := hdigit '-' (by simp [ht])
    contradiction
  have htake : (Text.ofNat n).takeWhile Char.isDigit = Text.ofNat n :=
    List.takeWhile_eq_self_iff.mpr hdigit
  have hdrop : (Text.ofNat n).dropWhile Char.isDigit = [] :=
    List.dropWhile_eq_nil_iff.mpr hdigit
  have hzero : Text.ofNat n = ['0'] ∨ (Text.ofNat n).head? ≠ some '0' := by
    rcases Nat.eq_zero_or_pos n with rfl | hpos
    · exact .inl rfl
    · exact .inr (Text.head?_ofNat hpos)
  rw [isNumber.eq_2 _ hsign, isUnsigned, htake, hdrop, Text.isDigits_ofNat]
  simpa [isFraction, isExponent] using hzero

theorem wellFormed_ofNat (n : Nat) : WellFormed (.ofNat n) := .number (isNumber_ofNat n)

end Json

namespace Settings

@[simp] theorem paddingOfJson?_ofNat (p : UInt32) : paddingOfJson? (.ofNat p.toNat) = some p := by
  simp [paddingOfJson?, Json.ofNat, p.toNat_lt_size]

/-- The one member of the settings that is an object itself. -/
def drawing (s : Settings) : Json :=
  .ofMembers [("diagramPadding", .ofNat s.diagramPadding.toNat)]

theorem toJson_eq (s : Settings) :
    s.toJson = .ofMembers [("startOnLoad", .bool s.startOnLoad),
      ("securityLevel", s.securityLevel.toJson), ("er", s.drawing)] := rfl

theorem wellFormed_toJson (s : Settings) : s.toJson.WellFormed := by
  have hdrawing : s.drawing.WellFormed :=
    Json.wellFormed_ofMembers (by simpa using Json.wellFormed_ofNat _)
  have hlevel : s.securityLevel.toJson.WellFormed := Json.wellFormed_ofText _
  rw [toJson_eq]
  refine Json.wellFormed_ofMembers ?_
  simpa using ⟨Json.WellFormed.bool s.startOnLoad, hlevel, hdrawing⟩

def fieldNames : List Text := ["startOnLoad", "securityLevel", "er"]

def drawingNames : List Text := ["diagramPadding"]

theorem nodup_fieldNames : fieldNames.Nodup := by decide

theorem nodup_drawingNames : drawingNames.Nodup := by decide

/-- Objects that hold the settings, and whatever else under other names. -/
def HeldBy (s : Settings) (v : Json) : Prop :=
  ∃ level er,
    v.HasMembers
      [("startOnLoad", .bool s.startOnLoad), ("securityLevel", .string level), ("er", er)] ∧
    Json.unescape? level = some s.securityLevel.name ∧
    er.HasMembers [("diagramPadding", .ofNat s.diagramPadding.toNat)]

theorem ofJson?_of_heldBy {s : Settings} {v : Json} (h : s.HeldBy v) : ofJson? v = some s := by
  obtain ⟨level, er, hv, hlevel, her⟩ := h
  have hfields : v.fields? fieldNames = some [.bool s.startOnLoad, .string level, er] :=
    Json.fields?_of_hasMembers hv nodup_fieldNames
  have hdrawing : er.fields? drawingNames = some [.ofNat s.diagramPadding.toNat] :=
    Json.fields?_of_hasMembers her nodup_drawingNames
  rw [fieldNames] at hfields
  rw [drawingNames] at hdrawing
  simp only [ofJson?, hfields, hdrawing, Option.bind_eq_bind, Option.bind_some,
    SecurityLevel.ofJson?, hlevel, SecurityLevel.ofName?_name, paddingOfJson?_ofNat]
  rfl

theorem heldBy_toJson (s : Settings) : s.HeldBy s.toJson :=
  ⟨Json.escape s.securityLevel.name, s.drawing, (Json.isRecord_ofMembers _).hasMembers,
    Json.unescape?_escape _, (Json.isRecord_ofMembers _).hasMembers⟩

@[simp] theorem ofJson?_toJson (s : Settings) : ofJson? s.toJson = some s :=
  ofJson?_of_heldBy s.heldBy_toJson

theorem text_eq (s : Settings) :
    s.text = "\x7b\"startOnLoad\":" ++ ((if s.startOnLoad then "true" else "false" : Text) ++
      (",\"securityLevel\":" ++ (Json.quoted s.securityLevel.name ++
        (",\"er\":\x7b\"diagramPadding\":" ++
          (Text.ofNat s.diagramPadding.toNat ++ ['\x7d', '\x7d']))))) := by
  have hkeys : Json.escape "startOnLoad" = "startOnLoad" ∧
      Json.escape "securityLevel" = "securityLevel" ∧ Json.escape "er" = "er" ∧
        Json.escape "diagramPadding" = "diagramPadding" := by decide
  have hlevel : Json.escape s.securityLevel.name = s.securityLevel.name := by
    cases s.securityLevel <;> rfl
  simp only [text, toJson, Json.compact, Json.write, Json.writeMembers, Json.member, hkeys,
    Json.ofNat, Json.quoted, SecurityLevel.toJson, Json.ofText, hlevel, JsonLayout.compact]
  simp

/-- The settings hold no character that means something in markup. -/
theorem ne_of_mem_text {s : Settings} {c : Char} (h : c ∈ s.text) : c ≠ '<' ∧ c ≠ '-' := by
  have hclosed (t : Text) (ht : (t.all fun d => d != '<' && d != '-') = true) (hc : c ∈ t) :
      c ≠ '<' ∧ c ≠ '-' := by
    simpa using List.all_eq_true.mp ht c hc
  simp only [text_eq, List.mem_append] at h
  rcases h with h | h | h | h | h | h | h
  · exact hclosed _ (by decide) h
  · split at h <;> exact hclosed _ (by decide) h
  · exact hclosed _ (by decide) h
  · exact hclosed _ (by cases s.securityLevel <;> decide) h
  · exact hclosed _ (by decide) h
  · have hdigit := Text.isDigit_ofNat h
    constructor <;> rintro rfl <;> contradiction
  · exact hclosed _ (by decide) h

end Settings
end EntitySieve
