import EntitySieve.Proofs.SettingsJson

/-! The texts that settings are read from. Any layout, any order of the members and any others
among them give the same settings as the text that is written, and a padding is accepted only if its
literal consists of digits that denote it. -/
namespace EntitySieve.Settings

section Reading
variable {s : Settings} {v er : Json} {literal t : Text}

theorem ofText?_eq (ht : Json.IsTextOf v t) : ofText? t = ofJson? v := by
  rw [ofText?, ht.read?]
  rfl

theorem natural?_of_paddingOfJson? {p : UInt32} (h : paddingOfJson? (.number literal) = some p) :
    Text.natural? literal = some p.toNat := by
  simp only [paddingOfJson?, Option.bind_eq_bind, Option.bind_eq_some_iff] at h
  obtain ⟨n, hn, h⟩ := h
  split at h
  · rename_i hlt
    obtain rfl := Option.some.inj h
    rw [hn, Nat.toUInt32_eq, UInt32.toNat_ofNat', Nat.mod_eq_of_lt hlt]
  · contradiction

theorem exists_fields?_of_ofJson? (h : ofJson? v = some s) :
    ∃ start level er padding, v.fields? fieldNames = some [start, level, er] ∧
      er.fields? drawingNames = some [padding] ∧
      paddingOfJson? padding = some s.diagramPadding := by
  simp only [ofJson?, Option.bind_eq_bind, Option.bind_eq_some_iff] at h
  obtain ⟨xs, hxs, h⟩ := h
  split at h
  · simp only [Option.bind_eq_some_iff] at h
    obtain ⟨ys, hys, h⟩ := h
    split at h
    · simp only [Option.bind_eq_some_iff] at h
      obtain ⟨level, hlevel, padding, hpadding, h⟩ := h
      obtain rfl := Option.some.inj h
      exact ⟨_, _, _, _, hxs, hys, hpadding⟩
    · contradiction
  · contradiction

/-- What stands in the place of the padding in a value that is accepted denotes the padding. -/
theorem natural?_of_ofJson? (h : ofJson? v = some s) (her : v.HasField fieldNames "er" er)
    (hpadding : er.HasField drawingNames "diagramPadding" (.number literal)) :
    Text.natural? literal = some s.diagramPadding.toNat := by
  obtain ⟨start, level, er', padding, hv, her', hp⟩ := exists_fields?_of_ofJson? h
  have hthird : fieldNames[2]? = some "er".toList := rfl
  have hfirst : drawingNames[0]? = some "diagramPadding".toList := rfl
  obtain rfl := Option.some.inj (Json.getElem?_of_fields? nodup_fieldNames hv hthird her)
  obtain rfl := Option.some.inj (Json.getElem?_of_fields? nodup_drawingNames her' hfirst hpadding)
  exact natural?_of_paddingOfJson? hp

end Reading

theorem isTextOf_text (s : Settings) : Json.IsTextOf s.toJson s.text :=
  Json.isTextOf_compact s.wellFormed_toJson

/-- Settings are read from their own text, and from every text of an object that holds them. A
literal in the place of the padding is accepted only if it is digits for a number of 32 bits. -/
theorem settings_in_any_layout (s : Settings) :
    ofText? s.text = some s ∧
      (∀ v t, Json.IsTextOf v t → s.HeldBy v → ofText? t = some s) ∧
      ∀ v er literal t, Json.IsTextOf v t → v.HasField fieldNames "er" er →
        er.HasField drawingNames "diagramPadding" (.number literal) →
          (∀ s', ofText? t = some s' → Text.natural? literal = some s'.diagramPadding.toNat) ∧
            ∀ n, Text.natural? literal = some n → UInt32.size ≤ n → ofText? t = none := by
  have hholds : ∀ v t, Json.IsTextOf v t → s.HeldBy v → ofText? t = some s := by
    intro v t ht hv
    rw [ofText?_eq ht, ofJson?_of_heldBy hv]
  refine ⟨hholds _ _ s.isTextOf_text s.heldBy_toJson, hholds, ?_⟩
  intro v er literal t ht her hpadding
  have hdigits : ∀ s', ofText? t = some s' →
      Text.natural? literal = some s'.diagramPadding.toNat := by
    intro s' hs'
    rw [ofText?_eq ht] at hs'
    exact natural?_of_ofJson? hs' her hpadding
  refine ⟨hdigits, fun n hn hwide => ?_⟩
  cases hread : ofText? t with
  | none => rfl
  | some s' =>
    have hpad := hdigits s' hread
    rw [hn, Option.some.injEq] at hpad
    have hlt := s'.diagramPadding.toNat_lt_size
    omega

/-- Padding as wide as can be, and a member of a name that is known elsewhere only. -/
def spreadDrawing : Json :=
  .object [("diagramPadding", .number "4294967295"), ("startOnLoad", .null)]

/-- The settings' own names inside another member, with a literal that no number format holds. -/
def spreadNote : Json := .array [.null, .object [("er", .number "1e400")]]

/-- Escapes in a name and in the level, and another member before the settings' own. -/
def spreadSettings : Json :=
  .object
    [("note", spreadNote), ("er", spreadDrawing), ("\\u0073tartOnLoad", .bool true),
     ("securityLevel", .string "s\\u0074rict")]

/-- A row of values in place of each object, with a padding of 33 bits. -/
def wideSettings : Json := .array [.bool true, .string "loose", .array [.number "4294967296"]]

theorem wellFormed_spreadSettings : spreadSettings.WellFormed := by
  have hinner : (Json.object [("er", .number "1e400")]).WellFormed :=
    .object (by decide) (by simpa using Json.WellFormed.number (by decide))
  have hnote : spreadNote.WellFormed := .array (by simpa using ⟨Json.WellFormed.null, hinner⟩)
  have hdrawing : spreadDrawing.WellFormed :=
    .object (by decide) (by simpa using ⟨Json.WellFormed.number (by decide), Json.WellFormed.null⟩)
  refine .object (by decide) ?_
  simpa using ⟨hnote, hdrawing, Json.WellFormed.bool true, Json.WellFormed.string (by decide)⟩

theorem wellFormed_wideSettings : wideSettings.WellFormed := by
  have hrow : (Json.array [.number "4294967296"]).WellFormed :=
    .array (by simpa using Json.WellFormed.number (by decide))
  refine .array ?_
  simpa using ⟨Json.WellFormed.bool true, Json.WellFormed.string (by decide), hrow⟩

theorem heldBy_spreadSettings : HeldBy ⟨true, .strict, 4294967295⟩ spreadSettings := by
  have hlevel : Json.unescape? "s\\u0074rict" = some SecurityLevel.strict.name := by decide
  have hnamed : Json.Named
      [("note", spreadNote), ("er", spreadDrawing), ("\\u0073tartOnLoad", .bool true),
        ("securityLevel", .string "s\\u0074rict")]
      [("note", spreadNote), ("er", spreadDrawing), ("startOnLoad", .bool true),
        ("securityLevel", .string "s\\u0074rict")] :=
    .cons ⟨by decide, rfl⟩ (.cons ⟨by decide, rfl⟩ (.cons ⟨by decide, rfl⟩
      (.cons ⟨by decide, rfl⟩ .nil)))
  have hinner : Json.Named
      [("diagramPadding", .number "4294967295"), ("startOnLoad", .null)]
      [("diagramPadding", .number "4294967295"), ("startOnLoad", .null)] :=
    .cons ⟨by decide, rfl⟩ (.cons ⟨by decide, rfl⟩ .nil)
  refine ⟨"s\\u0074rict", spreadDrawing, ⟨_, [("note", spreadNote)], hnamed, ?_, by simp⟩, hlevel,
    ⟨_, [("startOnLoad", .null)], hinner, .refl _, by simp⟩⟩
  exact (@List.perm_append_comm _ [_, _] [_, _]).trans ((List.Perm.swap _ _ _).append_left [_, _])

theorem settings_in_any_layout_spreadSettings :
    Json.IsTextOf spreadSettings (spreadSettings.indented ++ ['\n']) ∧
      HeldBy ⟨true, .strict, 4294967295⟩ spreadSettings ∧
      ofText? (spreadSettings.indented ++ ['\n']) = some ⟨true, .strict, 4294967295⟩ ∧
      ofText? wideSettings.compact = none := by
  have ht : Json.IsTextOf spreadSettings (spreadSettings.indented ++ ['\n']) :=
    Json.isTextOf_indented wellFormed_spreadSettings Json.isGap_newline
  have hwide := Json.isTextOf_compact wellFormed_wideSettings
  obtain ⟨-, hread, hreject⟩ := settings_in_any_layout ⟨true, .strict, 4294967295⟩
  have her : wideSettings.HasField fieldNames "er" (.array [.number "4294967296"]) :=
    .item (i := 2) rfl rfl
  have hpadding : (Json.array [.number "4294967296"]).HasField drawingNames "diagramPadding"
      (.number "4294967296") := .item (i := 0) rfl rfl
  have hnone := (hreject _ _ _ _ hwide her hpadding).2 4294967296 (by decide) (by decide)
  exact ⟨ht, heldBy_spreadSettings, hread _ _ ht heldBy_spreadSettings, hnone⟩

end EntitySieve.Settings
