import EntitySieve.Embedding
import EntitySieve.Proofs.Delivery
import EntitySieve.Proofs.JsonRecords

/-! The listing of a diagram as JSON. The compact text and the one that the program prints are texts
of one value, and the value shows everything that the summary holds. -/
namespace EntitySieve

/-- A string with just this content. -/
inductive Json.IsString (t : Text) : Json → Prop where
  | mk {b : Text} (h : unescape? b = some t) : IsString t (.string b)

/-- The value of an endpoint; null exactly if there is none. -/
inductive Json.IsEndpoint : Option Text → Json → Prop where
  | missing : IsEndpoint none .null
  | named {e : Text} {v : Json} (h : v.IsString e) : IsEndpoint (some e) v

/-- Objects with the two endpoints as their members. -/
def Relationship.ListedBy (r : Relationship) (v : Json) : Prop :=
  ∃ a b, v.IsRecord [("first", a), ("second", b)] ∧
    a.IsEndpoint r.first ∧ b.IsEndpoint r.second

/-- Objects with the entities and the relationships as their members, both in their order. -/
def Summary.ListedBy (s : Summary) (v : Json) : Prop :=
  ∃ es rs, v.IsRecord [("entities", .array es), ("relationships", .array rs)] ∧
    List.Forall₂ Json.IsString s.entities es ∧
    List.Forall₂ Relationship.ListedBy s.relationships rs

section Unique
variable {v : Json}

theorem Json.IsString.unique {t u : Text} (ht : v.IsString t) (hu : v.IsString u) : t = u := by
  cases ht with
  | mk ht =>
    cases hu with
    | mk hu => exact Option.some.inj (ht.symm.trans hu)

theorem Json.IsEndpoint.unique {e f : Option Text} (he : v.IsEndpoint e) (hf : v.IsEndpoint f) :
    e = f := by
  cases he with
  | missing =>
    cases hf with
    | missing => rfl
    | named h => nomatch h
  | named he =>
    cases hf with
    | missing => nomatch he
    | named hf => rw [he.unique hf]

theorem Relationship.ListedBy.unique {r r' : Relationship} (h : r.ListedBy v)
    (h' : r'.ListedBy v) : r = r' := by
  obtain ⟨a, b, hv, hfirst, hsecond⟩ := h
  obtain ⟨a', b', hv', hfirst', hsecond'⟩ := h'
  obtain ⟨rfl, rfl⟩ : a = a' ∧ b = b' := by simpa using hv.unique hv'
  cases r
  cases r'
  rw [Relationship.mk.injEq]
  exact ⟨hfirst.unique hfirst', hsecond.unique hsecond'⟩

/-- A value lists one summary at most. -/
theorem Summary.ListedBy.unique {s s' : Summary} (h : s.ListedBy v) (h' : s'.ListedBy v) :
    s = s' := by
  obtain ⟨es, rs, hv, hentities, hrelationships⟩ := h
  obtain ⟨es', rs', hv', hentities', hrelationships'⟩ := h'
  obtain ⟨rfl, rfl⟩ : es = es' ∧ rs = rs' := by simpa using hv.unique hv'
  cases s
  cases s'
  have hstring : Relator.LeftUnique Json.IsString := fun _ _ _ h h' => h.unique h'
  have hlisted : Relator.LeftUnique Relationship.ListedBy := fun _ _ _ h h' => h.unique h'
  rw [Summary.mk.injEq]
  exact ⟨hstring.forall₂ hentities hentities', hlisted.forall₂ hrelationships hrelationships'⟩

end Unique

section Write

theorem Json.isString_ofText (t : Text) : (ofText t).IsString t := .mk (unescape?_escape t)

theorem Json.isEndpoint_ofText? (e : Option Text) : (ofText? e).IsEndpoint e := by
  cases e with
  | none => exact .missing
  | some e => exact .named (isString_ofText e)

theorem Json.wellFormed_ofText? (e : Option Text) : (ofText? e).WellFormed := by
  cases e with
  | none => exact .null
  | some e => exact wellFormed_ofText e

theorem Relationship.toJson_eq (r : Relationship) :
    r.toJson = .ofMembers [("first", .ofText? r.first), ("second", .ofText? r.second)] := rfl

theorem Relationship.listedBy_toJson (r : Relationship) : r.ListedBy r.toJson :=
  ⟨_, _, Json.isRecord_ofMembers _, Json.isEndpoint_ofText? _, Json.isEndpoint_ofText? _⟩

theorem Relationship.wellFormed_toJson (r : Relationship) : r.toJson.WellFormed := by
  rw [toJson_eq]
  refine Json.wellFormed_ofMembers ?_
  simpa using ⟨Json.wellFormed_ofText? r.first, Json.wellFormed_ofText? r.second⟩

theorem Summary.toJson_eq (s : Summary) :
    s.toJson = .ofMembers [("entities", .array (s.entities.map .ofText)),
      ("relationships", .array (s.relationships.map Relationship.toJson))] := rfl

theorem Summary.listedBy_toJson (s : Summary) : s.ListedBy s.toJson := by
  refine ⟨_, _, Json.isRecord_ofMembers _, ?_, ?_⟩
  · rw [List.forall₂_map_right_iff, List.forall₂_same]
    exact fun e _ => Json.isString_ofText e
  · rw [List.forall₂_map_right_iff, List.forall₂_same]
    exact fun r _ => r.listedBy_toJson

theorem Summary.wellFormed_toJson (s : Summary) : s.toJson.WellFormed := by
  have hentities : (Json.array (s.entities.map .ofText)).WellFormed :=
    .array (List.forall_mem_map.mpr fun e _ => Json.wellFormed_ofText e)
  have hrelationships : (Json.array (s.relationships.map Relationship.toJson)).WellFormed :=
    .array (List.forall_mem_map.mpr fun r _ => r.wellFormed_toJson)
  rw [toJson_eq]
  refine Json.wellFormed_ofMembers ?_
  simpa using ⟨hentities, hrelationships⟩

end Write

/-- A text lists one summary at most. -/
theorem Summary.eq_of_isTextOf {s s' : Summary} {out : Text} (h : Json.IsTextOf s.toJson out)
    (h' : Json.IsTextOf s'.toJson out) : s = s' := by
  have hsame : s.toJson = s'.toJson := Option.some.inj (h.read?.symm.trans h'.read?)
  exact s.listedBy_toJson.unique (hsame ▸ s'.listedBy_toJson)

theorem Summary.isTextOf_listEntities (t : Text) :
    Json.IsTextOf (ofText t).toJson (Embedding.listEntities t) :=
  Json.isTextOf_compact (ofText t).wellFormed_toJson

section Run
variable {φ : Type} [FileStore φ] {args : List Text} {files : φ} {stdin : ByteArray} {t : Text}

/-- Arguments that ask for the listing as JSON of sources that join to this text. -/
def AsksToList (args : List Text) (files : φ) (stdin : ByteArray) (t : Text) : Prop :=
  ∃ q s, Request.ofArguments args = .ok q ∧ q.command = .entities s true ∧
    ((Loader.ofFunction (sourceText files s.root stdin)).combine s.files ()).value.1 = .ok t

theorem runProgram_of_asksToList (h : AsksToList args files stdin t) (env : LogEnvironment) :
    (runProgram args env files stdin).code = 0 ∧
      Json.IsTextOf (Summary.ofText t).toJson (runProgram args env files stdin).stdout := by
  obtain ⟨q, s, hq, hcommand, hjoined⟩ := h
  rw [Loader.combine_ofFunction, ← s.load_value] at hjoined
  have hresult : (q.command.run q.verbose files stdin).value.result =
      .ok (printed [(Summary.ofText t).toJson.indented], files) := by
    rw [hcommand]
    show (runEntities s true files stdin).value.result = _
    rw [runEntities_result, hjoined]
    rfl
  have hshown := q.run_shows env files stdin
  rw [hresult, ← runProgram_eq hq] at hshown
  obtain ⟨hcode, hstdout, -⟩ := hshown
  refine ⟨hcode, ?_⟩
  rw [hstdout, printed, List.flatMap_singleton]
  exact Json.isTextOf_indented (Summary.ofText t).wellFormed_toJson Json.isGap_newline

end Run

/-- Both listings of a text as JSON are read as one value, from which the whole summary can be
told. So they differ wherever the summaries do. -/
theorem json_listing_loses_nothing (t : Text) :
    ∃ v, (Summary.ofText t).ListedBy v ∧ (∀ s : Summary, s.ListedBy v → s = Summary.ofText t) ∧
      Json.IsTextOf v (Embedding.listEntities t) ∧
      Json.read? (Embedding.listEntities t) = some v ∧
      (∀ (φ : Type) [FileStore φ] (args : List Text) (env : LogEnvironment) (files : φ)
          (stdin : ByteArray), AsksToList args files stdin t →
        (runProgram args env files stdin).code = 0 ∧
          Json.IsTextOf v (runProgram args env files stdin).stdout ∧
          Json.read? (runProgram args env files stdin).stdout = some v) ∧
      ∀ u, Summary.ofText u ≠ Summary.ofText t →
        Embedding.listEntities u ≠ Embedding.listEntities t ∧
        ∀ (φ ψ : Type) [FileStore φ] [FileStore ψ] (args args' : List Text)
          (env env' : LogEnvironment) (files : φ) (files' : ψ) (stdin stdin' : ByteArray),
          AsksToList args files stdin t → AsksToList args' files' stdin' u →
            (runProgram args' env' files' stdin').stdout ≠
              (runProgram args env files stdin).stdout := by
  have hlisted := (Summary.ofText t).listedBy_toJson
  have ht := Summary.isTextOf_listEntities t
  refine ⟨_, hlisted, fun s hs => hs.unique hlisted, ht, ht.read?, ?_, fun u hu => ⟨?_, ?_⟩⟩
  · intro φ _ args env files stdin hasks
    obtain ⟨hcode, hout⟩ := runProgram_of_asksToList hasks env
    exact ⟨hcode, hout, hout.read?⟩
  · intro heq
    exact hu (Summary.eq_of_isTextOf (heq ▸ Summary.isTextOf_listEntities u) ht)
  · intro φ ψ _ _ args args' env env' files files' stdin stdin' hasks hasks' heq
    have hout := (runProgram_of_asksToList hasks env).2
    have hout' := (runProgram_of_asksToList hasks' env').2
    exact hu (Summary.eq_of_isTextOf (heq ▸ hout') hout)

/-- An entity with a quote, a backslash and a control character in its name, one that is called
null, and a relationship without a second endpoint. -/
def oddText : Text :=
  Text.ofLines ["a\"\\\x01 \x7b", "\x7d", "a\"\\\x01 || null", "b,[ --o", ""]

/-- The same but for the name null, which is missing. -/
def namelessText : Text :=
  Text.ofLines ["a\"\\\x01 \x7b", "\x7d", "a\"\\\x01 ||", "b,[ --o", ""]

def listingArguments : List Text := ["entities", "-f", "-", "--json"]

theorem asksToList_listingArguments {input : ByteArray} {t : Text}
    (h : ((Loader.ofFunction (sourceText (⟨[], []⟩ : FileTree) none input)).combine ["-"]
      ()).value.1.toOption = some t) :
    AsksToList listingArguments (⟨[], []⟩ : FileTree) input t := by
  have hread : Request.ofArguments listingArguments =
      .ok ⟨false, none, none, .entities ⟨["-"], none⟩ true⟩ := eq_ok_of_toOption (by decide +kernel)
  exact ⟨_, _, hread, rfl, eq_ok_of_toOption h⟩

theorem json_listing_loses_nothing_oddText :
    let run (t : Text) : Outcome FileTree :=
      runProgram listingArguments ⟨none, none, none⟩ ⟨[], []⟩ (Text.toUtf8 t)
    Summary.ofText (namelessText ++ ['\n']) ≠ Summary.ofText (oddText ++ ['\n']) ∧
      (run oddText).code = 0 ∧
      Json.read? (run oddText).stdout = Json.read? (Embedding.listEntities (oddText ++ ['\n'])) ∧
      (run namelessText).stdout ≠ (run oddText).stdout := by
  have hodd : AsksToList listingArguments (⟨[], []⟩ : FileTree) (Text.toUtf8 oddText)
      (oddText ++ ['\n']) := asksToList_listingArguments (by decide +kernel)
  have hnameless : AsksToList listingArguments (⟨[], []⟩ : FileTree) (Text.toUtf8 namelessText)
      (namelessText ++ ['\n']) := asksToList_listingArguments (by decide +kernel)
  have hdiffer : Summary.ofText (namelessText ++ ['\n']) ≠ Summary.ofText (oddText ++ ['\n']) := by
    decide +kernel
  obtain ⟨v, -, -, -, hcompact, hruns, hothers⟩ := json_listing_loses_nothing (oddText ++ ['\n'])
  obtain ⟨hcode, -, hprinted⟩ := hruns FileTree _ ⟨none, none, none⟩ _ _ hodd
  exact ⟨hdiffer, hcode, hprinted.trans hcompact.symm,
    (hothers _ hdiffer).2 FileTree FileTree _ _ _ _ _ _ _ _ hodd hnameless⟩

end EntitySieve
