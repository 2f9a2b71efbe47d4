import RequestRouting.Proofs.Placeholder.References
import RequestRouting.Proofs.Placeholder.Resolving
import RequestRouting.Proofs.Placeholder.WithoutDefaults

/-! Resolving flat properties. A flat text resolves exactly when all keys that it reaches are
defined and none of them reaches itself, and then every placeholder in it is replaced by what the
value of its key resolves to. Every error names a key that is to blame for it. -/
namespace RequestRouting.Placeholder.Resolver

open Relation (TransGen)

variable {r : Resolver}

/-- What the outcome of an expansion says about the keys that the text reaches. -/
inductive Explained (r : Resolver) (visiting : List (List Char)) (cs : List Char) :
    Except Stop (List Char) → Prop
  | ok {out : List Char} (h : r.Resolves cs out) : Explained r visiting cs (.ok out)
  | circular {key : String} (hreached : r.Reached cs key)
      (hcycle : key.toList ∈ visiting ∨ TransGen r.Refers key key) :
      Explained r visiting cs (.error (.failed (.circular key)))
  | unresolvable {key value : String} (hreached : r.Reached cs key) (hundefined : ¬ r.Defined key) :
      Explained r visiting cs (.error (.failed (.unresolvable key value)))

section Explained

variable {visiting : List (List Char)} {cs rest : List Char} {e : Stop}

theorem Explained.error_of_rest (h : r.Explained visiting rest (.error e))
    (hrest : ∀ key, Mentions rest key → Mentions cs key) :
    r.Explained visiting cs (.error e) := by
  cases h with
  | circular hreached hcycle =>
    obtain ⟨first, hmentions, hreaches⟩ := hreached
    exact .circular ⟨first, hrest first hmentions, hreaches⟩ hcycle
  | unresolvable hreached hundefined =>
    obtain ⟨first, hmentions, hreaches⟩ := hreached
    exact .unresolvable ⟨first, hrest first hmentions, hreaches⟩ hundefined

/-- An error in the value of a key is explained by a text that mentions it. A key that comes up
again in its own value reaches itself. -/
theorem Explained.error_of_value {key value : String} (hmentions : Mentions cs key)
    (hvalue : r.properties.get? key = some value)
    (h : r.Explained (key.toList :: visiting) value.toList (.error e)) :
    r.Explained visiting cs (.error e) := by
  cases h with
  | @circular again hreached hcycle =>
    refine .circular (.of_value hmentions hvalue hreached) ?_
    rcases hcycle with hvisiting | hcycle
    · rcases List.mem_cons.1 hvisiting with heq | hvisiting
      · obtain rfl := String.toList_inj.1 heq
        obtain ⟨first, hfirst, hreaches⟩ := hreached
        exact .inr (TransGen.head' ⟨value, hvalue, hfirst⟩ hreaches)
      · exact .inl hvisiting
    · exact .inr hcycle
  | unresolvable hreached hundefined =>
    exact .unresolvable (.of_value hmentions hvalue hreached) hundefined

theorem Explained.cons {part : Except Stop (List Char)}
    {parts : Except Stop (List (List Char))}
    (h : r.Explained visiting rest (parts.map List.flatten))
    (hrest : ∀ key, Mentions rest key → Mentions cs key)
    (hpart : match part with
      | .ok resolved => ∀ out, r.Resolves rest out → r.Resolves cs (resolved ++ out)
      | .error e => r.Explained visiting cs (.error e)) :
    r.Explained visiting cs
      ((do let first ← part; let others ← parts; pure (first :: others)).map List.flatten) := by
  cases part with
  | error e => exact hpart
  | ok resolved =>
    cases parts with
    | error e => exact h.error_of_rest hrest
    | ok parts =>
      obtain ⟨hresolves⟩ := h
      exact .ok (hpart _ hresolves)

end Explained

section Expanding

variable {visiting : List (List Char)} {value name cs : List Char}
  {expandText : List (List Char) → List Char → Logged Stop (List Char)}

theorem lookup?_of_colon_not_mem (hcolon : ':' ∉ name) :
    r.lookup? name = r.properties.get? (String.ofList name) := by
  cases hlookup : r.lookup? name with
  | some found => rw [get?_of_lookup? hcolon hlookup]
  | none =>
    unfold lookup? at hlookup
    split at hlookup
    · contradiction
    · next hget => rw [hget]

theorem expand_name (hname : IsName name) (depth : Nat) :
    (r.expand (depth + 1) visiting name).result = .ok name := by
  have hbodies : bodies name = [] := by
    rw [bodies, pieces_name hname.2, List.filterMap_map]
    simp
  have hfill : fill id name = name := by
    rw [fill, pieces_name hname.2, List.flatMap_map]
    exact List.flatMap_singleton' name
  have hresult : (r.expand (depth + 1) visiting name).result = .ok (fill id name) := by
    apply expand_eq_fill
    rw [hbodies]
    simp
  rw [hresult, hfill]

theorem result_expandPiece_name (hstrict : r.lenient = false) (hname : IsName name)
    (hbody : (expandText visiting name).result = .ok name) :
    (r.expandPiece expandText visiting value (.reference name)).result =
      if name ∈ visiting then .error (.failed (.circular (String.ofList name)))
      else match r.properties.get? (String.ofList name) with
        | some found => (expandText (name :: visiting) found.toList).result
        | none => .error (.failed (.unresolvable (String.ofList name) (String.ofList value))) := by
  unfold expandPiece
  rw [Logged.result_bind, hbody, Outcome.ok_bind, lookup?_of_colon_not_mem hname.1, hstrict]
  by_cases hvisiting : name ∈ visiting
  · simp [hvisiting]
  · simp only [List.contains_eq_mem, hvisiting, decide_false, Bool.false_eq_true, if_false]
    cases r.properties.get? (String.ofList name) with
    | none => rfl
    | some found =>
      simp only [Logged.result_bind, Logged.result_report, Logged.result_pure]
      cases (expandText (name :: visiting) found.toList).result <;> rfl

theorem explained_placeholder (value : List Char) {key : String} (hstrict : r.lenient = false)
    (hname : IsName key.toList) (hmentions : Mentions cs key)
    (hbody : (expandText visiting key.toList).result = .ok key.toList)
    (hfound : ∀ found, r.properties.get? key = some found → key.toList ∉ visiting →
      r.Explained (key.toList :: visiting) found.toList
        (expandText (key.toList :: visiting) found.toList).result) :
    match (r.expandPiece expandText visiting value (.reference key.toList)).result with
    | .ok resolved => ∃ found, r.properties.get? key = some found ∧ r.Resolves found.toList resolved
    | .error e => r.Explained visiting cs (.error e) := by
  rw [result_expandPiece_name hstrict hname hbody, String.ofList_toList]
  by_cases hvisiting : key.toList ∈ visiting
  · rw [if_pos hvisiting]
    exact .circular (.of_mentions hmentions) (.inl hvisiting)
  rw [if_neg hvisiting]
  cases hvalue : r.properties.get? key with
  | none =>
    refine .unresolvable (.of_mentions hmentions) ?_
    rintro ⟨found, hdefined⟩
    rw [hvalue] at hdefined
    contradiction
  | some found =>
    have hexplained := hfound found hvalue hvisiting
    dsimp only
    cases hresult : (expandText (key.toList :: visiting) found.toList).result with
    | error e =>
      rw [hresult] at hexplained
      exact hexplained.error_of_value hmentions hvalue
    | ok resolved =>
      rw [hresult] at hexplained
      obtain ⟨hresolved⟩ := hexplained
      exact ⟨found, rfl, hresolved⟩

theorem explained_mapM (hstrict : r.lenient = false) (hcs : ReadsFlat cs)
    (hnames : ∀ name, IsName name → (expandText visiting name).result = .ok name)
    (hfound : ∀ key found, Mentions cs key → r.properties.get? key = some found →
      key.toList ∉ visiting → r.Explained (key.toList :: visiting) found.toList
        (expandText (key.toList :: visiting) found.toList).result) :
    r.Explained visiting cs
      (((pieces cs).mapM (r.expandPiece expandText visiting value)).result.map List.flatten) := by
  rw [Logged.result_mapM]
  -- The text is read from left to right. Every rest mentions keys of the text only.
  induction hcs with
  | nil => exact .ok .nil
  | @literal c rest hopen _ ih =>
    have hmentions : ∀ key, Mentions rest key → Mentions (c :: rest) key := by
      intro key
      exact (mentions_cons hopen).2
    have hrest := ih fun key found hkey => hfound key found (hmentions key hkey)
    rw [pieces_literal (head?_of_not_opening hopen), List.mapM_cons]
    apply hrest.cons hmentions
    show ∀ out, r.Resolves rest out → r.Resolves (c :: rest) (c :: out)
    intro out
    exact .literal hopen
  | @placeholder name rest hfirst hname _ ih =>
    have hmentions : ∀ key, Mentions rest key →
        Mentions ('$' :: '\x7b' :: (name ++ '\x7d' :: rest)) key := by
      intro key hkey
      exact (mentions_placeholder hfirst hname).2 (.inr hkey)
    have hrest := ih fun key found hkey => hfound key found (hmentions key hkey)
    obtain ⟨key, rfl⟩ : ∃ key : String, key.toList = name := ⟨_, String.toList_ofList⟩
    have hkey : Mentions ('$' :: '\x7b' :: (key.toList ++ '\x7d' :: rest)) key :=
      (mentions_placeholder hfirst hname).2 (.inl String.ofList_toList.symm)
    have hpiece := explained_placeholder value hstrict hname hkey (hnames _ hname)
      fun found => hfound key found hkey
    rw [pieces_placeholder hfirst hname, List.mapM_cons]
    apply hrest.cons hmentions
    split at hpiece
    · next resolved _ =>
      obtain ⟨found, hvalue, hresolved⟩ := hpiece
      intro out
      exact .placeholder hfirst hvalue hresolved
    · exact hpiece

theorem length_visiting_le_keys (hnodup : visiting.Nodup)
    (hdefined : ∀ placeholder ∈ visiting, r.Defined (String.ofList placeholder)) :
    visiting.length ≤ r.properties.keys.length := by
  have hsubset : visiting.map String.ofList ⊆ r.properties.keys := by
    intro key hkey
    obtain ⟨placeholder, hmem, rfl⟩ := List.mem_map.1 hkey
    obtain ⟨found, hfound⟩ := hdefined placeholder hmem
    exact List.mem_map_of_mem (Dictionary.mem_entries_of_get? hfound)
  have hnodup' : (visiting.map String.ofList).Nodup :=
    hnodup.map fun a b h => by simpa using congrArg String.toList h
  simpa using (hnodup'.subperm hsubset).length_le

/-- What is being replaced are keys of properties, so a level for each of these is enough, with one
for the text and one for a name in it. -/
theorem explained_expand (hstrict : r.lenient = false)
    (hvalues : ∀ entry ∈ r.properties.entries, Flat entry.2.toList) {depth : Nat}
    (hflat : Flat cs) (hnodup : visiting.Nodup)
    (hdefined : ∀ placeholder ∈ visiting, r.Defined (String.ofList placeholder))
    (hdepth : r.properties.keys.length + 2 ≤ depth + visiting.length) :
    r.Explained visiting cs (r.expand depth visiting cs).result := by
  induction depth generalizing visiting cs with
  | zero =>
    -- There are no more keys to replace than properties, so some level is always left.
    have hlength := length_visiting_le_keys hnodup hdefined
    omega
  | succ depth ih =>
    have hlength := length_visiting_le_keys hnodup hdefined
    have hexplained : r.Explained visiting cs
        (((pieces cs).mapM (r.expandPiece (r.expand depth) visiting cs)).result.map
          List.flatten) := by
      apply explained_mapM hstrict hflat.reads
      · intro name hname
        obtain ⟨shallower, rfl⟩ : ∃ shallower, depth = shallower + 1 :=
          Nat.exists_eq_succ_of_ne_zero (by omega)
        exact expand_name hname shallower
      · intro key found hmentions hvalue hnew
        have hnodup' : (key.toList :: visiting).Nodup := List.nodup_cons.2 ⟨hnew, hnodup⟩
        have hdefined' : ∀ placeholder ∈ key.toList :: visiting,
            r.Defined (String.ofList placeholder) := by
          intro placeholder hmem
          rcases List.mem_cons.1 hmem with rfl | hmem
          · rw [String.ofList_toList]
            exact ⟨found, hvalue⟩
          · exact hdefined placeholder hmem
        apply ih (flat_of_get? hvalues hvalue) hnodup' hdefined'
        rw [List.length_cons]
        omega
    unfold expand
    rw [Logged.result_bind]
    cases hparts : ((pieces cs).mapM (r.expandPiece (r.expand depth) visiting cs)).result with
    | error e =>
      rw [hparts] at hexplained
      exact hexplained
    | ok parts =>
      rw [hparts] at hexplained
      exact hexplained

end Expanding

section Resolving

variable {text : String} (hstrict : r.lenient = false)
  (hvalues : ∀ entry ∈ r.properties.entries, Flat entry.2.toList) (hflat : Flat text.toList)

include hstrict hvalues hflat

theorem exists_explained : ∃ outcome, r.outcome? text = some outcome ∧
    r.Explained [] text.toList ((outcome.map String.toList).mapError .failed) := by
  have hexplained : r.Explained [] text.toList
      (r.expand (r.properties.keys.length + 2) [] text.toList).result := by
    apply explained_expand hstrict hvalues hflat List.nodup_nil
    · simp
    · exact Nat.le_refl _
  -- that there is an explanation also tells that the levels were enough
  generalize hresult : (r.expand _ [] text.toList).result = result at hexplained
  cases hexplained with
  | @ok out hresolves =>
    rw [← String.toList_ofList (l := out)] at hresult hresolves
    exact ⟨_, outcome?_eq_ok.2 ⟨_, hresult⟩, .ok hresolves⟩
  | circular hreached hcycle =>
    exact ⟨_, outcome?_eq_error.2 ⟨_, hresult⟩, .circular hreached hcycle⟩
  | unresolvable hreached hundefined =>
    exact ⟨_, outcome?_eq_error.2 ⟨_, hresult⟩, .unresolvable hreached hundefined⟩

theorem explained_of_outcome? {outcome : Except PlaceholderError String}
    (h : r.outcome? text = some outcome) :
    r.Explained [] text.toList ((outcome.map String.toList).mapError .failed) := by
  obtain ⟨_, hsame, hexplained⟩ := exists_explained hstrict hvalues hflat
  obtain rfl := Option.some.inj (hsame.symm.trans h)
  exact hexplained

theorem cycle_of_resolve {key : String} (h : r.outcome? text = some (.error (.circular key))) :
    r.Reached text.toList key ∧ TransGen r.Refers key key := by
  cases explained_of_outcome? hstrict hvalues hflat h with
  | circular hreached hcycle => exact ⟨hreached, hcycle.resolve_left List.not_mem_nil⟩

theorem resolves_of_resolve {out : String} (h : r.outcome? text = some (.ok out)) :
    r.Resolves text.toList out.toList := by
  cases explained_of_outcome? hstrict hvalues hflat h with
  | ok hresolves => exact hresolves

theorem grounded_of_resolve {out key : String} (h : r.outcome? text = some (.ok out))
    (hreached : r.Reached text.toList key) : r.Grounded key :=
  (resolves_of_resolve hstrict hvalues hflat h).grounded hvalues hflat hreached

theorem exists_circular_of_cycle (hdefined : ∀ key, r.Reached text.toList key → r.Defined key)
    {key : String} (hreached : r.Reached text.toList key) (hcycle : TransGen r.Refers key key) :
    ∃ found, r.outcome? text = some (.error (.circular found)) := by
  obtain ⟨outcome, hresult, hexplained⟩ := exists_explained hstrict hvalues hflat
  -- there is no result on a cycle, and the only other fault is a key without a value
  cases outcome with
  | ok out =>
    have hgrounded := grounded_of_resolve hstrict hvalues hflat hresult hreached
    exact absurd hcycle hgrounded.not_cycle
  | error e =>
    cases hexplained with
    | circular => exact ⟨_, hresult⟩
    | unresolvable hreached' hundefined => exact absurd (hdefined _ hreached') hundefined

theorem exists_ok_of_acyclic
    (h : ∀ key, r.Reached text.toList key → r.Defined key ∧ ¬ TransGen r.Refers key key) :
    ∃ out, r.outcome? text = some (.ok out) := by
  obtain ⟨outcome, hresult, hexplained⟩ := exists_explained hstrict hvalues hflat
  cases outcome with
  | ok out => exact ⟨out, hresult⟩
  | error e =>
    cases hexplained with
    | circular hreached hcycle =>
      exact absurd (hcycle.resolve_left List.not_mem_nil) (h _ hreached).2
    | unresolvable hreached hundefined => exact absurd (h _ hreached).1 hundefined

theorem resolve_of_resolves {out : String} (h : r.Resolves text.toList out.toList) :
    r.outcome? text = some (.ok out) := by
  obtain ⟨out', hresult⟩ := exists_ok_of_acyclic hstrict hvalues hflat fun key hreached =>
    have hgrounded := h.grounded hvalues hflat hreached
    ⟨hgrounded.defined, hgrounded.not_cycle⟩
  have hresolves := resolves_of_resolve hstrict hvalues hflat hresult
  rw [hresult, String.toList_inj.1 (hresolves.unique h)]

end Resolving

/-- Flat properties are substituted exactly, and the substitution ends. A text resolves when all
keys that it reaches are defined and none reaches itself, and then every placeholder is replaced
by what the value of its key resolves to. Among defined keys the error is circular exactly when
there is a cycle, however often a key is used. -/
theorem resolve_flat (r : Resolver) (text : String) (hstrict : r.lenient = false)
    (hvalues : ∀ entry ∈ r.properties.entries, Flat entry.2.toList) (hflat : Flat text.toList) :
    (r.outcome? text).isSome ∧
    ((∃ out, r.outcome? text = some (.ok out)) ↔
      ∀ key, r.Reached text.toList key → r.Defined key ∧ ¬ TransGen r.Refers key key) ∧
    (∀ out, r.outcome? text = some (.ok out) ↔ r.Resolves text.toList out.toList) ∧
    (∀ key, r.outcome? text = some (.error (.circular key)) →
      r.Reached text.toList key ∧ TransGen r.Refers key key) ∧
    ((∀ key, r.Reached text.toList key → r.Defined key) →
      ((∃ key, r.outcome? text = some (.error (.circular key))) ↔
        ∃ key, r.Reached text.toList key ∧ TransGen r.Refers key key)) := by
  refine ⟨?_, ⟨?_, exists_ok_of_acyclic hstrict hvalues hflat⟩, ?_, ?_, ?_⟩
  · obtain ⟨outcome, h, -⟩ := exists_explained hstrict hvalues hflat
    exact Option.isSome_of_eq_some h
  · rintro ⟨out, h⟩ key hreached
    have hgrounded := grounded_of_resolve hstrict hvalues hflat h hreached
    exact ⟨hgrounded.defined, hgrounded.not_cycle⟩
  · intro out
    exact ⟨resolves_of_resolve hstrict hvalues hflat, resolve_of_resolves hstrict hvalues hflat⟩
  · intro key
    exact cycle_of_resolve hstrict hvalues hflat
  · intro hdefined
    constructor
    · rintro ⟨key, h⟩
      exact ⟨key, cycle_of_resolve hstrict hvalues hflat h⟩
    · rintro ⟨key, hreached, hcycle⟩
      exact exists_circular_of_cycle hstrict hvalues hflat hdefined hreached hcycle

def sharing : Resolver where
  properties := .ofList [("base", "/$\x7bversion\x7d"), ("version", "v2")]

def sharingText : String := "$\x7bbase\x7d/a,$\x7bbase\x7d/$\x7bversion\x7d"

theorem resolve_sharing :
    sharing.lenient = false ∧
    (∀ entry ∈ sharing.properties.entries, Flat entry.2.toList) ∧
    Flat sharingText.toList ∧
    sharing.outcome? sharingText = some (.ok "/v2/a,/v2/v2") ∧
    sharing.Resolves sharingText.toList "/v2/a,/v2/v2".toList ∧
    ∀ key, sharing.Reached sharingText.toList key →
      sharing.Defined key ∧ ¬ TransGen sharing.Refers key key := by
  have hvalues : ∀ entry ∈ sharing.properties.entries, Flat entry.2.toList := by decide
  have hflat : Flat sharingText.toList := by decide
  have hresult : sharing.outcome? sharingText = some (.ok "/v2/a,/v2/v2") :=
    outcome?_eq_ok.2 ⟨4, by decide⟩
  obtain ⟨-, hok, hresolves, -⟩ := resolve_flat sharing _ rfl hvalues hflat
  exact ⟨rfl, hvalues, hflat, hresult, (hresolves _).1 hresult, hok.1 ⟨_, hresult⟩⟩

end RequestRouting.Placeholder.Resolver
