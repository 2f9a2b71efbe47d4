import RequestRouting.Proofs.Dictionary
import RequestRouting.Proofs.Table.Index

/-! Tables whose indexes agree with their registrations. The empty table does, and registering
keeps it so, whether or not a call succeeds; the registration of a mapping is the first one that
was asked for with its conditions. -/
namespace RequestRouting.MappingTable

/-- No conditions are registered twice, and each index lists the positions that it should. -/
structure Consistent (t : MappingTable) : Prop where
  distinct : t.registrations.Pairwise fun a b => a.mapping.sameConditions b.mapping = false
  named : ∀ reg ∈ t.registrations,
    reg.name = reg.mapping.name.getD reg.handler.defaultMappingName
  byConditions : ∀ m i, t.indexOf? m = some i ↔
    ∃ reg, t.registrations[i]? = some reg ∧ reg.mapping.sameConditions m = true
  byPath : ∀ path i, i ∈ positions t.byPath path ↔
    ∃ reg, t.registrations[i]? = some reg ∧ path ∈ reg.mapping.paths.directPaths
  byName : ∀ name i, i ∈ positions t.byName name ↔
    ∃ reg, t.registrations[i]? = some reg ∧ reg.name = name
  inOrder : ∀ name, (positions t.byName name).Pairwise (· < ·)

structure InRange (t : MappingTable) : Prop where
  byConditions : ∀ entry ∈ t.byConditions.entries, entry.2 < t.size
  byPath : ∀ entry ∈ t.byPath.entries, ∀ i ∈ entry.2, i < t.size
  byName : ∀ entry ∈ t.byName.entries, ∀ i ∈ entry.2, i < t.size

/-- A call for conditions that are registered changes nothing and succeeds for the same handler
only; every other call succeeds and adds one registration. -/
structure RegistersOnce (t : MappingTable) : Prop where
  again : ∀ m h, ∀ reg ∈ t.registrations, reg.mapping.sameConditions m = true →
    t.registerOrKeep (m, h) = t ∧ (t.register m h).result =
      if reg.handler = h then .ok t
      else .error (.ambiguousMapping m.render reg.handler.qualifiedName h.qualifiedName)
  new : ∀ m h, (∀ reg ∈ t.registrations, reg.mapping.sameConditions m = false) →
    (t.register m h).result = .ok (t.registerOrKeep (m, h)) ∧
      (t.registerOrKeep (m, h)).registrations = t.registrations ++ [registrationOf (m, h)]

variable {t : MappingTable} {m n : Mapping} {h : Handler}

theorem exists_getElem?_concat {P : Registration → Prop} {registrations : List Registration}
    {reg : Registration} {i : Nat} :
    (∃ reg', (registrations ++ [reg])[i]? = some reg' ∧ P reg') ↔
      (∃ reg', registrations[i]? = some reg' ∧ P reg') ∨ i = registrations.length ∧ P reg := by
  rcases Nat.lt_trichotomy i registrations.length with hlt | rfl | hgt
  · rw [List.getElem?_append_left hlt]
    simp [Nat.ne_of_lt hlt]
  · simp
  · rw [List.getElem?_append_right (Nat.le_of_lt hgt)]
    have hout : i - registrations.length ≠ 0 := by omega
    simp [Nat.ne_of_gt hgt, hout, List.getElem?_eq_none (Nat.le_of_lt hgt)]

theorem find?_congr (hsame : m.sameConditions n = true) : t.find? m = t.find? n := by
  unfold find? indexOf?
  rw [t.byConditions.get?_congr hsame]

theorem lt_size_of_exists {P : Registration → Prop} {i : Nat}
    (hi : ∃ reg, t.registrations[i]? = some reg ∧ P reg) : i < t.size := by
  obtain ⟨reg, hreg, -⟩ := hi
  exact (List.getElem?_eq_some_iff.1 hreg).1

namespace Consistent

theorem inRange (ht : t.Consistent) : t.InRange where
  byConditions entry hentry := by
    have hindex : t.indexOf? entry.1 = some entry.2 := ConditionIndex.get?_of_mem_entries hentry
    exact lt_size_of_exists ((ht.byConditions entry.1 entry.2).1 hindex)
  byPath entry hentry i hi := by
    apply lt_size_of_exists ((ht.byPath entry.1 i).1 _)
    rw [positions, Dictionary.get?_of_mem_entries hentry]
    exact hi
  byName entry hentry i hi := by
    apply lt_size_of_exists ((ht.byName entry.1 i).1 _)
    rw [positions, Dictionary.get?_of_mem_entries hentry]
    exact hi

theorem find?_eq_some (ht : t.Consistent) {reg : Registration} :
    t.find? m = some reg ↔ reg ∈ t.registrations ∧ reg.mapping.sameConditions m = true := by
  rw [find?, Option.bind_eq_some_iff]
  constructor
  · rintro ⟨i, hi, hreg⟩
    obtain ⟨reg', hreg', hsame⟩ := (ht.byConditions m i).1 hi
    obtain rfl := Option.some.inj (hreg.symm.trans hreg')
    exact ⟨List.mem_of_getElem? hreg, hsame⟩
  · rintro ⟨hmem, hsame⟩
    obtain ⟨i, hreg⟩ := List.mem_iff_getElem?.1 hmem
    exact ⟨i, (ht.byConditions m i).2 ⟨reg, hreg, hsame⟩, hreg⟩

theorem find?_eq_none (ht : t.Consistent) :
    t.find? m = none ↔ ∀ reg ∈ t.registrations, reg.mapping.sameConditions m = false := by
  rw [Option.eq_none_iff_forall_ne_some]
  constructor
  · intro hnone reg hreg
    rw [← Bool.not_eq_true]
    intro hsame
    exact hnone reg (ht.find?_eq_some.2 ⟨hreg, hsame⟩)
  · intro hall reg hfind
    obtain ⟨hreg, hsame⟩ := ht.find?_eq_some.1 hfind
    rw [hall reg hreg] at hsame
    contradiction

theorem not_registered_of_find?_eq_none (ht : t.Consistent) (hnew : t.find? m = none)
    (hsame : m.sameConditions n = true) (i : Nat) :
    ¬ ∃ reg, t.registrations[i]? = some reg ∧ reg.mapping.sameConditions n = true := by
  rintro ⟨reg, hreg, hregn⟩
  rw [find?_congr hsame] at hnew
  have hother := ht.find?_eq_none.1 hnew reg (List.mem_of_getElem? hreg)
  rw [hregn] at hother
  contradiction

end Consistent

theorem consistent_empty (options : Path.MatchOptions) : (empty options).Consistent where
  distinct := .nil
  named _ hreg := by contradiction
  byConditions _ _ := by simp [empty, indexOf?]
  byPath _ _ := by simp [empty]
  byName _ _ := by simp [empty]
  inOrder _ := .nil

namespace Consistent

theorem find?_add (ht : t.Consistent) :
    (t.add m h).find? n =
      if m.sameConditions n then some (registrationOf (m, h)) else t.find? n := by
  show ((t.byConditions.insert m t.size).get? n).bind _ = _
  rw [ConditionIndex.get?_insert]
  split
  · show (t.registrations ++ [_])[t.registrations.length]? = _
    rw [List.getElem?_concat_length]
    rfl
  · unfold find? indexOf?
    apply Option.bind_congr
    intro i hi
    have hlt : i < t.registrations.length := lt_size_of_exists ((ht.byConditions n i).1 hi)
    exact List.getElem?_append_left hlt

theorem add (ht : t.Consistent) (hnew : t.find? m = none) (h : Handler) :
    (t.add m h).Consistent where
  distinct := by
    rw [registrations_add, List.pairwise_append]
    refine ⟨ht.distinct, List.pairwise_singleton _ _, ?_⟩
    intro reg hreg other hother
    rw [List.mem_singleton.1 hother]
    exact ht.find?_eq_none.1 hnew reg hreg
  named reg hreg := by
    rw [registrations_add] at hreg
    rcases List.mem_append.1 hreg with hreg | hreg
    · exact ht.named reg hreg
    · rw [List.mem_singleton.1 hreg]
      rfl
  byConditions n i := by
    show (t.byConditions.insert m t.size).get? n = some i ↔ _
    rw [ConditionIndex.get?_insert, registrations_add, exists_getElem?_concat]
    split
    · next hsame =>
      constructor
      · intro hi
        exact .inr ⟨(Option.some.inj hi).symm, hsame⟩
      · rintro (hreg | ⟨hi, -⟩)
        -- no earlier position is written over: these conditions are new
        · exact absurd hreg (ht.not_registered_of_find?_eq_none hnew hsame i)
        · rw [hi]
          rfl
    · next hother =>
      simp only [registrationOf, hother, and_false, or_false, Bool.false_eq_true]
      exact ht.byConditions n i
  byPath path i := by
    show i ∈ positions (m.paths.directPaths.foldl (addPosition t.size) t.byPath) path ↔ _
    rw [positions_foldl_addPosition, List.mem_append, ht.byPath, registrations_add,
      exists_getElem?_concat, List.mem_replicate, ← List.count_pos_iff]
    simp only [registrationOf, size, and_comm, Nat.pos_iff_ne_zero]
  byName name i := by
    show i ∈ positions (addPosition t.size t.byName (m.name.getD h.defaultMappingName)) name ↔ _
    rw [positions_addPosition, List.mem_append, ht.byName, registrations_add,
      exists_getElem?_concat]
    by_cases hname : name = m.name.getD h.defaultMappingName
    · simp [hname, registrationOf, size]
    · simp [hname, registrationOf, eq_comm]
  inOrder name := by
    show List.Pairwise _
      (positions (addPosition t.size t.byName (m.name.getD h.defaultMappingName)) name)
    rw [positions_addPosition, List.pairwise_append]
    refine ⟨ht.inOrder name, ?_, ?_⟩
    · split
      · exact List.pairwise_singleton _ _
      · exact .nil
    · intro i hi j hj
      split at hj
      · rw [List.mem_singleton.1 hj]
        exact lt_size_of_exists ((ht.byName name i).1 hi)
      · contradiction

theorem registersOnce (ht : t.Consistent) : t.RegistersOnce where
  again m h reg hreg hsame := by
    have hfind : t.find? m = some reg := ht.find?_eq_some.2 ⟨hreg, hsame⟩
    exact ⟨registerOrKeep_of_some hfind, result_register_of_some hfind h⟩
  new m h hnew := by
    have hfind : t.find? m = none := ht.find?_eq_none.2 hnew
    have hadd : t.registerOrKeep (m, h) = t.add m h := registerOrKeep_of_none hfind
    rw [hadd]
    exact ⟨result_register_of_none hfind h, registrations_add t m h⟩

theorem registerEach (ht : t.Consistent) (calls : List (Mapping × Handler)) :
    (t.registerEach calls).Consistent := by
  apply registerEach_induction ?_ ht
  intro t call _ hconsistent hnew
  exact hconsistent.add hnew call.2

theorem find?_registerOrKeep (ht : t.Consistent) (call : Mapping × Handler) :
    (t.registerOrKeep call).find? m =
      (t.find? m).or (if call.1.sameConditions m then some (registrationOf call) else none) := by
  cases hfind : t.find? call.1 with
  | some existing =>
    rw [registerOrKeep_of_some hfind]
    split
    · next hsame => rw [← find?_congr hsame, hfind, Option.some_or]
    · rw [Option.or_none]
  | none =>
    rw [registerOrKeep_of_none hfind, ht.find?_add]
    split
    · next hsame => rw [← find?_congr hsame, hfind, Option.none_or]
    · rw [Option.or_none]

theorem find?_registerEach (ht : t.Consistent) (calls : List (Mapping × Handler)) :
    (t.registerEach calls).find? m =
      (t.find? m).or ((calls.find? (·.1.sameConditions m)).map registrationOf) := by
  induction calls generalizing t with
  | nil => rw [List.find?_nil, Option.map_none, Option.or_none]; rfl
  | cons call rest ih =>
    have hfirst : (t.registerOrKeep call).Consistent := ht.registerEach [call]
    rw [MappingTable.registerEach, List.foldl_cons, ← MappingTable.registerEach, ih hfirst,
      ht.find?_registerOrKeep, Option.or_assoc, List.find?_cons]
    cases call.1.sameConditions m
    · rfl
    · rfl

end Consistent

/-- After any calls the indexes agree with the registrations, a further call is taken up once or
not at all, and the registration of a mapping is that of the first call for its conditions. -/
theorem registerEach_consistent (options : Path.MatchOptions)
    (calls : List (Mapping × Handler)) :
    let t := (empty options).registerEach calls
    t.Consistent ∧ t.InRange ∧ t.RegistersOnce ∧
      ∀ m, t.find? m = (calls.find? (·.1.sameConditions m)).map registrationOf := by
  intro t
  have ht : t.Consistent := (consistent_empty options).registerEach calls
  refine ⟨ht, ht.inRange, ht.registersOnce, ?_⟩
  intro m
  have hnone : (empty options).find? m = none := rfl
  rw [(consistent_empty options).find?_registerEach, hnone, Option.none_or]

end RequestRouting.MappingTable
