import RequestRouting.Mapping

/-! Positions by mapping. Mappings with the same conditions are one key, and no key stands in an
index twice. Main statement: looking a mapping up after `insert` sees that change and no other. -/
namespace RequestRouting

structure ConditionIndex where
  entries : List (Mapping × Nat)
  distinct : entries.Pairwise fun a b => a.1.sameConditions b.1 = false

namespace ConditionIndex

def insertEntry (m : Mapping) (i : Nat) : List (Mapping × Nat) → List (Mapping × Nat)
  | [] => [(m, i)]
  | entry :: rest =>
    if entry.1.sameConditions m then (entry.1, i) :: rest else entry :: insertEntry m i rest

theorem key_of_mem_insertEntry {m : Mapping} {i : Nat} {e : Mapping × Nat}
    {entries : List (Mapping × Nat)} (h : e ∈ insertEntry m i entries) :
    e.1 = m ∨ ∃ e' ∈ entries, e'.1 = e.1 := by
  induction entries with
  | nil => simp [insertEntry] at h; simp [h]
  | cons entry rest ih =>
    unfold insertEntry at h
    split at h
    · rcases List.mem_cons.1 h with rfl | h
      · exact .inr ⟨entry, List.mem_cons_self, rfl⟩
      · exact .inr ⟨e, List.mem_cons_of_mem _ h, rfl⟩
    · rcases List.mem_cons.1 h with rfl | h
      · exact .inr ⟨e, List.mem_cons_self, rfl⟩
      · rcases ih h with hm | ⟨e', he', hkey⟩
        · exact .inl hm
        · exact .inr ⟨e', List.mem_cons_of_mem _ he', hkey⟩

theorem pairwise_insertEntry (m : Mapping) (i : Nat) {entries : List (Mapping × Nat)}
    (h : entries.Pairwise fun a b => a.1.sameConditions b.1 = false) :
    (insertEntry m i entries).Pairwise fun a b => a.1.sameConditions b.1 = false := by
  induction entries with
  | nil => simp [insertEntry]
  | cons entry rest ih =>
    obtain ⟨hhead, htail⟩ := List.pairwise_cons.1 h
    unfold insertEntry
    split
    · exact List.pairwise_cons.2 ⟨hhead, htail⟩
    · next hother =>
      refine List.pairwise_cons.2 ⟨fun e he => ?_, ih htail⟩
      rcases key_of_mem_insertEntry he with hm | ⟨e', he', hkey⟩
      · rw [hm]
        exact Bool.eq_false_iff.2 hother
      · rw [← hkey]
        exact hhead e' he'

protected def empty : ConditionIndex := ⟨[], .nil⟩

instance : EmptyCollection ConditionIndex := ⟨.empty⟩
instance : Inhabited ConditionIndex := ⟨.empty⟩

def get? (index : ConditionIndex) (m : Mapping) : Option Nat :=
  (index.entries.find? (·.1.sameConditions m)).map (·.2)

def insert (index : ConditionIndex) (m : Mapping) (i : Nat) : ConditionIndex :=
  ⟨insertEntry m i index.entries, pairwise_insertEntry m i index.distinct⟩

@[simp] theorem get?_empty (m : Mapping) : (∅ : ConditionIndex).get? m = none := rfl

theorem get?_congr (index : ConditionIndex) {m n : Mapping} (h : m.sameConditions n = true) :
    index.get? m = index.get? n := by
  unfold get?
  simp only [Mapping.sameConditions_comm _ m, Mapping.sameConditions_comm _ n,
    Mapping.sameConditions_congr h]

theorem find?_insertEntry (m n : Mapping) (i : Nat) (entries : List (Mapping × Nat)) :
    ((insertEntry m i entries).find? (·.1.sameConditions n)).map (·.2) =
      if m.sameConditions n then some i
      else (entries.find? (·.1.sameConditions n)).map (·.2) := by
  induction entries with
  | nil => by_cases h : m.sameConditions n <;> simp [insertEntry, h]
  | cons entry rest ih =>
    unfold insertEntry
    split
    · next hkey =>
      by_cases h : m.sameConditions n <;> simp [Mapping.sameConditions_congr hkey, h]
    · next hother =>
      by_cases hentry : entry.1.sameConditions n
      · -- The mapping that is inserted has other conditions than this entry, and so than `n`.
        have hm : ¬ m.sameConditions n = true := by
          intro hmn
          rw [Mapping.sameConditions_comm] at hmn
          exact hother (Mapping.sameConditions_trans hentry hmn)
        simp [hentry, hm]
      · simpa [hentry] using ih

theorem get?_insert (index : ConditionIndex) (m n : Mapping) (i : Nat) :
    (index.insert m i).get? n = if m.sameConditions n then some i else index.get? n :=
  find?_insertEntry m n i index.entries

theorem get?_of_mem_entries {index : ConditionIndex} {entry : Mapping × Nat}
    (h : entry ∈ index.entries) : index.get? entry.1 = some entry.2 := by
  obtain ⟨entries, distinct⟩ := index
  unfold get?
  induction entries with
  | nil => contradiction
  | cons first rest ih =>
    obtain ⟨hfirst, hrest⟩ := List.pairwise_cons.1 distinct
    rcases List.mem_cons.1 h with rfl | h
    · simp [Mapping.sameConditions_self]
    · simpa [hfirst entry h] using ih hrest h

end ConditionIndex

end RequestRouting
