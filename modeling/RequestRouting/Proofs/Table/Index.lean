import RequestRouting.Proofs.Table.Registering

/-! The index of a table by path. Under a path it lists the position of every mapping that spells
the path out, as often as it does so and in the order of the registrations. -/
namespace RequestRouting.MappingTable

def spelledAt (path : String) (start : Nat) (registrations : List Registration) : List Nat :=
  (registrations.zipIdx start).flatMap fun entry =>
    List.replicate (entry.1.mapping.paths.directPaths.count path) entry.2

@[simp] theorem positions_empty (key : String) : positions ∅ key = [] := rfl

theorem positions_addPosition (i : Nat) (index : Dictionary (List Nat)) (key path : String) :
    positions (addPosition i index key) path =
      positions index path ++ if path = key then [i] else [] := by
  unfold addPosition
  rw [positions, Dictionary.get?_insert]
  split
  · next h => rw [h, Option.getD_some]
  · rw [List.append_nil, positions]

theorem positions_foldl_addPosition (i : Nat) (keys : List String)
    (index : Dictionary (List Nat)) (path : String) :
    positions (keys.foldl (addPosition i) index) path =
      positions index path ++ List.replicate (keys.count path) i := by
  induction keys generalizing index with
  | nil => simp
  | cons key rest ih =>
    rw [List.foldl_cons, ih, positions_addPosition, List.append_assoc, List.count_cons]
    by_cases h : path = key
    · simp [h, List.replicate_succ]
    · simp [h, Ne.symm h]

def Indexed (t : MappingTable) : Prop :=
  ∀ path, positions t.byPath path = spelledAt path 0 t.registrations

theorem indexed_empty (options : Path.MatchOptions) : (empty options).Indexed := fun _ => rfl

theorem Indexed.add {t : MappingTable} (ht : t.Indexed) (m : Mapping) (h : Handler) :
    (t.add m h).Indexed := by
  intro path
  show positions (m.paths.directPaths.foldl (addPosition t.size) t.byPath) path =
    spelledAt path 0 (t.registrations ++ [_])
  rw [positions_foldl_addPosition, ht path, spelledAt, spelledAt, List.zipIdx_append,
    List.flatMap_append]
  simp [size]

theorem Reachable.indexed {options : Path.MatchOptions} {t : MappingTable}
    (ht : t.Reachable options) : t.Indexed := by
  apply Reachable.induction (P := Indexed) (indexed_empty options) ?_ ht
  intro t m h hindexed _ _
  exact hindexed.add m h

theorem mem_spelledAt {path : String} {registrations : List Registration} {i : Nat} :
    i ∈ spelledAt path 0 registrations ↔
      ∃ reg, registrations[i]? = some reg ∧ path ∈ reg.mapping.paths.directPaths := by
  simp only [spelledAt, List.mem_flatMap, List.mem_replicate, Prod.exists,
    List.mem_zipIdx_iff_getElem?]
  constructor
  · rintro ⟨reg, j, hj, hcount, rfl⟩
    exact ⟨reg, hj, List.count_pos_iff.1 (Nat.pos_of_ne_zero hcount)⟩
  · rintro ⟨reg, hreg, hmem⟩
    exact ⟨reg, i, hreg, Nat.ne_of_gt (List.count_pos_iff.2 hmem), rfl⟩

theorem spelledAt_cons (path : String) (start : Nat) (reg : Registration)
    (rest : List Registration) :
    spelledAt path start (reg :: rest) =
      List.replicate (reg.mapping.paths.directPaths.count path) start ++
        spelledAt path (start + 1) rest := rfl

theorem le_of_mem_spelledAt {path : String} {start i : Nat} {registrations : List Registration}
    (h : i ∈ spelledAt path start registrations) : start ≤ i := by
  simp only [spelledAt, List.mem_flatMap, List.mem_replicate] at h
  obtain ⟨entry, hentry, -, rfl⟩ := h
  exact List.le_snd_of_mem_zipIdx hentry

theorem count_spelledAt {path : String} {start i : Nat} {registrations : List Registration}
    {reg : Registration} (hreg : registrations[i]? = some reg) :
    (spelledAt path start registrations).count (start + i) =
      reg.mapping.paths.directPaths.count path := by
  induction registrations generalizing start i with
  | nil => contradiction
  | cons first rest ih =>
    rw [spelledAt_cons, List.count_append, List.count_replicate]
    cases i with
    | zero =>
      obtain rfl := Option.some.inj hreg
      have hrest : start ∉ spelledAt path (start + 1) rest := by
        intro h
        have hle := le_of_mem_spelledAt h
        omega
      simp [List.count_eq_zero_of_not_mem hrest]
    | succ i =>
      have hfirst : (start == start + (i + 1)) = false := by simp
      have hindex : start + (i + 1) = start + 1 + i := by omega
      rw [hfirst, if_neg Bool.false_ne_true, Nat.zero_add, hindex]
      exact ih hreg

end RequestRouting.MappingTable
