import RequestRouting.Dictionary
import RequestRouting.Proofs.Order.Distinct

/-! The names and values that a dictionary holds. -/
namespace RequestRouting.Dictionary

variable {α : Type}

theorem mem_keys_insertEntry {name other : String} {value : α} {entries : List (String × α)} :
    other ∈ (insertEntry name value entries).map (·.1) ↔
      other = name ∨ other ∈ entries.map (·.1) := by
  induction entries with
  | nil => simp [insertEntry]
  | cons entry rest ih =>
    unfold insertEntry
    split
    · simp
    · next hsame =>
      rw [Std.LawfulEqOrd.eq_of_compare hsame]
      simp
    · rw [List.map_cons, List.map_cons, List.mem_cons, List.mem_cons, ih]
      exact or_left_comm

@[simp] theorem mem_keys_insert {d : Dictionary α} {name other : String} {value : α} :
    other ∈ (d.insert name value).keys ↔ other = name ∨ other ∈ d.keys :=
  mem_keys_insertEntry

@[simp] theorem mem_keys_erase {d : Dictionary α} {name other : String} :
    other ∈ (d.erase name).keys ↔ other ≠ name ∧ other ∈ d.keys := by
  simp only [keys, erase, List.mem_map, List.mem_filter, bne_iff_ne]
  constructor
  · rintro ⟨entry, ⟨hentry, hne⟩, rfl⟩
    exact ⟨hne, entry, hentry, rfl⟩
  · rintro ⟨hne, entry, hentry, rfl⟩
    exact ⟨entry, ⟨hentry, hne⟩, rfl⟩

theorem mem_keys_insertMany {d : Dictionary α} {entries : List (String × α)} {name : String} :
    name ∈ (d.insertMany entries).keys ↔ name ∈ entries.map (·.1) ∨ name ∈ d.keys := by
  unfold insertMany
  induction entries generalizing d with
  | nil => simp
  | cons entry rest ih =>
    rw [List.foldl_cons, ih, mem_keys_insert, List.map_cons, List.mem_cons]
    exact or_left_comm.trans or_assoc.symm

theorem mem_keys_ofList {entries : List (String × α)} {name : String} :
    name ∈ (ofList entries).keys ↔ name ∈ entries.map (·.1) := by
  rw [ofList, mem_keys_insertMany]
  exact or_iff_left List.not_mem_nil

theorem mem_of_mem_insertEntry {name : String} {value : α} {entries : List (String × α)}
    {entry : String × α} (h : entry ∈ insertEntry name value entries) :
    entry = (name, value) ∨ entry ∈ entries := by
  induction entries with
  | nil => exact .inl (by simpa [insertEntry] using h)
  | cons first rest ih =>
    unfold insertEntry at h
    split at h
    · exact List.mem_cons.1 h
    · exact (List.mem_cons.1 h).imp_right (List.mem_cons_of_mem _)
    · rcases List.mem_cons.1 h with rfl | h
      · exact .inr List.mem_cons_self
      · exact (ih h).imp_right (List.mem_cons_of_mem _)

theorem mem_of_mem_insertMany {d : Dictionary α} {entries : List (String × α)} {entry : String × α}
    (h : entry ∈ (d.insertMany entries).entries) : entry ∈ entries ∨ entry ∈ d.entries := by
  unfold insertMany at h
  induction entries generalizing d with
  | nil => exact .inr h
  | cons first rest ih =>
    rcases ih h with hrest | hd
    · exact .inl (List.mem_cons_of_mem _ hrest)
    · rcases mem_of_mem_insertEntry hd with rfl | hd
      · exact .inl List.mem_cons_self
      · exact .inr hd

theorem mem_of_mem_ofList {entries : List (String × α)} {entry : String × α}
    (h : entry ∈ (ofList entries).entries) : entry ∈ entries :=
  (mem_of_mem_insertMany h).resolve_right List.not_mem_nil

theorem mem_entries_of_get? {d : Dictionary α} {name : String} {value : α}
    (h : d.get? name = some value) : (name, value) ∈ d.entries := by
  obtain ⟨before, after, hentries, -⟩ := List.lookup_eq_some_iff.1 h
  rw [hentries]
  exact List.mem_append_right _ List.mem_cons_self

theorem get?_of_mem_entries {d : Dictionary α} {entry : String × α} (h : entry ∈ d.entries) :
    d.get? entry.1 = some entry.2 := by
  obtain ⟨entries, sorted⟩ := d
  unfold get?
  induction entries with
  | nil => contradiction
  | cons first rest ih =>
    obtain ⟨hfirst, hrest⟩ := List.pairwise_cons.1 sorted
    rw [lookup_entry_cons]
    rcases List.mem_cons.1 h with rfl | h
    · rw [if_pos rfl]
    · have hne : entry.1 ≠ first.1 := by
        intro heq
        have hlt := hfirst entry h
        rw [heq, Std.ReflOrd.compare_self] at hlt
        contradiction
      rw [if_neg hne]
      exact ih hrest h

theorem contains_eq_true_iff {d : Dictionary α} {name : String} :
    d.contains name = true ↔ name ∈ d.keys := by
  unfold contains keys
  rw [Option.isSome_iff_exists, List.mem_map]
  constructor
  · rintro ⟨value, h⟩
    exact ⟨(name, value), mem_entries_of_get? h, rfl⟩
  · rintro ⟨entry, hentry, rfl⟩
    exact ⟨entry.2, get?_of_mem_entries hentry⟩

theorem get?_insertMany (d e : Dictionary α) (name : String) :
    (d.insertMany e.entries).get? name = (e.get? name <|> d.get? name) := by
  obtain ⟨entries, sorted⟩ := e
  unfold insertMany get?
  dsimp only
  induction entries generalizing d with
  | nil => rfl
  | cons first rest ih =>
    obtain ⟨hfirst, hrest⟩ := List.pairwise_cons.1 sorted
    rw [List.foldl_cons, ih _ hrest, lookup_entry_cons]
    change (_ <|> (d.insert first.1 first.2).get? name) = _
    rw [get?_insert]
    -- the names behind the first one are greater, so it is not written over
    by_cases hname : name = first.1
    · have hnone : rest.lookup name = none := by
        rw [List.lookup_eq_none_iff]
        intro entry hentry
        rw [bne_iff_ne]
        intro heq
        have hlt := hfirst entry hentry
        rw [← hname, heq, Std.ReflOrd.compare_self] at hlt
        contradiction
      rw [hnone, if_pos hname, if_pos hname]
      rfl
    · rw [if_neg hname, if_neg hname]
      rfl

theorem get?_insertMany_of_not_mem {d : Dictionary α} {entries : List (String × α)} {name : String}
    (h : name ∉ entries.map (·.1)) : (d.insertMany entries).get? name = d.get? name := by
  unfold insertMany
  induction entries generalizing d with
  | nil => rfl
  | cons first rest ih =>
    simp only [List.map_cons, List.mem_cons, not_or] at h
    rw [List.foldl_cons, ih h.2, get?_insert, if_neg h.1]

theorem get?_ofList_of_mem {entries : List (String × α)} (hnodup : (entries.map (·.1)).Nodup)
    {entry : String × α} (h : entry ∈ entries) : (ofList entries).get? entry.1 = some entry.2 := by
  unfold ofList
  generalize (∅ : Dictionary α) = d
  induction entries generalizing d with
  | nil => simp at h
  | cons first rest ih =>
    rw [List.map_cons, List.nodup_cons] at hnodup
    rcases List.mem_cons.1 h with rfl | h
    · have hrest := get?_insertMany_of_not_mem (d := d.insert entry.1 entry.2) hnodup.1
      rw [get?_insert, if_pos rfl] at hrest
      exact hrest
    · exact ih hnodup.2 h _

theorem ext_get? {d e : Dictionary α} (h : ∀ name, d.get? name = e.get? name) : d = e := by
  have hmem : ∀ entry, entry ∈ d.entries ↔ entry ∈ e.entries := by
    intro entry
    constructor
    · intro hentry
      exact mem_entries_of_get? ((h entry.1).symm.trans (get?_of_mem_entries hentry))
    · intro hentry
      exact mem_entries_of_get? ((h entry.1).trans (get?_of_mem_entries hentry))
  have hd : d.entries.Pairwise (compareOn Prod.fst · · = .lt) := d.sorted
  have he : e.entries.Pairwise (compareOn Prod.fst · · = .lt) := e.sorted
  have hentries : d.entries = e.entries := Order.eq_of_pairwise_lt hd he hmem
  cases d
  cases e
  cases hentries
  rfl

theorem ofList_entries (d : Dictionary α) : ofList d.entries = d := by
  refine ext_get? fun name => ?_
  rw [ofList, get?_insertMany]
  cases d.get? name <;> rfl

end RequestRouting.Dictionary
