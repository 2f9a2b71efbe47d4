/-! Dictionaries from names to values, kept in the order of their names. Main statements:
looking a name up after `insert` or `erase` sees that change and no other. -/
namespace RequestRouting

structure Dictionary (α : Type) where
  entries : List (String × α)
  sorted : entries.Pairwise (fun a b => compare a.1 b.1 = .lt)
deriving DecidableEq

namespace Dictionary

variable {α β : Type}

def insertEntry (name : String) (value : α) : List (String × α) → List (String × α)
  | [] => [(name, value)]
  | entry :: rest =>
    match compare name entry.1 with
    | .lt => (name, value) :: entry :: rest
    | .eq => (name, value) :: rest
    | .gt => entry :: insertEntry name value rest

theorem name_of_mem_insertEntry {name : String} {value : α} {e : String × α}
    {entries : List (String × α)} (h : e ∈ insertEntry name value entries) :
    e.1 = name ∨ e ∈ entries := by
  induction entries with
  | nil => simp [insertEntry] at h; simp [h]
  | cons entry rest ih =>
    unfold insertEntry at h
    split at h <;> simp at h ⊢
    · rcases h with rfl | h
      · exact .inl rfl
      · exact .inr h
    · rcases h with rfl | h
      · exact .inl rfl
      · exact .inr (.inr h)
    · rcases h with rfl | h
      · exact .inr (.inl rfl)
      · rcases ih h with h | h
        · exact .inl h
        · exact .inr (.inr h)

theorem pairwise_insertEntry (name : String) (value : α) {entries : List (String × α)}
    (h : entries.Pairwise (fun a b => compare a.1 b.1 = .lt)) :
    (insertEntry name value entries).Pairwise (fun a b => compare a.1 b.1 = .lt) := by
  induction entries with
  | nil => simp [insertEntry]
  | cons entry rest ih =>
    obtain ⟨hhead, htail⟩ := List.pairwise_cons.1 h
    unfold insertEntry
    split
    · next hlt =>
      refine List.pairwise_cons.2 ⟨fun z hz => ?_, h⟩
      rcases List.mem_cons.1 hz with rfl | hz
      · exact hlt
      · exact Std.TransCmp.lt_trans hlt (hhead z hz)
    · next heq =>
      obtain rfl := Std.LawfulEqOrd.eq_of_compare heq
      exact List.pairwise_cons.2 ⟨hhead, htail⟩
    · next hgt =>
      refine List.pairwise_cons.2 ⟨fun z hz => ?_, ih htail⟩
      rcases name_of_mem_insertEntry hz with hz | hz
      · rw [hz]; exact Std.OrientedCmp.lt_of_gt hgt
      · exact hhead z hz

protected def empty : Dictionary α := ⟨[], .nil⟩

instance : EmptyCollection (Dictionary α) := ⟨.empty⟩
instance : Inhabited (Dictionary α) := ⟨.empty⟩

def get? (d : Dictionary α) (name : String) : Option α := d.entries.lookup name

def contains (d : Dictionary α) (name : String) : Bool := (d.get? name).isSome

def keys (d : Dictionary α) : List String := d.entries.map (·.1)

def insert (d : Dictionary α) (name : String) (value : α) : Dictionary α :=
  ⟨insertEntry name value d.entries, pairwise_insertEntry name value d.sorted⟩

def erase (d : Dictionary α) (name : String) : Dictionary α :=
  ⟨d.entries.filter (·.1 != name), d.sorted.filter _⟩

/-- Adds entries from left to right, so of two with one name the later one stays. -/
def insertMany (d : Dictionary α) (entries : List (String × α)) : Dictionary α :=
  entries.foldl (fun d e => d.insert e.1 e.2) d

def ofList (entries : List (String × α)) : Dictionary α := insertMany ∅ entries

theorem lookup_entry_cons (name : String) (entry : String × α) (rest : List (String × α)) :
    (entry :: rest).lookup name = if name = entry.1 then some entry.2 else rest.lookup name := by
  obtain ⟨key, value⟩ := entry
  by_cases h : name = key
  · simp [h]
  · simp [List.lookup_cons, h, beq_false_of_ne h]

theorem lookup_insertEntry (name other : String) (value : α) (entries : List (String × α)) :
    (insertEntry name value entries).lookup other =
      if other = name then some value else entries.lookup other := by
  induction entries with
  | nil => simp [insertEntry, lookup_entry_cons]
  | cons entry rest ih =>
    unfold insertEntry
    split
    · simp [lookup_entry_cons]
    · next hsame =>
      have hname : name = entry.1 := Std.LawfulEqOrd.eq_of_compare hsame
      by_cases h : other = name <;> simp [lookup_entry_cons, ← hname, h]
    · next hgt =>
      have hne : entry.1 ≠ name := by
        rintro rfl
        simp [Std.ReflOrd.compare_self] at hgt
      by_cases hk : other = entry.1
      · simp [lookup_entry_cons, hk, hne]
      · simp [lookup_entry_cons, hk, ih]

theorem get?_insert (d : Dictionary α) (name other : String) (value : α) :
    (d.insert name value).get? other = if other = name then some value else d.get? other :=
  lookup_insertEntry name other value d.entries

theorem get?_erase (d : Dictionary α) (name other : String) :
    (d.erase name).get? other = if other = name then none else d.get? other := by
  show (d.entries.filter (·.1 != name)).lookup other = _
  unfold get?
  induction d.entries with
  | nil => simp
  | cons entry rest ih =>
    by_cases hk : entry.1 = name
    · by_cases h : other = name
      · simpa [hk, h] using ih
      · simpa [hk, h, lookup_entry_cons] using ih
    · by_cases h : other = name
      · simpa [hk, h, lookup_entry_cons, Ne.symm hk] using ih
      · simp only [h, if_false] at ih
        simp [hk, h, lookup_entry_cons, ih]

end Dictionary

end RequestRouting
