import RequestRouting.Order.SortedSet

/-! Members of strictly increasing lists. Where only equal values compare equal, a set has the
members of the list it was made from, and only the members decide what the set is. -/
namespace RequestRouting.Order

variable {α : Type} {cmp : α → α → Ordering}

theorem mem_of_mem_distinctBy {z : α} {xs : List α} (h : z ∈ distinctBy cmp xs) : z ∈ xs := by
  induction xs with
  | nil => exact h
  | cons x xs ih =>
    rcases mem_of_mem_insertDistinct h with rfl | h
    · exact List.mem_cons_self
    · exact List.mem_cons_of_mem _ (ih h)

theorem SortedSet.filter_filter_self [Ord α] (p : α → Bool) (s : SortedSet α) :
    (s.filter p).filter p = s.filter p := by
  apply SortedSet.ext
  simp [filter, List.filter_filter]

section LawfulEq

variable [Std.LawfulEqCmp cmp]

theorem mem_insertDistinct {x z : α} {xs : List α} :
    z ∈ insertDistinct cmp x xs ↔ z = x ∨ z ∈ xs := by
  refine ⟨mem_of_mem_insertDistinct, fun h => ?_⟩
  induction xs with
  | nil => simpa [insertDistinct] using h
  | cons y ys ih =>
    unfold insertDistinct
    split
    · simpa using h
    · next heq =>
      rw [Std.LawfulEqCmp.eq_of_compare heq] at h
      simpa using h
    · rcases h with rfl | h
      · exact List.mem_cons_of_mem _ (ih (.inl rfl))
      · rcases List.mem_cons.1 h with rfl | h
        · exact List.mem_cons_self
        · exact List.mem_cons_of_mem _ (ih (.inr h))

theorem mem_distinctBy {z : α} {xs : List α} : z ∈ distinctBy cmp xs ↔ z ∈ xs := by
  induction xs with
  | nil => rfl
  | cons x xs ih =>
    rw [List.mem_cons, ← ih]
    exact mem_insertDistinct

end LawfulEq

theorem map_distinctBy {β : Type} (key : β → α) (xs : List β) :
    (distinctBy (fun a b => cmp (key a) (key b)) xs).map key = distinctBy cmp (xs.map key) := by
  have hinsert : ∀ (x : β) (ys : List β),
      (insertDistinct (fun a b => cmp (key a) (key b)) x ys).map key =
        insertDistinct cmp (key x) (ys.map key) := by
    intro x ys
    induction ys with
    | nil => rfl
    | cons y ys ih =>
      simp only [insertDistinct, List.map_cons]
      split
      · rfl
      · rfl
      · rw [List.map_cons, ih]
  unfold distinctBy
  induction xs with
  | nil => rfl
  | cons x xs ih => rw [List.foldr_cons, hinsert, ih, List.map_cons, List.foldr_cons]

theorem distinctBy_eq_self {xs : List α} (h : xs.Pairwise (cmp · · = .lt)) :
    distinctBy cmp xs = xs := by
  induction xs with
  | nil => rfl
  | cons x xs ih =>
    obtain ⟨hx, hxs⟩ := List.pairwise_cons.1 h
    change insertDistinct cmp x (distinctBy cmp xs) = x :: xs
    rw [ih hxs]
    cases xs with
    | nil => rfl
    | cons y ys => rw [insertDistinct, hx y List.mem_cons_self]

theorem nodup_of_pairwise_lt [Std.ReflCmp cmp] {xs : List α}
    (h : xs.Pairwise (cmp · · = .lt)) : xs.Nodup := by
  refine h.imp ?_
  rintro a b hlt rfl
  have hself : Ordering.lt = .eq := hlt.symm.trans Std.ReflCmp.compare_self
  contradiction

theorem eq_of_pairwise_lt [Std.TransCmp cmp] {xs ys : List α}
    (hx : xs.Pairwise (cmp · · = .lt)) (hy : ys.Pairwise (cmp · · = .lt))
    (h : ∀ z, z ∈ xs ↔ z ∈ ys) : xs = ys := by
  have hperm : xs.Perm ys :=
    (List.perm_ext_iff_of_nodup (nodup_of_pairwise_lt hx) (nodup_of_pairwise_lt hy)).2 h
  refine hperm.eq_of_pairwise ?_ hx hy
  intro a b _ _ hab hba
  rw [Std.OrientedCmp.gt_of_lt hab] at hba
  contradiction

/-- The list has the values with a property, each once and in increasing order. -/
structure Enumerates [Ord α] (xs : List α) (P : α → Prop) : Prop where
  sorted : xs.Pairwise (compare · · = .lt)
  nodup : xs.Nodup
  mem : ∀ x, x ∈ xs ↔ P x

theorem Enumerates.unique [Ord α] [Std.TransOrd α] {xs ys : List α} {P : α → Prop}
    (hx : Enumerates xs P) (hy : Enumerates ys P) : xs = ys :=
  eq_of_pairwise_lt hx.sorted hy.sorted fun z => (hx.mem z).trans (hy.mem z).symm

namespace SortedSet

variable [Ord α] [Std.TransOrd α] [Std.LawfulEqOrd α]

theorem enumerates_ofList {xs : List α} {P : α → Prop} (h : ∀ x, x ∈ xs ↔ P x) :
    Enumerates (ofList xs).toList P where
  sorted := (ofList xs).sorted
  nodup := nodup_of_pairwise_lt (ofList xs).sorted
  mem x := mem_distinctBy.trans (h x)

theorem ofList_congr {xs ys : List α} (h : ∀ z, z ∈ xs ↔ z ∈ ys) : ofList xs = ofList ys := by
  have heq : distinctBy compare xs = distinctBy compare ys := by
    refine eq_of_pairwise_lt (pairwise_distinctBy _ xs) (pairwise_distinctBy _ ys) ?_
    intro z
    rw [mem_distinctBy, mem_distinctBy, h]
  simp only [ofList, heq]

theorem mem_ofList {xs : List α} {z : α} : z ∈ (ofList xs).toList ↔ z ∈ xs := mem_distinctBy

theorem mem_union {s t : SortedSet α} {z : α} :
    z ∈ (s.union t).toList ↔ z ∈ s.toList ∨ z ∈ t.toList :=
  mem_ofList.trans List.mem_append

omit [Std.LawfulEqOrd α] in
theorem eq_iff_mem {s t : SortedSet α} : s = t ↔ ∀ z, z ∈ s.toList ↔ z ∈ t.toList := by
  constructor
  · rintro rfl z
    rfl
  · intro h
    exact SortedSet.ext (eq_of_pairwise_lt s.sorted t.sorted h)

theorem ofList_eq_union {xs ys zs : List α} (h : ∀ z, z ∈ zs ↔ z ∈ xs ∨ z ∈ ys) :
    ofList zs = (ofList xs).union (ofList ys) := by
  rw [eq_iff_mem]
  intro z
  rw [mem_union, mem_ofList, mem_ofList, mem_ofList, h]

@[simp] theorem union_empty (s : SortedSet α) : s.union ∅ = s := by
  rw [eq_iff_mem]
  intro z
  rw [mem_union]
  exact or_iff_left List.not_mem_nil

@[simp] theorem empty_union (s : SortedSet α) : (∅ : SortedSet α).union s = s := by
  rw [eq_iff_mem]
  intro z
  rw [mem_union]
  exact or_iff_right List.not_mem_nil

omit [Std.TransOrd α] [Std.LawfulEqOrd α] in
theorem eq_empty_of_isEmpty {s : SortedSet α} (h : s.isEmpty = true) : s = ∅ :=
  SortedSet.ext (List.isEmpty_iff.1 h)

theorem ofList_eq_of_perm {xs ys : List α} (h : xs.Perm ys) : ofList xs = ofList ys :=
  ofList_congr fun _ => h.mem_iff

end SortedSet

end RequestRouting.Order
