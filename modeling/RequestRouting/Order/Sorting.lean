/-! Stable sorting by a comparison. Entries that compare equal keep the order in which
they were given, so a sorted list shows which of two equally good entries came first. -/
namespace RequestRouting.Order

/-- Puts `x` before the first entry that does not come strictly earlier. -/
def insertSorted (cmp : α → α → Ordering) (x : α) : List α → List α
  | [] => [x]
  | y :: ys => if cmp x y = .gt then y :: insertSorted cmp x ys else x :: y :: ys

def sortBy (cmp : α → α → Ordering) : List α → List α
  | [] => []
  | x :: xs => insertSorted cmp x (sortBy cmp xs)

theorem insertSorted_perm (cmp : α → α → Ordering) (x : α) (xs : List α) :
    (insertSorted cmp x xs).Perm (x :: xs) := by
  induction xs with
  | nil => exact .refl _
  | cons y ys ih =>
    unfold insertSorted
    split
    · exact (ih.cons y).trans (.swap x y ys)
    · exact .refl _

theorem sortBy_perm (cmp : α → α → Ordering) (xs : List α) : (sortBy cmp xs).Perm xs := by
  induction xs with
  | nil => exact .refl _
  | cons x xs ih => exact (insertSorted_perm cmp x _).trans (ih.cons x)

@[simp] theorem mem_sortBy {cmp : α → α → Ordering} {x : α} {xs : List α} :
    x ∈ sortBy cmp xs ↔ x ∈ xs :=
  (sortBy_perm cmp xs).mem_iff

theorem pairwise_insertSorted (cmp : α → α → Ordering) [Std.TransCmp cmp] (x : α) {xs : List α}
    (h : xs.Pairwise fun a b => (cmp a b).isLE) :
    (insertSorted cmp x xs).Pairwise fun a b => (cmp a b).isLE := by
  induction xs with
  | nil => simp [insertSorted]
  | cons y ys ih =>
    obtain ⟨hy, hys⟩ := List.pairwise_cons.1 h
    unfold insertSorted
    split
    · next hgt =>
      refine List.pairwise_cons.2 ⟨fun z hz => ?_, ih hys⟩
      rcases List.mem_cons.1 ((insertSorted_perm cmp x ys).mem_iff.1 hz) with rfl | hz
      · have : cmp y z = .lt := Std.OrientedCmp.lt_of_gt hgt
        simp [this]
      · exact hy z hz
    · next hle =>
      have hxy : (cmp x y).isLE := by
        cases hc : cmp x y <;> simp_all
      refine List.pairwise_cons.2 ⟨fun z hz => ?_, h⟩
      rcases List.mem_cons.1 hz with rfl | hz
      · exact hxy
      · exact Std.TransCmp.isLE_trans hxy (hy z hz)

theorem pairwise_sortBy (cmp : α → α → Ordering) [Std.TransCmp cmp] (xs : List α) :
    (sortBy cmp xs).Pairwise fun a b => (cmp a b).isLE := by
  induction xs with
  | nil => exact .nil
  | cons x xs ih => exact pairwise_insertSorted cmp x ih

end RequestRouting.Order
