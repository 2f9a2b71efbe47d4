/-! Finite sets as strictly increasing lists. A set has one such list, so two sets are
equal exactly when they have the same members, and the list is also the order in which
members are shown. -/
namespace RequestRouting.Order

def insertDistinct (cmp : α → α → Ordering) (x : α) : List α → List α
  | [] => [x]
  | y :: ys =>
    match cmp x y with
    | .lt => x :: y :: ys
    | .eq => y :: ys
    | .gt => y :: insertDistinct cmp x ys

def distinctBy (cmp : α → α → Ordering) (xs : List α) : List α :=
  xs.foldr (insertDistinct cmp) []

theorem mem_of_mem_insertDistinct {cmp : α → α → Ordering} {x z : α} {xs : List α}
    (h : z ∈ insertDistinct cmp x xs) : z = x ∨ z ∈ xs := by
  induction xs with
  | nil => simpa [insertDistinct] using h
  | cons y ys ih =>
    unfold insertDistinct at h
    split at h <;> simp at h ⊢
    · exact h
    · exact .inr h
    · rcases h with rfl | h
      · exact .inr (.inl rfl)
      · rcases ih h with h | h
        · exact .inl h
        · exact .inr (.inr h)

theorem pairwise_insertDistinct (cmp : α → α → Ordering) [Std.TransCmp cmp] (x : α)
    {xs : List α} (h : xs.Pairwise (cmp · · = .lt)) :
    (insertDistinct cmp x xs).Pairwise (cmp · · = .lt) := by
  induction xs with
  | nil => simp [insertDistinct]
  | cons y ys ih =>
    obtain ⟨hy, hys⟩ := List.pairwise_cons.1 h
    unfold insertDistinct
    split
    · next hlt =>
      refine List.pairwise_cons.2 ⟨fun z hz => ?_, h⟩
      rcases List.mem_cons.1 hz with rfl | hz
      · exact hlt
      · exact Std.TransCmp.lt_trans hlt (hy z hz)
    · exact h
    · next hgt =>
      refine List.pairwise_cons.2 ⟨fun z hz => ?_, ih hys⟩
      rcases mem_of_mem_insertDistinct hz with rfl | hz
      · exact Std.OrientedCmp.lt_of_gt hgt
      · exact hy z hz

theorem pairwise_distinctBy (cmp : α → α → Ordering) [Std.TransCmp cmp] (xs : List α) :
    (distinctBy cmp xs).Pairwise (cmp · · = .lt) := by
  induction xs with
  | nil => exact .nil
  | cons x xs ih => exact pairwise_insertDistinct cmp x ih

@[ext] structure SortedSet (α : Type) [Ord α] where
  toList : List α
  sorted : toList.Pairwise (compare · · = .lt)
deriving DecidableEq

namespace SortedSet

variable {α : Type} [Ord α]

protected def empty : SortedSet α := ⟨[], .nil⟩

instance : EmptyCollection (SortedSet α) := ⟨.empty⟩
instance : Inhabited (SortedSet α) := ⟨.empty⟩
instance : Membership α (SortedSet α) := ⟨fun s x => x ∈ s.toList⟩

instance [DecidableEq α] (x : α) (s : SortedSet α) : Decidable (x ∈ s) :=
  inferInstanceAs (Decidable (x ∈ s.toList))

def isEmpty (s : SortedSet α) : Bool := s.toList.isEmpty

def size (s : SortedSet α) : Nat := s.toList.length

def filter (p : α → Bool) (s : SortedSet α) : SortedSet α := ⟨s.toList.filter p, s.sorted.filter p⟩

variable [Std.TransOrd α]

def ofList (xs : List α) : SortedSet α := ⟨distinctBy compare xs, pairwise_distinctBy compare xs⟩

def union (s t : SortedSet α) : SortedSet α := ofList (s.toList ++ t.toList)

end SortedSet

end RequestRouting.Order
