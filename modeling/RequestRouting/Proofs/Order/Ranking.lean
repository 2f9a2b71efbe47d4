import RequestRouting.Order.Sorting

/-! What the front of a sorted list says. An entry that comes strictly before all others is the
first one, in whatever order the entries were given, and entries that come strictly before all
others can be sorted on their own. Entries none of which comes strictly behind another keep their
order. -/
namespace RequestRouting.Order

variable {α : Type} {cmp : α → α → Ordering}

theorem sortBy_eq_nil {xs : List α} : sortBy cmp xs = [] ↔ xs = [] := by
  constructor
  · intro h
    have hperm := sortBy_perm cmp xs
    rw [h] at hperm
    exact hperm.symm.eq_nil
  · intro h
    rw [h]
    rfl

theorem sortBy_eq_self {xs : List α} (h : xs.Pairwise fun a b => (cmp a b).isLE) :
    sortBy cmp xs = xs := by
  induction xs with
  | nil => rfl
  | cons x xs ih =>
    obtain ⟨hx, hxs⟩ := List.pairwise_cons.1 h
    rw [sortBy, ih hxs]
    cases xs with
    | nil => rfl
    | cons y ys =>
      have hle : cmp x y ≠ .gt := by
        intro hgt
        have hxy := hx y List.mem_cons_self
        rw [hgt] at hxy
        contradiction
      rw [insertSorted, if_neg hle]

theorem map_sortBy {β : Type} (key : β → α) (xs : List β) :
    (sortBy (fun a b => cmp (key a) (key b)) xs).map key = sortBy cmp (xs.map key) := by
  have hinsert : ∀ (x : β) (ys : List β),
      (insertSorted (fun a b => cmp (key a) (key b)) x ys).map key =
        insertSorted cmp (key x) (ys.map key) := by
    intro x ys
    induction ys with
    | nil => rfl
    | cons y ys ih =>
      simp only [insertSorted, List.map_cons]
      split
      · rw [List.map_cons, ih]
      · rfl
  induction xs with
  | nil => rfl
  | cons x xs ih => rw [sortBy, hinsert, ih, List.map_cons, sortBy]

section Stability

variable {cmp' : α → α → Ordering} {p : α → Bool}

theorem insertSorted_congr {x : α} {xs : List α} (h : ∀ y ∈ xs, cmp x y = cmp' x y) :
    insertSorted cmp x xs = insertSorted cmp' x xs := by
  induction xs with
  | nil => rfl
  | cons y xs ih =>
    simp only [insertSorted, h y List.mem_cons_self,
      ih fun z hz => h z (List.mem_cons_of_mem _ hz)]

theorem sortBy_congr {xs : List α} (h : ∀ x ∈ xs, ∀ y ∈ xs, cmp x y = cmp' x y) :
    sortBy cmp xs = sortBy cmp' xs := by
  induction xs with
  | nil => rfl
  | cons x xs ih =>
    have hxs : ∀ y ∈ xs, ∀ z ∈ xs, cmp y z = cmp' y z := by
      intro y hy z hz
      exact h y (List.mem_cons_of_mem _ hy) z (List.mem_cons_of_mem _ hz)
    rw [sortBy, sortBy, ih hxs]
    exact insertSorted_congr fun y hy =>
      h x List.mem_cons_self y (List.mem_cons_of_mem _ (mem_sortBy.1 hy))

theorem filter_insertSorted {x : α} {xs : List α}
    (h : ∀ y ∈ xs, p x = true → p y = true → cmp x y ≠ .gt) :
    (insertSorted cmp x xs).filter p = (x :: xs).filter p := by
  induction xs with
  | nil => rfl
  | cons y xs ih =>
    have hrest := ih fun z hz => h z (List.mem_cons_of_mem _ hz)
    unfold insertSorted
    split
    · next hgt =>
      by_cases hx : p x = true
      · -- Of the two that change places only `x` is kept.
        have hy : ¬ p y = true := fun hy => h y List.mem_cons_self hx hy hgt
        rw [List.filter_cons_of_neg hy, hrest, List.filter_cons_of_pos hx,
          List.filter_cons_of_pos hx, List.filter_cons_of_neg hy]
      · rw [List.filter_cons_of_neg hx] at hrest ⊢
        rw [List.filter_cons, List.filter_cons, hrest]
    · rfl

/-- Sorting is stable. -/
theorem filter_sortBy {xs : List α}
    (h : ∀ x ∈ xs, ∀ y ∈ xs, p x = true → p y = true → cmp x y ≠ .gt) :
    (sortBy cmp xs).filter p = xs.filter p := by
  induction xs with
  | nil => rfl
  | cons x xs ih =>
    have hxs : ∀ y ∈ xs, ∀ z ∈ xs, p y = true → p z = true → cmp y z ≠ .gt := by
      intro y hy z hz
      exact h y (List.mem_cons_of_mem _ hy) z (List.mem_cons_of_mem _ hz)
    have hx : ∀ y ∈ sortBy cmp xs, p x = true → p y = true → cmp x y ≠ .gt := by
      intro y hy
      exact h x List.mem_cons_self y (List.mem_cons_of_mem _ (mem_sortBy.1 hy))
    rw [sortBy, filter_insertSorted hx, List.filter_cons, List.filter_cons, ih hxs]

end Stability

section TotalPreorder

variable [Std.TransCmp cmp]

theorem lt_of_sortBy_eq {xs rest : List α} {x : α} (h : sortBy cmp xs = x :: rest)
    (hne : ∀ y ∈ rest.head?, cmp x y ≠ .eq) {z : α} (hz : z ∈ rest) : cmp x z = .lt := by
  have hsorted := pairwise_sortBy cmp xs
  rw [h] at hsorted
  obtain ⟨hx, hrest⟩ := List.pairwise_cons.1 hsorted
  cases rest with
  | nil => contradiction
  | cons y rest =>
    -- the list is in order, so only a tie is to be ruled out
    have hxy : cmp x y = .lt := by
      have hle := hx y List.mem_cons_self
      cases hc : cmp x y
      · rfl
      · exact absurd hc (hne y rfl)
      · rw [hc] at hle
        contradiction
    rcases List.mem_cons.1 hz with rfl | hz
    · exact hxy
    · exact Std.TransCmp.lt_of_lt_of_isLE hxy ((List.pairwise_cons.1 hrest).1 z hz)

theorem sortBy_eq_cons_of_perm {xs rest : List α} {x : α} (hperm : xs.Perm (x :: rest))
    (hleast : ∀ y ∈ rest, cmp x y = .lt) : ∃ tail, sortBy cmp xs = x :: tail ∧ tail.Perm rest := by
  have hsorted := pairwise_sortBy cmp xs
  have hall := (sortBy_perm cmp xs).trans hperm
  cases hs : sortBy cmp xs with
  | nil =>
    rw [hs] at hall
    exact absurd hall.symm.eq_nil (List.cons_ne_nil x rest)
  | cons y tail =>
    rw [hs] at hsorted hall
    have hyx : y = x := by
      rcases List.mem_cons.1 (hall.mem_iff.1 List.mem_cons_self) with hyx | hy
      · exact hyx
      · -- another entry in front would come before `x` and behind it
        have hlt := hleast y hy
        rcases List.mem_cons.1 (hall.mem_iff.2 List.mem_cons_self) with hxy | hx
        · exact hxy.symm
        · have hle := (List.pairwise_cons.1 hsorted).1 x hx
          rw [Std.OrientedCmp.gt_of_lt hlt] at hle
          contradiction
    subst hyx
    exact ⟨tail, rfl, List.perm_cons y |>.1 hall⟩

theorem sortBy_front_of_perm {xs ys rest : List α} {x : α} (hperm : xs.Perm ys)
    (h : sortBy cmp xs = x :: rest) (hne : ∀ y ∈ rest.head?, cmp x y ≠ .eq) :
    ∃ tail, sortBy cmp ys = x :: tail ∧ ∀ y ∈ tail.head?, cmp x y ≠ .eq := by
  have hleast : ∀ y ∈ rest, cmp x y = .lt := by
    intro y hy
    exact lt_of_sortBy_eq h hne hy
  have hfront : ys.Perm (x :: rest) := by
    rw [← h]
    exact hperm.symm.trans (sortBy_perm cmp xs).symm
  obtain ⟨tail, hys, htail⟩ := sortBy_eq_cons_of_perm hfront hleast
  refine ⟨tail, hys, ?_⟩
  intro y hy heq
  rw [hleast y (htail.mem_iff.1 (List.mem_of_mem_head? hy))] at heq
  contradiction

theorem sortBy_tie_of_perm {xs ys rest : List α} {x : α} (hperm : xs.Perm ys)
    (h : sortBy cmp xs = x :: rest) (htie : ∃ y ∈ rest.head?, cmp x y = .eq) :
    ∃ x' rest', sortBy cmp ys = x' :: rest' ∧ ∃ y ∈ rest'.head?, cmp x' y = .eq := by
  cases hys : sortBy cmp ys with
  | nil =>
    rw [sortBy_eq_nil.1 hys] at hperm
    rw [hperm.eq_nil] at h
    contradiction
  | cons x' rest' =>
    refine ⟨x', rest', rfl, Classical.byContradiction fun hnone => ?_⟩
    -- were there no tie in the other order, there would be none in this one
    obtain ⟨tail, hxs, hne⟩ :=
      sortBy_front_of_perm hperm.symm hys fun y hy heq => hnone ⟨y, hy, heq⟩
    rw [h, List.cons.injEq] at hxs
    obtain ⟨rfl, rfl⟩ := hxs
    obtain ⟨y, hy, heq⟩ := htie
    exact hne y hy heq

end TotalPreorder

theorem insertSorted_append_of_lt {x : α} (xs : List α) {ys : List α}
    (h : ∀ y ∈ ys, cmp x y = .lt) :
    insertSorted cmp x (xs ++ ys) = insertSorted cmp x xs ++ ys := by
  induction xs with
  | nil =>
    cases ys with
    | nil => rfl
    | cons y ys => simp [insertSorted, h y List.mem_cons_self]
  | cons z xs ih =>
    simp only [List.cons_append, insertSorted]
    split
    · rw [ih, List.cons_append]
    · rfl

theorem insertSorted_append_of_gt {x : α} {xs : List α} (ys : List α)
    (h : ∀ y ∈ xs, cmp x y = .gt) :
    insertSorted cmp x (xs ++ ys) = xs ++ insertSorted cmp x ys := by
  induction xs with
  | nil => rfl
  | cons z xs ih =>
    have hz := h z List.mem_cons_self
    have hxs : ∀ y ∈ xs, cmp x y = .gt := fun y hy => h y (List.mem_cons_of_mem _ hy)
    simp [insertSorted, hz, ih hxs]

theorem sortBy_eq_append_of_lt [Std.OrientedCmp cmp] (p : α → Bool) {xs : List α}
    (h : ∀ x ∈ xs, ∀ y ∈ xs, p x = true → p y = false → cmp x y = .lt) :
    sortBy cmp xs = sortBy cmp (xs.filter p) ++ sortBy cmp (xs.filter (!p ·)) := by
  induction xs with
  | nil => rfl
  | cons x xs ih =>
    have hxs : ∀ y ∈ xs, ∀ z ∈ xs, p y = true → p z = false → cmp y z = .lt := by
      intro y hy z hz
      exact h y (List.mem_cons_of_mem _ hy) z (List.mem_cons_of_mem _ hz)
    rw [sortBy, ih hxs]
    cases hp : p x with
    | true =>
      have hbefore : ∀ y ∈ sortBy cmp (xs.filter (!p ·)), cmp x y = .lt := by
        intro y hy
        obtain ⟨hy, hpy⟩ := List.mem_filter.1 (mem_sortBy.1 hy)
        exact h x List.mem_cons_self y (List.mem_cons_of_mem _ hy) hp (by simpa using hpy)
      simp [hp, sortBy, insertSorted_append_of_lt _ hbefore]
    | false =>
      have hbehind : ∀ y ∈ sortBy cmp (xs.filter p), cmp x y = .gt := by
        intro y hy
        obtain ⟨hy, hpy⟩ := List.mem_filter.1 (mem_sortBy.1 hy)
        have hlt := h y (List.mem_cons_of_mem _ hy) x List.mem_cons_self hpy hp
        exact Std.OrientedCmp.gt_of_lt hlt
      simp [hp, sortBy, insertSorted_append_of_gt _ hbehind]

end RequestRouting.Order
