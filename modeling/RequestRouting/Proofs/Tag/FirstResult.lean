import RequestRouting.Proofs.Outcome
import RequestRouting.Tag.Merging

/-! The first result of a function that can fail, among those of a list. Whatever is found first,
nothing was found before it and nothing went wrong. -/
namespace RequestRouting

variable {ε α β : Type} {f g : α → Except ε (Option β)} {xs ys : List α}

theorem firstResult_cons_of_none {x : α} (hx : f x = .ok none) (xs : List α) :
    firstResult f (x :: xs) = firstResult f xs := by
  rw [firstResult, hx]
  rfl

theorem firstResult_cons_of_some {x : α} {y : β} (hx : f x = .ok (some y)) (xs : List α) :
    firstResult f (x :: xs) = .ok (some y) := by
  rw [firstResult, hx]
  rfl

theorem firstResult_singleton (f : α → Except ε (Option β)) (x : α) :
    firstResult f [x] = f x := by
  rw [firstResult]
  rcases f x with e | _ | y <;> rfl

theorem firstResult_congr (h : ∀ x ∈ xs, f x = g x) : firstResult f xs = firstResult g xs := by
  induction xs with
  | nil => rfl
  | cons x xs ih =>
    have hrest := ih fun y hy => h y (List.mem_cons_of_mem x hy)
    rw [firstResult, firstResult, h x List.mem_cons_self, hrest]

theorem firstResult_map {γ : Type} (k : γ → α) (zs : List γ) :
    firstResult f (zs.map k) = firstResult (fun z => f (k z)) zs := by
  induction zs with
  | nil => rfl
  | cons z zs ih => rw [List.map_cons, firstResult, firstResult, ih]

theorem firstResult_eq_none : firstResult f xs = .ok none ↔ ∀ x ∈ xs, f x = .ok none := by
  induction xs with
  | nil => simp [firstResult]
  | cons x xs ih =>
    rw [List.forall_mem_cons]
    rcases hx : f x with e | _ | y
    · rw [firstResult, hx]
      exact iff_of_false (by rintro ⟨⟩) (by rintro ⟨⟨⟩, -⟩)
    · rw [firstResult_cons_of_none hx, ih, and_iff_right rfl]
    · rw [firstResult_cons_of_some hx]
      exact iff_of_false (by rintro ⟨⟩) (by rintro ⟨⟨⟩, -⟩)

theorem firstResult_eq_some {y : β} :
    firstResult f xs = .ok (some y) ↔
      ∃ before x, before ++ [x] <+: xs ∧ (∀ z ∈ before, f z = .ok none) ∧ f x = .ok (some y) := by
  constructor
  · intro h
    induction xs with
    | nil => cases h
    | cons x xs ih =>
      rcases hx : f x with e | _ | z
      · rw [firstResult, hx] at h
        cases h
      · rw [firstResult_cons_of_none hx] at h
        obtain ⟨before, w, hfront, hbefore, hw⟩ := ih h
        exact ⟨x :: before, w, List.cons_prefix_cons.2 ⟨rfl, hfront⟩,
          List.forall_mem_cons.2 ⟨hx, hbefore⟩, hw⟩
      · rw [firstResult_cons_of_some hx] at h
        exact ⟨[], x, List.cons_prefix_cons.2 ⟨rfl, List.nil_prefix⟩, by simp, hx.trans h⟩
  · rintro ⟨before, x, ⟨after, rfl⟩, hbefore, hx⟩
    induction before with
    | nil => exact firstResult_cons_of_some hx _
    | cons z before ih =>
      obtain ⟨hz, hbefore⟩ := List.forall_mem_cons.1 hbefore
      rw [List.cons_append, List.cons_append, firstResult_cons_of_none hz]
      exact ih hbefore

theorem firstResult_append_eq_some {y : β} :
    firstResult f (xs ++ ys) = .ok (some y) ↔ firstResult f xs = .ok (some y) ∨
      firstResult f xs = .ok none ∧ firstResult f ys = .ok (some y) := by
  induction xs with
  | nil => simp [firstResult]
  | cons x xs ih =>
    rw [List.cons_append]
    rcases hx : f x with e | _ | z
    · simp [firstResult, hx, bind, Except.bind]
    · rw [firstResult_cons_of_none hx, firstResult_cons_of_none hx, ih]
    · rw [firstResult_cons_of_some hx, firstResult_cons_of_some hx]
      simp

theorem firstResult_of_find?_eq_some {p : α → Bool} {x : α}
    (hskip : ∀ y, p y = false → f y = .ok none) (hfind : xs.find? p = some x)
    (hx : f x ≠ .ok none) : firstResult f xs = f x := by
  induction xs with
  | nil => contradiction
  | cons y xs ih =>
    rw [List.find?_cons] at hfind
    split at hfind
    · obtain rfl := Option.some.inj hfind
      rw [firstResult]
      rcases hy : f y with e | _ | z
      · rfl
      · exact absurd hy hx
      · rfl
    · next hy =>
      rw [firstResult_cons_of_none (hskip y hy)]
      exact ih hfind

theorem firstResult_of_find?_eq_none {p : α → Bool} (hskip : ∀ y, p y = false → f y = .ok none)
    (hfind : xs.find? p = none) : firstResult f xs = .ok none := by
  rw [firstResult_eq_none]
  intro x hx
  exact hskip x (by simpa using List.find?_eq_none.1 hfind x hx)

theorem mem_of_first {before : List α} {x : α} (hfront : before ++ [x] <+: xs) : x ∈ xs :=
  hfront.subset (List.mem_append_right _ List.mem_cons_self)

theorem eq_of_first {P : α → Prop} {before before' : List α} {x y : α}
    (hfront : before ++ [x] <+: xs) (hfront' : before' ++ [y] <+: xs)
    (hbefore : ∀ z ∈ before, ¬ P z) (hbefore' : ∀ z ∈ before', ¬ P z) (hx : P x) (hy : P y) :
    x = y := by
  rcases List.prefix_or_prefix_of_prefix hfront hfront' with h | h
  · rcases List.prefix_concat_iff.1 h with heq | h
    · exact List.singleton_inj.1 (List.append_inj' heq rfl).2
    · exact absurd hx (hbefore' x (mem_of_first h))
  · rcases List.prefix_concat_iff.1 h with heq | h
    · exact (List.singleton_inj.1 (List.append_inj' heq rfl).2).symm
    · exact absurd hy (hbefore y (mem_of_first h))

theorem exists_of_firstResult {y : β} (h : firstResult f xs = .ok (some y)) :
    ∃ x ∈ xs, f x = .ok (some y) := by
  obtain ⟨before, x, hfront, -, hx⟩ := firstResult_eq_some.1 h
  exact ⟨x, mem_of_first hfront, hx⟩

end RequestRouting
