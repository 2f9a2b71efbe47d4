import RequestRouting.Placeholder.Resolver
import RequestRouting.Proofs.Outcome
import RequestRouting.Proofs.Placeholder.Template

/-! Expanding texts. An expansion that does not run out of depth is the same with any greater depth,
and one that ends well has replaced every placeholder by the expansion of what it stands for. -/
namespace RequestRouting.Placeholder

variable {α β : Type}

def Settled (x : Logged Stop α) : Prop := x.result ≠ .error .unfinished

theorem settled_of_ok {x : Logged Stop α} {a : α} (h : x.result = .ok a) : Settled x := by
  rw [Settled, h]
  simp

section Bind

variable {x y : Logged Stop α} {f g : α → Logged Stop β} {a : α}

theorem Settled.of_bind (h : Settled (x >>= f)) : Settled x := by
  intro hx
  apply h
  rw [Logged.result_bind, hx]
  rfl

theorem Settled.of_bind_ok (h : Settled (x >>= f)) (hx : x.result = .ok a) : Settled (f a) := by
  intro hf
  apply h
  rw [Logged.result_bind, hx]
  exact hf

theorem settled_bind (hx : Settled x) (hf : ∀ a, x.result = .ok a → Settled (f a)) :
    Settled (x >>= f) := by
  unfold Settled
  rw [Logged.result_bind]
  cases h : x.result with
  | error e =>
    intro he
    apply hx
    rw [h]
    exact congrArg _ (Except.error.inj he)
  | ok a => exact hf a h

theorem bind_eq_of_result (h : ∀ a, x.result = .ok a → f a = g a) : (x >>= f) = (x >>= g) := by
  show Logged.bind x f = Logged.bind x g
  unfold Logged.bind
  cases hx : x.result with
  | error e => rfl
  | ok a =>
    dsimp only
    rw [h a hx]

theorem bind_eq_of_settled (h : Settled (x >>= f)) (hx : Settled x → y = x)
    (hf : ∀ a, x.result = .ok a → Settled (f a) → g a = f a) : (y >>= g) = (x >>= f) := by
  rw [hx h.of_bind]
  apply bind_eq_of_result
  intro a ha
  exact hf a ha (h.of_bind_ok ha)

theorem mapM_eq_of_settled {xs : List α} (h : Settled (xs.mapM f))
    (hfg : ∀ x, Settled (f x) → g x = f x) : xs.mapM g = xs.mapM f := by
  induction xs with
  | nil => rfl
  | cons x xs ih =>
    rw [List.mapM_cons] at h ⊢
    rw [List.mapM_cons]
    apply bind_eq_of_settled h (hfg x)
    intro b _ hrest
    apply bind_eq_of_settled hrest ih
    intro bs _ _
    rfl

end Bind

namespace Resolver

variable {r : Resolver} {visiting : List (List Char)} {value : List Char}

theorem expandPiece_eq_of_settled
    {expandText deeper : List (List Char) → List Char → Logged Stop (List Char)}
    (hdeeper : ∀ visiting value, Settled (expandText visiting value) →
      deeper visiting value = expandText visiting value) {piece : Piece}
    (h : Settled (r.expandPiece expandText visiting value piece)) :
    r.expandPiece deeper visiting value piece = r.expandPiece expandText visiting value piece := by
  cases piece with
  | literal c => rfl
  | reference body =>
    unfold expandPiece at h ⊢
    apply bind_eq_of_settled h (hdeeper visiting body)
    intro placeholder _ hrest
    cases hcontains : visiting.contains placeholder with
    | true => rfl
    | false =>
      cases hlookup : r.lookup? placeholder with
      | none => rfl
      | some found =>
        simp only [hcontains, hlookup, Bool.false_eq_true, if_false] at hrest ⊢
        apply bind_eq_of_settled hrest (hdeeper _ _)
        intro resolved _ _
        rfl

theorem expand_succ_eq {depth : Nat} (h : Settled (r.expand depth visiting value)) :
    r.expand (depth + 1) visiting value = r.expand depth visiting value := by
  induction depth generalizing visiting value with
  | zero => exact absurd rfl h
  | succ depth ih =>
    unfold expand at h ⊢
    apply bind_eq_of_settled h
    · intro hparts
      apply mapM_eq_of_settled hparts
      intro piece hpiece
      apply expandPiece_eq_of_settled _ hpiece
      intro visiting value hsettled
      exact ih hsettled
    · intro parts _ _
      rfl

theorem expand_eq_of_le {depth deeper : Nat} (h : Settled (r.expand depth visiting value))
    (hle : depth ≤ deeper) : r.expand deeper visiting value = r.expand depth visiting value := by
  induction hle with
  | refl => rfl
  | @step deeper _ ih =>
    have hdeeper : Settled (r.expand deeper visiting value) := by
      rw [ih]
      exact h
    rw [expand_succ_eq hdeeper, ih]

theorem expandPiece_eq_of_le {depth deeper : Nat} {piece : Piece}
    (h : Settled (r.expandPiece (r.expand depth) visiting value piece)) (hle : depth ≤ deeper) :
    r.expandPiece (r.expand deeper) visiting value piece =
      r.expandPiece (r.expand depth) visiting value piece := by
  apply expandPiece_eq_of_settled _ h
  intro visiting value hsettled
  exact expand_eq_of_le hsettled hle

theorem expand_ok_of_settled {depth depth' : Nat} {cs : List Char}
    (h : Settled (r.expand depth visiting value))
    (h' : (r.expand depth' visiting value).result = .ok cs) :
    (r.expand depth visiting value).result = .ok cs := by
  have hmax := expand_eq_of_le h (Nat.le_max_left depth depth')
  have hmax' := expand_eq_of_le (settled_of_ok h') (Nat.le_max_right depth depth')
  rw [← hmax, hmax', h']

theorem expandPiece_ok_of_settled {depth depth' : Nat} {piece : Piece} {cs : List Char}
    (h : Settled (r.expandPiece (r.expand depth) visiting value piece))
    (h' : (r.expandPiece (r.expand depth') visiting value piece).result = .ok cs) :
    (r.expandPiece (r.expand depth) visiting value piece).result = .ok cs := by
  have hmax := expandPiece_eq_of_le h (Nat.le_max_left depth depth')
  have hmax' := expandPiece_eq_of_le (settled_of_ok h') (Nat.le_max_right depth depth')
  rw [← hmax, hmax', h']

theorem result_mapM_of_forall {f : α → Logged Stop β} {out : α → β} {xs : List α}
    (h : ∀ x ∈ xs, (f x).result = .ok (out x)) : (xs.mapM f).result = .ok (xs.map out) := by
  induction xs with
  | nil => rfl
  | cons x xs ih =>
    have hrest : ∀ y ∈ xs, (f y).result = .ok (out y) := by
      intro y hy
      exact h y (List.mem_cons_of_mem _ hy)
    rw [List.mapM_cons, Logged.result_bind, h x List.mem_cons_self]
    show (xs.mapM f >>= _).result = _
    rw [Logged.result_bind, ih hrest]
    rfl

theorem expandPiece_reference
    {expandText : List (List Char) → List Char → Logged Stop (List Char)}
    {body placeholder resolved : List Char} {found : String}
    (hbody : (expandText visiting body).result = .ok placeholder) (hnew : placeholder ∉ visiting)
    (hlookup : r.lookup? placeholder = some found)
    (hfound : (expandText (placeholder :: visiting) found.toList).result = .ok resolved) :
    (r.expandPiece expandText visiting value (.reference body)).result = .ok resolved := by
  unfold expandPiece
  have hcontains : visiting.contains placeholder = false := by simp [hnew]
  rw [Logged.result_bind, hbody]
  dsimp only [bind, Except.bind]
  rw [hcontains, hlookup]
  show (expandText (placeholder :: visiting) found.toList >>= _).result = _
  rw [Logged.result_bind, hfound]
  rfl

theorem expandPiece_reference_cases
    {expandText : List (List Char) → List Char → Logged Stop (List Char)}
    {body out : List Char}
    (h : (r.expandPiece expandText visiting value (.reference body)).result = .ok out) :
    ∃ placeholder, (expandText visiting body).result = .ok placeholder ∧ placeholder ∉ visiting ∧
      ((∃ found, r.lookup? placeholder = some found ∧
          (expandText (placeholder :: visiting) found.toList).result = .ok out) ∨
        r.lookup? placeholder = none ∧ r.lenient = true ∧
          out = '$' :: '\x7b' :: body ++ ['\x7d']) := by
  unfold expandPiece at h
  rw [Logged.result_bind] at h
  obtain ⟨placeholder, hbody, h⟩ := Outcome.bind_eq_ok.1 h
  refine ⟨placeholder, hbody, ?_⟩
  split at h
  · contradiction
  next hcontains =>
  refine ⟨by simpa using hcontains, ?_⟩
  split at h
  · next found hlookup =>
    rw [Logged.result_bind] at h
    obtain ⟨resolved, hfound, h⟩ := Outcome.bind_eq_ok.1 h
    obtain rfl := Except.ok.inj h
    exact .inl ⟨found, hlookup, hfound⟩
  · next hlookup =>
    split at h
    · next hlenient => exact .inr ⟨hlookup, hlenient, (Except.ok.inj h).symm⟩
    · contradiction

theorem expand_eq_fill {depth : Nat} {replacement : List Char → List Char}
    (h : ∀ body ∈ bodies value,
      (r.expandPiece (r.expand depth) visiting value (.reference body)).result =
        .ok (replacement body)) :
    (r.expand (depth + 1) visiting value).result = .ok (fill replacement value) := by
  have hpieces : ∀ piece ∈ pieces value,
      (r.expandPiece (r.expand depth) visiting value piece).result =
        .ok (piece.fill replacement) := by
    intro piece hpiece
    cases piece with
    | literal c => rfl
    | reference body => exact h body (mem_bodies.2 hpiece)
  unfold expand
  rw [Logged.result_bind, result_mapM_of_forall hpieces]
  rfl

end Resolver

end RequestRouting.Placeholder
