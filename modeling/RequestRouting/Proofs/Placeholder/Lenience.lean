import Mathlib.Tactic.Push
import RequestRouting.Proofs.Placeholder.Resolving

/-! What leniency changes. A lenient resolver does step by step what the strict one with the same
properties does, up to the first placeholder that nothing is known of. There the strict one gives
up, and the lenient one goes on with the placeholder as it stands. -/
namespace RequestRouting.Placeholder

variable {α β : Type}

structure Relaxes (strict lenient : Logged Stop α) : Prop where
  same : strict = lenient ∨ ∃ key value, strict.result = .error (.failed (.unresolvable key value))
  known : ∀ key value, lenient.result ≠ .error (.failed (.unresolvable key value))

theorem relaxes_self {x : Logged Stop α}
    (h : ∀ key value, x.result ≠ .error (.failed (.unresolvable key value))) : Relaxes x x where
  same := .inl rfl
  known := h

theorem relaxes_pure (a : α) : Relaxes (pure a) (pure a) := relaxes_self (by simp)

theorem Relaxes.bind {x y : Logged Stop α} {f g : α → Logged Stop β}
    (h : Relaxes x y) (hrest : ∀ a, Relaxes (f a) (g a)) : Relaxes (x >>= f) (y >>= g) where
  same := by
    rcases h.same with rfl | ⟨key, value, hx⟩
    · by_cases hfg : ∀ a, x.result = .ok a → f a = g a
      · exact .inl (bind_eq_of_result hfg)
      · push Not at hfg
        obtain ⟨a, hx, hne⟩ := hfg
        obtain ⟨key, value, hf⟩ := (hrest a).same.resolve_left hne
        right
        refine ⟨key, value, ?_⟩
        rw [Logged.result_bind, hx]
        exact hf
    · right
      refine ⟨key, value, ?_⟩
      rw [Logged.result_bind, hx]
      rfl
  known key value := by
    rw [Logged.result_bind]
    cases hy : y.result with
    | error e =>
      intro he
      apply h.known key value
      rw [hy]
      exact congrArg _ (Except.error.inj he)
    | ok a => exact (hrest a).known key value

theorem relaxes_mapM {f g : α → Logged Stop β} (h : ∀ a, Relaxes (f a) (g a))
    (xs : List α) : Relaxes (xs.mapM f) (xs.mapM g) := by
  induction xs with
  | nil => exact relaxes_pure []
  | cons x xs ih =>
    rw [List.mapM_cons, List.mapM_cons]
    apply (h x).bind
    intro b
    apply ih.bind
    intro bs
    exact relaxes_pure (b :: bs)

namespace Resolver

def strictOf (properties : Dictionary String) : Resolver := { properties }

def lenientOf (properties : Dictionary String) : Resolver := { properties, lenient := true }

variable {properties : Dictionary String}

theorem relaxes_expandPiece
    {strict lenient : List (List Char) → List Char → Logged Stop (List Char)}
    (h : ∀ visiting value, Relaxes (strict visiting value) (lenient visiting value))
    (visiting : List (List Char)) (value : List Char) (piece : Piece) :
    Relaxes ((strictOf properties).expandPiece strict visiting value piece)
      ((lenientOf properties).expandPiece lenient visiting value piece) := by
  cases piece with
  | literal c => exact relaxes_pure [c]
  | reference body =>
    apply (h visiting body).bind
    intro placeholder
    by_cases hvisiting : visiting.contains placeholder = true
    · rw [if_pos hvisiting, if_pos hvisiting]
      exact relaxes_self (by simp)
    rw [if_neg hvisiting, if_neg hvisiting]
    -- what a placeholder stands for depends on the properties only
    have hlookup : (lenientOf properties).lookup? placeholder =
        (strictOf properties).lookup? placeholder := rfl
    rw [hlookup]
    cases (strictOf properties).lookup? placeholder with
    | some found =>
      apply (h (placeholder :: visiting) found.toList).bind
      intro resolved
      apply relaxes_self
      rintro key value ⟨⟩
    | none => exact ⟨.inr ⟨_, _, rfl⟩, by simp [lenientOf]⟩

theorem relaxes_expand (properties : Dictionary String) (depth : Nat)
    (visiting : List (List Char)) (value : List Char) :
    Relaxes ((strictOf properties).expand depth visiting value)
      ((lenientOf properties).expand depth visiting value) := by
  induction depth generalizing visiting value with
  | zero => exact relaxes_self (by simp [expand])
  | succ depth ih =>
    apply (relaxes_mapM (relaxes_expandPiece ih visiting value) (pieces value)).bind
    intro parts
    exact relaxes_pure parts.flatten

end Resolver

/-- The outcomes of a strict and a lenient resolver, side by side; none is one that has no end. -/
structure Extends (strict lenient : Option (Except PlaceholderError α)) : Prop where
  ok : ∀ out, strict = some (.ok out) → lenient = some (.ok out)
  circular : ∀ key, strict = some (.error (.circular key)) →
    lenient = some (.error (.circular key))
  unresolvable : ∀ out, lenient = some (.ok out) → strict = some (.ok out) ∨
    ∃ key value, strict = some (.error (.unresolvable key value))
  known : ∀ key value, lenient ≠ some (.error (.unresolvable key value))

theorem Relaxes.extends {strict lenient : Logged Stop α} (h : Relaxes strict lenient) :
    Extends ((Stop.finished? strict).map (·.result)) ((Stop.finished? lenient).map (·.result)) where
  ok out hok := by
    rcases h.same with rfl | ⟨key, value, hstrict⟩
    · exact hok
    · simp [Stop.finished?, hstrict] at hok
  circular key hcircular := by
    rcases h.same with rfl | ⟨_, _, hstrict⟩
    · exact hcircular
    · simp [Stop.finished?, hstrict] at hcircular
  unresolvable out hok := by
    rcases h.same with rfl | ⟨key, value, hstrict⟩
    · exact .inl hok
    · exact .inr ⟨key, value, by simp [Stop.finished?, hstrict]⟩
  known key value hlenient := by
    obtain ⟨y, hy, hresult⟩ := Option.map_eq_some_iff.1 hlenient
    apply h.known key value
    rw [(finished?_eq_some.1 hy).1, hresult]
    rfl

theorem Extends.of_depth {strict lenient : Option (Except PlaceholderError α)}
    {strictWithin lenientWithin : Nat → Option (Except PlaceholderError α)}
    (hstrict : ∀ {x}, strict = some x ↔ ∃ depth, strictWithin depth = some x)
    (hlenient : ∀ {x}, lenient = some x ↔ ∃ depth, lenientWithin depth = some x)
    (h : ∀ depth, Extends (strictWithin depth) (lenientWithin depth)) : Extends strict lenient where
  ok out hok := by
    obtain ⟨depth, hdepth⟩ := hstrict.1 hok
    exact hlenient.2 ⟨depth, (h depth).ok out hdepth⟩
  circular key hcircular := by
    obtain ⟨depth, hdepth⟩ := hstrict.1 hcircular
    exact hlenient.2 ⟨depth, (h depth).circular key hdepth⟩
  unresolvable out hok := by
    obtain ⟨depth, hdepth⟩ := hlenient.1 hok
    rcases (h depth).unresolvable out hdepth with hsame | ⟨key, value, herror⟩
    · exact .inl (hstrict.2 ⟨depth, hsame⟩)
    · exact .inr ⟨key, value, hstrict.2 ⟨depth, herror⟩⟩
  known key value hunknown := by
    obtain ⟨depth, hdepth⟩ := hlenient.1 hunknown
    exact (h depth).known key value hdepth

theorem extends_resolveWithin (properties : Dictionary String) (depth : Nat) (text : String) :
    Extends (((Resolver.strictOf properties).resolveWithin depth text).map (·.result))
      (((Resolver.lenientOf properties).resolveWithin depth text).map (·.result)) := by
  apply Relaxes.extends
  apply (Resolver.relaxes_expand properties depth [] text.toList).bind
  intro cs
  exact relaxes_pure (String.ofList cs)

/-- Resolving leniently extends resolving strictly: it keeps every result and every cycle that is
reported, and succeeds beyond that only where something is unknown. So it is with any number of
levels. -/
theorem Resolver.lenient_extends_strict (properties : Dictionary String) (text : String) :
    Extends ((strictOf properties).outcome? text) ((lenientOf properties).outcome? text) ∧
      ∀ depth, Extends (((strictOf properties).resolveWithin depth text).map (·.result))
        (((lenientOf properties).resolveWithin depth text).map (·.result)) := by
  refine ⟨?_, fun depth => extends_resolveWithin properties depth text⟩
  exact .of_depth outcome?_eq_some_iff outcome?_eq_some_iff
    fun depth => extends_resolveWithin properties depth text

end RequestRouting.Placeholder
