import RequestRouting.Handler.Selector

/-! Connectives of selectors. A custom test may fail, and then nothing behind it is looked at, so
the operands of a connective cannot change places. The other laws hold with the failures:
negations move inward to the leaves, and conjunctions and disjunctions regroup. An evaluation
fails as the first failing leaf does that it comes to, and what stands in a place that it does not
come to has no effect. -/
namespace RequestRouting

namespace Outcome

section Connectives

variable {ε : Type}

def both (x y : Except ε Bool) : Except ε Bool := do if ← x then y else return false

def either (x y : Except ε Bool) : Except ε Bool := do if ← x then return true else y

def negated (x : Except ε Bool) : Except ε Bool := return !(← x)

@[simp] theorem both_error (e : ε) (y : Except ε Bool) : both (.error e) y = .error e := rfl

@[simp] theorem both_true (y : Except ε Bool) : both (.ok true) y = y := rfl

@[simp] theorem both_false (y : Except ε Bool) : both (.ok false) y = .ok false := rfl

@[simp] theorem either_error (e : ε) (y : Except ε Bool) : either (.error e) y = .error e := rfl

@[simp] theorem either_true (y : Except ε Bool) : either (.ok true) y = .ok true := rfl

@[simp] theorem either_false (y : Except ε Bool) : either (.ok false) y = y := rfl

@[simp] theorem negated_error (e : ε) : negated (.error e) = .error e := rfl

@[simp] theorem negated_ok (b : Bool) : negated (.ok b : Except ε Bool) = .ok !b := rfl

theorem negated_negated (x : Except ε Bool) : negated (negated x) = x := by
  rcases x with e | b
  · rfl
  · simp

theorem negated_both (x y : Except ε Bool) :
    negated (both x y) = either (negated x) (negated y) := by
  rcases x with e | b | b <;> rfl

theorem negated_either (x y : Except ε Bool) :
    negated (either x y) = both (negated x) (negated y) := by
  rcases x with e | b | b <;> rfl

theorem both_assoc (x y z : Except ε Bool) : both (both x y) z = both x (both y z) := by
  rcases x with e | b | b <;> rfl

theorem either_assoc (x y z : Except ε Bool) : either (either x y) z = either x (either y z) := by
  rcases x with e | b | b <;> rfl

end Connectives

def error? {ε α : Type} : Except ε α → Option ε
  | .error e => some e
  | .ok _ => none

theorem error?_eq_some {ε α : Type} {x : Except ε α} {e : ε} :
    error? x = some e ↔ x = .error e := by
  cases x <;> simp [error?]

theorem error?_negated {ε : Type} (x : Except ε Bool) : error? (negated x) = error? x := by
  cases x <;> rfl

end Outcome

namespace Selector

variable {registry : TagRegistry} {t : HandlerType}

theorem selects_both (left right : Selector) :
    (both left right).selects registry t =
      Outcome.both (left.selects registry t) (right.selects registry t) := rfl

theorem selects_either (left right : Selector) :
    (either left right).selects registry t =
      Outcome.either (left.selects registry t) (right.selects registry t) := rfl

theorem selects_negated (s : Selector) :
    (negated s).selects registry t = Outcome.negated (s.selects registry t) := rfl

def IsLeaf : Selector → Prop
  | both _ _ | either _ _ | negated _ => False
  | _ => True

def leaves : Selector → List Selector
  | both left right | either left right => left.leaves ++ right.leaves
  | negated s => s.leaves
  | leaf => [leaf]

/-- Nothing but leaves is negated, and none of them twice. -/
inductive IsNegationNormal : Selector → Prop
  | leaf {s : Selector} (h : s.IsLeaf) : IsNegationNormal s
  | negatedLeaf {s : Selector} (h : s.IsLeaf) : IsNegationNormal (negated s)
  | both {left right : Selector} (hleft : IsNegationNormal left)
      (hright : IsNegationNormal right) : IsNegationNormal (both left right)
  | either {left right : Selector} (hleft : IsNegationNormal left)
      (hright : IsNegationNormal right) : IsNegationNormal (either left right)

/-- A selector, or its negation if `negate` is on, with the negations at the leaves. A negated
conjunction becomes a disjunction and the other way round, and two negations cancel out. -/
def pushNegation : (negate : Bool) → Selector → Selector
  | false, both left right => both (pushNegation false left) (pushNegation false right)
  | true, both left right => either (pushNegation true left) (pushNegation true right)
  | false, either left right => either (pushNegation false left) (pushNegation false right)
  | true, either left right => both (pushNegation true left) (pushNegation true right)
  | negate, negated s => pushNegation (!negate) s
  | false, leaf => leaf
  | true, leaf => negated leaf

def normalForm (s : Selector) : Selector := pushNegation false s

theorem isNegationNormal_pushNegation (negate : Bool) (s : Selector) :
    (pushNegation negate s).IsNegationNormal := by
  induction s generalizing negate with
  | any | tagged _ | inModules _ | assignableTo _ | custom _ =>
    cases negate
    · exact .leaf trivial
    · exact .negatedLeaf trivial
  | both left right ihleft ihright =>
    cases negate
    · exact .both (ihleft false) (ihright false)
    · exact .either (ihleft true) (ihright true)
  | either left right ihleft ihright =>
    cases negate
    · exact .either (ihleft false) (ihright false)
    · exact .both (ihleft true) (ihright true)
  | negated s ih =>
    rw [pushNegation]
    exact ih (!negate)

theorem leaves_pushNegation (negate : Bool) (s : Selector) :
    (pushNegation negate s).leaves = s.leaves := by
  induction s generalizing negate with
  | any | tagged _ | inModules _ | assignableTo _ | custom _ => cases negate <;> rfl
  | both left right ihleft ihright | either left right ihleft ihright =>
    cases negate <;> simp only [pushNegation, leaves, ihleft, ihright]
  | negated s ih => rw [pushNegation, leaves, ih]

theorem selects_pushNegation (negate : Bool) (s : Selector) :
    (pushNegation negate s).selects registry t =
      if negate then Outcome.negated (s.selects registry t) else s.selects registry t := by
  induction s generalizing negate with
  | any | tagged _ | inModules _ | assignableTo _ | custom _ => cases negate <;> rfl
  | both left right ihleft ihright =>
    cases negate
    · simp only [pushNegation, selects_both, ihleft, ihright, Bool.false_eq_true, if_false]
    · simp only [pushNegation, selects_either, selects_both, ihleft, ihright, if_true,
        Outcome.negated_both]
  | either left right ihleft ihright =>
    cases negate
    · simp only [pushNegation, selects_either, ihleft, ihright, Bool.false_eq_true, if_false]
    · simp only [pushNegation, selects_either, selects_both, ihleft, ihright, if_true,
        Outcome.negated_either]
  | negated s ih =>
    rw [pushNegation, ih, selects_negated]
    cases negate
    · rfl
    · simp [Outcome.negated_negated]

/-- The leaves that an evaluation comes to, from left to right. -/
def reached (registry : TagRegistry) (t : HandlerType) : Selector → List Selector
  | both left right => left.reached registry t ++
      match left.selects registry t with
      | .ok true => right.reached registry t
      | _ => []
  | either left right => left.reached registry t ++
      match left.selects registry t with
      | .ok false => right.reached registry t
      | _ => []
  | negated s => s.reached registry t
  | leaf => [leaf]

theorem error?_selects (s : Selector) :
    Outcome.error? (s.selects registry t) =
      (s.reached registry t).findSome? fun leaf => Outcome.error? (leaf.selects registry t) := by
  induction s with
  | any | tagged _ | inModules _ | assignableTo _ | custom _ => simp [reached]
  | both left right ihleft ihright =>
    rw [selects_both, reached, List.findSome?_append, ← ihleft]
    rcases left.selects registry t with e | b | b
    · rfl
    · rfl
    · exact ihright
  | either left right ihleft ihright =>
    rw [selects_either, reached, List.findSome?_append, ← ihleft]
    rcases left.selects registry t with e | b | b
    · rfl
    · exact ihright
    · rfl
  | negated s ih => rw [selects_negated, Outcome.error?_negated, ih, reached]

/-- A selector with a gap in the place of one operand. -/
inductive Context where
  | gap
  | bothLeft (c : Context) (right : Selector)
  | bothRight (left : Selector) (c : Context)
  | eitherLeft (c : Context) (right : Selector)
  | eitherRight (left : Selector) (c : Context)
  | negated (c : Context)

namespace Context

def fill : Context → Selector → Selector
  | gap, s => s
  | bothLeft c right, s => both (c.fill s) right
  | bothRight left c, s => both left (c.fill s)
  | eitherLeft c right, s => either (c.fill s) right
  | eitherRight left c, s => either left (c.fill s)
  | negated c, s => .negated (c.fill s)

/-- The evaluation does not come to the gap: the operand on the left of it, or of what is around
it, settles the answer or fails. -/
def Skips (registry : TagRegistry) (t : HandlerType) : Context → Prop
  | gap => False
  | bothLeft c _ | eitherLeft c _ | negated c => c.Skips registry t
  | bothRight left c => left.selects registry t ≠ .ok true ∨ c.Skips registry t
  | eitherRight left c => left.selects registry t ≠ .ok false ∨ c.Skips registry t

theorem Skips.selects_fill {c : Context} (h : c.Skips registry t) (p q : Selector) :
    (c.fill p).selects registry t = (c.fill q).selects registry t := by
  induction c with
  | gap => exact h.elim
  | bothLeft c right ih => rw [fill, fill, selects_both, selects_both, ih h]
  | eitherLeft c right ih => rw [fill, fill, selects_either, selects_either, ih h]
  | negated c ih => rw [fill, fill, selects_negated, selects_negated, ih h]
  | bothRight left c ih =>
    rw [fill, fill, selects_both, selects_both]
    rcases h with hleft | h
    · rcases hl : left.selects registry t with e | b | b
      · rfl
      · rfl
      · exact absurd hl hleft
    · rw [ih h]
  | eitherRight left c ih =>
    rw [fill, fill, selects_either, selects_either]
    rcases h with hleft | h
    · rcases hl : left.selects registry t with e | b | b
      · rfl
      · exact absurd hl hleft
      · rfl
    · rw [ih h]

theorem selects_fill_of_error {c : Context} (h : ¬ c.Skips registry t) {p : Selector}
    {e : MappingError} (hp : p.selects registry t = .error e) :
    (c.fill p).selects registry t = .error e := by
  induction c with
  | gap => exact hp
  | bothLeft c right ih => rw [fill, selects_both, ih h, Outcome.both_error]
  | eitherLeft c right ih => rw [fill, selects_either, ih h, Outcome.either_error]
  | negated c ih => rw [fill, selects_negated, ih h, Outcome.negated_error]
  | bothRight left c ih =>
    obtain ⟨hleft, h⟩ := not_or.1 h
    rw [fill, selects_both, Classical.not_not.1 hleft, Outcome.both_true, ih h]
  | eitherRight left c ih =>
    obtain ⟨hleft, h⟩ := not_or.1 h
    rw [fill, selects_either, Classical.not_not.1 hleft, Outcome.either_false, ih h]

/-- What is skipped is what has no effect: failures in a gap that is not skipped can be told
apart. -/
theorem skips_iff {c : Context} :
    c.Skips registry t ↔
      ∀ p q, (c.fill p).selects registry t = (c.fill q).selects registry t := by
  constructor
  · exact Skips.selects_fill
  intro h
  apply Classical.byContradiction
  intro hskips
  have hfails (message : String) : (c.fill (custom fun _ => .error message)).selects registry t =
      .error (.selectorFailed t.qualifiedName message) :=
    selects_fill_of_error hskips rfl
  have heq := h (custom fun _ => .error "first") (custom fun _ => .error "second")
  rw [hfails, hfails] at heq
  simp at heq

end Context

/-- Boolean algebra with failures, for every selector, handler type and registry. A selector and its
negation normal form have the same leaves in the same order and the same outcome; connectives of
one kind regroup; a failure is that of the leftmost failing leaf among those that are reached; and
an operand is skipped exactly if another one in its place, even one that fails, changes nothing. -/
theorem selects_boolean_algebra (registry : TagRegistry) (t : HandlerType) :
    (∀ s : Selector, s.normalForm.IsNegationNormal ∧ s.normalForm.leaves = s.leaves ∧
      s.normalForm.selects registry t = s.selects registry t) ∧
    (∀ p q r : Selector,
      (both (both p q) r).selects registry t = (both p (both q r)).selects registry t ∧
      (either (either p q) r).selects registry t = (either p (either q r)).selects registry t) ∧
    (∀ (s : Selector) (e : MappingError), s.selects registry t = .error e ↔
      ((s.reached registry t).findSome? fun leaf =>
        Outcome.error? (leaf.selects registry t)) = some e) ∧
    ∀ c : Context, c.Skips registry t ↔
      ∀ p q, (c.fill p).selects registry t = (c.fill q).selects registry t := by
  refine ⟨fun s => ⟨?_, ?_, ?_⟩, fun p q r => ⟨?_, ?_⟩, fun s e => ?_, fun c => ?_⟩
  · exact isNegationNormal_pushNegation false s
  · exact leaves_pushNegation false s
  · exact selects_pushNegation false s
  · exact Outcome.both_assoc _ _ _
  · exact Outcome.either_assoc _ _ _
  · rw [← error?_selects, Outcome.error?_eq_some]
  · exact Context.skips_iff

example (message : String) :
    (negated (either any (custom fun _ => .error message))).selects registry t = .ok false := rfl

end Selector

end RequestRouting
