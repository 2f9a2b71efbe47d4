import RequestRouting.Regex.Normal
import RequestRouting.Regex.Footprint.Set
import RequestRouting.Regex.Footprint.Words

/-! How much memory the automata of an expression take. An automaton reads UTF-8, byte by
byte; there is one that reads forward and notes groups, and one that reads backward. An
expression is too large if one of them outgrows the limit. Only states and arrows are counted
here, no automaton is kept. -/
namespace RequestRouting.Regex

namespace Expr

def literal? : Expr → Option (List Char)
  | literal text => some text
  | _ => none

def joinBranches (direction : Direction) (e : Expr) : List Builder → Builder
  | [f] => f
  | fs => match e.branches.mapM literal? with
    | some words =>
      let (count, bytes) := wordsCost direction words
      .states count bytes
    | none => .oneOf fs

def repeatedBuilder (f : Builder) (readsSomething : Bool) (min : Nat) (max : Option Nat) :
    Builder :=
  match min, max with
  | 0, some 1 => f.optional
  | min, some max => f.between min max
  | min, none => f.atLeast readsSomething min

/-- The builders of the branches of an expression. A set of ASCII characters takes one step;
any other set has the states of its UTF-8 sequences. -/
def branchBuilders (direction : Direction) : Expr → List Builder
  | empty | look _ => [.state]
  | literal text => [.states (Text.byteLength text) 0]
  | set s =>
    if s.ranges.all (·.2 < 0x80) then [.states 2 (s.ranges.length * transitionBytes)]
    else [sequencesBuilder direction s.utf8Sequences]
  | seq first rest =>
    let f := joinBranches direction first (branchBuilders direction first)
    let g := joinBranches direction rest (branchBuilders direction rest)
    [if direction = .backward then g.andThen f else f.andThen g]
  | alt first rest =>
    joinBranches direction first (branchBuilders direction first) :: branchBuilders direction rest
  | repeated body min max _ =>
    let f := joinBranches direction body (branchBuilders direction body)
    [repeatedBuilder f (body.minLength?.any (0 < ·)) min max]
  | group _ body =>
    let f := joinBranches direction body (branchBuilders direction body)
    [if direction = .backward then f else (Builder.state.andThen f).andThen .state]

/-- Counts the automaton of a whole expression. Unless every match is bound to the edge of
the text, it begins with a loop over all bytes. -/
def build (direction : Direction) (e : Expr) : Option Tally := do
  let f := joinBranches direction e (branchBuilders direction e)
  let (isBound, f) := match direction with
    | .forward => (e.beginsWith .textStart, (Builder.state.andThen f).andThen .state)
    | .backward => (e.endsWith .textEnd, f)
  let t : Tally := ⟨0, 0⟩
  let t ← if isBound then t.addState else t.addStates 3 (transitionBytes + 2 * arrowBytes)
  return (← (f.andThen .state) t).tally

def fitsMemory (e : Expr) : Bool :=
  (e.build .backward).isSome && (e.build .forward).isSome

example : (literal ['a', 'b']).build .forward = some ⟨8, 272⟩ := by decide

end Expr

end RequestRouting.Regex
