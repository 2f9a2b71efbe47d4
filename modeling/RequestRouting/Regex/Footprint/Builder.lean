/-! Counting the states and bytes of an automaton while it is put together. The parts of an
automaton are counted in the order in which they are made, and counting stops when the limit is
passed. -/
namespace RequestRouting.Regex

inductive Direction where
  | forward
  | backward
deriving DecidableEq

/-- What has been built so far. States are numbered in the order in which they are made. -/
structure Tally where
  states : Nat
  bytes : Nat
deriving DecidableEq

/-- The bytes that one automaton may take. -/
def memoryLimit : Nat := 10 * 1024 * 1024

def stateBytes : Nat := 32

def arrowBytes : Nat := 4

def transitionBytes : Nat := 8

namespace Tally

def charge (bytes : Nat) (t : Tally) : Option Tally :=
  if t.bytes + bytes ≤ memoryLimit then some { t with bytes := t.bytes + bytes } else none

def addStates (count extra : Nat) (t : Tally) : Option Tally :=
  Tally.charge (count * stateBytes + extra) { t with states := t.states + count }

def addState (t : Tally) : Option Tally := t.addStates 1 0

end Tally

/-- What is counted once a part of the automaton is built. If the part ends in a fork, then
going on from there takes one more arrow. -/
structure Built where
  tally : Tally
  endsInFork : Bool

/-- Counts what an expression adds; `none` beyond the limit. -/
abbrev Builder := Tally → Option Built

namespace Built

def connect (p : Built) (t : Tally) : Option Tally :=
  if p.endsInFork then t.charge arrowBytes else some t

def close (p : Built) : Option Tally := p.connect p.tally

end Built

namespace Builder

def state : Builder := fun t => do return ⟨← t.addState, false⟩

def states (count extra : Nat) : Builder := fun t => do
  return ⟨← t.addStates count extra, false⟩

def andThen (f g : Builder) : Builder := fun t => do
  let p ← f t
  let q ← g p.tally
  return ⟨← p.connect q.tally, q.endsInFork⟩

def follow (f : Builder) : Nat → Built → Option Built
  | 0, p => some p
  | n + 1, p => do
    let q ← f p.tally
    let t ← p.connect q.tally
    follow f n ⟨t, q.endsInFork⟩

def times (f : Builder) : Nat → Builder
  | 0 => state
  | n + 1 => fun t => do follow f n (← f t)

def optional (f : Builder) : Builder := fun t => do
  let p ← f (← t.addState)
  let t ← p.tally.addStates 1 (2 * arrowBytes)
  return ⟨← p.connect t, false⟩

/-- Up to `n` more rounds, each behind a fork that may also lead to the common end. -/
def followOptional (f : Builder) : Nat → Built → Option Built
  | 0, p => some p
  | n + 1, p => do
    let t ← p.connect (← p.tally.addState)
    let q ← f t
    let t ← q.tally.charge (2 * arrowBytes)
    followOptional f n ⟨t, q.endsInFork⟩

def between (f : Builder) (min max : Nat) : Builder := fun t => do
  let p ← times f min t
  if min = max then return p
  else
    let t ← p.tally.addState
    let p ← followOptional f (max - min) ⟨t, p.endsInFork⟩
    return ⟨← p.close, false⟩

def oneOrMore (f : Builder) : Builder := fun t => do
  let p ← f t
  let t ← p.tally.addStates 1 arrowBytes
  return ⟨← p.connect t, true⟩

/-- Any number of rounds, if each of them reads something: a fork with a part that leads back. -/
def loop (f : Builder) : Builder := fun t => do
  let p ← f (← t.addState)
  let t ← p.tally.charge arrowBytes
  return ⟨← p.connect t, true⟩

/-- Rounds without an upper bound. A part that may read nothing takes a fork past it. -/
def atLeast (f : Builder) (readsSomething : Bool) : Nat → Builder
  | 0 => if readsSomething then loop f else fun t => do
      let p ← oneOrMore f t
      return ⟨← p.tally.addStates 2 (3 * arrowBytes), false⟩
  | 1 => oneOrMore f
  | n + 2 => andThen (times f (n + 1)) (oneOrMore f)

/-- Branches between a fork and a common end, which are made behind the second branch. -/
def oneOf (branches : List Builder) : Builder := fun t => do
  let t ← branches.zipIdx.foldlM (fun t (f, i) => do
    let p ← f t
    let t ← if i = 1 then p.tally.addStates 2 0 else some p.tally
    p.connect (← t.charge arrowBytes)) t
  return ⟨t, false⟩

end Builder

end RequestRouting.Regex
