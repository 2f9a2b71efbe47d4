import RequestRouting.Regex.Footprint.Builder
import RequestRouting.Regex.Utf8
import Std.Data.TreeMap

/-! The states that read one character of a set, given the UTF-8 sequences of the set. States
that lead to the same place by the same bytes are made once, as far as a table of limited size
remembers them. -/
namespace RequestRouting.Regex

def slotOf (slots : Nat) (key : List Nat) : Nat :=
  let bits : UInt64 := key.foldl (fun h n => (h ^^^ n.toUInt64) * 1099511628211)
    14695981039346656037
  bits.toNat % slots

/-- The states of a set that can be used again. Each slot of the table remembers the last
state that was put there. -/
structure SharedStates where
  tally : Tally
  table : Std.TreeMap Nat (List Nat × Nat)

namespace SharedStates

def known? (slot : Nat) (key : List Nat) (s : SharedStates) : Option Nat :=
  s.table[slot]?.bind fun (known, n) => if known = key then some n else none

def stateFor (slots extra : Nat) (key : List Nat) (s : SharedStates) :
    Option (Nat × SharedStates) :=
  let slot := slotOf slots key
  match s.known? slot key with
  | some n => some (n, s)
  | none =>
    let n := s.tally.states
    (s.tally.addStates 1 extra).map fun t => (n, ⟨t, s.table.insert slot (key, n)⟩)

def forwardSlots : Nat := 10000

def backwardSlots : Nat := 1000

def groupByFirst : List (List ByteRange) → List (ByteRange × List (List ByteRange))
  | [] => []
  | [] :: rest => groupByFirst rest
  | (range :: tail) :: rest =>
    match groupByFirst rest with
    | (range', tails) :: groups =>
      if range = range' then (range, tail :: tails) :: groups
      else (range, [tail]) :: (range', tails) :: groups
    | [] => [(range, [tail])]

def stateToward (target : Nat) : (depth : Nat) → List (List ByteRange) → SharedStates →
    Option (Nat × SharedStates)
  | 0, _, s => some (target, s)
  | depth + 1, sequences, s => do
    let groups := groupByFirst sequences
    if groups.isEmpty then return (target, s)
    else
      let (key, s) ← groups.foldlM (fun (key, s) (range, tails) => do
        let (next, s) ← stateToward target depth tails s
        return (key ++ [range.1, range.2, next], s)) ([], s)
      s.stateFor forwardSlots (groups.length * transitionBytes) key

def stateBefore (target : Nat) (sequence : List ByteRange) (s : SharedStates) :
    Option (Nat × SharedStates) :=
  sequence.foldlM (fun (target, s) range =>
    s.stateFor backwardSlots 0 [target, range.1, range.2]) (target, s)

end SharedStates

def sequencesBuilder (direction : Direction) (sequences : List (List ByteRange)) : Builder :=
  fun t => do
    let shared ← match direction with
      | .forward => do
        let start : SharedStates := ⟨← t.addState, {}⟩
        let (_, shared) ← SharedStates.stateToward t.states 4 sequences start
        pure shared
      | .backward => do
        let start : SharedStates := ⟨← t.addStates 2 0, {}⟩
        sequences.foldlM (fun shared sequence => do
          let (_, shared) ← SharedStates.stateBefore (t.states + 1) sequence shared
          return { shared with tally := ← shared.tally.charge arrowBytes }) start
    return ⟨shared.tally, false⟩

end RequestRouting.Regex
