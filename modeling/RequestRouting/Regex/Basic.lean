import RequestRouting.Regex.CharSet
import RequestRouting.Text.Character

/-! Regular expressions over characters, in a normal form: sequences and alternatives are
flat, literals stand together, and what has no effect is left out. Two ways of writing that
differ in groups without a number only have one normal form. -/
namespace RequestRouting.Regex

inductive Look where
  | textStart
  | textEnd
  | lineStart
  | lineEnd
  | wordBoundary
  | notWordBoundary
  | wordStart
  | wordEnd
  | wordStartHalf
  | wordEndHalf
deriving DecidableEq

/-- A literal holds at least one character and a set never exactly one. The first part of a
sequence is no sequence, and likewise for alternatives. A lazy repetition prefers few rounds. -/
inductive Expr where
  | empty
  | literal (text : List Char)
  | set (s : CharSet)
  | look (condition : Look)
  | seq (first rest : Expr)
  | alt (first rest : Expr)
  | repeated (body : Expr) (min : Nat) (max : Option Nat) (isLazy : Bool)
  | group (number : Nat) (body : Expr)
deriving DecidableEq

def utf8Length (n : Nat) : Nat :=
  if n < 0x80 then 1 else if n < 0x800 then 2 else if n < 0x10000 then 3 else 4

namespace Expr

/-- The bytes of the shortest match; `none` if a part can never match. -/
def minLength? : Expr → Option Nat
  | empty => some 0
  | literal text => some (Text.byteLength text)
  | set s => s.ranges.head?.map fun r => utf8Length r.1
  | look _ => some 0
  | seq first rest => do return (← first.minLength?) + (← rest.minLength?)
  | alt first rest => do return Nat.min (← first.minLength?) (← rest.minLength?)
  | repeated body min _ _ => body.minLength?.map (· * min)
  | group _ body => body.minLength?

def maxLength? : Expr → Option Nat
  | empty => some 0
  | literal text => some (Text.byteLength text)
  | set s => s.ranges.getLast?.map fun r => utf8Length r.2
  | look _ => some 0
  | seq first rest => do return (← first.maxLength?) + (← rest.maxLength?)
  | alt first rest => do return Nat.max (← first.maxLength?) (← rest.maxLength?)
  | repeated body _ max _ => do return (← body.maxLength?) * (← max)
  | group _ body => body.maxLength?

def beginsWith (condition : Look) : Expr → Bool
  | look c => c = condition
  | seq first rest =>
    first.beginsWith condition || (first.maxLength? = some 0 && rest.beginsWith condition)
  | alt first rest => first.beginsWith condition && rest.beginsWith condition
  | repeated body min _ _ => 0 < min && body.beginsWith condition
  | group _ body => body.beginsWith condition
  | _ => false

def endsWith (condition : Look) : Expr → Bool
  | look c => c = condition
  | seq first rest =>
    rest.endsWith condition || (rest.maxLength? = some 0 && first.endsWith condition)
  | alt first rest => first.endsWith condition && rest.endsWith condition
  | repeated body min _ _ => 0 < min && body.endsWith condition
  | group _ body => body.endsWith condition
  | _ => false

/-- Whether the expression matches the empty text wherever it stands. -/
def isNullable : Expr → Bool
  | empty => true
  | literal text => text.isEmpty
  | set _ | look _ => false
  | seq first rest => first.isNullable && rest.isNullable
  | alt first rest => first.isNullable || rest.isNullable
  | repeated body min _ _ => min == 0 || body.isNullable
  | group _ body => body.isNullable

end Expr

end RequestRouting.Regex
