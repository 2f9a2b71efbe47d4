import RequestRouting.Regex.Basic

/-! Building expressions in normal form. Main functions: `Expr.concat`, `Expr.alternation` and
`Expr.repetition`, which take expressions in normal form and give one. -/
namespace RequestRouting.Regex

namespace Expr

def parts : Expr → List Expr
  | empty => []
  | seq first rest => first :: rest.parts
  | e => [e]

def branches : Expr → List Expr
  | alt first rest => first :: rest.branches
  | e => [e]

def size : Expr → Nat
  | seq first rest | alt first rest => first.size + rest.size + 1
  | repeated body _ _ _ | group _ body => body.size + 1
  | _ => 1

def ofSet (s : CharSet) : Expr :=
  match s.onlyChar? with
  | some c => literal [c]
  | none => set s

def joinLiterals : List Expr → List Expr
  | [] => []
  | e :: rest =>
    match e, joinLiterals rest with
    | literal s, literal t :: rest => literal (s ++ t) :: rest
    | e, rest => e :: rest

def ofParts : List Expr → Expr
  | [] => empty
  | [e] => e
  | e :: rest => seq e (ofParts rest)

def concat (es : List Expr) : Expr := ofParts (joinLiterals (es.flatMap parts))

def ofBranches : List Expr → Expr
  | [] => set .nothing
  | [e] => e
  | e :: rest => alt e (ofBranches rest)

def singleton? : Expr → Option CharSet
  | literal [c] => some (.single c)
  | _ => none

def set? : Expr → Option CharSet
  | set s => some s
  | _ => none

def mergedSet? (es : List Expr) : Option CharSet :=
  ((es.mapM singleton?).or (es.mapM set?)).map (·.foldl CharSet.union .nothing)

def commonPrefix : List Expr → List Expr → List Expr
  | d :: ds, e :: es => if d = e then d :: commonPrefix ds es else []
  | _, _ => []

/-- The parts with which all sequences begin; none if some branch is no sequence. -/
def sharedParts : List Expr → List Expr
  | [] => []
  | e :: es => if (e :: es).all (2 ≤ ·.parts.length) then
      es.foldl (fun shared e => commonPrefix shared e.parts) e.parts else []

/-- Alternatives. Single characters become one set, and parts with which all branches begin
are written once. What is left behind them is smaller, so the size is enough fuel. -/
def alternationWith : (fuel : Nat) → List Expr → Expr
  | 0, es => ofBranches es
  | fuel + 1, es =>
    let es := es.flatMap branches
    match es, mergedSet? es, sharedParts es with
    | [e], _, _ => e
    | _, some s, _ => ofSet s
    | es, none, [] => ofBranches es
    | es, none, shared =>
      let rests := es.map fun e => concat (e.parts.drop shared.length)
      concat (shared ++ [alternationWith fuel rests])

def alternation (es : List Expr) : Expr :=
  alternationWith (es.foldl (fun n e => n + e.size) 1) es

/-- A repetition. Rounds beyond the first one are left out when the body reads nothing. -/
def repetition (body : Expr) (min : Nat) (max : Option Nat) (isLazy : Bool) : Expr :=
  let (min, max) :=
    if body.maxLength? = some 0 then (Nat.min min 1, some (Nat.min (max.getD 1) 1)) else (min, max)
  match min, max with
  | 0, some 0 => empty
  | 1, some 1 => body
  | _, _ => repeated body min max isLazy

example : alternation [literal ['a'], literal ['b']] = set (.range 'a' 'b') := by decide
example : concat [literal ['a'], empty, literal ['b']] = literal ['a', 'b'] := by decide

end Expr

end RequestRouting.Regex
