import RequestRouting.Path.Basic
import RequestRouting.Path.Constraint

/-! Path patterns. A pattern is written as a path whose pieces are literal texts, variables
such as `\x7bid\x7d` or `\x7bid:int\x7d`, a star for any one piece, or, at the end, a
catch-all for all remaining pieces. -/
namespace RequestRouting.Path

inductive Segment where
  | literal (text : String)
  | param (name : String) (constraint : Constraint)
  | wildcard
  | catchAll (name : Option String)
deriving DecidableEq

def Segment.name? : Segment → Option String
  | param name _ => some name
  | catchAll name => name
  | _ => none

def Segment.isLiteral : Segment → Bool
  | literal _ => true
  | _ => false

def Segment.isCatchAll : Segment → Bool
  | catchAll _ => true
  | _ => false

inductive PatternError where
  | unnamedCatchAll
  | unnamedVariable
  | unresolvedPlaceholder (piece : String)
  | partialVariable (piece : String)
  | severalCatchAlls
  | catchAllNotLast
  | invalidRegex (source : String)
  | repeatedName (name : String)
deriving DecidableEq

/-- The text of an error. What is wrong with a regular expression is not spelled out. -/
def PatternError.message : PatternError → String
  | unnamedCatchAll => "Invalid pattern syntax: Catch-all segment must have a name"
  | unnamedVariable => "Invalid pattern syntax: Parameter name cannot be empty"
  | unresolvedPlaceholder piece =>
    s!"Invalid pattern syntax: Unresolved placeholder in segment '{piece}'"
  | partialVariable piece =>
    s!"Invalid pattern syntax: Variables must span a whole segment: '{piece}'"
  | severalCatchAlls => "Multiple catch-all segments not allowed"
  | catchAllNotLast => "Catch-all must be the last segment"
  | invalidRegex source =>
    s!"Invalid constraint syntax: Invalid regex pattern '{source}': <regex error>"
  | repeatedName name => s!"Duplicate parameter name: {name}"

inductive PieceShape where
  | anonymousCatchAll
  | namedCatchAll (name : String)
  | wildcard
  | param (definition : List Char)
  | plain

def isBraced (cs : List Char) : Bool := cs.head? == some '\x7b' && cs.getLast? == some '\x7d'

/-- Two stars, a star in braces with a name, a star with a name, a lone star, and braces are
told apart in this order. -/
def shapeOf (cs : List Char) : PieceShape :=
  if cs = ['*', '*'] then .anonymousCatchAll
  else if cs.take 2 = ['\x7b', '*'] ∧ cs.getLast? = some '\x7d' then
    .namedCatchAll (String.ofList (cs.drop 2).dropLast)
  else if cs.head? = some '*' ∧ cs ≠ ['*'] then .namedCatchAll (String.ofList (cs.drop 1))
  else if cs = ['*'] then .wildcard
  else if isBraced cs then .param (cs.drop 1).dropLast
  else .plain

def hasPlaceholder (cs : List Char) : Bool := (Text.splitFirstPair '$' '\x7b' cs).isSome

def readVariable (definition : List Char) : Except PatternError (String × Constraint) :=
  let (name, constraint) := match Text.splitFirst ':' definition with
    | some (name, constraint) => (name, some (String.ofList (Text.trimChars constraint)))
    | none => (definition, none)
  let name := String.ofList (Text.trimChars name)
  if name.isEmpty then .error .unnamedVariable
  else match constraint with
    | none => .ok (name, .any)
    | some source =>
      match Constraint.parse? source with
      | some c => .ok (name, c)
      | none => .error (.invalidRegex source)

/-- What the pieces before a piece leave behind for it: the names they use, and whether one
of them is a catch-all. -/
structure Before where
  names : List String
  caught : Bool

def Before.add (segment : Segment) (before : Before) : Before :=
  ⟨segment.name?.toList ++ before.names, before.caught || segment.isCatchAll⟩

def checkName (before : Before) (name : String) (segment : Segment) :
    Except PatternError Segment :=
  if before.names.contains name then .error (.repeatedName name) else .ok segment

def readCatchAll (before : Before) (isLast : Bool) (name : Option String) :
    Except PatternError Segment :=
  if before.caught then .error .severalCatchAlls
  else if !isLast then .error .catchAllNotLast
  else match name with
    | none => .ok (.catchAll none)
    | some name =>
      if name.isEmpty then .error .unnamedCatchAll
      else checkName before name (.catchAll (some name))

def readSegment (before : Before) (isLast : Bool) (piece : List Char) :
    Except PatternError Segment :=
  match shapeOf piece with
  | .anonymousCatchAll => readCatchAll before isLast none
  | .namedCatchAll name => readCatchAll before isLast (some name)
  | .wildcard => .ok .wildcard
  | .param definition => do
    let (name, constraint) ← readVariable definition
    checkName before name (.param name constraint)
  | .plain =>
    if hasPlaceholder piece then .error (.unresolvedPlaceholder (String.ofList piece))
    else if piece.contains '\x7b' || piece.contains '\x7d' then
      .error (.partialVariable (String.ofList piece))
    else .ok (.literal (String.ofList piece))

def readSegments (before : Before) : List (List Char) → Except PatternError (List Segment)
  | [] => .ok []
  | piece :: rest => do
    let segment ← readSegment before rest.isEmpty piece
    let segments ← readSegments (before.add segment) rest
    return segment :: segments

structure Pattern where
  canonical : String
  segments : List Segment
deriving DecidableEq

namespace Pattern

def empty : Pattern := ⟨"", []⟩

def parse (path : String) : Except PatternError Pattern := do
  let canonical := normalize path
  return ⟨canonical, ← readSegments ⟨[], false⟩ (pieceChars canonical.toList)⟩

def isEmpty (p : Pattern) : Bool := p.canonical.isEmpty

def names (p : Pattern) : List String := p.segments.filterMap Segment.name?

def hasCatchAll (p : Pattern) : Bool := p.segments.any Segment.isCatchAll

def literalCount (p : Pattern) : Nat := p.segments.countP Segment.isLiteral

def isStatic (p : Pattern) : Bool := p.segments.all Segment.isLiteral

def trailingSlash (p : Pattern) : Bool := endsInSlash p.canonical

def combine (outer inner : Pattern) : Except PatternError Pattern :=
  parse (join outer.canonical inner.canonical)

def compareCanonical (p q : Pattern) : Ordering := compareOn canonical p q

def sameCanonical (p q : Pattern) : Bool := p.canonical == q.canonical

instance : Std.TransCmp compareCanonical := inferInstanceAs (Std.TransCmp (compareOn canonical))

end Pattern

end RequestRouting.Path
