import RequestRouting.Error
import RequestRouting.Document
import RequestRouting.Order.Sorting
import RequestRouting.Order.SortedSet
import RequestRouting.Path.Capture
import RequestRouting.Path.Specificity

/-! The path condition of a mapping: a request has to match one of its patterns. Declared
patterns stand in the order of their canonical forms, each once; a condition that was
narrowed to a request has its best match first. -/
namespace RequestRouting

structure PathCondition where
  patterns : List Path.Pattern
deriving DecidableEq

namespace PathCondition

/-- No patterns at all stand for the empty pattern. -/
def ofPatterns (patterns : List Path.Pattern) : PathCondition :=
  ⟨Order.distinctBy Path.Pattern.compareCanonical
    (if patterns.isEmpty then [.empty] else patterns)⟩

def parsePattern (path : String) : Except MappingError Path.Pattern :=
  (Path.Pattern.parse path).mapError (.pattern path)

def parse (paths : List String) : Except MappingError PathCondition :=
  return ofPatterns (← paths.mapM parsePattern)

def texts (c : PathCondition) : List String := c.patterns.map (·.canonical)

/-- The paths that a static pattern of the condition spells out. -/
def directPaths (c : PathCondition) : List String :=
  (c.patterns.filter Path.Pattern.isStatic).map fun p => if p.isEmpty then "/" else p.canonical

def first? (c : PathCondition) : Option Path.Pattern := c.patterns.head?

def isEmpty (c : PathCondition) : Bool := c.patterns.all Path.Pattern.isEmpty

def combinePatterns (outer inner : Path.Pattern) : Except MappingError Path.Pattern :=
  (outer.combine inner).mapError (.pattern (outer.canonical ++ inner.canonical))

def combine (outer inner : PathCondition) : Except MappingError PathCondition := do
  let pairs := outer.patterns.flatMap fun p => inner.patterns.map fun q => (p, q)
  return ofPatterns (← pairs.mapM fun (p, q) => combinePatterns p q)

def narrow (c : PathCondition) (options : Path.MatchOptions) (path : String) :
    Option PathCondition :=
  let matching := c.patterns.filter (·.accepts options path)
  if matching.isEmpty then none
  else some ⟨Order.sortBy Path.Pattern.compareSpecificity matching⟩

/-- Compares lists entry by entry; of two that agree as far as both go, the longer is the
better one. -/
def compareLists (cmp : α → α → Ordering) : List α → List α → Ordering
  | [], [] => .eq
  | [], _ :: _ => .gt
  | _ :: _, [] => .lt
  | x :: xs, y :: ys => (cmp x y).then (compareLists cmp xs ys)

def compareFit (c d : PathCondition) : Ordering :=
  compareLists Path.Pattern.compareSpecificity c.patterns d.patterns

def sameAs (c d : PathCondition) : Bool := c.texts == d.texts

def render (c : PathCondition) : String := "[" ++ " || ".intercalate c.texts ++ "]"

def toDocument (c : PathCondition) : Document := .texts c.texts

end PathCondition

end RequestRouting
