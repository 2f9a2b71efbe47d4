import RequestRouting.Path.Pattern
import RequestRouting.Text.Character

/-! The order of patterns by how specific they are. Every segment has a weight, low for what
admits little, and the pattern with the smaller sum is the more specific one. -/
namespace RequestRouting.Path

def Constraint.weight : Constraint → Nat
  | integer | uuid => 5
  | regex .. => 6
  | letters | slug => 8
  | any => 10

def Segment.weight : Segment → Nat
  | literal _ => 1
  | param _ constraint => constraint.weight
  | wildcard => 12
  | catchAll _ => 100

namespace Pattern

def weight (p : Pattern) : Nat := p.segments.foldr (fun segment rest => segment.weight + rest) 0

def byteLength (p : Pattern) : Nat := Text.byteLength p.canonical.toList

/-- Less weight first, then more literal segments, then the longer canonical form. -/
def compareSpecificity : Pattern → Pattern → Ordering :=
  compareLex (compareOn weight)
    (compareLex (fun p q => compareOn literalCount q p) fun p q => compareOn byteLength q p)

instance : Std.TransCmp compareSpecificity :=
  inferInstanceAs (Std.TransCmp (compareLex _ (compareLex _ _)))

end Pattern

end RequestRouting.Path
