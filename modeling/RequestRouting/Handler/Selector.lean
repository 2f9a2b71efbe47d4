import RequestRouting.Error
import RequestRouting.Handler.Basic
import RequestRouting.Tag.Registry

/-! Selectors pick handler types. A custom test may fail, which ends the evaluation; the
right side of a conjunction or disjunction is looked at only if the left one leaves the
answer open. -/
namespace RequestRouting

inductive Selector where
  | any
  | tagged (names : List String)
  | inModules (bases : List String)
  | assignableTo (names : List String)
  | custom (test : HandlerType → Except String Bool)
  | both (left right : Selector)
  | either (left right : Selector)
  | negated (s : Selector)
deriving Inhabited

namespace Selector

def selects (registry : TagRegistry) (t : HandlerType) : Selector → Except MappingError Bool
  | any => .ok true
  | tagged names => .ok (names.any (registry.isPresent t.tags))
  | inModules bases => .ok (bases.any t.isInModule)
  | assignableTo names => .ok (names.any t.isAssignableTo)
  | custom test => (test t).mapError (.selectorFailed t.qualifiedName)
  | both left right => do
    if ← left.selects registry t then right.selects registry t else return false
  | either left right => do
    if ← left.selects registry t then return true else right.selects registry t
  | negated s => return !(← s.selects registry t)

def describe : Selector → String
  | any => "any"
  | tagged names => "annotation" ++ Text.quotedList names
  | inModules bases => "module" ++ Text.quotedList bases
  | assignableTo names => "assignable" ++ Text.quotedList names
  | custom _ => "custom"
  | both left right => "(" ++ left.describe ++ " && " ++ right.describe ++ ")"
  | either left right => "(" ++ left.describe ++ " || " ++ right.describe ++ ")"
  | negated s => "!" ++ s.describe

def render (s : Selector) : String := "HandlerTypePredicate(" ++ s.describe ++ ")"

end Selector

end RequestRouting
