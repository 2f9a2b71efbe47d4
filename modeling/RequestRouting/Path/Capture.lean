import RequestRouting.Dictionary
import RequestRouting.Path.Pattern
import RequestRouting.Text.Character

/-! Matching paths against patterns. A match yields the value of every variable, and of a
named catch-all the remaining pieces. -/
namespace RequestRouting.Path

structure MatchOptions where
  /-- A path may end in one more slash than the pattern. -/
  trailingSlash : Bool := true
  /-- Literal segments are compared with regard to the case of ASCII letters. -/
  caseSensitive : Bool := true
deriving DecidableEq

def equalLiteral (options : MatchOptions) (text piece : String) : Bool :=
  if options.caseSensitive then text == piece else Text.equalIgnoringCase text piece

def captureSegments (options : MatchOptions) :
    List Segment → List String → Option (List (String × String))
  | .catchAll name :: _, pieces =>
    some (name.toList.map fun name => (name, "/".intercalate pieces))
  | [], [] => some []
  | [], _ :: _ => none
  | _ :: _, [] => none
  | .literal text :: segments, piece :: pieces =>
    if equalLiteral options text piece then captureSegments options segments pieces else none
  | .param name constraint :: segments, piece :: pieces =>
    if constraint.admits piece then
      (captureSegments options segments pieces).map ((name, piece) :: ·)
    else none
  | .wildcard :: segments, _ :: pieces => captureSegments options segments pieces

/-- Whether the ends of pattern and path agree: a slash at the end of the pattern has to be
in the path; one at the end of the path may be allowed for or taken by a catch-all. -/
def slashesAgree (p : Pattern) (options : MatchOptions) (path : String) : Bool :=
  if endsInSlash path then p.trailingSlash || p.hasCatchAll || options.trailingSlash
  else !p.trailingSlash

namespace Pattern

def capture (p : Pattern) (options : MatchOptions) (path : String) :
    Option (Dictionary String) :=
  if slashesAgree p options path then
    (captureSegments options p.segments (pieces path)).map Dictionary.ofList
  else none

def accepts (p : Pattern) (options : MatchOptions) (path : String) : Bool :=
  (p.capture options path).isSome

def values (p : Pattern) (path : String) : Dictionary String := (p.capture {} path).getD ∅

end Pattern

end RequestRouting.Path
