import RequestRouting.Number.Integer
import RequestRouting.Regex.Reader
import RequestRouting.Regex.Run
import RequestRouting.Text.Split
import RequestRouting.Text.Unicode.Alphabetic
import RequestRouting.Text.Unicode.Numeric

/-! Constraints on the value of a path variable. A text that names none of the fixed
constraints is a regular expression, which is placed between anchors before it is read. What
regular expressions are is left to an engine. -/
namespace RequestRouting

namespace Regex

/-- Reads regular expressions, and looks for a match of one anywhere in a text. -/
structure Engine where
  Expression : Type
  parse? : List Char → Option Expression
  isMatch : Expression → List Char → Bool

/-- The engine for the part of the syntax that is read here. -/
abbrev Engine.builtin : Engine := ⟨Expr, Regex.parse?, Expr.isMatch⟩

end Regex

namespace Path

inductive Constraint (Expression : Type := Regex.Expr) where
  | any
  | integer
  | uuid
  | letters
  | slug
  | regex (source : String) (expr : Expression)
deriving DecidableEq

def isSimpleUuid (cs : List Char) : Bool :=
  cs.length == 32 && cs.all fun c => (Regex.hexDigit? c).isSome

def isHyphenatedUuid (cs : List Char) : Bool :=
  let groups := Text.splitAll '-' cs
  groups.map List.length == [8, 4, 4, 4, 12] &&
    groups.all fun group => group.all fun c => (Regex.hexDigit? c).isSome

/-- A UUID: plain, with hyphens, with hyphens in braces, or with hyphens as a URN. -/
def isUuid (cs : List Char) : Bool :=
  isSimpleUuid cs || isHyphenatedUuid cs ||
    (cs.head? == some '\x7b' && cs.getLast? == some '\x7d' &&
      isHyphenatedUuid (cs.drop 1).dropLast) ||
    ((cs.take 9).map Char.toLower == "urn:uuid:".toList && isHyphenatedUuid (cs.drop 9))

namespace Constraint

def anchored (source : String) : String := "^(?:" ++ source ++ ")$"

section Engine

variable (engine : Regex.Engine)

def parseWith? (s : String) : Option (Constraint engine.Expression) :=
  match s with
  | "int" => some .integer
  | "uuid" => some .uuid
  | "alpha" => some .letters
  | "slug" => some .slug
  | _ => (engine.parse? (anchored s).toList).map (.regex s)

/-- Whether a value meets the constraint; the empty value meets none. -/
def admitsWith (constraint : Constraint engine.Expression) (value : String) : Bool :=
  let cs := value.toList
  !cs.isEmpty && match constraint with
    | any => true
    | integer => (Number.int64? value).isSome
    | uuid => isUuid cs
    | letters => cs.all Text.isAlphabetic
    | slug => cs.all fun c => Text.isAlphabetic c || Text.isNumeric c || c == '-' || c == '_'
    | regex _ expr => engine.isMatch expr cs

end Engine

def parse? (s : String) : Option Constraint := parseWith? .builtin s

def admits (constraint : Constraint) (value : String) : Bool :=
  constraint.admitsWith .builtin value

theorem admits_empty (constraint : Constraint) : constraint.admits "" = false := by
  simp [admits, admitsWith]

example : (parse? "[a-c]+").map (·.admits "abd") = some false := by decide
example : integer.admits "+07" = true := by decide

end Constraint

end Path

end RequestRouting
