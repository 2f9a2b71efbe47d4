import RequestRouting.Number.Integer
import RequestRouting.Regex.Footprint.Basic
import RequestRouting.Regex.Normal
import RequestRouting.Text.Unicode.Alphabetic
import RequestRouting.Text.Unicode.Numeric

/-! Reading regular expressions. Accepted are literals, escapes, the dot, bracketed classes
with ranges, nested classes and set operations, groups with names or flags, alternatives,
repetitions, anchors and word boundaries; back references and look-around are not. There is a
bound on the height of what is written, and one on the memory that it takes. Left out are classes
by Unicode property, free spacing with its comments, lines that end in a carriage return, and
matching by bytes: a reader that knows them too can stand in for this one. -/
namespace RequestRouting.Regex

structure Flags where
  ignoreCase : Bool := false
  multiLine : Bool := false
  dotAll : Bool := false
deriving DecidableEq

inductive Escape where
  | literal (c : Char)
  | set (s : CharSet)
  | look (condition : Look)

def isMeta (c : Char) : Bool := "\\.+*?()|[]\x7b\x7d^$#&-~".toList.contains c

/-- A backslash is also allowed, and needless, before the other ASCII signs but `<` and `>`. -/
def isEscapable (c : Char) : Bool :=
  isMeta c || (c.toNat < 0x80 && !c.isAlphanum && c != '<' && c != '>')

def hexDigit? (c : Char) : Option Nat :=
  if c.isDigit then some (c.toNat - '0'.toNat)
  else if 'a' ≤ c && c ≤ 'f' then some (c.toNat - 'a'.toNat + 10)
  else if 'A' ≤ c && c ≤ 'F' then some (c.toNat - 'A'.toNat + 10)
  else none

def charOfHex? (digits : List Char) : Option Char := do
  let values ← digits.mapM hexDigit?
  let n := values.foldl (fun n d => 16 * n + d) 0
  if values.isEmpty then none
  else if h : n.isValidChar then some (Char.ofNatAux n h) else none

def readHex (width : Nat) (cs : List Char) : Option (Char × List Char) :=
  match cs with
  | '\x7b' :: rest =>
    let digits := rest.takeWhile (· != '\x7d')
    match rest.dropWhile (· != '\x7d') with
    | _ :: after => (charOfHex? digits).map (·, after)
    | [] => none
  | _ =>
    if cs.length < width then none else (charOfHex? (cs.take width)).map (·, cs.drop width)

def isBoundaryNameChar (c : Char) : Bool := c.isAlpha || c == '-'

/-- The kind of word boundary that a name in braces behind `\b` selects; other braces there
are left to be read as a repetition. -/
def readBoundary (cs : List Char) : Option (Look × List Char) :=
  match cs with
  | '\x7b' :: rest =>
    if rest.isEmpty then none
    else if !rest.head?.any isBoundaryNameChar then some (.wordBoundary, cs)
    else
      let name := String.ofList (rest.takeWhile isBoundaryNameChar)
      match rest.dropWhile isBoundaryNameChar with
      | '\x7d' :: after =>
        match name with
        | "start" => some (.wordStart, after)
        | "end" => some (.wordEnd, after)
        | "start-half" => some (.wordStartHalf, after)
        | "end-half" => some (.wordEndHalf, after)
        | _ => none
      | _ => none
  | _ => some (.wordBoundary, cs)

def readEscape : List Char → Option (Escape × List Char)
  | [] => none
  | c :: cs =>
    match c with
    | 'd' => some (.set .digit, cs)
    | 'D' => some (.set CharSet.digit.complement, cs)
    | 's' => some (.set .blank, cs)
    | 'S' => some (.set CharSet.blank.complement, cs)
    | 'w' => some (.set .word, cs)
    | 'W' => some (.set CharSet.word.complement, cs)
    | 'x' => (readHex 2 cs).map fun (c, rest) => (.literal c, rest)
    | 'u' => (readHex 4 cs).map fun (c, rest) => (.literal c, rest)
    | 'U' => (readHex 8 cs).map fun (c, rest) => (.literal c, rest)
    | 'a' => some (.literal '\x07', cs)
    | 'f' => some (.literal '\x0c', cs)
    | 't' => some (.literal '\t', cs)
    | 'n' => some (.literal '\n', cs)
    | 'r' => some (.literal '\r', cs)
    | 'v' => some (.literal '\x0b', cs)
    | 'A' => some (.look .textStart, cs)
    | 'z' => some (.look .textEnd, cs)
    | 'b' => (readBoundary cs).map fun (l, rest) => (.look l, rest)
    | 'B' => some (.look .notWordBoundary, cs)
    | '<' => some (.look .wordStart, cs)
    | '>' => some (.look .wordEnd, cs)
    | _ => if isEscapable c then some (.literal c, cs) else none

inductive SetOperator where
  | intersection
  | difference
  | symmetricDifference

def SetOperator.apply : SetOperator → CharSet → CharSet → CharSet
  | .intersection => CharSet.intersection
  | .difference => CharSet.difference
  | .symmetricDifference => CharSet.symmetricDifference

/-- A class or an expression, with the height of the tree that was written. -/
structure Written (α : Type) where
  value : α
  height : Nat

def heightTogether : List Nat → Nat
  | [] => 0
  | [height] => height
  | heights => heights.foldl Nat.max 0 + 1

/-- A class that is being read: whether it is negated, the part before the last operator, the
union of the items since then, and the heights of these items. -/
structure OpenClass where
  negated : Bool
  left : Option (Written CharSet × SetOperator)
  items : CharSet
  heights : List Nat

namespace OpenClass

def add (item : Written CharSet) (k : OpenClass) : OpenClass :=
  { k with items := k.items.union item.value, heights := item.height :: k.heights }

def value (flags : Flags) (k : OpenClass) : Written CharSet :=
  let right := k.items.closeIf flags.ignoreCase
  let height := heightTogether k.heights
  match k.left with
  | none => ⟨right, height⟩
  | some (left, op) =>
    ⟨op.apply (left.value.closeIf flags.ignoreCase) right, Nat.max left.height height + 1⟩

def operator (flags : Flags) (op : SetOperator) (k : OpenClass) : OpenClass :=
  { k with left := some (k.value flags, op), items := .nothing, heights := [] }

def close (flags : Flags) (k : OpenClass) : Written CharSet :=
  let set := k.value flags
  ⟨(set.value.closeIf flags.ignoreCase).complementIf k.negated, set.height + 1⟩

end OpenClass

/-- Reads what may follow the opening bracket: a caret, hyphens, and then, if nothing was
read, a closing bracket that is meant literally. -/
def readClassHead (cs : List Char) : OpenClass × List Char :=
  let (negated, cs) := match cs with
    | '^' :: rest => (true, rest)
    | _ => (false, cs)
  let hyphens := cs.takeWhile (· == '-')
  let rest := cs.dropWhile (· == '-')
  let k : OpenClass := ⟨negated, none, .nothing, []⟩
  let k := hyphens.foldl (fun k c => k.add ⟨.single c, 0⟩) k
  match hyphens, rest with
  | [], ']' :: after => (k.add ⟨.single ']', 0⟩, after)
  | _, _ => (k, rest)

def readClassItem : List Char → Option (Escape × List Char)
  | [] => none
  | '\\' :: cs => readEscape cs
  | c :: cs => some (.literal c, cs)

/-- An item or a range of a class. A hyphen before the closing bracket or before another
hyphen makes no range. -/
def readClassRange (cs : List Char) : Option (CharSet × List Char) :=
  match readClassItem cs with
  | none => none
  | some (item, rest) =>
    let isRange := match rest with
      | '-' :: ']' :: _ => false
      | '-' :: '-' :: _ => false
      | '-' :: _ => true
      | _ => false
    match isRange, item with
    | false, .literal c => some (.single c, rest)
    | false, .set s => some (s, rest)
    | true, .literal first =>
      match readClassItem (rest.drop 1) with
      | some (.literal last, after) =>
        if first ≤ last then some (.range first last, after) else none
      | _ => none
    | _, _ => none

def readNamedClass (flags : Flags) (cs : List Char) : Option (CharSet × List Char) :=
  match cs with
  | '[' :: ':' :: rest =>
    let (negated, rest) := match rest with
      | '^' :: after => (true, after)
      | _ => (false, rest)
    match rest.dropWhile (· != ':') with
    | ':' :: ']' :: after =>
      (CharSet.named? (String.ofList (rest.takeWhile (· != ':')))).map fun s =>
        ((s.closeIf flags.ignoreCase).complementIf negated, after)
    | _ => none
  | _ => none

/-- Reads a class up to its closing bracket. Each round reads at least one character, so the
length of the text is enough fuel. -/
def readClass (flags : Flags) : (fuel : Nat) → OpenClass → List Char →
    Option (Written CharSet × List Char)
  | 0, _, _ => none
  | fuel + 1, k, cs =>
    match cs with
    | [] => none
    | ']' :: rest => some (k.close flags, rest)
    | '&' :: '&' :: rest => readClass flags fuel (k.operator flags .intersection) rest
    | '-' :: '-' :: rest => readClass flags fuel (k.operator flags .difference) rest
    | '~' :: '~' :: rest => readClass flags fuel (k.operator flags .symmetricDifference) rest
    | '[' :: inner =>
      match readNamedClass flags cs with
      | some (s, rest) => readClass flags fuel (k.add ⟨s, 0⟩) rest
      | none =>
        let (nested, rest) := readClassHead inner
        (readClass flags fuel nested rest).bind fun (item, rest) =>
          readClass flags fuel (k.add item) rest
    | _ => (readClassRange cs).bind fun (s, rest) => readClass flags fuel (k.add ⟨s, 0⟩) rest

/-- Flag letters up to the colon or the closing parenthesis, each at most once, those behind
a hyphen being switched off. -/
def readFlags (flags : Flags) (seen : List Char) : List Char → Option (Flags × List Char)
  | [] => none
  | c :: cs =>
    if c = ':' ∨ c = ')' then
      if seen.head? = some '-' then none else some (flags, c :: cs)
    else if seen.contains c then none
    else
      let on := !seen.contains '-'
      match c with
      | '-' => readFlags flags (c :: seen) cs
      | 'i' => readFlags { flags with ignoreCase := on } (c :: seen) cs
      | 'm' => readFlags { flags with multiLine := on } (c :: seen) cs
      | 's' => readFlags { flags with dotAll := on } (c :: seen) cs
      | 'U' => readFlags flags (c :: seen) cs
      | 'u' => if on then readFlags flags (c :: seen) cs else none
      | _ => none

def isGroupNameStart (c : Char) : Bool := c == '_' || Text.isAlphabetic c

def isGroupNameChar (c : Char) : Bool :=
  isGroupNameStart c || Text.isNumeric c || c == '.' || c == '[' || c == ']'

structure Groups where
  count : Nat := 0
  names : List (List Char) := []

def readGroupName (groups : Groups) (cs : List Char) : Option (List Char × List Char) :=
  let name := cs.takeWhile (· != '>')
  match cs.dropWhile (· != '>') with
  | _ :: rest =>
    if name.head?.any isGroupNameStart && name.all isGroupNameChar && !groups.names.contains name
    then some (name, rest) else none
  | [] => none

/-- What an opening parenthesis begins: flags for the rest of the group around it, a group
with flags of its own, or a group with a number and perhaps a name. -/
inductive GroupHead where
  | directive (flags : Flags)
  | plain (flags : Flags)
  | numbered (name : Option (List Char))

def readGroupHead (flags : Flags) (groups : Groups) (cs : List Char) :
    Option (GroupHead × List Char) :=
  match cs with
  | '?' :: '=' :: _ | '?' :: '!' :: _ | '?' :: '<' :: '=' :: _ | '?' :: '<' :: '!' :: _ => none
  | '?' :: 'P' :: '<' :: rest | '?' :: '<' :: rest =>
    (readGroupName groups rest).map fun (name, rest) => (.numbered (some name), rest)
  | '?' :: ')' :: _ => none
  | '?' :: rest =>
    match readFlags flags [] rest with
    | some (inner, ')' :: after) => some (.directive inner, after)
    | some (inner, _ :: after) => some (.plain inner, after)
    | _ => none
  | _ => some (.numbered none, cs)

/-- The parts of a sequence read so far, last part first. A directive is no expression, so
nothing can repeat it. -/
inductive Part where
  | expr (e : Written Expr)
  | directive

def Part.written : Part → Written Expr
  | .expr e => e
  | .directive => ⟨.empty, 0⟩

structure OpenGroup where
  branches : List (Written Expr)
  parts : List Part

namespace OpenGroup

def begin : OpenGroup := ⟨[], []⟩

def add (e : Expr) (height : Nat) (g : OpenGroup) : OpenGroup :=
  { g with parts := .expr ⟨e, height⟩ :: g.parts }

def lastBranch (g : OpenGroup) : Written Expr :=
  let parts := g.parts.reverse.map Part.written
  ⟨Expr.concat (parts.map (·.value)), heightTogether (parts.map (·.height))⟩

def value (g : OpenGroup) : Written Expr :=
  let branches := (g.lastBranch :: g.branches).reverse
  ⟨Expr.alternation (branches.map (·.value)), heightTogether (branches.map (·.height))⟩

def nextAlternative (g : OpenGroup) : OpenGroup := ⟨g.lastBranch :: g.branches, []⟩

def repeatLast (min : Nat) (max : Option Nat) (isLazy : Bool) (g : OpenGroup) :
    Option OpenGroup :=
  match g.parts with
  | .expr e :: rest =>
    some { g with parts := .expr ⟨.repetition e.value min max isLazy, e.height + 1⟩ :: rest }
  | _ => none

end OpenGroup

def readLazyMark : List Char → Bool × List Char
  | '?' :: cs => (true, cs)
  | cs => (false, cs)

def readCount (cs : List Char) : Option (Nat × List Char) :=
  let cs := cs.dropWhile Text.isBlank
  let rest := (cs.dropWhile Char.isDigit).dropWhile Text.isBlank
  (Number.natural? (cs.takeWhile Char.isDigit)).bind fun n =>
    if n < UInt32.size then some (n, rest) else none

def readBounds (cs : List Char) : Option ((Nat × Option Nat) × List Char) := do
  let (min, rest) ← readCount cs
  match rest with
  | '\x7d' :: after => some ((min, some min), after)
  | ',' :: '\x7d' :: after => some ((min, none), after)
  | ',' :: rest =>
    let (max, rest) ← readCount rest
    match rest with
    | '\x7d' :: after => if min ≤ max then some ((min, some max), after) else none
    | _ => none
  | _ => none

def readOperator : List Char → Option ((Nat × Option Nat) × List Char)
  | '*' :: cs => some ((0, none), cs)
  | '+' :: cs => some ((1, none), cs)
  | '?' :: cs => some ((0, some 1), cs)
  | '\x7b' :: cs => readBounds cs
  | _ => none

def literalExpr (flags : Flags) (c : Char) : Expr :=
  .ofSet (if flags.ignoreCase then .anyCaseOf c else .single c)

def Escape.toExpr (flags : Flags) : Escape → Expr
  | .literal c => literalExpr flags c
  | .set s => .ofSet s
  | .look condition => .look condition

def readPrimitive (flags : Flags) : List Char → Option (Expr × List Char)
  | [] => none
  | '\\' :: cs => (readEscape cs).map fun (e, rest) => (e.toExpr flags, rest)
  | '.' :: cs =>
    some (.set (if flags.dotAll then .everything else (CharSet.single '\n').complement), cs)
  | '^' :: cs => some (.look (if flags.multiLine then .lineStart else .textStart), cs)
  | '$' :: cs => some (.look (if flags.multiLine then .lineEnd else .textEnd), cs)
  | c :: cs => some (literalExpr flags c, cs)

def isOperatorChar (c : Char) : Bool := c == '*' || c == '+' || c == '?' || c == '\x7b'

/-- Reads alternatives up to a closing parenthesis or the end. Each round reads at least one
character, so the length of the text is enough fuel. -/
def readGroup : (fuel : Nat) → Flags → Groups → OpenGroup → List Char →
    Option (Written Expr × Groups × List Char)
  | 0, _, groups, g, cs => if cs.isEmpty then some (g.value, groups, cs) else none
  | fuel + 1, flags, groups, g, cs =>
    match cs with
    | [] => some (g.value, groups, [])
    | ')' :: _ => some (g.value, groups, cs)
    | '|' :: rest => readGroup fuel flags groups g.nextAlternative rest
    | '[' :: rest =>
      let (k, rest) := readClassHead rest
      (readClass flags fuel k rest).bind fun (s, rest) =>
        readGroup fuel flags groups (g.add (.ofSet s.value) s.height) rest
    | '(' :: rest =>
      match readGroupHead flags groups rest with
      | none => none
      | some (.directive inner, rest) =>
        readGroup fuel inner groups { g with parts := .directive :: g.parts } rest
      | some (.plain inner, rest) =>
        match readGroup fuel inner groups .begin rest with
        | some (e, groups, ')' :: rest) =>
          readGroup fuel flags groups (g.add e.value (e.height + 1)) rest
        | _ => none
      | some (.numbered name, rest) =>
        let number := groups.count + 1
        match readGroup fuel flags ⟨number, name.toList ++ groups.names⟩ .begin rest with
        | some (e, groups, ')' :: rest) =>
          readGroup fuel flags groups (g.add (.group number e.value) (e.height + 1)) rest
        | _ => none
    | c :: _ =>
      if isOperatorChar c then
        (readOperator cs).bind fun ((min, max), rest) =>
          let (isLazy, rest) := readLazyMark rest
          (g.repeatLast min max isLazy).bind fun g => readGroup fuel flags groups g rest
      else
        (readPrimitive flags cs).bind fun (e, rest) =>
          readGroup fuel flags groups (g.add e 0) rest

def maxHeight : Nat := 250

/-- Reads a whole text as a regular expression; `none` if it is not one, or too large. -/
def parse? (cs : List Char) : Option Expr :=
  match readGroup (cs.length + 1) {} {} .begin cs with
  | some (e, _, []) => if e.height ≤ maxHeight && e.value.fitsMemory then some e.value else none
  | _ => none

example : parse? "(?:a|b)c".toList =
    some (.seq (.set (.range 'a' 'b')) (.literal ['c'])) := by decide
example : parse? "a\x7b2,1\x7d".toList = none := by decide
example : parse? "(?=a)".toList = none := by decide

end RequestRouting.Regex
