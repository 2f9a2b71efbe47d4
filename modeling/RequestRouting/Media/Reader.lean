import RequestRouting.Media.Basic
import RequestRouting.Text.Character

/-! Reading media types. How their texts are taken apart is left to a reader, and there is one. -/
namespace RequestRouting

/-- What is wrong with a text that should be a media type. A byte that fits nowhere is
reported with its place in the text. -/
inductive MediaTypeFault where
  | empty
  | missingSlash
  | missingEquals
  | missingQuote
  | unexpectedByte (byte position : Nat)
  | emptySubtype
  | wildcardType
  | invalidQuality (value : String)
  | notText
deriving DecidableEq

def MediaTypeFault.reason : MediaTypeFault → String
  | empty => "must not be empty"
  | missingSlash => "mime parse error: a slash (/) was missing between the type and subtype"
  | missingEquals =>
    "mime parse error: an equals sign (=) was missing between a parameter and its value"
  | missingQuote => "mime parse error: a quote (\") was missing from a parameter value"
  | unexpectedByte byte position =>
    let hex := String.ofList ((Nat.toDigits 16 byte).map Char.toUpper)
    s!"mime parse error: an invalid token was encountered, {hex} at position {position}"
  | emptySubtype => "subtype must not be empty"
  | wildcardType => "wildcard type is legal only in '*/*' (all media types)"
  | invalidQuality value => s!"invalid quality value '{value}'"
  | notText => "not valid UTF-8"

structure MediaTypeError where
  value : String
  fault : MediaTypeFault
deriving DecidableEq

def MediaTypeError.message (e : MediaTypeError) : String :=
  "Invalid media type \"" ++ e.value ++ "\": " ++ e.fault.reason

namespace MediaType

inductive Stop where
  | missingSlash
  | missingEquals
  | missingQuote
  | unexpected (rest : List Char)

def leadByte (c : Char) : Nat :=
  let n := c.toNat
  if n < 0x80 then n
  else if n < 0x800 then 0xc0 + n / 0x40
  else if n < 0x10000 then 0xe0 + n / 0x1000
  else 0xf0 + n / 0x40000

def Stop.fault (text : List Char) : Stop → MediaTypeFault
  | missingSlash => .missingSlash
  | missingEquals => .missingEquals
  | missingQuote => .missingQuote
  | unexpected rest =>
    .unexpectedByte ((rest.head?.map leadByte).getD 0)
      (Text.byteLength text - Text.byteLength rest)

def isQuotable (c : Char) : Bool := 0x20 ≤ c.toNat && c.toNat != 0x7f

structure WrittenParameter where
  name : List Char
  value : List Char
  quoted : Bool

/-- A type, a subtype and parameters in the order in which they are written. -/
structure Mime where
  mainType : String
  subType : String
  parameters : List (String × String)

/-- How a library reads media types, from texts without blanks around them. -/
abbrev Reader := List Char → Except Stop Mime

/-- Reads a quoted value behind its opening quote. The first character belongs to the value
even when it is a quote. -/
def readQuoted : List Char → Except Stop (List Char × List Char)
  | [] => .error .missingQuote
  | c :: cs =>
    if !isQuotable c then .error (.unexpected (c :: cs))
    else
      let inside := fun d => isQuotable d && d != '"'
      match cs.dropWhile inside with
      | [] => .error .missingQuote
      | '"' :: rest => .ok (c :: cs.takeWhile inside, rest)
      | rest => .error (.unexpected rest)

def readValue (cs : List Char) : Except Stop (List Char × Bool × List Char) :=
  match cs with
  | '"' :: cs => do
    let (value, rest) ← readQuoted cs
    match rest.dropWhile (· == ' ') with
    | [] => return (value, true, [])
    | ';' :: rest => return (value, true, rest)
    | rest => throw (.unexpected rest)
  | _ =>
    let value := cs.takeWhile Text.isTokenChar
    match cs.dropWhile Text.isTokenChar with
    | [] => .ok (value, false, [])
    | ';' :: rest =>
      if value.isEmpty then .error (.unexpected (';' :: rest)) else .ok (value, false, rest)
    | rest => .error (.unexpected rest)

/-- Reads parameters up to the end. Each one takes at least one character, so the length of
the text is enough fuel. -/
def readParameters : (fuel : Nat) → List Char → Except Stop (List WrittenParameter)
  | 0, _ => .ok []
  | fuel + 1, cs =>
    match cs.dropWhile (· == ' ') with
    | [] => .ok []
    | cs =>
      let name := cs.takeWhile Text.isTokenChar
      match cs.dropWhile Text.isTokenChar with
      | [] => .error .missingEquals
      | '=' :: rest =>
        if name.isEmpty then .error (.unexpected ('=' :: rest))
        else do
          let (value, quoted, rest) ← readValue rest
          let others ← readParameters fuel rest
          return ⟨name, value, quoted⟩ :: others
      | rest => .error (.unexpected rest)

def readMainType (cs : List Char) : Except Stop (List Char × List Char) :=
  let name := cs.takeWhile Text.isTokenChar
  match cs.dropWhile Text.isTokenChar with
  | [] => .error .missingSlash
  | '/' :: rest => if name.isEmpty then .error (.unexpected ('/' :: rest)) else .ok (name, rest)
  | rest => .error (.unexpected rest)

def readSubType (cs : List Char) : Except Stop (List Char × Option (List Char)) :=
  let name := cs.takeWhile Text.isTokenChar
  match cs.dropWhile Text.isTokenChar with
  | [] => .ok (name, none)
  | ';' :: rest =>
    if name.isEmpty then .error (.unexpected (';' :: rest)) else .ok (name, some rest)
  | rest => .error (.unexpected rest)

/-- The values that parameters stand for. The charset is written in lower case. Of several
parameters a first one of `charset=utf-8`, in any case and one space behind the semicolon, is
taken as the five characters behind its equals sign, quotes or not. -/
def parameterValues (text : List Char) (parameters : List WrittenParameter) :
    List (String × String) :=
  let plain := parameters.map fun p =>
    let name := Text.asciiLower (String.ofList p.name)
    let value := String.ofList p.value
    (name, if name == "charset" then Text.asciiLower value else value)
  match parameters, plain with
  | first :: _ :: _, (name, value) :: others =>
    if first.quoted && name == "charset" && value == "utf-8" &&
        text.head? == some ' ' && (text.drop 1).head? != some ' ' then
      (name, "\"utf-") :: others
    else (name, value) :: others
  | _, _ => plain

def readChars (cs : List Char) : Except Stop Mime := do
  let (mainType, rest) ← readMainType cs
  let (subType, rest) ← readSubType rest
  match rest with
  | none => return ⟨String.ofList mainType, String.ofList subType, []⟩
  | some text =>
    let parameters ← readParameters (text.length + 1) text
    return ⟨String.ofList mainType, String.ofList subType, parameterValues text parameters⟩

def ofMime (mime : Mime) : MediaType :=
  mime.parameters.foldl (fun m p => m.withParameter p.1 p.2) (ofNames mime.mainType mime.subType)

/-- The conditions beyond the grammar: a subtype, a star for the type only before a star, and
a quality between zero and one. -/
def check (m : MediaType) : Except MediaTypeFault MediaType :=
  if m.subType.isEmpty then .error .emptySubtype
  else if m.isWildcardType && m.subType != "*" then .error .wildcardType
  else match m.parameter? "q" with
    | none => .ok m
    | some q =>
      if (Number.Binary32.parse? q).any Number.Binary32.isUnitInterval then .ok m
      else .error (.invalidQuality q)

def expandStar (cs : List Char) : List Char := if cs = ['*'] then "*/*".toList else cs

section Parsing

variable (read : Reader) (value : String)

def parseWith : Except MediaTypeError MediaType :=
  let cs := expandStar (Text.trimChars value.toList)
  let outcome := if cs.isEmpty then .error .empty
    else match read cs with
      | .ok mime => check (ofMime mime)
      | .error stop => .error (stop.fault cs)
  outcome.mapError fun fault => ⟨value, fault⟩

def parseListWith : Except MediaTypeError (List MediaType) :=
  (((Text.splitAll ',' value.toList).map Text.trimChars).filter (!·.isEmpty)).mapM
    fun part => parseWith read (String.ofList part)

def parse : Except MediaTypeError MediaType := parseWith readChars value

def parseList : Except MediaTypeError (List MediaType) := parseListWith readChars value

end Parsing

example : (parse " Text/HTML;Level=1; q=0.5 ").toOption.map render =
    some "text/html;level=1;q=0.5" := by decide +kernel

end MediaType

end RequestRouting
