import RequestRouting.Text.Unicode.Extender
import RequestRouting.Text.Unicode.Printable

/-! Quoted texts, as they stand in diagnostics: between double quotes, with a backslash
before quotes and backslashes, short escapes for the usual controls, and the code point in
braces for every other character that cannot be shown on its own. -/
namespace RequestRouting.Text

def hexDigits (n : Nat) : List Char := Nat.toDigits 16 n

def isFiller (c : Char) : Bool := [0x115f, 0x1160, 0x3164, 0xffa0].contains c.toNat

/-- The sound marks of halfwidth Katakana. They extend the character before them, but take a
column of their own. -/
def isHalfwidthSoundMark (c : Char) : Bool := c.toNat == 0xff9e || c.toNat == 0xff9f

def isShownAlone (c : Char) : Bool :=
  isPrintable c && !isFiller c && (!isGraphemeExtend c || isHalfwidthSoundMark c)

def escapeChar (c : Char) : List Char :=
  if c = '"' then ['\\', '"']
  else if c = '\\' then ['\\', '\\']
  else if c = '\t' then ['\\', 't']
  else if c = '\r' then ['\\', 'r']
  else if c = '\n' then ['\\', 'n']
  else if c = '\x00' then ['\\', '0']
  else if isShownAlone c then [c]
  else ['\\', 'u', '\x7b'] ++ hexDigits c.toNat ++ ['\x7d']

def quoted (s : String) : String :=
  String.ofList ('"' :: s.toList.flatMap escapeChar ++ ['"'])

def bracketed (entries : List String) : String := "[" ++ ", ".intercalate entries ++ "]"

def quotedList (texts : List String) : String := bracketed (texts.map quoted)

end RequestRouting.Text
