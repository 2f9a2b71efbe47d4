import RequestRouting.Text.Character
import RequestRouting.Text.Utf8

/-! Header fields of a request. Names are tokens in lower case; values are bytes, which may
or may not be text. -/
namespace RequestRouting

structure Header where
  name : String
  value : List UInt8
deriving DecidableEq

def isVisibleByte (b : UInt8) : Bool := (0x20 ≤ b.toNat && b.toNat < 0x7f) || b == 9

def isHeaderByte (b : UInt8) : Bool := (0x20 ≤ b.toNat && b.toNat != 0x7f) || b == 9

namespace Header

def maxNameLength : Nat := 65535

def text? (h : Header) : Option String :=
  if h.value.all isVisibleByte then some (Text.decodeUtf8 h.value) else none

/-- A field of this name and value; `none` if the name is no token, or too long, or the value
holds a byte that no header may hold. -/
def make? (name : String) (value : List UInt8) : Option Header :=
  if Text.isToken name && name.length ≤ maxNameLength && value.all isHeaderByte then
    some ⟨Text.asciiLower name, value⟩
  else none

end Header

end RequestRouting
