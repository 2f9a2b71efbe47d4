/-! Characters: ranges of code points, the case of ASCII letters, the bytes of a text in UTF-8, and
the tokens of HTTP, which are method names, header names and the parts of media types. -/
namespace RequestRouting.Text

def inRanges (ranges : List (Nat × Nat)) (c : Char) : Bool :=
  ranges.any fun (first, last) => first ≤ c.toNat && c.toNat ≤ last

def asciiLower (s : String) : String := String.ofList (s.toList.map Char.toLower)

def asciiUpper (s : String) : String := String.ofList (s.toList.map Char.toUpper)

def equalIgnoringCase (s t : String) : Bool := asciiLower s == asciiLower t

@[simp] theorem equalIgnoringCase_self (s : String) : equalIgnoringCase s s = true := by
  simp [equalIgnoringCase]

def byteLength : List Char → Nat
  | [] => 0
  | c :: cs => c.utf8Size + byteLength cs

def isTokenChar (c : Char) : Bool := c.isAlphanum || "!#$%&'*+-.^_`|~".toList.contains c

def isToken (s : String) : Bool := !s.isEmpty && s.toList.all isTokenChar

end RequestRouting.Text
