import RequestRouting.Text.Blank
import RequestRouting.Text.Unicode.Word
import RequestRouting.Text.Unicode.CaseVariants

/-! Sets of characters as ascending lists of ranges of code points. Two ranges of a list
neither overlap nor touch, so equal sets have equal lists. -/
namespace RequestRouting.Regex

structure CharSet where
  ranges : List (Nat × Nat)
deriving DecidableEq

def lastCodePoint : Nat := 0x10ffff

/-- The code point behind `n`. The surrogates are no characters and are passed over. -/
def codePointAfter (n : Nat) : Nat := if n = 0xd7ff then 0xe000 else n + 1

def codePointBefore (n : Nat) : Nat := if n = 0xe000 then 0xd7ff else n - 1

def insertRange (first last : Nat) : List (Nat × Nat) → List (Nat × Nat)
  | [] => [(first, last)]
  | (a, b) :: rest =>
    if codePointAfter last < a then (first, last) :: (a, b) :: rest
    else if codePointAfter b < first then (a, b) :: insertRange first last rest
    else insertRange (Nat.min first a) (Nat.max last b) rest

def gapsFrom (low : Nat) : List (Nat × Nat) → List (Nat × Nat)
  | [] => if low ≤ lastCodePoint then [(low, lastCodePoint)] else []
  | (a, b) :: rest =>
    let later := gapsFrom (codePointAfter b) rest
    if low < a then (low, codePointBefore a) :: later else later

namespace CharSet

def contains (s : CharSet) (c : Char) : Bool := Text.inRanges s.ranges c

def nothing : CharSet := ⟨[]⟩

def everything : CharSet := ⟨[(0, lastCodePoint)]⟩

def range (first last : Char) : CharSet := ⟨[(first.toNat, last.toNat)]⟩

def single (c : Char) : CharSet := range c c

def insert (first last : Nat) (s : CharSet) : CharSet := ⟨insertRange first last s.ranges⟩

def union (s t : CharSet) : CharSet := t.ranges.foldl (fun s r => s.insert r.1 r.2) s

def complement (s : CharSet) : CharSet := ⟨gapsFrom 0 s.ranges⟩

def intersection (s t : CharSet) : CharSet := (s.complement.union t.complement).complement

def difference (s t : CharSet) : CharSet := (s.complement.union t).complement

def symmetricDifference (s t : CharSet) : CharSet := (s.difference t).union (t.difference s)

def ofRanges (ranges : List (Char × Char)) : CharSet :=
  ranges.foldl (fun s r => s.union (range r.1 r.2)) nothing

def digit : CharSet := ⟨Text.decimalDigitRanges⟩

def blank : CharSet := ⟨Text.blankRanges⟩

def word : CharSet := ⟨Text.wordRanges⟩

def onlyChar? (s : CharSet) : Option Char :=
  match s.ranges with
  | [(a, b)] => if a = b then some (Char.ofNat a) else none
  | _ => none

def anyCaseOf (c : Char) : CharSet :=
  (Text.casePartners c).foldl (fun s n => s.insert n n) (single c)

def closeUnderCase (s : CharSet) : CharSet :=
  let contains := fun n => s.ranges.any fun r => r.1 ≤ n && n ≤ r.2
  (Text.caseFamilies.filter (·.any contains)).foldl
    (fun s family => family.foldl (fun s n => s.insert n n) s) s

def closeIf (ignoreCase : Bool) (s : CharSet) : CharSet :=
  if ignoreCase then s.closeUnderCase else s

def complementIf (negated : Bool) (s : CharSet) : CharSet := if negated then s.complement else s

/-- The classes that go by a name between `[:` and `:]`, all of ASCII characters. -/
def named? (name : String) : Option CharSet :=
  match name with
  | "alnum" => some (ofRanges [('0', '9'), ('A', 'Z'), ('a', 'z')])
  | "alpha" => some (ofRanges [('A', 'Z'), ('a', 'z')])
  | "ascii" => some (range '\x00' '\x7f')
  | "blank" => some (ofRanges [('\t', '\t'), (' ', ' ')])
  | "cntrl" => some (ofRanges [('\x00', '\x1f'), ('\x7f', '\x7f')])
  | "digit" => some (range '0' '9')
  | "graph" => some (range '!' '~')
  | "lower" => some (range 'a' 'z')
  | "print" => some (range ' ' '~')
  | "punct" => some (ofRanges [('!', '/'), (':', '@'), ('[', '`'), ('\x7b', '~')])
  | "space" => some (ofRanges [('\t', '\r'), (' ', ' ')])
  | "upper" => some (range 'A' 'Z')
  | "word" => some (ofRanges [('0', '9'), ('A', 'Z'), ('_', '_'), ('a', 'z')])
  | "xdigit" => some (ofRanges [('0', '9'), ('A', 'F'), ('a', 'f')])
  | _ => none

end CharSet

end RequestRouting.Regex
