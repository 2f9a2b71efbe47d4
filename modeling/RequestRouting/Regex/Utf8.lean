import RequestRouting.Regex.Basic

/-! The UTF-8 forms of a set of characters, as sequences of byte ranges: a text of one
character belongs to the set if its bytes lie, one by one, in the ranges of some sequence. -/
namespace RequestRouting.Regex

abbrev ByteRange := Nat × Nat

/-- The numbers from `first` to `last` in base 64, as sequences of ranges of digits with the
highest digit first. The highest of the `places + 1` digits has no bound. -/
def digitRanges : (places first last : Nat) → List (List (Nat × Nat))
  | 0, first, last => [[(first, last)]]
  | places + 1, first, last =>
    let unit := 1 <<< (6 * (places + 1))
    let (high, low) := (first / unit, first % unit)
    let (high', low') := (last / unit, last % unit)
    if high = high' then (digitRanges places low low').map ((high, high) :: ·)
    else
      let begun := if low = 0 then [] else
        (digitRanges places low (unit - 1)).map ((high, high) :: ·)
      let ended := if low' = unit - 1 then [] else
        (digitRanges places 0 low').map ((high', high') :: ·)
      let start := if low = 0 then high else high + 1
      let stop := if low' = unit - 1 then high' + 1 else high'
      let full :=
        if start < stop then [(start, stop - 1) :: List.replicate (places + 1) (0, 63)] else []
      begun ++ full ++ ended

/-- The code points with this number of bytes behind the first one, and what is added to
their highest digit. -/
def utf8Planes : List (Nat × Nat × Nat × Nat) := [
  (0, 0, 0x7f, 0), (1, 0x80, 0x7ff, 0xc0), (2, 0x800, 0xd7ff, 0xe0), (2, 0xe000, 0xffff, 0xe0),
  (3, 0x10000, 0x10ffff, 0xf0)]

def bytesOfDigits (lead : Nat) : List (Nat × Nat) → List ByteRange
  | [] => []
  | (a, b) :: rest => (lead + a, lead + b) :: rest.map fun (a, b) => (0x80 + a, 0x80 + b)

def CharSet.utf8Sequences (s : CharSet) : List (List ByteRange) :=
  s.ranges.flatMap fun (a, b) => utf8Planes.flatMap fun (places, first, last, lead) =>
    let (a, b) := (Nat.max a first, Nat.min b last)
    if a ≤ b then (digitRanges places a b).map (bytesOfDigits lead) else []

example : (CharSet.range 'é' 'ê').utf8Sequences = [[(0xc3, 0xc3), (0xa9, 0xaa)]] := by decide

end RequestRouting.Regex
