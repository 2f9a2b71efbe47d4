/-! Reading bytes as UTF-8. Each maximal part that cannot begin a well-formed sequence is
read as one replacement character, so every list of bytes has a reading. -/
namespace RequestRouting.Text

def replacementChar : Char := '\uFFFD'

/-- How many bytes follow a first byte, and the range in which the second one must lie. -/
def sequenceShape (first : UInt8) : Option (Nat × Nat × Nat) :=
  let b := first.toNat
  if 0xc2 ≤ b && b ≤ 0xdf then some (1, 0x80, 0xbf)
  else if b = 0xe0 then some (2, 0xa0, 0xbf)
  else if b = 0xed then some (2, 0x80, 0x9f)
  else if 0xe1 ≤ b && b ≤ 0xef then some (2, 0x80, 0xbf)
  else if b = 0xf0 then some (3, 0x90, 0xbf)
  else if 0xf1 ≤ b && b ≤ 0xf3 then some (3, 0x80, 0xbf)
  else if b = 0xf4 then some (3, 0x80, 0x8f)
  else none

/-- The following bytes of a sequence, as many as fit: `need` of them at most, the first one
between `low` and `high`. -/
def continuation : (need low high : Nat) → List UInt8 → List UInt8
  | 0, _, _, _ => []
  | _, _, _, [] => []
  | need + 1, low, high, b :: rest =>
    if low ≤ b.toNat && b.toNat ≤ high then b :: continuation need 0x80 0xbf rest else []

def sequenceChar (first : UInt8) (need : Nat) (following : List UInt8) : Char :=
  Char.ofNat (following.foldl (fun n b => n * 64 + b.toNat % 64) (first.toNat % (1 <<< (6 - need))))

/-- Reads with at most `fuel` characters; one per byte is always enough. -/
def decodeUtf8With : (fuel : Nat) → List UInt8 → List Char
  | 0, _ => []
  | _, [] => []
  | fuel + 1, first :: rest =>
    if first.toNat < 0x80 then Char.ofNat first.toNat :: decodeUtf8With fuel rest
    else match sequenceShape first with
      | none => replacementChar :: decodeUtf8With fuel rest
      | some (need, low, high) =>
        let following := continuation need low high rest
        let c := if following.length = need then sequenceChar first need following
          else replacementChar
        c :: decodeUtf8With fuel (rest.drop following.length)

def decodeUtf8 (bytes : List UInt8) : String := String.ofList (decodeUtf8With bytes.length bytes)

def encodeUtf8 (s : String) : List UInt8 := s.toUTF8.data.toList

end RequestRouting.Text
