import RequestRouting.Text.Split
import RequestRouting.Text.Utf8

/-! The form encoding of names and values in a query string: pairs separated by `&`, a plus
for a space, and percent escapes of UTF-8 bytes. Nothing is refused: an escape that is cut
short or has no hexadecimal digits stands for itself. -/
namespace RequestRouting.Text

def hexValue? (b : UInt8) : Option Nat :=
  let n := b.toNat
  if 0x30 ≤ n && n ≤ 0x39 then some (n - 0x30)
  else if 0x41 ≤ n && n ≤ 0x46 then some (n - 0x41 + 10)
  else if 0x61 ≤ n && n ≤ 0x66 then some (n - 0x61 + 10)
  else none

def percentDecode : List UInt8 → List UInt8
  | 0x25 :: a :: b :: rest =>
    match hexValue? a, hexValue? b with
    | some high, some low => UInt8.ofNat (16 * high + low) :: percentDecode rest
    | _, _ => 0x25 :: percentDecode (a :: b :: rest)
  | b :: rest => b :: percentDecode rest
  | [] => []

def plusToSpace (b : UInt8) : UInt8 := if b = 0x2b then 0x20 else b

def decodeFormText (cs : List Char) : String :=
  decodeUtf8 (percentDecode ((encodeUtf8 (String.ofList cs)).map plusToSpace))

/-- A pair without `=` has the empty value; empty pairs are left out. -/
def decodeForm (query : String) : List (String × String) :=
  ((splitAll '&' query.toList).filter (!·.isEmpty)).map fun piece =>
    let (name, value) := (splitFirst '=' piece).getD (piece, [])
    (decodeFormText name, decodeFormText value)

end RequestRouting.Text
