import RequestRouting.Number.Integer
import RequestRouting.Number.Rounding

/-! Decimal numbers rounded to 32-bit binary floating point. Every finite value of that
format is a whole multiple of the smallest one, 2 to the power -149, so a value is held as
its sign and that multiple, and comparing, rounding and encoding are exact. -/
namespace RequestRouting.Number

inductive Binary32 where
  | finite (negative : Bool) (units : Nat)
  | infinite (negative : Bool)
  | nan (negative : Bool)
deriving DecidableEq, Repr

namespace Binary32

def one : Binary32 := .finite false (1 <<< 149)

def ofUnits (negative : Bool) (units : Nat) : Binary32 :=
  if units < 1 <<< (128 + 149) then .finite negative units else .infinite negative

/-- The value nearest to `digits` times ten to the power `exponent`. Sizes far outside the
range of the format are told by the number of digits alone. -/
def ofDecimal (negative : Bool) (digits : Nat) (exponent : Int) : Binary32 :=
  let size : Int := (Nat.toDigits 10 digits).length + exponent
  if digits = 0 ∨ size < -60 then .finite negative 0
  else if 60 < size then .infinite negative
  else if 0 ≤ exponent then
    ofUnits negative (roundSignificant 24 ((digits * Nat.pow 10 exponent.toNat) <<< 149) 1)
  else ofUnits negative (roundSignificant 24 (digits <<< 149) (Nat.pow 10 (-exponent).toNat))

def exponent? : List Char → Option Int
  | [] => some 0
  | c :: cs =>
    if c = 'e' ∨ c = 'E' then
      let (negative, digits) := splitSign cs
      (natural? digits).map fun n => if negative then -n else n
    else none

/-- Digits with at most one point among them, at least one digit, then the exponent. -/
def unsigned? (negative : Bool) (cs : List Char) : Option Binary32 :=
  let whole := cs.takeWhile Char.isDigit
  let rest := cs.dropWhile Char.isDigit
  let (fraction, rest) := match rest with
    | '.' :: after => (after.takeWhile Char.isDigit, after.dropWhile Char.isDigit)
    | _ => ([], rest)
  if whole.isEmpty && fraction.isEmpty then none
  else (exponent? rest).map fun e =>
    ofDecimal negative (digitsValue (whole ++ fraction)) (e - fraction.length)

def parse? (s : String) : Option Binary32 :=
  let (negative, body) := splitSign s.toList
  let word := String.ofList (body.map Char.toLower)
  if word = "inf" ∨ word = "infinity" then some (.infinite negative)
  else if word = "nan" then some (.nan negative)
  else unsigned? negative body

def signed (negative : Bool) (n : Nat) : Int := if negative then -n else n

/-- The order of values; a NaN has no place in it, and both zeros have the same. -/
def compare? : Binary32 → Binary32 → Option Ordering
  | .nan _, _ => none
  | _, .nan _ => none
  | .finite s m, .finite t n => some (compare (signed s m) (signed t n))
  | .infinite s, .infinite t => some (compare (signed s 1) (signed t 1))
  | .infinite s, .finite _ _ => some (if s then .lt else .gt)
  | .finite _ _, .infinite t => some (if t then .gt else .lt)

def isUnitInterval : Binary32 → Bool
  | .finite negative units => units = 0 || (!negative && units ≤ 1 <<< 149)
  | _ => false

def magnitudeBits (units : Nat) : Nat :=
  let shift := Nat.log2 units - 23
  if units < 1 <<< 23 then units else (shift + 1) <<< 23 + ((units >>> shift) - (1 <<< 23))

def toBits : Binary32 → Nat
  | .finite negative units => (if negative then 1 <<< 31 else 0) + magnitudeBits units
  | .infinite negative => (if negative then 1 <<< 31 else 0) + 0x7f800000
  | .nan negative => (if negative then 1 <<< 31 else 0) + 0x7fc00000

example : (parse? "1").map toBits = some 0x3f800000 := by decide
example : (parse? "0.1").map toBits = some 0x3dcccccd := by decide +kernel
example : (parse? "1e-45").map toBits = some 1 := by decide +kernel

end Binary32

end RequestRouting.Number
