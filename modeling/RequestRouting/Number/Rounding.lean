/-! Rounding quotients, exactly and with ties to even. -/
namespace RequestRouting.Number

/-- The whole number nearest to `num / den`; of two that are equally near, the even one. -/
def roundDiv (num den : Nat) : Nat :=
  let q := num / den
  let r := num % den
  if 2 * r < den ∨ (2 * r = den ∧ q % 2 = 0) then q else q + 1

/-- Rounds `num / den` to as many binary digits as are significant: to a whole number as long
as that needs no more digits, and to a multiple of a power of two above. -/
def roundSignificant (digits num den : Nat) : Nat :=
  let shift := Nat.log2 (num / den) - (digits - 1)
  roundDiv num (den <<< shift) <<< shift

/-- Takes out as many factors of two as there are, `limit` at most. What is left, and how many
of the allowed factors remain. -/
def halveWhileEven : (limit : Nat) → Nat → Nat × Nat
  | 0, n => (n, 0)
  | limit + 1, n => if n % 2 = 0 then halveWhileEven limit (n / 2) else (n, limit + 1)

/-- The 64-bit binary floating-point value nearest to `mantissa` divided by ten to the power
`places`, written out in full in the same way. All such values are multiples of 2 to the power
-1074. -/
def nearestBinary64 (mantissa : Int) (places : Nat) : Int × Nat :=
  let units := roundSignificant 53 (mantissa.natAbs <<< 1074) (Nat.pow 10 places)
  let (n, exact) := halveWhileEven 1074 units
  (mantissa.sign * (n * Nat.pow 5 exact : Nat), exact)

example : roundDiv 5 2 = 2 ∧ roundDiv 7 2 = 4 := by decide
example : nearestBinary64 15 1 = (15, 1) := by decide +kernel
example : nearestBinary64 (-9007199254740993) 0 = (-9007199254740992, 0) := by decide +kernel

end RequestRouting.Number
