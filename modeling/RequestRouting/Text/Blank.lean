import RequestRouting.Text.Character

/-! Blank characters are those with the Unicode property White_Space, and a text is trimmed
by removing them from both ends. -/
namespace RequestRouting.Text

def blankRanges : List (Nat × Nat) := [
  (0x9, 0xd), (0x20, 0x20), (0x85, 0x85), (0xa0, 0xa0), (0x1680, 0x1680), (0x2000, 0x200a),
  (0x2028, 0x2029), (0x202f, 0x202f), (0x205f, 0x205f), (0x3000, 0x3000)]

def isBlank (c : Char) : Bool := inRanges blankRanges c

def dropEndWhile (p : Char → Bool) (cs : List Char) : List Char :=
  (cs.reverse.dropWhile p).reverse

def trimChars (cs : List Char) : List Char := dropEndWhile isBlank (cs.dropWhile isBlank)

def trim (s : String) : String := String.ofList (trimChars s.toList)

theorem head?_dropWhile_isBlank {c : Char} {cs : List Char}
    (h : (cs.dropWhile isBlank).head? = some c) : isBlank c = false := by
  induction cs with
  | nil => simp at h
  | cons d ds ih =>
    by_cases hd : isBlank d
    · exact ih (by simpa [List.dropWhile_cons, hd] using h)
    · have : d = c := by simpa [List.dropWhile_cons, hd] using h
      simpa [← this] using hd

theorem getLast?_trimChars {c : Char} {cs : List Char} (h : (trimChars cs).getLast? = some c) :
    isBlank c = false := by
  have h' : ((cs.dropWhile isBlank).reverse.dropWhile isBlank).head? = some c := by
    simpa [trimChars, dropEndWhile] using h
  exact head?_dropWhile_isBlank h'

end RequestRouting.Text
