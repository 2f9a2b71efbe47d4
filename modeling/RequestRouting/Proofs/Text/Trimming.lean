import Mathlib.Data.List.DropRight
import Mathlib.Data.List.TakeWhile
import RequestRouting.Text.Blank

/-! Trimming. Only what passes the test is removed, up to the last character that does not, and a
text without blanks at its ends is trimmed already. -/
namespace RequestRouting.Text

theorem dropEndWhile_isPrefix (p : Char → Bool) (cs : List Char) : dropEndWhile p cs <+: cs :=
  List.rdropWhile_prefix p cs

theorem dropEndWhile_concat_of_pos {p : Char → Bool} {c : Char} (hc : p c = true) (cs : List Char) :
    dropEndWhile p (cs ++ [c]) = dropEndWhile p cs :=
  List.rdropWhile_concat_pos p cs c hc

theorem dropEndWhile_concat_of_neg {p : Char → Bool} {c : Char} (hc : p c = false)
    (cs : List Char) : dropEndWhile p (cs ++ [c]) = cs ++ [c] :=
  List.rdropWhile_concat_neg p cs c (by simp [hc])

theorem dropEndWhile_eq_self_iff {p : Char → Bool} {cs : List Char} :
    dropEndWhile p cs = cs ↔ ∀ c, cs.getLast? = some c → p c = false := by
  induction cs using List.reverseRecOn with
  | nil => simp [dropEndWhile]
  | append_singleton cs c _ =>
    cases hc : p c with
    | true =>
      rw [dropEndWhile_concat_of_pos hc]
      have hlength := (dropEndWhile_isPrefix p cs).length_le
      refine iff_of_false (fun heq => ?_) (fun h => ?_)
      · rw [heq, List.length_append, List.length_singleton] at hlength
        omega
      · simpa [hc] using h c
    | false => simp [dropEndWhile_concat_of_neg hc, hc]

theorem dropEndWhile_cons_of_neg {p : Char → Bool} {c : Char} (hc : p c = false)
    (cs : List Char) : dropEndWhile p (c :: cs) = c :: dropEndWhile p cs := by
  induction cs using List.reverseRecOn with
  | nil => exact dropEndWhile_concat_of_neg hc []
  | append_singleton cs d ih =>
    rw [← List.cons_append]
    cases hd : p d with
    | true => rw [dropEndWhile_concat_of_pos hd, dropEndWhile_concat_of_pos hd, ih]
    | false => rw [dropEndWhile_concat_of_neg hd, dropEndWhile_concat_of_neg hd, List.cons_append]

theorem dropEndWhile_append {p : Char → Bool} (cs : List Char) {ds : List Char}
    (h : dropEndWhile p ds ≠ []) : dropEndWhile p (cs ++ ds) = cs ++ dropEndWhile p ds := by
  induction ds using List.reverseRecOn with
  | nil => exact absurd rfl h
  | append_singleton ds d ih =>
    rw [← List.append_assoc]
    cases hd : p d with
    | true =>
      rw [dropEndWhile_concat_of_pos hd] at h ⊢
      rw [dropEndWhile_concat_of_pos hd, ih h]
    | false => rw [dropEndWhile_concat_of_neg hd, dropEndWhile_concat_of_neg hd, List.append_assoc]

theorem dropEndWhile_append_of_all {p : Char → Bool} (cs : List Char) {ds : List Char}
    (h : ∀ d ∈ ds, p d = true) : dropEndWhile p (cs ++ ds) = dropEndWhile p cs := by
  induction ds using List.reverseRecOn with
  | nil => rw [List.append_nil]
  | append_singleton ds d ih =>
    rw [← List.append_assoc, dropEndWhile_concat_of_pos (h d (by simp))]
    exact ih fun e he => h e (List.mem_append_left _ he)

theorem exists_eq_dropEndWhile_append (p : Char → Bool) (cs : List Char) :
    ∃ ds, cs = dropEndWhile p cs ++ ds ∧ ∀ d ∈ ds, p d = true :=
  ⟨cs.rtakeWhile p, List.rdropWhile_append_rtakeWhile.symm,
    fun _ => List.mem_rtakeWhile_imp⟩

theorem dropWhile_takeWhile {p q : Char → Bool} (h : ∀ c, p c = true → q c = true)
    (cs : List Char) : (cs.takeWhile q).dropWhile p = (cs.dropWhile p).takeWhile q := by
  induction cs with
  | nil => rfl
  | cons c cs ih =>
    cases hp : p c with
    | true => simp [hp, h c hp, ih]
    | false => cases hq : q c <;> simp [hp, hq]

theorem mem_dropWhile_iff {p : Char → Bool} {c : Char} (hc : p c = false) (cs : List Char) :
    c ∈ cs.dropWhile p ↔ c ∈ cs := by
  have hsplit : c ∈ cs ↔ c ∈ cs.takeWhile p ∨ c ∈ cs.dropWhile p := by
    rw [← List.mem_append, List.takeWhile_append_dropWhile]
  have htake : c ∉ cs.takeWhile p := by
    intro hmem
    simpa [hc] using List.mem_takeWhile_imp hmem
  rw [hsplit, or_iff_right htake]

theorem mem_trimChars_iff {c : Char} (hc : isBlank c = false) (cs : List Char) :
    c ∈ trimChars cs ↔ c ∈ cs := by
  unfold trimChars dropEndWhile
  rw [List.mem_reverse, mem_dropWhile_iff hc, List.mem_reverse, mem_dropWhile_iff hc]

theorem trimChars_cons_of_neg {c : Char} (hc : isBlank c = false) (cs : List Char) :
    trimChars (c :: cs) = c :: dropEndWhile isBlank cs := by
  rw [trimChars, List.dropWhile_cons_of_neg (by simp [hc]), dropEndWhile_cons_of_neg hc]

theorem trimChars_append_cons {c : Char} {cs : List Char} (hc : isBlank c = false)
    (hcs : ∀ d, cs.head? = some d → isBlank d = false) (ds : List Char) :
    trimChars (cs ++ c :: ds) = cs ++ c :: dropEndWhile isBlank ds := by
  have hend := dropEndWhile_cons_of_neg hc ds
  have hne : dropEndWhile isBlank (c :: ds) ≠ [] := by simp [hend]
  cases cs with
  | nil => exact trimChars_cons_of_neg hc ds
  | cons d cs =>
    rw [List.cons_append, trimChars_cons_of_neg (hcs d rfl), dropEndWhile_append cs hne, hend,
      List.cons_append]

section Blanks

variable {blanks : List Char}

theorem trimChars_append_left (h : ∀ b ∈ blanks, isBlank b = true) (cs : List Char) :
    trimChars (blanks ++ cs) = trimChars cs := by
  rw [trimChars, List.dropWhile_append_of_pos h, trimChars]

theorem trimChars_append_right (h : ∀ b ∈ blanks, isBlank b = true) (cs : List Char) :
    trimChars (cs ++ blanks) = trimChars cs := by
  rw [trimChars, List.dropWhile_append]
  split
  · next hcs => rw [trimChars, List.isEmpty_iff.1 hcs, List.dropWhile_eq_nil_iff.2 h]
  · rw [dropEndWhile_append_of_all _ h, trimChars]

theorem trimChars_dropEndWhile (cs : List Char) :
    trimChars (dropEndWhile isBlank cs) = trimChars cs := by
  obtain ⟨behind, hbehind, hblank⟩ := exists_eq_dropEndWhile_append isBlank cs
  conv_rhs => rw [hbehind, trimChars_append_right hblank]

theorem exists_eq_append_trimChars (cs : List Char) :
    ∃ front behind, cs = front ++ (trimChars cs ++ behind) ∧ (∀ b ∈ front, isBlank b = true) ∧
      ∀ b ∈ behind, isBlank b = true := by
  obtain ⟨behind, hbehind, hblank⟩ := exists_eq_dropEndWhile_append isBlank (cs.dropWhile isBlank)
  refine ⟨cs.takeWhile isBlank, behind, ?_, fun _ => List.mem_takeWhile_imp, hblank⟩
  rw [trimChars, ← hbehind, List.takeWhile_append_dropWhile]

theorem trimChars_isInfix (cs : List Char) : trimChars cs <:+: cs := by
  obtain ⟨front, behind, hcs, -, -⟩ := exists_eq_append_trimChars cs
  exact ⟨front, behind, by rw [List.append_assoc, ← hcs]⟩

end Blanks

structure IsTrimmed (cs : List Char) : Prop where
  head : ∀ c, cs.head? = some c → isBlank c = false
  last : ∀ c, cs.getLast? = some c → isBlank c = false

theorem IsTrimmed.cons {c : Char} {cs : List Char} (hc : isBlank c = false) (h : IsTrimmed cs) :
    IsTrimmed (c :: cs) where
  head d hd := by
    obtain rfl : c = d := by simpa using hd
    exact hc
  last d hd := by
    cases cs with
    | nil =>
      obtain rfl : c = d := by simpa using hd
      exact hc
    | cons e cs => exact h.last d (by simpa using hd)

theorem IsTrimmed.append {cs ds : List Char} (hcs : IsTrimmed cs) (hds : IsTrimmed ds)
    (hne : cs ≠ []) (hne' : ds ≠ []) : IsTrimmed (cs ++ ds) where
  head d hd := hcs.head d (by rwa [List.head?_append_of_ne_nil _ hne] at hd)
  last d hd := hds.last d (by rwa [List.getLast?_append_of_ne_nil _ hne'] at hd)

theorem isTrimmed_of_forall {cs : List Char} (h : ∀ c ∈ cs, isBlank c = false) : IsTrimmed cs where
  head c hc := h c (List.mem_of_mem_head? hc)
  last c hc := h c (List.mem_of_getLast? hc)

theorem dropWhile_isBlank_of_head {cs : List Char}
    (h : ∀ c, cs.head? = some c → isBlank c = false) : cs.dropWhile isBlank = cs := by
  cases cs with
  | nil => rfl
  | cons c cs => simp [h c rfl]

theorem IsTrimmed.trimChars_eq {cs : List Char} (h : IsTrimmed cs) : trimChars cs = cs := by
  have hlast : ∀ c, cs.reverse.head? = some c → isBlank c = false := by
    simpa using h.last
  unfold trimChars dropEndWhile
  rw [dropWhile_isBlank_of_head h.head, dropWhile_isBlank_of_head hlast, List.reverse_reverse]

theorem isTrimmed_trimChars (cs : List Char) : IsTrimmed (trimChars cs) where
  last _ h := getLast?_trimChars h
  head c h := by
    -- What stands first was not blank before the end was trimmed either.
    have hfront : trimChars cs <+: cs.dropWhile isBlank := by
      have hsuffix := List.dropWhile_suffix (l := (cs.dropWhile isBlank).reverse) isBlank
      rw [← List.reverse_prefix, List.reverse_reverse] at hsuffix
      exact hsuffix
    obtain ⟨rest, hrest⟩ := hfront
    have hhead : (cs.dropWhile isBlank).head? = some c := by
      rw [← hrest, List.head?_append, h, Option.some_or]
    exact head?_dropWhile_isBlank hhead

end RequestRouting.Text
