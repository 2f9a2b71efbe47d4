import Mathlib.Data.List.Infix
import Mathlib.Data.List.TakeWhile
import RequestRouting.Proofs.Text.Trimming
import RequestRouting.Text.Split

/-! Where texts are split. A separator between two texts splits them apart, and what stands before
the first or behind the last separator holds none. Blanks around a text do not count where its
pieces are trimmed. -/
namespace RequestRouting.Text

theorem splitAll_injective {sep : Char} {cs ds : List Char}
    (h : splitAll sep cs = splitAll sep ds) : cs = ds := by
  rw [← intercalate_splitAll sep cs, h, intercalate_splitAll]

theorem splitAll_append (sep : Char) (cs ds : List Char) :
    splitAll sep (cs ++ sep :: ds) = splitAll sep cs ++ splitAll sep ds := by
  induction cs with
  | nil => simp [splitAll]
  | cons c cs ih =>
    rw [List.cons_append, splitAll, splitAll, ih]
    split
    · rfl
    · cases hs : splitAll sep cs with
      | nil => exact absurd hs (splitAll_ne_nil sep cs)
      | cons piece pieces => rfl

theorem splitAll_of_notMem {sep : Char} {cs : List Char} (h : sep ∉ cs) :
    splitAll sep cs = [cs] := by
  induction cs with
  | nil => rfl
  | cons c cs ih =>
    obtain ⟨hc, hcs⟩ : sep ≠ c ∧ sep ∉ cs := by simpa using h
    rw [splitAll, if_neg (Ne.symm hc), ih hcs]

theorem exists_splitAll_of_mem {sep : Char} {cs : List Char} (h : sep ∈ cs) :
    ∃ pieces, splitAll sep cs = cs.takeWhile (· != sep) :: pieces := by
  have hfront : sep ∉ cs.takeWhile (· != sep) := by
    intro hmem
    simpa using List.mem_takeWhile_imp hmem
  cases hbehind : cs.dropWhile (· != sep) with
  | nil =>
    rw [← List.takeWhile_append_dropWhile (p := (· != sep)) (l := cs), hbehind,
      List.append_nil] at h
    contradiction
  | cons c rest =>
    have hc : c = sep := by
      have hstop := List.head?_dropWhile_not (· != sep) cs
      rw [hbehind] at hstop
      simpa using hstop
    have hcs : cs.takeWhile (· != sep) ++ sep :: rest = cs := by
      rw [hc] at hbehind
      rw [← hbehind, List.takeWhile_append_dropWhile]
    have hsplit := splitAll_append sep (cs.takeWhile (· != sep)) rest
    rw [hcs, splitAll_of_notMem hfront] at hsplit
    exact ⟨_, hsplit⟩

theorem splitAll_intercalate (sep : Char) {pieces : List (List Char)} (h : pieces ≠ []) :
    splitAll sep ([sep].intercalate pieces) = pieces.flatMap (splitAll sep) := by
  induction pieces with
  | nil => contradiction
  | cons piece pieces ih =>
    cases pieces with
    | nil => simp
    | cons next pieces =>
      rw [List.intercalate_cons_cons, List.append_assoc, List.singleton_append, splitAll_append,
        ih (List.cons_ne_nil _ _), ← List.flatMap_cons]

theorem takeWhile_append_of_mem {sep : Char} {cs : List Char} (h : sep ∈ cs) (rest : List Char) :
    (cs ++ rest).takeWhile (· != sep) = cs.takeWhile (· != sep) := by
  rw [List.takeWhile_append, if_neg]
  intro hlength
  have hall := (List.takeWhile_prefix (l := cs) (· != sep)).eq_of_length hlength
  rw [← hall] at h
  simpa using List.mem_takeWhile_imp h

theorem splitAll_concat (sep : Char) (cs : List Char) :
    splitAll sep (cs ++ [sep]) = splitAll sep cs ++ [[]] := splitAll_append sep cs []

theorem takeWhile_eq_splitFirst (sep : Char) (cs : List Char) :
    cs.takeWhile (· != sep) = ((splitFirst sep cs).map Prod.fst).getD cs := by
  induction cs with
  | nil => rfl
  | cons c cs ih =>
    rw [List.takeWhile_cons, splitFirst]
    by_cases hc : c = sep
    · simp [hc]
    · cases hs : splitFirst sep cs <;> simp [hc, hs, ih]

section Stopping

variable {p : Char → Bool} {front rest : List Char}

theorem takeWhile_append_of_stop (hfront : ∀ c ∈ front, p c = true)
    (hstop : ∀ c, rest.head? = some c → p c = false) : (front ++ rest).takeWhile p = front := by
  rw [List.takeWhile_append_of_pos hfront]
  cases rest with
  | nil => simp
  | cons c rest => simp [hstop c rfl]

theorem dropWhile_append_of_stop (hfront : ∀ c ∈ front, p c = true)
    (hstop : ∀ c, rest.head? = some c → p c = false) : (front ++ rest).dropWhile p = rest := by
  rw [List.dropWhile_append_of_pos hfront]
  cases rest with
  | nil => rfl
  | cons c rest => simp [hstop c rfl]

end Stopping

section Splitting

variable {sep : Char} {cs before after : List Char}

theorem splitFirst_append (h : sep ∉ before) :
    splitFirst sep (before ++ sep :: after) = some (before, after) := by
  induction before with
  | nil => simp [splitFirst]
  | cons c before ih =>
    obtain ⟨hc, hrest⟩ : sep ≠ c ∧ sep ∉ before := by simpa using h
    rw [List.cons_append, splitFirst, if_neg (Ne.symm hc), ih hrest]
    rfl

theorem append_sep_inj {before' after' : List Char} (h : sep ∉ before) (h' : sep ∉ before') :
    before ++ sep :: after = before' ++ sep :: after' ↔ before = before' ∧ after = after' := by
  constructor
  · intro heq
    have hsplit := congrArg (splitFirst sep) heq
    rw [splitFirst_append h, splitFirst_append h'] at hsplit
    exact Prod.mk.inj (Option.some.inj hsplit)
  · rintro ⟨rfl, rfl⟩
    rfl

theorem append_sep_isPrefix_iff {before' after' : List Char} (h : sep ∉ before)
    (h' : sep ∉ before') :
    before ++ sep :: after <+: before' ++ sep :: after' ↔ before = before' ∧ after <+: after' := by
  constructor
  · rintro ⟨more, heq⟩
    rw [List.append_assoc, List.cons_append] at heq
    obtain ⟨hbefore, hafter⟩ := (append_sep_inj h h').1 heq
    exact ⟨hbefore, more, hafter⟩
  · rintro ⟨rfl, more, rfl⟩
    exact ⟨more, by simp⟩

theorem splitLast_eq_some_iff :
    splitLast sep cs = some (before, after) ↔ cs = before ++ sep :: after ∧ sep ∉ after := by
  constructor
  · intro h
    obtain ⟨⟨behind, front⟩, hsplit, hpair⟩ := Option.map_eq_some_iff.1 h
    obtain ⟨rfl, rfl⟩ := Prod.mk.inj hpair
    obtain ⟨hcs, hbehind⟩ := eq_append_of_splitFirst hsplit
    refine ⟨?_, by simpa using hbehind⟩
    rw [← List.reverse_reverse cs, hcs]
    simp
  · rintro ⟨rfl, hafter⟩
    have hreverse : (before ++ sep :: after).reverse = after.reverse ++ sep :: before.reverse := by
      simp
    rw [splitLast, hreverse, splitFirst_append (by simpa using hafter)]
    simp

theorem splitFirst_eq_none_iff : splitFirst sep cs = none ↔ sep ∉ cs := by
  induction cs with
  | nil => simp [splitFirst]
  | cons c cs ih =>
    rw [splitFirst, List.mem_cons, not_or, ← ih]
    by_cases hc : c = sep
    · simp [hc]
    · simp [hc, Ne.symm hc]

theorem splitLast_eq_none_iff : splitLast sep cs = none ↔ sep ∉ cs := by
  rw [splitLast, Option.map_eq_none_iff, splitFirst_eq_none_iff, List.mem_reverse]

end Splitting

section Pairs

variable {first second : Char} {cs before after : List Char}

theorem pair_isPrefix_cons_iff {c : Char} :
    [first, second] <+: c :: cs ↔ c = first ∧ cs.head? = some second := by
  cases cs with
  | nil => simp [List.cons_prefix_cons]
  | cons d cs => simp [List.cons_prefix_cons, eq_comm]

theorem pair_isInfix_append_iff :
    [first, second] <:+: before ++ after ↔
      [first, second] <:+: before ∨ [first, second] <:+: after ∨
        before.getLast? = some first ∧ after.head? = some second := by
  induction before with
  | nil => simp
  | cons c before ih =>
    rw [List.cons_append, List.infix_cons_iff, List.infix_cons_iff, pair_isPrefix_cons_iff,
      pair_isPrefix_cons_iff, ih]
    cases before with
    | nil => simp [or_comm]
    | cons d before => simp [List.getLast?_cons_cons, or_assoc]

theorem splitFirstPair_eq_none_iff :
    splitFirstPair first second cs = none ↔ ¬ [first, second] <:+: cs := by
  induction cs with
  | nil => simp [splitFirstPair]
  | cons c cs ih =>
    rw [splitFirstPair, List.infix_cons_iff, pair_isPrefix_cons_iff, not_or, ← ih]
    split
    · next hpair => simp [hpair]
    · next hpair => simp [hpair]

theorem eq_append_of_splitFirstPair (h : splitFirstPair first second cs = some (before, after)) :
    cs = before ++ first :: second :: after ∧ ¬ [first, second] <:+: before := by
  induction cs generalizing before with
  | nil => contradiction
  | cons c cs ih =>
    rw [splitFirstPair] at h
    split at h
    · next hpair =>
      obtain ⟨rfl, hsecond⟩ := hpair
      obtain ⟨rest, rfl⟩ := List.head?_eq_some_iff.1 hsecond
      obtain ⟨rfl, rfl⟩ : [] = before ∧ rest = after := by simpa using h
      simp
    · next hpair =>
      obtain ⟨⟨front, behind⟩, hfront, heq⟩ := Option.map_eq_some_iff.1 h
      obtain ⟨rfl, rfl⟩ := Prod.mk.inj heq
      obtain ⟨rfl, hnone⟩ := ih hfront
      refine ⟨rfl, ?_⟩
      rw [List.infix_cons_iff, pair_isPrefix_cons_iff, not_or]
      refine ⟨fun h => hpair ⟨h.1, ?_⟩, hnone⟩
      exact List.head?_append.trans (by rw [h.2]; rfl)

theorem splitFirstPair_append (hne : first ≠ second) (h : ¬ [first, second] <:+: before) :
    splitFirstPair first second (before ++ first :: second :: after) = some (before, after) := by
  induction before with
  | nil => simp [splitFirstPair]
  | cons c before ih =>
    rw [List.infix_cons_iff, pair_isPrefix_cons_iff, not_or] at h
    -- The pair could only begin at the end of what stands before it if its signs were the same.
    have hpair : ¬ (c = first ∧ (before ++ first :: second :: after).head? = some second) := by
      rintro ⟨hc, hhead⟩
      cases before with
      | nil => exact hne (by simpa using hhead)
      | cons d before => exact h.1 ⟨hc, hhead⟩
    rw [List.cons_append, splitFirstPair, if_neg hpair, ih h.2]
    rfl

end Pairs

section Blanks

variable {sep : Char} {blanks : List Char}

theorem notMem_of_isBlank (hsep : isBlank sep = false) (h : ∀ b ∈ blanks, isBlank b = true) :
    sep ∉ blanks := by
  intro hmem
  rw [h sep hmem] at hsep
  contradiction

theorem map_trimChars_splitAll_left (hsep : isBlank sep = false)
    (h : ∀ b ∈ blanks, isBlank b = true) (cs : List Char) :
    (splitAll sep (blanks ++ cs)).map trimChars = (splitAll sep cs).map trimChars := by
  have hblanks := notMem_of_isBlank hsep h
  cases hs : splitFirst sep cs with
  | none =>
    rw [splitFirst_eq_none_iff] at hs
    rw [splitAll_of_notMem (by simp [hblanks, hs]), splitAll_of_notMem hs]
    simp [trimChars_append_left h]
  | some parts =>
    obtain ⟨rfl, hbefore⟩ := eq_append_of_splitFirst hs
    have hfront : sep ∉ blanks ++ parts.1 := by simp [hblanks, hbefore]
    rw [← List.append_assoc, splitAll_append, splitAll_append, splitAll_of_notMem hfront,
      splitAll_of_notMem hbefore]
    simp [trimChars_append_left h]

theorem map_trimChars_splitAll_right (hsep : isBlank sep = false)
    (h : ∀ b ∈ blanks, isBlank b = true) (cs : List Char) :
    (splitAll sep (cs ++ blanks)).map trimChars = (splitAll sep cs).map trimChars := by
  have hblanks := notMem_of_isBlank hsep h
  cases hs : splitLast sep cs with
  | none =>
    rw [splitLast_eq_none_iff] at hs
    rw [splitAll_of_notMem (by simp [hblanks, hs]), splitAll_of_notMem hs]
    simp [trimChars_append_right h]
  | some parts =>
    obtain ⟨rfl, hafter⟩ := splitLast_eq_some_iff.1 hs
    have hbehind : sep ∉ parts.2 ++ blanks := by simp [hblanks, hafter]
    rw [List.append_assoc, List.cons_append, splitAll_append, splitAll_append,
      splitAll_of_notMem hbehind, splitAll_of_notMem hafter]
    simp [trimChars_append_right h]

theorem map_trimChars_splitAll_trimChars (hsep : isBlank sep = false) (cs : List Char) :
    (splitAll sep (trimChars cs)).map trimChars = (splitAll sep cs).map trimChars := by
  obtain ⟨front, behind, hcs, hfront, hbehind⟩ := exists_eq_append_trimChars cs
  conv_rhs => rw [hcs]
  rw [map_trimChars_splitAll_left hsep hfront, map_trimChars_splitAll_right hsep hbehind]

end Blanks

end RequestRouting.Text
