import Mathlib.Data.List.Infix
import RequestRouting.Proofs.Placeholder.Balance
import RequestRouting.Proofs.Text.Splitting

/-! Flat texts: each placeholder is closed by the first brace behind it, and holds neither another
placeholder nor a default. Main statements: they are read as they look, from left to right, and
their placeholders name the keys that stand in them. -/
namespace RequestRouting.Placeholder

def IsName (cs : List Char) : Prop := ':' ∉ cs ∧ ¬ ['$', '\x7b'] <:+: cs

instance : DecidablePred IsName := fun cs =>
  inferInstanceAs (Decidable (':' ∉ cs ∧ ¬ ['$', '\x7b'] <:+: cs))

def Flat (cs : List Char) : Prop :=
  ∀ after, '$' :: '\x7b' :: after <:+ cs →
    '\x7d' ∈ after ∧ IsName (after.takeWhile (· ≠ '\x7d'))

instance : DecidablePred Flat := fun cs =>
  decidable_of_iff (∀ suffix ∈ cs.tails, ['$', '\x7b'] <+: suffix →
      '\x7d' ∈ suffix.drop 2 ∧ IsName ((suffix.drop 2).takeWhile (· ≠ '\x7d'))) <| by
    simp only [List.mem_tails]
    constructor
    · intro h after hsuffix
      exact h _ hsuffix (List.prefix_append ['$', '\x7b'] after)
    · rintro h suffix hsuffix ⟨after, rfl⟩
      exact h after hsuffix

example : Flat "/$\x7bbase\x7d/$\x7bbase\x7d:8080".toList := by decide

theorem Flat.of_suffix {cs rest : List Char} (h : Flat cs) (hsuffix : rest <:+ cs) : Flat rest := by
  intro after hafter
  exact h after (hafter.trans hsuffix)

theorem takeWhile_append_closing {name : List Char} (hfirst : '\x7d' ∉ name) (rest : List Char) :
    (name ++ '\x7d' :: rest).takeWhile (· ≠ '\x7d') = name := by
  rw [List.takeWhile_append_of_pos]
  · simp
  · intro c hc
    exact decide_eq_true fun heq => hfirst (heq ▸ hc)

theorem Flat.placeholder {name rest : List Char}
    (h : Flat ('$' :: '\x7b' :: (name ++ '\x7d' :: rest))) (hfirst : '\x7d' ∉ name) :
    IsName name ∧ Flat rest := by
  constructor
  · have hname := (h _ List.suffix_rfl).2
    rwa [takeWhile_append_closing hfirst] at hname
  · exact h.of_suffix ⟨'$' :: '\x7b' :: name ++ ['\x7d'], by simp⟩

/-- Flat texts from left to right: characters by themselves, and placeholders with names. -/
inductive ReadsFlat : List Char → Prop
  | nil : ReadsFlat []
  | literal {c : Char} {rest : List Char} (hopen : ¬ ['$', '\x7b'] <+: c :: rest)
      (hrest : ReadsFlat rest) : ReadsFlat (c :: rest)
  | placeholder {name rest : List Char} (hfirst : '\x7d' ∉ name) (hname : IsName name)
      (hrest : ReadsFlat rest) : ReadsFlat ('$' :: '\x7b' :: (name ++ '\x7d' :: rest))

theorem Flat.reads : {cs : List Char} → Flat cs → ReadsFlat cs
  | [], _ => .nil
  | c :: rest, h => by
    by_cases hopen : ['$', '\x7b'] <+: c :: rest
    · obtain ⟨after, heq⟩ := hopen
      have hafter : c :: rest = '$' :: '\x7b' :: after := heq.symm
      rw [hafter] at h ⊢
      have hclosed : '\x7d' ∈ after := (h after List.suffix_rfl).1
      obtain ⟨name, rest', rfl, hfirst⟩ := List.eq_append_cons_of_mem hclosed
      obtain ⟨hname, hrest⟩ := h.placeholder hfirst
      exact .placeholder hfirst hname hrest.reads
    · exact .literal hopen (h.of_suffix (List.suffix_cons c rest)).reads
termination_by cs => cs.length
decreasing_by
  · rw [hafter]
    simp
    omega
  · simp

/-! How flat texts are read. -/

theorem head?_of_not_opening {c : Char} {rest : List Char} (h : ¬ ['$', '\x7b'] <+: c :: rest) :
    ¬ (c = '$' ∧ rest.head? = some '\x7b') := by
  rintro ⟨rfl, hhead⟩
  obtain ⟨rest', rfl⟩ := List.head?_eq_some_iff.1 hhead
  exact h ⟨rest', rfl⟩

section Name

variable {name rest : List Char}

theorem openings_name (hopen : ¬ ['$', '\x7b'] <:+: name) : openings name = 0 := by
  induction name with
  | nil => rfl
  | cons c name ih =>
    rw [List.infix_cons_iff, not_or] at hopen
    rw [openings_cons hopen.1, ih hopen.2]

theorem splitAtClosing_name (hfirst : '\x7d' ∉ name) (hopen : ¬ ['$', '\x7b'] <:+: name) :
    splitAtClosing 0 (name ++ '\x7d' :: rest) = some (name, rest) := by
  apply IsBody.splitAtClosing_eq
  constructor
  · rw [Balances, openings_name hopen, List.count_eq_zero.2 hfirst]
  · intro before hbefore
    exact absurd (hbefore.subset (by simp)) hfirst

theorem pieces_name (hopen : ¬ ['$', '\x7b'] <:+: name) : pieces name = name.map .literal := by
  induction name with
  | nil => rfl
  | cons c name ih =>
    rw [List.infix_cons_iff, not_or] at hopen
    rw [pieces_literal (head?_of_not_opening hopen.1), ih hopen.2]
    rfl

theorem pieces_placeholder (hfirst : '\x7d' ∉ name) (hname : IsName name) :
    pieces ('$' :: '\x7b' :: (name ++ '\x7d' :: rest)) = .reference name :: pieces rest :=
  pieces_reference (splitAtClosing_name hfirst hname.2)

end Name

def Mentions (cs : List Char) (key : String) : Prop :=
  '\x7d' ∉ key.toList ∧ '$' :: '\x7b' :: (key.toList ++ ['\x7d']) <:+: cs

section Mentions

variable {name rest : List Char} {key : String}

theorem not_mentions_nil : ¬ Mentions [] key := by
  rintro ⟨-, hinfix⟩
  simp at hinfix

theorem mentions_cons {c : Char} (hopen : ¬ ['$', '\x7b'] <+: c :: rest) :
    Mentions (c :: rest) key ↔ Mentions rest key := by
  unfold Mentions
  rw [List.infix_cons_iff, or_iff_right]
  intro hprefix
  exact hopen ((List.prefix_append ['$', '\x7b'] _).trans hprefix)

theorem mentions_name_append (hopen : ¬ ['$', '\x7b'] <:+: name) :
    Mentions (name ++ '\x7d' :: rest) key ↔ Mentions rest key := by
  induction name with
  | nil =>
    apply mentions_cons
    rintro ⟨after, heq⟩
    simp at heq
  | cons c name ih =>
    rw [List.infix_cons_iff, not_or] at hopen
    rw [List.cons_append, mentions_cons (not_opening_append hopen.1 rest), ih hopen.2]

theorem mentions_placeholder (hfirst : '\x7d' ∉ name) (hname : IsName name) :
    Mentions ('$' :: '\x7b' :: (name ++ '\x7d' :: rest)) key ↔
      key = String.ofList name ∨ Mentions rest key := by
  have hbrace : ¬ ['$', '\x7b'] <+: '\x7b' :: (name ++ '\x7d' :: rest) := by
    rintro ⟨after, heq⟩
    simp at heq
  have hrest : Mentions ('\x7b' :: (name ++ '\x7d' :: rest)) key ↔ Mentions rest key :=
    (mentions_cons hbrace).trans (mentions_name_append hname.2)
  rw [← hrest]
  unfold Mentions
  rw [List.infix_cons_iff]
  constructor
  · rintro ⟨hkey, ⟨after, heq⟩ | hinfix⟩
    · have hbody : key.toList ++ '\x7d' :: after = name ++ '\x7d' :: rest := by simpa using heq
      rw [← ((Text.append_sep_inj hkey hfirst).1 hbody).1, String.ofList_toList]
      exact .inl rfl
    · exact .inr ⟨hkey, hinfix⟩
  · rintro (rfl | ⟨hkey, hinfix⟩)
    · rw [String.toList_ofList]
      exact ⟨hfirst, .inl ⟨rest, by simp⟩⟩
    · exact ⟨hkey, .inr hinfix⟩

end Mentions

end RequestRouting.Placeholder
