import Mathlib.Tactic.MkIffOfInductiveProp
import RequestRouting.Proofs.Placeholder.Template

/-! Where a placeholder is closed. Main statement: what is split off at the closing brace is the
text before the first brace before which as many placeholders are closed as are opened. -/
namespace RequestRouting.Placeholder

def openings : List Char → Nat
  | '$' :: '\x7b' :: cs => openings cs + 1
  | _ :: cs => openings cs
  | [] => 0

/-- In a text that begins inside `depth` placeholders, they and all that it opens are closed. -/
def Balances (depth : Nat) (before : List Char) : Prop :=
  depth + openings before = before.count '\x7d'

/-- A closing brace behind the text would close none of the placeholders around it or in it, and it
would be the first one of that kind. -/
@[mk_iff] structure IsBody (depth : Nat) (body : List Char) : Prop where
  balances : Balances depth body
  first : ∀ before, before ++ ['\x7d'] <+: body → ¬ Balances depth before

variable {depth : Nat} {body rest cs : List Char} {c : Char}

theorem openings_cons (h : ¬ ['$', '\x7b'] <+: c :: cs) : openings (c :: cs) = openings cs := by
  rw [openings]
  rintro after rfl rfl
  exact h (List.prefix_append ['$', '\x7b'] after)

theorem balances_nil : Balances depth [] ↔ depth = 0 := Iff.rfl

theorem balances_open : Balances depth ('$' :: '\x7b' :: cs) ↔ Balances (depth + 1) cs := by
  have hcount : ('$' :: '\x7b' :: cs).count '\x7d' = cs.count '\x7d' := rfl
  unfold Balances
  rw [openings, hcount]
  omega

theorem balances_close : Balances (depth + 1) ('\x7d' :: cs) ↔ Balances depth cs := by
  unfold Balances
  rw [openings_cons (by simp), List.count_cons_self]
  omega

theorem balances_cons (hopen : ¬ ['$', '\x7b'] <+: c :: cs) (hclose : c ≠ '\x7d') :
    Balances depth (c :: cs) ↔ Balances depth cs := by
  unfold Balances
  rw [openings_cons hopen, List.count_cons_of_ne hclose]

theorem forall_brace_cons {P : List Char → Prop} :
    (∀ before, before ++ ['\x7d'] <+: c :: cs → P before) ↔
      (c = '\x7d' → P []) ∧ ∀ before, before ++ ['\x7d'] <+: cs → P (c :: before) := by
  constructor
  · intro h
    refine ⟨?_, fun before hbefore => h (c :: before) ?_⟩
    · rintro rfl
      exact h [] (List.prefix_append ['\x7d'] cs)
    · exact (List.prefix_cons_inj c).2 hbefore
  · rintro ⟨hfront, hbehind⟩ before hbefore
    cases before with
    | nil => exact hfront (List.cons_prefix_cons.1 hbefore).1.symm
    | cons d before =>
      obtain ⟨rfl, hrest⟩ := List.cons_prefix_cons.1 hbefore
      exact hbehind before hrest

theorem isBody_nil : IsBody depth [] ↔ depth = 0 := by
  constructor
  · intro h
    exact balances_nil.1 h.balances
  · intro h
    refine ⟨balances_nil.2 h, fun before hbefore => ?_⟩
    simp at hbefore

theorem isBody_open : IsBody depth ('$' :: '\x7b' :: body) ↔ IsBody (depth + 1) body := by
  have hfirst : (∀ before, before ++ ['\x7d'] <+: '$' :: '\x7b' :: body → ¬ Balances depth before) ↔
      ∀ before, before ++ ['\x7d'] <+: body → ¬ Balances (depth + 1) before := by
    rw [forall_brace_cons, forall_brace_cons]
    simp only [balances_open]
    simp
  rw [isBody_iff, isBody_iff, balances_open, hfirst]

theorem isBody_close : IsBody (depth + 1) ('\x7d' :: body) ↔ IsBody depth body := by
  have hfirst : (∀ before, before ++ ['\x7d'] <+: '\x7d' :: body → ¬ Balances (depth + 1) before) ↔
      ∀ before, before ++ ['\x7d'] <+: body → ¬ Balances depth before := by
    rw [forall_brace_cons, and_iff_right]
    · simp only [balances_close]
    · intro _ h
      exact absurd (balances_nil.1 h) (Nat.succ_ne_zero depth)
  rw [isBody_iff, isBody_iff, balances_close, hfirst]

theorem not_isBody_close : ¬ IsBody 0 ('\x7d' :: body) := by
  intro h
  exact h.first [] (List.prefix_append ['\x7d'] body) (balances_nil.2 rfl)

theorem isBody_cons (hopen : ¬ ['$', '\x7b'] <+: c :: body) (hclose : c ≠ '\x7d') :
    IsBody depth (c :: body) ↔ IsBody depth body := by
  have hfirst : (∀ before, before ++ ['\x7d'] <+: c :: body → ¬ Balances depth before) ↔
      ∀ before, before ++ ['\x7d'] <+: body → ¬ Balances depth before := by
    rw [forall_brace_cons, and_iff_right fun hc => absurd hc hclose]
    refine forall₂_congr fun before hbefore => not_congr (balances_cons (fun h => hopen ?_) hclose)
    exact h.trans ((List.prefix_cons_inj c).2 ((List.prefix_append _ _).trans hbefore))
  rw [isBody_iff, isBody_iff, balances_cons hopen hclose, hfirst]

theorem isBody_of_splitAtClosing (h : splitAtClosing depth cs = some (body, rest)) :
    IsBody depth body := by
  fun_induction splitAtClosing depth cs generalizing body rest with
  | case1 => contradiction
  | case2 depth cs ih =>
    obtain ⟨⟨inside, _⟩, hsplit, heq⟩ := Option.map_eq_some_iff.1 h
    obtain ⟨rfl, rfl⟩ := Prod.mk.inj heq
    exact isBody_open.2 (ih hsplit)
  | case3 cs =>
    obtain ⟨rfl, rfl⟩ := Prod.mk.inj (Option.some.inj h)
    exact isBody_nil.2 rfl
  | case4 depth cs ih =>
    obtain ⟨⟨inside, _⟩, hsplit, heq⟩ := Option.map_eq_some_iff.1 h
    obtain ⟨rfl, rfl⟩ := Prod.mk.inj heq
    exact isBody_close.2 (ih hsplit)
  | case5 depth c cs hopen hclose hdeeper ih =>
    obtain ⟨⟨inside, _⟩, hsplit, heq⟩ := Option.map_eq_some_iff.1 h
    obtain ⟨rfl, rfl⟩ := Prod.mk.inj heq
    have hplain : c ≠ '\x7d' := by
      cases depth with
      | zero => exact hclose rfl
      | succ depth => exact hdeeper depth rfl
    refine (isBody_cons ?_ hplain).2 (ih hsplit)
    rintro ⟨after, hafter⟩
    obtain ⟨rfl, rfl⟩ := List.cons.inj hafter
    exact hopen _ rfl (eq_append_of_splitAtClosing hsplit)

theorem not_opening_append (h : ¬ ['$', '\x7b'] <+: c :: body) (rest : List Char) :
    ¬ ['$', '\x7b'] <+: c :: (body ++ '\x7d' :: rest) := by
  rintro ⟨after, heq⟩
  cases body with
  | nil => simp at heq
  | cons d body =>
    obtain ⟨hc, heq⟩ := List.cons.inj heq
    obtain ⟨hd, -⟩ := List.cons.inj heq
    exact h ⟨body, by rw [← hc, ← hd]; rfl⟩

theorem IsBody.splitAtClosing_eq (h : IsBody depth body) (rest : List Char) :
    splitAtClosing depth (body ++ '\x7d' :: rest) = some (body, rest) := by
  fun_induction openings body generalizing depth with
  | case1 body ih =>
    rw [List.cons_append, List.cons_append, splitAtClosing_open, ih (isBody_open.1 h)]
    rfl
  | case2 c body hplain ih =>
    have hopen : ¬ ['$', '\x7b'] <+: c :: body := by
      rintro ⟨after, hafter⟩
      obtain ⟨rfl, rfl⟩ := List.cons.inj hafter
      exact hplain after rfl rfl
    by_cases hclose : c = '\x7d'
    · subst hclose
      cases depth with
      | zero => exact absurd h not_isBody_close
      | succ depth =>
        rw [List.cons_append, splitAtClosing_close, ih (isBody_close.1 h)]
        rfl
    · rw [List.cons_append, splitAtClosing_literal (not_opening_append hopen rest) hclose,
        ih ((isBody_cons hopen hclose).1 h)]
      rfl
  | case3 =>
    rw [isBody_nil.1 h]
    rfl

theorem splitAtClosing_eq_some_iff :
    splitAtClosing depth cs = some (body, rest) ↔
      cs = body ++ '\x7d' :: rest ∧ IsBody depth body := by
  constructor
  · intro h
    exact ⟨eq_append_of_splitAtClosing h, isBody_of_splitAtClosing h⟩
  · rintro ⟨rfl, hbody⟩
    exact hbody.splitAtClosing_eq rest

end RequestRouting.Placeholder
