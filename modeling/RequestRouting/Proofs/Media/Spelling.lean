import Mathlib.Data.List.TakeWhile
import RequestRouting.Media.Reader
import RequestRouting.Proofs.Outcome
import RequestRouting.Proofs.Text.Splitting

/-! How media types are written: two tokens around a slash, and parameters behind semicolons. A
value is a token, which may be empty at the end of the text only, or stands in quotes. Main
statement: reading gives exactly the media type that a text spells. -/
namespace RequestRouting.MediaType

def IsTokens (cs : List Char) : Prop := ∀ c ∈ cs, Text.isTokenChar c = true

instance : DecidablePred IsTokens :=
  fun cs => decidable_of_iff (cs.all Text.isTokenChar = true) List.all_eq_true

def IsSpaces (cs : List Char) : Prop := ∀ c ∈ cs, c = ' '

/-- What stands between quotes. Only its first character may be a quote itself. -/
inductive IsQuotedText : List Char → Prop
  | mk {c : Char} {cs : List Char} (first : isQuotable c = true)
      (others : ∀ d ∈ cs, isQuotable d = true ∧ d ≠ '"') : IsQuotedText (c :: cs)

inductive Spells : List Char → WrittenParameter → Prop
  | token {name value : List Char} (filled : name ≠ []) (names : IsTokens name)
      (values : IsTokens value) : Spells (name ++ '=' :: value) ⟨name, value, false⟩
  | quoted {name value spaces : List Char} (filled : name ≠ []) (names : IsTokens name)
      (values : IsQuotedText value) (behind : IsSpaces spaces) :
      Spells (name ++ '=' :: '"' :: (value ++ '"' :: spaces)) ⟨name, value, true⟩

inductive SpellsAll : List Char → List WrittenParameter → Prop
  | none {spaces : List Char} (before : IsSpaces spaces) : SpellsAll spaces []
  | last {spaces text : List Char} {p : WrittenParameter} (before : IsSpaces spaces)
      (one : Spells text p) : SpellsAll (spaces ++ text) [p]
  | more {spaces text rest : List Char} {p : WrittenParameter} {ps : List WrittenParameter}
      (before : IsSpaces spaces) (one : Spells text p) (filled : p.value ≠ [])
      (others : SpellsAll rest ps) : SpellsAll (spaces ++ (text ++ ';' :: rest)) (p :: ps)

/-- What is left to read behind a value: nothing, or what follows a semicolon. -/
inductive Continues : List Char → List Char → Prop
  | done : Continues [] []
  | semicolon (rest : List Char) : Continues (';' :: rest) rest

section Values

variable {cs value rest tail spaces : List Char}

theorem IsTokens.notMem {sign : Char} (h : IsTokens cs) (hsign : Text.isTokenChar sign = false) :
    sign ∉ cs := by
  intro hmem
  rw [h sign hmem] at hsign
  contradiction

theorem IsTokens.takeWhile_append {sign : Char} (h : IsTokens value)
    (hsign : Text.isTokenChar sign = false) (cs : List Char) :
    (value ++ sign :: cs).takeWhile Text.isTokenChar = value :=
  Text.takeWhile_append_of_stop h (by simpa using hsign)

theorem IsTokens.dropWhile_append {sign : Char} (h : IsTokens value)
    (hsign : Text.isTokenChar sign = false) (cs : List Char) :
    (value ++ sign :: cs).dropWhile Text.isTokenChar = sign :: cs :=
  Text.dropWhile_append_of_stop h (by simpa using hsign)

theorem isTokens_takeWhile (cs : List Char) : IsTokens (cs.takeWhile Text.isTokenChar) :=
  fun _ => List.mem_takeWhile_imp

theorem isSpaces_nil : IsSpaces [] := fun _ hc => absurd hc List.not_mem_nil

theorem isSpaces_takeWhile (cs : List Char) : IsSpaces (cs.takeWhile (· == ' ')) := by
  intro c hc
  simpa using List.mem_takeWhile_imp hc

theorem Continues.head (h : Continues tail rest) {c : Char} (hc : tail.head? = some c) :
    c = ';' := by
  cases h with
  | done => contradiction
  | semicolon rest => exact (Option.some.inj hc).symm

theorem readQuoted_eq_ok :
    readQuoted cs = .ok (value, rest) ↔ IsQuotedText value ∧ cs = value ++ '"' :: rest := by
  constructor
  · intro h
    cases cs with
    | nil => contradiction
    | cons c cs =>
      rw [readQuoted] at h
      split at h
      · contradiction
      · next hfirst =>
        dsimp only at h
        split at h
        · contradiction
        · next after hafter =>
          obtain ⟨rfl, rfl⟩ := Prod.mk.inj (Except.ok.inj h)
          refine ⟨.mk (by simpa using hfirst) fun d hd => ?_, ?_⟩
          · simpa using List.mem_takeWhile_imp hd
          · rw [List.cons_append, ← hafter, List.takeWhile_append_dropWhile]
        · contradiction
  · rintro ⟨@⟨c, cs, hfirst, hothers⟩, rfl⟩
    have hinside : ∀ d ∈ cs, (isQuotable d && d != '"') = true := by
      intro d hd
      simpa using hothers d hd
    have hstop : ∀ d, ('"' :: rest).head? = some d → (isQuotable d && d != '"') = false := by
      simp
    rw [List.cons_append, readQuoted]
    simp only [hfirst, Text.takeWhile_append_of_stop hinside hstop,
      Text.dropWhile_append_of_stop hinside hstop]
    rfl

theorem readValue_of_tokens (hvalue : IsTokens value) (hfilled : tail = [] ∨ value ≠ [])
    (htail : Continues tail rest) : readValue (value ++ tail) = .ok (value, false, rest) := by
  have hstop : ∀ c, tail.head? = some c → Text.isTokenChar c = false := by
    intro c hc
    rw [htail.head hc]
    decide
  have hquote : ∀ cs, value ++ tail ≠ '"' :: cs := by
    rintro cs heq
    cases value with
    | nil => exact absurd (htail.head (congrArg List.head? heq)) (by decide)
    | cons c value =>
      rw [(List.cons.inj heq).1] at hvalue
      exact hvalue.notMem (by decide) List.mem_cons_self
  unfold readValue
  split
  · next cs heq => exact absurd heq (hquote cs)
  · rw [Text.takeWhile_append_of_stop hvalue hstop, Text.dropWhile_append_of_stop hvalue hstop]
    cases htail with
    | done => rfl
    | semicolon rest => simp [hfilled.resolve_left (List.cons_ne_nil _ _)]

theorem dropWhile_spaces (hspaces : IsSpaces spaces)
    (htail : ∀ c, tail.head? = some c → c ≠ ' ') : (spaces ++ tail).dropWhile (· == ' ') = tail :=
  Text.dropWhile_append_of_stop (by simpa [IsSpaces] using hspaces) (by simpa using htail)

theorem readValue_of_quoted (hvalue : IsQuotedText value) (hspaces : IsSpaces spaces)
    (htail : Continues tail rest) :
    readValue ('"' :: (value ++ '"' :: (spaces ++ tail))) = .ok (value, true, rest) := by
  have hstop : ∀ c, tail.head? = some c → c ≠ ' ' := by
    intro c hc
    rw [htail.head hc]
    decide
  rw [readValue, readQuoted_eq_ok.2 ⟨hvalue, rfl⟩, Outcome.ok_bind]
  dsimp only
  rw [dropWhile_spaces hspaces hstop]
  cases htail <;> rfl

theorem readValue_eq_ok {quoted : Bool} (h : readValue cs = .ok (value, quoted, rest)) :
    ∃ tail, Continues tail rest ∧
      (quoted = false ∧ IsTokens value ∧ (tail = [] ∨ value ≠ []) ∧ cs = value ++ tail ∨
        quoted = true ∧ IsQuotedText value ∧
          ∃ spaces, IsSpaces spaces ∧ cs = '"' :: (value ++ '"' :: (spaces ++ tail))) := by
  unfold readValue at h
  split at h
  · next cs =>
    obtain ⟨⟨text, behind⟩, hquoted, hrest⟩ := Outcome.bind_eq_ok.1 h
    obtain ⟨htext, rfl⟩ := readQuoted_eq_ok.1 hquoted
    dsimp only at hrest
    have hsplit := List.takeWhile_append_dropWhile (p := (· == ' ')) (l := behind)
    split at hrest
    · next hdrop =>
      obtain ⟨rfl, rfl, rfl⟩ := by simpa [pure, Except.pure] using hrest
      rw [hdrop] at hsplit
      exact ⟨[], .done, .inr ⟨rfl, htext, _, isSpaces_takeWhile behind, by rw [hsplit]⟩⟩
    · next after hdrop =>
      obtain ⟨rfl, rfl, rfl⟩ := by simpa [pure, Except.pure] using hrest
      rw [hdrop] at hsplit
      exact ⟨_, .semicolon _, .inr ⟨rfl, htext, _, isSpaces_takeWhile behind, by rw [hsplit]⟩⟩
    · contradiction
  · dsimp only at h
    have hsplit := List.takeWhile_append_dropWhile (p := Text.isTokenChar) (l := cs)
    split at h
    · next hdrop =>
      obtain ⟨rfl, rfl, rfl⟩ := by simpa using h
      rw [hdrop] at hsplit
      exact ⟨[], .done, .inl ⟨rfl, isTokens_takeWhile cs, .inl rfl, hsplit.symm⟩⟩
    · next after hdrop =>
      split at h
      · contradiction
      · next hfilled =>
        obtain ⟨rfl, rfl, rfl⟩ := by simpa using h
        rw [hdrop] at hsplit
        exact ⟨_, .semicolon _, .inl ⟨rfl, isTokens_takeWhile cs,
          .inr (mt List.isEmpty_iff.2 hfilled), hsplit.symm⟩⟩
    · contradiction

end Values

section Sequences

variable {cs name rest spaces tail text : List Char} {p : WrittenParameter}
  {ps : List WrittenParameter} {fuel : Nat}

theorem readParameters_of_name (hspaces : IsSpaces spaces) (hfilled : name ≠ [])
    (hname : IsTokens name) (fuel : Nat) (cs : List Char) :
    readParameters (fuel + 1) (spaces ++ (name ++ '=' :: cs)) = do
      let (value, quoted, rest) ← readValue cs
      let others ← readParameters fuel rest
      return ⟨name, value, quoted⟩ :: others := by
  have hsign : Text.isTokenChar '=' = false := by decide
  have hskip : ∀ c, (name ++ '=' :: cs).head? = some c → c ≠ ' ' := by
    obtain ⟨d, name, rfl⟩ := List.exists_cons_of_ne_nil hfilled
    rintro c hc rfl
    obtain rfl : d = ' ' := by simpa using hc
    exact hname.notMem (by decide) List.mem_cons_self
  rw [readParameters, dropWhile_spaces hspaces hskip]
  split
  · next hempty => simp at hempty
  · simp only [hname.takeWhile_append hsign, hname.dropWhile_append hsign, List.isEmpty_iff,
      hfilled, if_false]

theorem readParameters_of_spells (hspaces : IsSpaces spaces) (hone : Spells text p)
    (hfilled : tail = [] ∨ p.value ≠ []) (htail : Continues tail rest) (fuel : Nat) :
    readParameters (fuel + 1) (spaces ++ (text ++ tail)) =
      (readParameters fuel rest >>= fun others => pure (p :: others)) := by
  cases hone with
  | token hname hnames hvalue =>
    rw [List.append_assoc, List.cons_append, readParameters_of_name hspaces hname hnames,
      readValue_of_tokens hvalue hfilled htail]
    rfl
  | quoted hname hnames hvalue hbehind =>
    rw [List.append_assoc, List.cons_append, List.cons_append, List.append_assoc, List.cons_append,
      readParameters_of_name hspaces hname hnames, readValue_of_quoted hvalue hbehind htail]
    rfl

theorem readParameters_of_spaces (hspaces : IsSpaces spaces) (fuel : Nat) :
    readParameters fuel spaces = .ok [] := by
  cases fuel with
  | zero => rfl
  | succ fuel =>
    have hdrop : spaces.dropWhile (· == ' ') = [] := by
      rw [List.dropWhile_eq_nil_iff]
      exact fun c hc => beq_iff_eq.2 (hspaces c hc)
    rw [readParameters, hdrop]

theorem SpellsAll.readParameters_eq (h : SpellsAll cs ps) (hfuel : cs.length < fuel) :
    readParameters fuel cs = .ok ps := by
  induction h generalizing fuel with
  | none hspaces => exact readParameters_of_spaces hspaces fuel
  | @last spaces text p hspaces hone =>
    obtain ⟨fuel, rfl⟩ := Nat.exists_eq_add_one_of_ne_zero (Nat.ne_zero_of_lt hfuel)
    rw [← List.append_nil text, readParameters_of_spells hspaces hone (.inl rfl) .done,
      readParameters_of_spaces isSpaces_nil]
    rfl
  | more hspaces hone hfilled _ ih =>
    obtain ⟨fuel, rfl⟩ := Nat.exists_eq_add_one_of_ne_zero (Nat.ne_zero_of_lt hfuel)
    simp only [List.length_append, List.length_cons] at hfuel
    rw [readParameters_of_spells hspaces hone (.inr hfilled) (.semicolon _), ih (by omega)]
    rfl

theorem spells_of_readValue {value : List Char} {quoted : Bool} (hfilled : name ≠ [])
    (hname : IsTokens name) (h : readValue cs = .ok (value, quoted, rest)) :
    ∃ text tail, Spells text ⟨name, value, quoted⟩ ∧ Continues tail rest ∧
      (tail = [] ∨ value ≠ []) ∧ name ++ '=' :: cs = text ++ tail := by
  obtain ⟨tail, htail, ⟨rfl, hvalue, hrest, rfl⟩ | ⟨rfl, hvalue, spaces, hspaces, rfl⟩⟩ :=
    readValue_eq_ok h
  · exact ⟨_, tail, .token hfilled hname hvalue, htail, hrest, by simp⟩
  · have hne : value ≠ [] := by
      obtain ⟨-, -⟩ := hvalue
      exact List.cons_ne_nil _ _
    exact ⟨_, tail, .quoted hfilled hname hvalue hspaces, htail, .inr hne, by simp⟩

theorem spellsAll_of_readParameters (h : readParameters fuel cs = .ok ps)
    (hfuel : cs.length < fuel) : SpellsAll cs ps := by
  induction fuel generalizing cs ps with
  | zero => contradiction
  | succ fuel ih =>
    have hspaces := isSpaces_takeWhile cs
    have hcs := List.takeWhile_append_dropWhile (p := (· == ' ')) (l := cs)
    rw [readParameters] at h
    split at h
    · next hempty =>
      rw [hempty, List.append_nil] at hcs
      rw [← Except.ok.inj h, ← hcs]
      exact .none hspaces
    · dsimp only at h
      generalize hbehind : cs.dropWhile (· == ' ') = behind at h hcs
      have hsplit := List.takeWhile_append_dropWhile (p := Text.isTokenChar) (l := behind)
      have hname := isTokens_takeWhile behind
      generalize behind.takeWhile Text.isTokenChar = name at h hsplit hname
      split at h
      · contradiction
      · next after hafter =>
        split at h
        · contradiction
        · next hfilled =>
          obtain ⟨⟨value, quoted, rest⟩, hvalue, h⟩ := Outcome.bind_eq_ok.1 h
          obtain ⟨others, hothers, h⟩ := Outcome.bind_eq_ok.1 h
          obtain rfl := Outcome.pure_eq_ok.1 h
          obtain ⟨text, tail, hone, htail, hvalueFilled, htext⟩ :=
            spells_of_readValue (mt List.isEmpty_iff.2 hfilled) hname hvalue
          rw [← hafter, hsplit] at htext
          rw [← hcs, htext] at hfuel ⊢
          cases htail with
          | done =>
            rw [readParameters_of_spaces isSpaces_nil] at hothers
            rw [← Except.ok.inj hothers, List.append_nil]
            exact .last hspaces hone
          | semicolon rest =>
            simp only [List.length_append, List.length_cons] at hfuel
            exact .more hspaces hone (hvalueFilled.resolve_left (List.cons_ne_nil _ _))
              (ih hothers (by omega))
      · contradiction

theorem readMainType_eq_ok : readMainType cs = .ok (name, rest) ↔
    cs = name ++ '/' :: rest ∧ name ≠ [] ∧ IsTokens name := by
  constructor
  · intro h
    unfold readMainType at h
    dsimp only at h
    split at h
    · contradiction
    · next after hafter =>
      split at h
      · contradiction
      · next hne =>
        obtain ⟨rfl, rfl⟩ := Prod.mk.inj (Except.ok.inj h)
        refine ⟨?_, mt List.isEmpty_iff.2 hne, isTokens_takeWhile cs⟩
        rw [← hafter, List.takeWhile_append_dropWhile]
    · contradiction
  · rintro ⟨rfl, hne, htoken⟩
    have hsign : Text.isTokenChar '/' = false := by decide
    simp only [readMainType, htoken.takeWhile_append hsign, htoken.dropWhile_append hsign,
      List.isEmpty_iff, hne, if_false]

theorem readSubType_eq_ok {behind : Option (List Char)} : readSubType cs = .ok (name, behind) ↔
    IsTokens name ∧ (behind = none ∧ cs = name ∨
      ∃ text, behind = some text ∧ name ≠ [] ∧ cs = name ++ ';' :: text) := by
  constructor
  · intro h
    have hsplit := List.takeWhile_append_dropWhile (p := Text.isTokenChar) (l := cs)
    unfold readSubType at h
    dsimp only at h
    split at h
    · next hafter =>
      obtain ⟨rfl, rfl⟩ := Prod.mk.inj (Except.ok.inj h)
      rw [hafter, List.append_nil] at hsplit
      exact ⟨isTokens_takeWhile cs, .inl ⟨rfl, hsplit.symm⟩⟩
    · next after hafter =>
      split at h
      · contradiction
      · next hne =>
        obtain ⟨rfl, rfl⟩ := Prod.mk.inj (Except.ok.inj h)
        rw [hafter] at hsplit
        exact ⟨isTokens_takeWhile cs,
          .inr ⟨after, rfl, mt List.isEmpty_iff.2 hne, hsplit.symm⟩⟩
    · contradiction
  · rintro ⟨htoken, ⟨rfl, rfl⟩ | ⟨text, rfl, hne, rfl⟩⟩
    · simp only [readSubType, List.takeWhile_eq_self_iff.2 htoken,
        List.dropWhile_eq_nil_iff.2 htoken]
    · have hsign : Text.isTokenChar ';' = false := by decide
      simp only [readSubType, htoken.takeWhile_append hsign, htoken.dropWhile_append hsign,
        List.isEmpty_iff, hne, if_false]

end Sequences

inductive SpellsMedia : List Char → Mime → Prop
  | bare {main sub : List Char} (filled : main ≠ []) (types : IsTokens main)
      (subtypes : IsTokens sub) :
      SpellsMedia (main ++ '/' :: sub) ⟨String.ofList main, String.ofList sub, []⟩
  | parametric {main sub text : List Char} {ps : List WrittenParameter} (filled : main ≠ [])
      (types : IsTokens main) (subFilled : sub ≠ []) (subtypes : IsTokens sub)
      (others : SpellsAll text ps) :
      SpellsMedia (main ++ '/' :: (sub ++ ';' :: text))
        ⟨String.ofList main, String.ofList sub, parameterValues text ps⟩

theorem SpellsMedia.ne_nil {cs : List Char} {mime : Mime} (h : SpellsMedia cs mime) : cs ≠ [] := by
  cases h <;> simp

theorem readChars_of_semicolon {main sub : List Char} (hfilled : main ≠ []) (htypes : IsTokens main)
    (hsubFilled : sub ≠ []) (hsubtypes : IsTokens sub) (text : List Char) :
    readChars (main ++ '/' :: (sub ++ ';' :: text)) =
      (readParameters (text.length + 1) text >>= fun ps =>
        pure ⟨String.ofList main, String.ofList sub, parameterValues text ps⟩) := by
  rw [readChars, readMainType_eq_ok.2 ⟨rfl, hfilled, htypes⟩, Outcome.ok_bind]
  dsimp only
  rw [readSubType_eq_ok.2 ⟨hsubtypes, .inr ⟨_, rfl, hsubFilled, rfl⟩⟩, Outcome.ok_bind]

theorem readChars_eq_ok {cs : List Char} {mime : Mime} :
    readChars cs = .ok mime ↔ SpellsMedia cs mime := by
  constructor
  · intro h
    obtain ⟨⟨main, behind⟩, hmain, hrest⟩ := Outcome.bind_eq_ok.1 h
    obtain ⟨⟨sub, rest⟩, hsub, hmime⟩ := Outcome.bind_eq_ok.1 hrest
    obtain ⟨rfl, hfilled, htypes⟩ := readMainType_eq_ok.1 hmain
    obtain ⟨hsubtypes, ⟨rfl, rfl⟩ | ⟨text, rfl, hsubFilled, rfl⟩⟩ := readSubType_eq_ok.1 hsub
    · rw [← Outcome.pure_eq_ok.1 hmime]
      exact .bare hfilled htypes hsubtypes
    · rw [readChars_of_semicolon hfilled htypes hsubFilled hsubtypes] at h
      obtain ⟨ps, hps, hm⟩ := Outcome.bind_eq_ok.1 h
      rw [← Outcome.pure_eq_ok.1 hm]
      exact .parametric hfilled htypes hsubFilled hsubtypes
        (spellsAll_of_readParameters hps (Nat.lt_succ_self _))
  · intro h
    cases h with
    | bare hfilled htypes hsubtypes =>
      rw [readChars, readMainType_eq_ok.2 ⟨rfl, hfilled, htypes⟩, Outcome.ok_bind]
      dsimp only
      rw [readSubType_eq_ok.2 ⟨hsubtypes, .inl ⟨rfl, rfl⟩⟩]
      rfl
    | parametric hfilled htypes hsubFilled hsubtypes hothers =>
      rw [readChars_of_semicolon hfilled htypes hsubFilled hsubtypes,
        hothers.readParameters_eq (Nat.lt_succ_self _)]
      rfl

end RequestRouting.MediaType
