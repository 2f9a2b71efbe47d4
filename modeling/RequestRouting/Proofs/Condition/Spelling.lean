import RequestRouting.Condition.NameValue
import RequestRouting.Proofs.Outcome
import RequestRouting.Proofs.Text.Character
import RequestRouting.Proofs.Text.Splitting

/-! How expressions are spelled. A text has one of four forms, told apart by the first `!=`, the
first equals sign and an exclamation mark in front. Blanks around the text, its name and its value
do not count. An expression that is written out reads back, unless its name ends in an exclamation
mark, which the equals sign behind it takes for itself. -/
namespace RequestRouting.NameValue

open Text (trimChars IsTrimmed)

abbrev Parts := List Char × Option (List Char) × Bool

namespace Parts

def written : Parts → List Char
  | (name, some value, true) => name ++ '!' :: '=' :: value
  | (name, some value, false) => name ++ '=' :: value
  | (name, none, true) => '!' :: name
  | (name, none, false) => name

/-- No sign in the parts stands before the one that separates them. -/
inductive Separable : Parts → Prop
  | unequal {name value : List Char} (hname : ¬ ['!', '='] <:+: name) :
    Separable (name, some value, true)
  | equal {name value : List Char} (hname : '=' ∉ name)
    (hpair : ¬ ['!', '='] <:+: name ++ '=' :: value) : Separable (name, some value, false)
  | absent {name : List Char} (hname : '=' ∉ name) : Separable (name, none, true)
  | present {name : List Char} (hname : '=' ∉ name) (hmark : name.head? ≠ some '!') :
    Separable (name, none, false)

def trimmed (parts : Parts) : Parts := (trimChars parts.1, parts.2.1.map trimChars, parts.2.2)

def expression (parts : Parts) : NameValue where
  name := String.ofList (trimChars parts.1)
  value := parts.2.1.map fun value => String.ofList (trimChars value)
  negated := parts.2.2

end Parts

structure IsName (name : List Char) : Prop where
  nonempty : name ≠ []
  unmarked : name.head? ≠ some '!'

section Reading

variable {cs : List Char} {parts : Parts} {kind : ExpressionKind} {text : String} {e : NameValue}

theorem pair_not_isInfix (h : '=' ∉ cs) : ¬ ['!', '='] <:+: cs := by
  intro hpair
  exact h (hpair.subset (by simp))

theorem written_splitChars (cs : List Char) :
    Parts.written (splitChars cs) = cs ∧ Parts.Separable (splitChars cs) := by
  unfold splitChars
  split
  · next name value hsplit =>
    obtain ⟨rfl, hname⟩ := Text.eq_append_of_splitFirstPair hsplit
    exact ⟨rfl, .unequal hname⟩
  next hpair =>
  rw [Text.splitFirstPair_eq_none_iff] at hpair
  split
  · next name value hsplit =>
    obtain ⟨rfl, hname⟩ := Text.eq_append_of_splitFirst hsplit
    exact ⟨rfl, .equal hname hpair⟩
  next hequals =>
  rw [Text.splitFirst_eq_none_iff] at hequals
  split
  · exact ⟨rfl, .absent (by simpa using hequals)⟩
  · next hmark =>
    refine ⟨rfl, .present hequals fun hhead => ?_⟩
    obtain ⟨rest, rfl⟩ := List.head?_eq_some_iff.1 hhead
    exact hmark rest rfl

theorem splitChars_of_notMem (h : '=' ∉ cs) :
    splitChars cs = if cs.head? = some '!' then (cs.tail, none, true) else (cs, none, false) := by
  unfold splitChars
  rw [Text.splitFirstPair_eq_none_iff.2 (pair_not_isInfix h), Text.splitFirst_eq_none_iff.2 h]
  cases cs with
  | nil => rfl
  | cons c cs =>
    by_cases hc : c = '!'
    · simp [hc]
    · simp [hc]

theorem splitChars_written (h : parts.Separable) : splitChars parts.written = parts := by
  cases h with
  | unequal hname =>
    unfold splitChars
    rw [Parts.written, Text.splitFirstPair_append (by decide) hname]
  | equal hname hpair =>
    unfold splitChars
    rw [Parts.written, Text.splitFirstPair_eq_none_iff.2 hpair, Text.splitFirst_append hname]
  | absent hname =>
    rw [Parts.written, splitChars_of_notMem (by simpa using hname)]
    rfl
  | present hname hmark => rw [Parts.written, splitChars_of_notMem hname, if_neg hmark]

theorem isName_iff {name : List Char} :
    IsName name ↔ (name.isEmpty || name.head? == some '!') = false := by
  rw [Bool.or_eq_false_iff, List.isEmpty_eq_false_iff, beq_eq_false_iff_ne]
  exact ⟨fun h => ⟨h.nonempty, h.unmarked⟩, fun h => ⟨h.1, h.2⟩⟩

theorem parse_eq_ok : parse kind text = .ok e ↔ ∃ parts : Parts,
    trimChars text.toList = parts.written ∧ parts.Separable ∧ IsName (trimChars parts.1) ∧
      e = parts.expression := by
  have hread : parse kind text = .ok e ↔
      IsName (trimChars (splitChars (trimChars text.toList)).1) ∧
        e = Parts.expression (splitChars (trimChars text.toList)) := by
    unfold parse parse? Parts.expression
    obtain ⟨name, value, negated⟩ := splitChars (trimChars text.toList)
    rw [isName_iff]
    dsimp only
    cases (trimChars name).isEmpty || (trimChars name).head? == some '!' with
    | false =>
      rw [if_neg Bool.false_ne_true, Except.ok.injEq, eq_self_iff_true, true_and]
      exact eq_comm
    | true =>
      rw [if_pos rfl]
      simp
  rw [hread]
  constructor
  · rintro ⟨hname, rfl⟩
    obtain ⟨hwritten, hseparable⟩ := written_splitChars (trimChars text.toList)
    exact ⟨_, hwritten.symm, hseparable, hname, rfl⟩
  · rintro ⟨parts, hwritten, hseparable, hname, rfl⟩
    rw [hwritten, splitChars_written hseparable]
    exact ⟨hname, rfl⟩

structure IsPlain (name : List Char) : Prop where
  nonempty : name ≠ []
  notBlank : ∀ c ∈ name, Text.isBlank c = false
  unmarked : '!' ∉ name
  unequal : '=' ∉ name

theorem IsPlain.isName {name : List Char} (h : IsPlain name) : IsName (trimChars name) := by
  rw [(Text.isTrimmed_of_forall h.notBlank).trimChars_eq]
  exact ⟨h.nonempty, fun hmark => h.unmarked (List.mem_of_mem_head? hmark)⟩

theorem IsPlain.of_equalIgnoringCase {name name' : String} (h : IsPlain name'.toList)
    (heq : Text.equalIgnoringCase name name' = true) : IsPlain name.toList := by
  rw [Text.equalIgnoringCase_iff] at heq
  have hlower : ∀ c ∈ name.toList, ∃ d ∈ name'.toList, d.toLower = c.toLower := by
    intro c hc
    have hmem := List.mem_map_of_mem (f := Char.toLower) hc
    rwa [heq, List.mem_map] at hmem
  have hsign (sign : Char) (hsign : sign.toNat < 65) (hnot : sign ∉ name'.toList) :
      sign ∉ name.toList := by
    intro hmem
    obtain ⟨d, hd, hlow⟩ := hlower sign hmem
    rw [(Text.toLower_eq_iff hsign).2 rfl, Text.toLower_eq_iff hsign] at hlow
    exact hnot (hlow ▸ hd)
  exact {
    nonempty := by
      intro hnil
      rw [hnil, List.map_nil, eq_comm, List.map_eq_nil_iff] at heq
      exact h.nonempty heq
    notBlank := by
      intro c hc
      obtain ⟨d, hd, hlow⟩ := hlower c hc
      rw [← Text.isBlank_toLower, ← hlow, Text.isBlank_toLower]
      exact h.notBlank d hd
    unmarked := hsign '!' (by decide) h.unmarked
    unequal := hsign '=' (by decide) h.unequal }

theorem parse_written {name value : List Char} {negated : Bool} (hname : IsPlain name)
    (h : Parts.Separable (name, some value, negated)) :
    parse kind (String.ofList (Parts.written (name, some value, negated))) =
      .ok (Parts.expression (name, some value, negated)) := by
  have hhead : ∀ c, name.head? = some c → Text.isBlank c = false :=
    fun c hc => hname.notBlank c (List.mem_of_mem_head? hc)
  have hequals : Text.isBlank '=' = false := by decide
  refine parse_eq_ok.2 ⟨(name, some (Text.dropEndWhile Text.isBlank value), negated), ?_, ?_,
    hname.isName, ?_⟩
  · rw [String.toList_ofList]
    cases negated with
    | true =>
      rw [Parts.written, Text.trimChars_append_cons (by decide) hhead,
        Text.dropEndWhile_cons_of_neg hequals, Parts.written]
    | false => rw [Parts.written, Text.trimChars_append_cons hequals hhead, Parts.written]
  · cases h with
    | unequal hname => exact .unequal hname
    | equal hname hpair =>
      refine .equal hname fun hpart => hpair (hpart.trans ?_)
      have hfront := Text.dropEndWhile_isPrefix Text.isBlank value
      exact ((List.prefix_append_right_inj _).2 ((List.prefix_cons_inj _).2 hfront)).isInfix
  · simp only [Parts.expression, Option.map_some, Text.trimChars_dropEndWhile]

theorem IsPlain.expression_eq {name value : String} (h : IsPlain name.toList) (negated : Bool) :
    Parts.expression (name.toList, some value.toList, negated) =
      ⟨name, some (Text.trim value), negated⟩ := by
  simp [Parts.expression, Text.trim, (Text.isTrimmed_of_forall h.notBlank).trimChars_eq]

theorem parse_equal {name value : String} (hname : IsPlain name.toList)
    (hvalue : ¬ ['!', '='] <:+: value.toList) :
    parse kind (name ++ "=" ++ value) = .ok ⟨name, some (Text.trim value), false⟩ := by
  have hseparable : Parts.Separable (name.toList, some value.toList, false) := by
    refine .equal hname.unequal ?_
    rw [Text.pair_isInfix_append_iff, List.infix_cons_iff, Text.pair_isPrefix_cons_iff]
    rintro (hfront | (hsign | hbehind) | hbetween)
    · exact pair_not_isInfix hname.unequal hfront
    · exact absurd hsign.1 (by decide)
    · exact hvalue hbehind
    · exact hname.unmarked (List.mem_of_getLast? hbetween.1)
  have htext : name ++ "=" ++ value =
      String.ofList (Parts.written (name.toList, some value.toList, false)) := by
    simp [← String.toList_inj, Parts.written]
  rw [htext, parse_written hname hseparable, hname.expression_eq]

theorem parse_unequal {name value : String} (hname : IsPlain name.toList) :
    parse kind (name ++ "!=" ++ value) = .ok ⟨name, some (Text.trim value), true⟩ := by
  have hseparable : Parts.Separable (name.toList, some value.toList, true) :=
    .unequal (pair_not_isInfix hname.unequal)
  have htext : name ++ "!=" ++ value =
      String.ofList (Parts.written (name.toList, some value.toList, true)) := by
    simp [← String.toList_inj, Parts.written]
  rw [htext, parse_written hname hseparable, hname.expression_eq]

end Reading

section Rendering

variable {parts : Parts} {kind : ExpressionKind} {text : String} {e : NameValue}

theorem render_expression (parts : Parts) :
    parts.expression.render = String.ofList parts.trimmed.written := by
  obtain ⟨name, value, negated⟩ := parts
  rw [← String.toList_inj]
  cases value <;> cases negated <;>
    simp [render, Parts.expression, Parts.trimmed, Parts.written]

theorem isTrimmed_written (h : IsName (trimChars parts.1)) : IsTrimmed parts.trimmed.written := by
  obtain ⟨name, value, negated⟩ := parts
  have hname := Text.isTrimmed_trimChars name
  cases value with
  | none =>
    cases negated with
    | true => exact hname.cons (by decide)
    | false => exact hname
  | some value =>
    have hvalue := (Text.isTrimmed_trimChars value).cons (c := '=') (by decide)
    cases negated with
    | true => exact hname.append (hvalue.cons (by decide)) h.nonempty (List.cons_ne_nil _ _)
    | false => exact hname.append hvalue h.nonempty (List.cons_ne_nil _ _)

theorem expression_trimmed (parts : Parts) : parts.trimmed.expression = parts.expression := by
  have htrim (cs : List Char) := (Text.isTrimmed_trimChars cs).trimChars_eq
  simp [Parts.expression, Parts.trimmed, htrim, Function.comp_def]

/-- The exclamation mark at the end of the name comes to stand before an equals sign. -/
structure RunsTogether (e : NameValue) : Prop where
  hasValue : e.value.isSome = true
  positive : e.negated = false
  mark : e.name.toList.getLast? = some '!'

theorem Parts.Separable.trimmed (h : parts.Separable) (hname : IsName (trimChars parts.1))
    (hapart : ¬ parts.expression.RunsTogether) : parts.trimmed.Separable := by
  have hsub (cs : List Char) {c : Char} (hc : c ∉ cs) : c ∉ trimChars cs :=
    fun hmem => hc ((Text.trimChars_isInfix cs).subset hmem)
  cases h with
  | unequal hpair => exact .unequal fun hpart => hpair (hpart.trans (Text.trimChars_isInfix _))
  | @equal name value hequals hpair =>
    refine .equal (hsub name hequals) ?_
    rw [Text.pair_isInfix_append_iff, List.infix_cons_iff, Text.pair_isPrefix_cons_iff]
    rintro (hfront | (hsign | hbehind) | hbetween)
    · exact pair_not_isInfix (hsub name hequals) hfront
    · exact absurd hsign.1 (by decide)
    · have hvalue := hbehind.trans (Text.trimChars_isInfix value)
      exact hpair (Text.pair_isInfix_append_iff.2 (.inr (.inl (List.infix_cons hvalue))))
    · exact hapart ⟨rfl, rfl, by simpa [Parts.expression] using hbetween.1⟩
  | absent hequals => exact .absent (hsub _ hequals)
  | present hequals _ => exact .present (hsub _ hequals) hname.unmarked

theorem parse_render_of_apart (h : parse kind text = .ok e) (hapart : ¬ e.RunsTogether) :
    parse kind e.render = .ok e := by
  obtain ⟨parts, -, hseparable, hname, rfl⟩ := parse_eq_ok.1 h
  refine parse_eq_ok.2 ⟨parts.trimmed, ?_, hseparable.trimmed hname hapart, ?_, ?_⟩
  · rw [render_expression, String.toList_ofList, (isTrimmed_written hname).trimChars_eq]
  · rwa [Parts.trimmed, (Text.isTrimmed_trimChars _).trimChars_eq]
  · exact (expression_trimmed parts).symm

theorem parse_render_of_runsTogether (h : parse kind text = .ok e) (hruns : e.RunsTogether) :
    parse kind e.render =
      .ok ⟨Text.trim (String.ofList e.name.toList.dropLast), e.value, true⟩ := by
  obtain ⟨⟨name, value, negated⟩, -, hseparable, hname, rfl⟩ := parse_eq_ok.1 h
  obtain ⟨hvalue, hpositive, hmark⟩ := hruns
  obtain rfl : negated = false := hpositive
  cases hseparable with
  | present => contradiction
  | @equal _ value hequals =>
    rw [Parts.expression, String.toList_ofList] at hmark
    obtain ⟨front, hfront⟩ := List.getLast?_eq_some_iff.1 hmark
    have hequals' : '=' ∉ front := by
      intro hmem
      have hmem' : '=' ∈ trimChars name := by simp [hfront, hmem]
      exact hequals ((Text.trimChars_isInfix name).subset hmem')
    -- The mark is not the first character of the name, so a name is left without it.
    have hname' : IsName (trimChars front) := by
      cases front with
      | nil => exact absurd (by rw [hfront]; rfl) hname.unmarked
      | cons c front =>
        have hblank : Text.isBlank c = false :=
          (Text.isTrimmed_trimChars name).head c (by rw [hfront]; rfl)
        have hunmarked := hname.unmarked
        rw [hfront] at hunmarked
        rw [Text.trimChars_cons_of_neg hblank]
        exact ⟨List.cons_ne_nil _ _, hunmarked⟩
    refine parse_eq_ok.2 ⟨(front, some (trimChars value), true), ?_,
      .unequal (pair_not_isInfix hequals'), hname', ?_⟩
    · rw [render_expression, String.toList_ofList, (isTrimmed_written hname).trimChars_eq]
      simp [Parts.written, Parts.trimmed, hfront]
    · simp [Parts.expression, Text.trim, hfront, (Text.isTrimmed_trimChars value).trimChars_eq]

/-- What is written of an expression is read as the same expression exactly when no mark at the end
of its name comes before an equals sign. -/
theorem reads_back_iff (h : parse kind text = .ok e) :
    (parse kind e.render = .ok e ↔ ¬ e.RunsTogether) ∧
      (e.RunsTogether → parse kind e.render =
        .ok ⟨Text.trim (String.ofList e.name.toList.dropLast), e.value, true⟩) := by
  refine ⟨⟨fun hback hruns => ?_, parse_render_of_apart h⟩, parse_render_of_runsTogether h⟩
  rw [parse_render_of_runsTogether h hruns, Except.ok.injEq] at hback
  have hnegated := congrArg negated hback
  rw [hruns.positive] at hnegated
  contradiction

end Rendering

/-- A mark that belongs to a name is kept before `!=`, but not before a lone equals sign. -/
theorem reads_back_marked_names :
    parse .params " sort! != by=name " = .ok ⟨"sort!", some "by=name", true⟩ ∧
      parse .params "sort!!=by=name" = .ok ⟨"sort!", some "by=name", true⟩ ∧
      parse .headers "sort! = by" = .ok ⟨"sort!", some "by", false⟩ ∧
      parse .headers "sort!=by" = .ok ⟨"sort", some "by", true⟩ := by
  have hunequal : parse .params " sort! != by=name " = .ok ⟨"sort!", some "by=name", true⟩ := by rfl
  have hequal : parse .headers "sort! = by" = .ok ⟨"sort!", some "by", false⟩ := by rfl
  exact ⟨hunequal, (reads_back_iff hunequal).1.2 fun h => Bool.noConfusion h.positive, hequal,
    (reads_back_iff hequal).2 ⟨rfl, rfl, by rfl⟩⟩

/-- A parameter that has to have a value, written as one that must not have it. -/
theorem render_joins_mark :
    parse .params "a! =b" = .ok ⟨"a!", some "b", false⟩ ∧
      render ⟨"a!", some "b", false⟩ = "a!=b" ∧
      parse .params "a!=b" = .ok ⟨"a", some "b", true⟩ ∧
      ¬ ∀ kind text e, parse kind text = .ok e → parse kind e.render = .ok e := by
  refine ⟨by rfl, by rfl, by rfl, fun h => ?_⟩
  have hback := h .params "a! =b" ⟨"a!", some "b", false⟩ (by rfl)
  exact absurd hback (by decide)

end RequestRouting.NameValue
