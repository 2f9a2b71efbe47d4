import RequestRouting.Proofs.Dictionary
import RequestRouting.Proofs.Media.Reading

/-! Written forms read again. Parameters are written without quotes, whatever their values are, so a
value comes back only where it is a token. Main statement: a media type that was read is read again
from its written form exactly when all its values can do without quotes. -/
namespace RequestRouting.MediaType

section Unquoting

variable {s : String} {c : Char}

theorem mem_of_mem_unquote (h : c ∈ (unquote s).toList) : c ∈ s.toList := by
  rw [unquote, String.toList_ofList] at h
  exact (List.dropWhile_sublist _).subset ((Text.dropEndWhile_isPrefix _ _).subset h)

theorem unquote_of_notMem (h : '"' ∉ s.toList) : unquote s = s := by
  have hno : ∀ c ∈ s.toList, (c == '"') = false := by
    intro c hc
    rw [beq_eq_false_iff_ne]
    rintro rfl
    exact h hc
  have hfront : s.toList.dropWhile (· == '"') = s.toList :=
    List.dropWhile_eq_self_iff.2 fun hlength => by simpa using hno _ (List.getElem_mem hlength)
  rw [unquote, hfront, Text.dropEndWhile_eq_self_iff.2 fun c hc => hno c (List.mem_of_getLast? hc),
    String.ofList_toList]

theorem quote_notMem_unquote (h : '"' ∉ s.toList.tail) : '"' ∉ (unquote s).toList := by
  rw [unquote, String.toList_ofList]
  refine fun hmem => ?_
  have hdrop := (Text.dropEndWhile_isPrefix _ _).subset hmem
  cases hs : s.toList with
  | nil => simp [hs] at hdrop
  | cons c cs =>
    rw [hs, List.tail_cons] at h
    rw [hs, List.dropWhile_cons] at hdrop
    split at hdrop
    · exact h ((List.dropWhile_sublist _).subset hdrop)
    · next hc =>
      rcases List.mem_cons.1 hdrop with rfl | hcs
      · exact hc rfl
      · exact h hcs

end Unquoting

section Storing

variable {read : Reader} {cs text : List Char} {m : MediaType} {mime : Mime} {p : WrittenParameter}
  {ps : List WrittenParameter}

/-- What a parameter stands for, as long as nothing is known about the text around it. -/
def plainPair (p : WrittenParameter) : String × String :=
  let name := Text.asciiLower (String.ofList p.name)
  let value := String.ofList p.value
  (name, if name == "charset" then Text.asciiLower value else value)

theorem parameterValues_cons_cons (first second : WrittenParameter) :
    parameterValues text (first :: second :: ps) =
      if first.quoted && (plainPair first).1 == "charset" && (plainPair first).2 == "utf-8" &&
          text.head? == some ' ' && (text.drop 1).head? != some ' ' then
        ((plainPair first).1, "\"utf-") :: (second :: ps).map plainPair
      else (first :: second :: ps).map plainPair := rfl

theorem parameterValues_of_unquoted (h : ∀ p ∈ ps, p.quoted = false) :
    parameterValues text ps = ps.map plainPair := by
  match ps with
  | [] => rfl
  | [_] => rfl
  | first :: second :: ps =>
    rw [parameterValues_cons_cons, h first List.mem_cons_self]
    rfl

theorem mem_parameterValues {pair : String × String} (h : pair ∈ parameterValues text ps) :
    pair ∈ ps.map plainPair ∨ pair = ("charset", "\"utf-") := by
  match ps with
  | [] => exact .inl h
  | [_] => exact .inl h
  | first :: second :: ps =>
    rw [parameterValues_cons_cons] at h
    split at h
    · next hcharset =>
      have hname : (plainPair first).1 = "charset" := by
        simp only [Bool.and_eq_true, beq_iff_eq] at hcharset
        exact hcharset.1.1.1.2
      rcases List.mem_cons.1 h with heq | h
      · rw [hname] at heq
        exact .inr heq
      · exact .inl (List.mem_cons_of_mem _ h)
    · exact .inl h

theorem SpellsAll.exists_spells (h : SpellsAll text ps) (hp : p ∈ ps) :
    ∃ one, Spells one p ∧ one ⊆ text := by
  induction h with
  | none => contradiction
  | @last spaces one _ _ hone =>
    rw [List.mem_singleton] at hp
    rw [hp]
    exact ⟨one, hone, List.subset_append_right _ _⟩
  | @more spaces one rest _ _ _ hone _ _ ih =>
    rcases List.mem_cons.1 hp with rfl | hp
    · exact ⟨one, hone, fun c hc => by simp [hc]⟩
    · obtain ⟨other, hother, hsub⟩ := ih hp
      exact ⟨other, hother, fun c hc => by simp [hsub hc]⟩

structure IsStored (entry : String × String) : Prop where
  name : IsName entry.1
  unquoted : '"' ∉ entry.2.toList
  charset : entry.1 = "charset" → Text.asciiLower entry.2 = entry.2

theorem asciiLower_unquote {s : String} (h : Text.asciiLower s = s) :
    Text.asciiLower (unquote s) = unquote s := by
  rw [Text.asciiLower_eq_self_iff] at h ⊢
  exact fun c hc => h c (mem_of_mem_unquote hc)

theorem quote_mem_map_toLower {cs : List Char} : '"' ∈ cs.map Char.toLower ↔ '"' ∈ cs := by
  simp [Text.toLower_eq_iff (show '"'.toNat < 65 by decide)]

theorem toList_plainPair (p : WrittenParameter) :
    (plainPair p).2.toList = p.value.map Char.toLower ∨ (plainPair p).2.toList = p.value := by
  unfold plainPair
  dsimp only
  split
  · exact .inl (by simp [Text.asciiLower])
  · exact .inr String.toList_ofList

theorem asciiLower_plainPair (h : (plainPair p).1 = "charset") :
    Text.asciiLower (plainPair p).2 = (plainPair p).2 := by
  unfold plainPair at h ⊢
  dsimp only at h ⊢
  rw [h]
  exact Text.asciiLower_asciiLower _

theorem Spells.quote_notMem (h : Spells text p) : '"' ∉ p.value.tail := by
  cases h with
  | token _ _ hvalue => exact mt List.mem_of_mem_tail (hvalue.notMem (by decide))
  | quoted _ _ hvalue =>
    obtain ⟨-, hothers⟩ := hvalue
    exact fun hmem => (hothers _ hmem).2 rfl

theorem Spells.isStored (h : Spells text p) : IsStored (kept (plainPair p)) := by
  have hname : IsName (plainPair p).1 := by
    cases h with
    | token hfilled hname => exact isName_asciiLower hfilled hname
    | quoted hfilled hname => exact isName_asciiLower hfilled hname
  unfold kept
  refine ⟨?_, quote_notMem_unquote ?_, ?_⟩
  · rwa [hname.asciiLower_eq]
  · rcases toList_plainPair p with hvalue | hvalue
    · rw [hvalue, ← List.map_tail, quote_mem_map_toLower]
      exact h.quote_notMem
    · rw [hvalue]
      exact h.quote_notMem
  · dsimp only
    rw [hname.asciiLower_eq]
    exact fun hcharset => asciiLower_unquote (asciiLower_plainPair hcharset)

theorem isStored_charset : IsStored (kept ("charset", "\"utf-")) := by
  have htokens : IsTokens "charset".toList := by decide
  refine ⟨?_, quote_notMem_unquote (by decide), fun _ => asciiLower_unquote (by decide +kernel)⟩
  rw [← String.ofList_toList (s := "charset")]
  exact isName_asciiLower (List.cons_ne_nil _ _) htokens

theorem mem_entries_ofMime {entry : String × String}
    (h : entry ∈ (ofMime mime).parameters.entries) :
    ∃ pair ∈ mime.parameters, kept pair = entry := by
  rw [ofMime_eq] at h
  exact List.mem_map.1 (Dictionary.mem_of_mem_ofList h)

theorem SpellsMedia.isStored (h : SpellsMedia cs mime) {entry : String × String}
    (hentry : entry ∈ (ofMime mime).parameters.entries) : IsStored entry := by
  obtain ⟨pair, hpair, rfl⟩ := mem_entries_ofMime hentry
  cases h with
  | bare => contradiction
  | parametric _ _ _ _ hothers =>
    rcases mem_parameterValues hpair with hplain | rfl
    · obtain ⟨p, hp, rfl⟩ := List.mem_map.1 hplain
      obtain ⟨one, hone, -⟩ := hothers.exists_spells hp
      exact hone.isStored
    · exact isStored_charset

structure WellFormed (m : MediaType) : Prop extends WellNamed m where
  stored : ∀ entry ∈ m.parameters.entries, IsStored entry

theorem Grammar.wellFormed (hread : Grammar read) (h : m.ReadBy read) : m.WellFormed := by
  have hnames := hread.wellNamed h
  obtain ⟨text, h⟩ := h
  obtain ⟨⟨mime, hspells, rfl⟩, -⟩ := hread.parseWith_eq_ok.1 h
  exact ⟨hnames, fun _ => hspells.isStored⟩

end Storing

section Writing

variable {m : MediaType} {entry : String × String} {entries : List (String × String)}

def assignment (entry : String × String) : List Char := entry.1.toList ++ '=' :: entry.2.toList

def assignments (entries : List (String × String)) : List Char :=
  entries.flatMap fun entry => ';' :: assignment entry

theorem toList_render (m : MediaType) : m.render.toList =
    m.mainType.toList ++ '/' :: (m.subType.toList ++ assignments m.parameters.entries) := by
  simp [render, assignments, assignment, String.toList_join, List.flatMap_map]

/-- Every value is a token, and none but the last one is empty. -/
structure NeedNoQuotes (entries : List (String × String)) : Prop where
  tokens : ∀ entry ∈ entries, IsTokens entry.2.toList
  filled : ∀ entry ∈ entries.dropLast, entry.2 ≠ ""

theorem needNoQuotes_iff : NeedNoQuotes entries ↔
    (entries.all (fun entry => decide (IsTokens entry.2.toList)) &&
      entries.dropLast.all (·.2 != "")) = true := by
  rw [Bool.and_eq_true, List.all_eq_true, List.all_eq_true]
  simp only [decide_eq_true_eq, bne_iff_ne]
  exact ⟨fun h => ⟨h.tokens, h.filled⟩, fun h => ⟨h.1, h.2⟩⟩

instance : DecidablePred NeedNoQuotes := fun _ => decidable_of_iff _ needNoQuotes_iff.symm

def unquotedParameter (entry : String × String) : WrittenParameter :=
  ⟨entry.1.toList, entry.2.toList, false⟩

theorem IsName.spells (hname : IsName entry.1) (hvalue : IsTokens entry.2.toList) :
    Spells (assignment entry) (unquotedParameter entry) :=
  .token hname.nonempty hname.token hvalue

theorem spellsAll_assignments (hnames : ∀ e ∈ entry :: entries, IsName e.1)
    (h : NeedNoQuotes (entry :: entries)) :
    SpellsAll (assignment entry ++ assignments entries)
      ((entry :: entries).map unquotedParameter) := by
  induction entries generalizing entry with
  | nil =>
    have hone := (hnames entry List.mem_cons_self).spells (h.tokens entry List.mem_cons_self)
    simpa [assignments] using SpellsAll.last isSpaces_nil hone
  | cons next entries ih =>
    have hone := (hnames entry List.mem_cons_self).spells (h.tokens entry List.mem_cons_self)
    have hfilled : entry.2.toList ≠ [] := by
      rw [ne_eq, String.toList_eq_nil_iff]
      exact h.filled entry List.mem_cons_self
    have hothers := ih (fun e he => hnames e (List.mem_cons_of_mem _ he))
      ⟨fun e he => h.tokens e (List.mem_cons_of_mem _ he),
        fun e he => h.filled e (List.mem_cons_of_mem _ he)⟩
    exact .more isSpaces_nil hone hfilled hothers

theorem filled_of_spellsAll {ps : List WrittenParameter}
    (hnames : ∀ e ∈ entry :: entries, IsName e.1)
    (hvalues : ∀ e ∈ entry :: entries, IsTokens e.2.toList)
    (h : SpellsAll (assignment entry ++ assignments entries) ps) :
    ∀ e ∈ (entry :: entries).dropLast, e.2 ≠ "" := by
  induction entries generalizing entry ps with
  | nil => simp
  | cons next entries ih =>
    have hname := hnames entry List.mem_cons_self
    have hread := h.readParameters_eq (Nat.lt_succ_self _)
    have hfilled : entry.2.toList ≠ [] := by
      intro hempty
      have htext : assignment entry ++ assignments (next :: entries) =
          [] ++ (entry.1.toList ++ '=' :: ';' :: (assignment next ++ assignments entries)) := by
        simp [assignment, assignments, hempty]
      rw [htext, readParameters_of_name isSpaces_nil hname.nonempty hname.token] at hread
      contradiction
    have htext : assignment entry ++ assignments (next :: entries) =
        [] ++ (assignment entry ++ ';' :: (assignment next ++ assignments entries)) := rfl
    have hone := hname.spells (hvalues entry List.mem_cons_self)
    rw [htext, readParameters_of_spells isSpaces_nil hone (.inr hfilled) (.semicolon _)] at hread
    obtain ⟨others, hothers, -⟩ := Outcome.bind_eq_ok.1 hread
    refine List.forall_mem_cons.2 ⟨mt String.toList_eq_nil_iff.2 hfilled, ?_⟩
    refine ih (fun e he => hnames e (List.mem_cons_of_mem _ he))
      (fun e he => hvalues e (List.mem_cons_of_mem _ he)) (spellsAll_of_readParameters hothers ?_)
    simp only [List.length_append, List.length_cons]
    omega

end Writing

section RoundTrip

variable {read : Reader} {cs text : List Char} {m : MediaType} {mime : Mime} {p : WrittenParameter}
  {ps : List WrittenParameter}

theorem kept_plainPair {entry : String × String} (h : IsStored entry) :
    kept (plainPair (unquotedParameter entry)) = entry := by
  obtain ⟨name, value⟩ := entry
  have hname : Text.asciiLower name = name := h.name.asciiLower_eq
  have hvalue : unquote value = value := unquote_of_notMem h.unquoted
  simp only [kept, plainPair, unquotedParameter, String.ofList_toList, hname]
  split
  · next hcharset => rw [h.charset (beq_iff_eq.1 hcharset), hvalue]
  · rw [hvalue]

theorem map_kept_unquoted {entries : List (String × String)}
    (h : ∀ entry ∈ entries, IsStored entry) :
    (parameterValues text (entries.map unquotedParameter)).map kept = entries := by
  have hunquoted : ∀ p ∈ entries.map unquotedParameter, p.quoted = false := by
    intro p hp
    obtain ⟨entry, -, rfl⟩ := List.mem_map.1 hp
    rfl
  rw [parameterValues_of_unquoted hunquoted, List.map_map, List.map_map]
  exact (List.map_congr_left fun entry hentry => kept_plainPair (h entry hentry)).trans
    (List.map_id' entries)

theorem WellFormed.means_render (hm : m.WellFormed) (h : NeedNoQuotes m.parameters.entries) :
    Means m.render.toList m := by
  obtain ⟨main, sub, parameters⟩ := m
  obtain ⟨⟨hmain, hsub, -⟩, hstored⟩ := hm
  have hmedia : ofNames main sub = ⟨main, sub, ∅⟩ := by
    rw [ofNames, hmain.asciiLower_eq, hsub.asciiLower_eq]
  have hentries := parameters.ofList_entries
  rw [toList_render]
  dsimp only at hmain hsub hstored h ⊢
  generalize parameters.entries = entries at hentries hstored h ⊢
  cases entries with
  | nil =>
    have hbare := SpellsMedia.bare hmain.nonempty hmain.token hsub.token
    rw [String.ofList_toList, String.ofList_toList] at hbare
    rw [assignments, List.flatMap_nil, List.append_nil]
    refine ⟨_, hbare, ?_⟩
    rw [ofMime_eq, hmedia, ← hentries]
    rfl
  | cons entry entries =>
    have hothers := spellsAll_assignments (fun e he => (hstored e he).name) h
    have hparametric := SpellsMedia.parametric hmain.nonempty hmain.token hsub.nonempty hsub.token
      hothers
    rw [String.ofList_toList, String.ofList_toList] at hparametric
    refine ⟨_, hparametric, ?_⟩
    rw [ofMime_eq, hmedia, map_kept_unquoted hstored, hentries]

theorem Spells.unquoted (h : Spells text p) (hquote : '"' ∉ text) :
    p.quoted = false ∧ IsTokens p.value := by
  cases h with
  | token _ _ hvalue => exact ⟨rfl, hvalue⟩
  | quoted => simp at hquote

theorem Means.tokens (h : Means cs m) (hquote : '"' ∉ cs) :
    ∀ entry ∈ m.parameters.entries, IsTokens entry.2.toList := by
  obtain ⟨mime, h, rfl⟩ := h
  intro entry hentry
  obtain ⟨pair, hpair, rfl⟩ := mem_entries_ofMime hentry
  cases h with
  | bare => contradiction
  | @parametric main sub text ps _ _ _ _ hothers =>
    have hps : ∀ p ∈ ps, p.quoted = false ∧ IsTokens p.value := by
      intro p hp
      obtain ⟨one, hone, hsub⟩ := hothers.exists_spells hp
      exact hone.unquoted fun hmem => hquote (by simp [hsub hmem])
    rw [parameterValues_of_unquoted fun p hp => (hps p hp).1] at hpair
    obtain ⟨p, hp, rfl⟩ := List.mem_map.1 hpair
    intro c hc
    have hvalue := (hps p hp).2
    have hmem := mem_of_mem_unquote hc
    rcases toList_plainPair p with hplain | hplain
    · rw [hplain] at hmem
      obtain ⟨d, hd, rfl⟩ := List.mem_map.1 hmem
      exact Text.isTokenChar_toLower (hvalue d hd)
    · rw [hplain] at hmem
      exact hvalue c hmem

theorem WellFormed.mem_render {c : Char} (hm : m.WellFormed) (hc : c ∈ m.render.toList) :
    Text.isTokenChar c = true ∨ c ∈ ['/', ';', '='] ∨
      ∃ entry ∈ m.parameters.entries, c ∈ entry.2.toList := by
  rw [toList_render] at hc
  rcases List.mem_append.1 hc with hc | hc
  · exact .inl (hm.mainType.token c hc)
  rcases List.mem_cons.1 hc with rfl | hc
  · exact .inr (.inl (by decide))
  rcases List.mem_append.1 hc with hc | hc
  · exact .inl (hm.subType.token c hc)
  obtain ⟨entry, hentry, hc⟩ := List.mem_flatMap.1 hc
  rcases List.mem_cons.1 hc with rfl | hc
  · exact .inr (.inl (by decide))
  rcases List.mem_append.1 hc with hc | hc
  · exact .inl ((hm.stored entry hentry).name.token c hc)
  rcases List.mem_cons.1 hc with rfl | hc
  · exact .inr (.inl (by decide))
  · exact .inr (.inr ⟨entry, hentry, hc⟩)

theorem WellFormed.quote_notMem_render (hm : m.WellFormed) : '"' ∉ m.render.toList := by
  intro hmem
  rcases hm.mem_render hmem with htoken | hsign | ⟨entry, hentry, hvalue⟩
  · exact absurd htoken (by decide)
  · exact absurd hsign (by decide)
  · exact (hm.stored entry hentry).unquoted hvalue

theorem WellFormed.expandStar_trimChars_render (hm : m.WellFormed)
    (htokens : ∀ entry ∈ m.parameters.entries, IsTokens entry.2.toList) :
    expandStar (Text.trimChars m.render.toList) = m.render.toList := by
  have htrimmed : Text.IsTrimmed m.render.toList := by
    refine Text.isTrimmed_of_forall fun c hc => ?_
    rcases hm.mem_render hc with htoken | hsign | ⟨entry, hentry, hvalue⟩
    · exact Text.isBlank_of_isTokenChar htoken
    · simp only [List.mem_cons, List.not_mem_nil, or_false] at hsign
      rcases hsign with rfl | rfl | rfl <;> rfl
    · exact Text.isBlank_of_isTokenChar (htokens entry hentry c hvalue)
  rw [htrimmed.trimChars_eq]
  exact expandStar_of_slash (by simp [toList_render])

theorem Grammar.parseWith_render (hread : Grammar read) (hm : m.WellFormed)
    (hquotes : NeedNoQuotes m.parameters.entries) (hadmissible : m.IsAdmissible) :
    parseWith read m.render = .ok m := by
  refine hread.parseWith_eq_ok.2 ⟨?_, hadmissible⟩
  rw [hm.expandStar_trimChars_render hquotes.tokens]
  exact hm.means_render hquotes

theorem Grammar.readBy_names (hread : Grammar read) {main sub : String} (hmain : IsName main)
    (hsub : IsName sub) (hstar : main = "*" → sub = "*") : ReadBy read ⟨main, sub, ∅⟩ := by
  have hadmissible : IsAdmissible ⟨main, sub, ∅⟩ :=
    ⟨mt String.toList_eq_nil_iff.2 hsub.nonempty, hstar, fun q hq => nomatch hq⟩
  have hwellFormed : WellFormed ⟨main, sub, ∅⟩ :=
    ⟨⟨hmain, hsub, hstar⟩, fun _ he => absurd he List.not_mem_nil⟩
  have hquotes : NeedNoQuotes [] := by decide
  exact ⟨_, hread.parseWith_render hwellFormed hquotes hadmissible⟩

theorem WellFormed.needNoQuotes_of_means (hm : m.WellFormed)
    (h : Means (expandStar (Text.trimChars m.render.toList)) m) :
    NeedNoQuotes m.parameters.entries := by
  have hquote : '"' ∉ expandStar (Text.trimChars m.render.toList) := by
    unfold expandStar
    split
    · decide
    · rw [Text.mem_trimChars_iff (by decide)]
      exact hm.quote_notMem_render
  have htokens := h.tokens hquote
  refine ⟨htokens, ?_⟩
  obtain ⟨mime, hspells, -⟩ := h
  rw [hm.expandStar_trimChars_render htokens, toList_render] at hspells
  have hstored := hm.stored
  cases hentries : m.parameters.entries with
  | nil => simp
  | cons entry entries =>
    rw [hentries] at hspells hstored htokens
    have htext : assignments (entry :: entries) =
        ';' :: (assignment entry ++ assignments entries) := rfl
    rw [htext, ← readChars_eq_ok, readChars_of_semicolon hm.mainType.nonempty hm.mainType.token
      hm.subType.nonempty hm.subType.token] at hspells
    obtain ⟨ps, hps, -⟩ := Outcome.bind_eq_ok.1 hspells
    exact filled_of_spellsAll (fun e he => (hstored e he).name) htokens
      (spellsAll_of_readParameters hps (Nat.lt_succ_self _))

/-- A media type comes back from its written form if and only if its values are tokens and none but
the last one is empty. -/
theorem parse_render_iff (hread : Grammar read) (h : m.ReadBy read) :
    parseWith read m.render = .ok m ↔ NeedNoQuotes m.parameters.entries := by
  have hm := hread.wellFormed h
  constructor
  · intro hparse
    exact hm.needNoQuotes_of_means (hread.parseWith_eq_ok.1 hparse).1
  · intro hquotes
    obtain ⟨text, h⟩ := h
    exact hread.parseWith_render hm hquotes (hread.parseWith_eq_ok.1 h).2

end RoundTrip

theorem parse_render_flowed : ∃ m : MediaType,
    parse "Text/Plain; Format=\"flowed\"; charset=UTF-8" = .ok m ∧
      m.render = "text/plain;charset=utf-8;format=flowed" ∧
      NeedNoQuotes m.parameters.entries ∧ parse m.render = .ok m := by
  have h : parse "Text/Plain; Format=\"flowed\"; charset=UTF-8" =
      .ok ⟨"text", "plain", .ofList [("charset", "utf-8"), ("format", "flowed")]⟩ := by rfl
  have hquotes : NeedNoQuotes
      (Dictionary.ofList [("charset", "utf-8"), ("format", "flowed")]).entries := by
    decide +kernel
  exact ⟨_, h, by rfl, hquotes, (parse_render_iff grammar_readChars ⟨_, h⟩).2 hquotes⟩

/-- A semicolon inside quotes is written without them, and a second parameter comes back. -/
theorem render_drops_quotes : ∃ m n : MediaType,
    parse "text/plain;a=\"b;c=d\"" = .ok m ∧ m.parameter? "a" = some "b;c=d" ∧
      m.render = "text/plain;a=b;c=d" ∧ parse m.render = .ok n ∧
      n.parameter? "a" = some "b" ∧ n.parameter? "c" = some "d" ∧ m ≠ n := by
  refine ⟨⟨"text", "plain", .ofList [("a", "b;c=d")]⟩,
    ⟨"text", "plain", .ofList [("a", "b"), ("c", "d")]⟩, by rfl, ?_⟩
  decide +kernel

end RequestRouting.MediaType
