import RequestRouting.Proofs.Media.Spelling

/-! What is relied on of a reader of media types: it reads the texts that spell one, and misses a
quote in those that break off inside of quotes. The reader at hand does so. -/
namespace RequestRouting.MediaType

/-- Parameters whose text breaks off inside of a value in quotes. -/
inductive BreaksOff : List Char → Prop
  | inside {spaces name front value : List Char} (before : IsSpaces spaces) (filled : name ≠ [])
      (names : IsTokens name) (values : IsQuotedText value) (part : front <+: value) :
      BreaksOff (spaces ++ (name ++ '=' :: '"' :: front))
  | behind {spaces text rest : List Char} {p : WrittenParameter} (before : IsSpaces spaces)
      (one : Spells text p) (filled : p.value ≠ []) (others : BreaksOff rest) :
      BreaksOff (spaces ++ (text ++ ';' :: rest))

/-- A media type whose text breaks off inside of quotes. -/
inductive Unclosed : List Char → Prop
  | mk {main sub text : List Char} (filled : main ≠ []) (types : IsTokens main)
      (subFilled : sub ≠ []) (subtypes : IsTokens sub) (breaks : BreaksOff text) :
      Unclosed (main ++ '/' :: (sub ++ ';' :: text))

theorem Unclosed.slash_mem {cs : List Char} (h : Unclosed cs) : '/' ∈ cs := by
  cases h
  exact List.mem_append_right _ List.mem_cons_self

theorem Unclosed.ne_nil {cs : List Char} (h : Unclosed cs) : cs ≠ [] :=
  List.ne_nil_of_mem h.slash_mem

structure Grammar (read : Reader) : Prop where
  spells {cs : List Char} {mime : Mime} : read cs = .ok mime ↔ SpellsMedia cs mime
  unclosed {cs : List Char} (h : Unclosed cs) : read cs = .error .missingQuote

variable {value front text : List Char} {fuel : Nat}

theorem readQuoted_of_isPrefix (hvalue : IsQuotedText value) (h : front <+: value) :
    readQuoted front = .error .missingQuote := by
  obtain ⟨hfirst, hothers⟩ := hvalue
  cases front with
  | nil => rfl
  | cons c cs =>
    obtain ⟨rfl, hcs⟩ := List.cons_prefix_cons.1 h
    have hinside : cs.dropWhile (fun d => isQuotable d && d != '"') = [] := by
      rw [List.dropWhile_eq_nil_iff]
      intro d hd
      simpa using hothers d (hcs.subset hd)
    rw [readQuoted]
    simp only [hfirst, hinside]
    rfl

theorem BreaksOff.readParameters_eq (h : BreaksOff text) (hfuel : text.length < fuel) :
    readParameters fuel text = .error .missingQuote := by
  obtain ⟨fuel, rfl⟩ := Nat.exists_eq_add_one_of_ne_zero (Nat.ne_zero_of_lt hfuel)
  induction h generalizing fuel with
  | inside hspaces hfilled hname hvalue hpart =>
    rw [readParameters_of_name hspaces hfilled hname, readValue,
      readQuoted_of_isPrefix hvalue hpart]
    rfl
  | behind hspaces hone hfilled _ ih =>
    simp only [List.length_append, List.length_cons] at hfuel
    obtain ⟨fuel, rfl⟩ := Nat.exists_eq_add_one_of_ne_zero (n := fuel) (by omega)
    rw [readParameters_of_spells hspaces hone (.inr hfilled) (.semicolon _), ih fuel (by omega)]
    rfl

theorem grammar_readChars : Grammar readChars where
  spells := readChars_eq_ok
  unclosed h := by
    obtain ⟨hfilled, htypes, hsubFilled, hsubtypes, hbreaks⟩ := h
    rw [readChars_of_semicolon hfilled htypes hsubFilled hsubtypes,
      hbreaks.readParameters_eq (Nat.lt_succ_self _)]
    rfl

end RequestRouting.MediaType
