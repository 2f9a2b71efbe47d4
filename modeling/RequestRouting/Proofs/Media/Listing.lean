import RequestRouting.Proofs.Media.Reading

/-! Lists of media types. A list is cut at every comma, also at one that stands in quotes. Main
statement: texts that are read one by one are read as a list as well, unless one of them holds a
comma, and then a quote is missing from what stands before the first comma. -/
namespace RequestRouting.MediaType

/-- What is left of a text that is cut at its first comma and trimmed at that end. -/
def cutAtComma (cs : List Char) : List Char :=
  Text.dropEndWhile Text.isBlank (cs.takeWhile (· != ','))

section Cutting

variable {front rest value text : List Char} {d : Char}

theorem cutAtComma_append (hfront : ',' ∉ front) (hd : d ≠ ',') (hblank : Text.isBlank d = false)
    (rest : List Char) : cutAtComma (front ++ d :: rest) = front ++ d :: cutAtComma rest := by
  have hpass : ∀ c ∈ front, (c != ',') = true := by
    intro c hc
    rw [bne_iff_ne]
    rintro rfl
    exact hfront hc
  have hkeep := Text.dropEndWhile_cons_of_neg hblank (rest.takeWhile (· != ','))
  unfold cutAtComma
  rw [List.takeWhile_append_of_pos hpass, List.takeWhile_cons_of_pos (by simpa using hd),
    Text.dropEndWhile_append front (by rw [hkeep]; exact List.cons_ne_nil _ _), hkeep]

theorem cutAtComma_isPrefix (hcomma : ',' ∈ value) (rest : List Char) :
    cutAtComma (value ++ rest) <+: value := by
  rw [cutAtComma, Text.takeWhile_append_of_mem hcomma]
  exact (Text.dropEndWhile_isPrefix _ _).trans (List.takeWhile_prefix _)

theorem trimChars_takeWhile (hcomma : ',' ∈ text) :
    Text.trimChars (text.takeWhile (· != ',')) = cutAtComma (Text.trimChars text) := by
  have hkeeps : ∀ c, Text.isBlank c = true → (c != ',') = true := by
    intro c hc
    rw [bne_iff_ne]
    rintro rfl
    exact absurd hc (by decide)
  obtain ⟨blanks, hblanks, -⟩ :=
    Text.exists_eq_dropEndWhile_append Text.isBlank (text.dropWhile Text.isBlank)
  have hinside : ',' ∈ Text.trimChars text := (Text.mem_trimChars_iff (by decide) text).2 hcomma
  rw [Text.trimChars, Text.dropWhile_takeWhile hkeeps, hblanks]
  exact congrArg _ (Text.takeWhile_append_of_mem hinside blanks)

end Cutting

section Commas

variable {cs one spaces text : List Char} {mime : Mime} {p : WrittenParameter}
  {ps : List WrittenParameter}

theorem IsTokens.comma_notMem (h : IsTokens cs) : ',' ∉ cs := h.notMem (by decide)

theorem IsSpaces.comma_notMem (h : IsSpaces cs) : ',' ∉ cs := by
  intro hmem
  exact absurd (h ',' hmem) (by decide)

theorem Spells.breaksOff (hspaces : IsSpaces spaces) (hone : Spells one p) (hcomma : ',' ∈ one)
    (tail : List Char) : BreaksOff (cutAtComma (spaces ++ (one ++ tail))) := by
  cases hone with
  | token _ hname hvalue =>
    simp [hname.comma_notMem, hvalue.comma_notMem] at hcomma
  | @quoted name value behind hfilled hname hvalue hbehind =>
    have hinside : ',' ∈ value := by
      simpa [hname.comma_notMem, hbehind.comma_notMem] using hcomma
    have hfront : ',' ∉ spaces ++ (name ++ ['=']) := by
      simp [hspaces.comma_notMem, hname.comma_notMem]
    have htext : spaces ++ (name ++ '=' :: '"' :: (value ++ '"' :: behind) ++ tail) =
        spaces ++ (name ++ ['=']) ++ '"' :: (value ++ '"' :: (behind ++ tail)) := by
      simp
    rw [htext, cutAtComma_append hfront (by decide) (by decide), List.append_assoc,
      List.append_assoc, List.singleton_append]
    exact .inside hspaces hfilled hname hvalue (cutAtComma_isPrefix hinside _)

theorem SpellsAll.breaksOff (h : SpellsAll text ps) (hcomma : ',' ∈ text) :
    BreaksOff (cutAtComma text) := by
  induction h with
  | none hspaces => exact absurd hcomma hspaces.comma_notMem
  | @last spaces one p hspaces hone =>
    have hinside := (List.mem_append.1 hcomma).resolve_left hspaces.comma_notMem
    rw [← List.append_nil one]
    exact hone.breaksOff hspaces hinside []
  | @more spaces one rest p ps hspaces hone hfilled hothers ih =>
    by_cases hinside : ',' ∈ one
    · exact hone.breaksOff hspaces hinside _
    · have hfront : ',' ∉ spaces ++ one := by
        simp [hspaces.comma_notMem, hinside]
      have hbehind : ',' ∈ rest := by
        simpa [hspaces.comma_notMem, hinside] using hcomma
      rw [← List.append_assoc, cutAtComma_append hfront (by decide) (by decide),
        List.append_assoc]
      exact .behind hspaces hone hfilled (ih hbehind)

theorem SpellsMedia.unclosed (h : SpellsMedia cs mime) (hcomma : ',' ∈ cs) :
    Unclosed (cutAtComma cs) := by
  cases h with
  | bare _ htypes hsubtypes =>
    simp [htypes.comma_notMem, hsubtypes.comma_notMem] at hcomma
  | @parametric main sub text ps hfilled htypes hsubFilled hsubtypes hothers =>
    have hbehind : ',' ∈ text := by
      simpa [htypes.comma_notMem, hsubtypes.comma_notMem] using hcomma
    have hfront : ',' ∉ main ++ '/' :: sub := by
      simp [htypes.comma_notMem, hsubtypes.comma_notMem]
    have htext : main ++ '/' :: (sub ++ ';' :: text) = main ++ '/' :: sub ++ ';' :: text := by
      simp
    rw [htext, cutAtComma_append hfront (by decide) (by decide), List.append_assoc,
      List.cons_append]
    exact .mk hfilled htypes hsubFilled hsubtypes (hothers.breaksOff hbehind)

end Commas

section Lists

variable {read : Reader} {text : String} {texts : List String} {media : List MediaType}
  {m : MediaType}

def listParts (cs : List Char) : List (List Char) :=
  ((Text.splitAll ',' cs).map Text.trimChars).filter (!·.isEmpty)

theorem parseListWith_eq (read : Reader) (text : String) : parseListWith read text =
    (listParts text.toList).mapM fun part => parseWith read (String.ofList part) := rfl

theorem listParts_intercalate (texts : List String) :
    listParts (",".intercalate texts).toList = texts.flatMap (listParts ·.toList) := by
  cases texts with
  | nil => rfl
  | cons text texts =>
    rw [String.toList_intercalate]
    unfold listParts
    rw [show ",".toList = [','] from rfl, Text.splitAll_intercalate ',' (by simp)]
    simp [List.map_flatMap, List.filter_flatMap, List.flatMap_map]

theorem trimChars_ne_nil_of_parseWith (h : parseWith read text = .ok m) :
    Text.trimChars text.toList ≠ [] := by
  intro hempty
  obtain ⟨hfilled, -⟩ := parseWith_eq_ok.1 h
  rw [hempty] at hfilled
  exact hfilled rfl

theorem parseWith_trimChars (h : parseWith read text = .ok m) :
    parseWith read (String.ofList (Text.trimChars text.toList)) = .ok m := by
  rw [parseWith_eq_ok] at h ⊢
  rwa [String.toList_ofList, (Text.isTrimmed_trimChars _).trimChars_eq]

theorem listParts_of_notMem (h : parseWith read text = .ok m) (hcomma : ',' ∉ text.toList) :
    listParts text.toList = [Text.trimChars text.toList] := by
  rw [listParts, Text.splitAll_of_notMem hcomma]
  simp [trimChars_ne_nil_of_parseWith h]

theorem mapM_listParts_of_notMem
    (h : List.Forall₂ (fun text m => parseWith read text = .ok m) texts media)
    (hcomma : ∀ text ∈ texts, ',' ∉ text.toList) :
    (texts.flatMap (listParts ·.toList)).mapM (fun part => parseWith read (String.ofList part)) =
      .ok media := by
  rw [Outcome.mapM_eq_ok_iff]
  induction h with
  | nil => exact .nil
  | @cons text m texts media hparse hrest ih =>
    rw [List.flatMap_cons, listParts_of_notMem hparse (hcomma text List.mem_cons_self)]
    exact .cons (parseWith_trimChars hparse) (ih fun t ht => hcomma t (List.mem_cons_of_mem _ ht))

def firstPart (text : String) : String :=
  String.ofList (Text.trimChars (text.toList.takeWhile (· != ',')))

theorem Grammar.unclosed_firstPart (hread : Grammar read) (h : parseWith read text = .ok m)
    (hcomma : ',' ∈ text.toList) : Unclosed (firstPart text).toList := by
  obtain ⟨⟨mime, hspells, -⟩, -⟩ := hread.parseWith_eq_ok.1 h
  have hinside : ',' ∈ Text.trimChars text.toList :=
    (Text.mem_trimChars_iff (by decide) _).2 hcomma
  have hlong : Text.trimChars text.toList ≠ ['*'] := by
    intro hstar
    rw [hstar] at hinside
    contradiction
  rw [expandStar, if_neg hlong] at hspells
  rw [firstPart, String.toList_ofList, trimChars_takeWhile hcomma]
  exact hspells.unclosed hinside

theorem Grammar.parseWith_firstPart (hread : Grammar read) (h : parseWith read text = .ok m)
    (hcomma : ',' ∈ text.toList) :
    parseWith read (firstPart text) = .error ⟨firstPart text, .missingQuote⟩ := by
  have hunclosed := hread.unclosed_firstPart h hcomma
  have htrimmed : Text.trimChars (firstPart text).toList = (firstPart text).toList := by
    rw [firstPart, String.toList_ofList, (Text.isTrimmed_trimChars _).trimChars_eq]
  unfold parseWith
  rw [htrimmed, expandStar_of_slash hunclosed.slash_mem]
  simp only [List.isEmpty_iff, if_neg hunclosed.ne_nil, hread.unclosed hunclosed]
  rfl

theorem Grammar.exists_listParts (hread : Grammar read) (h : parseWith read text = .ok m)
    (hcomma : ',' ∈ text.toList) :
    ∃ parts, listParts text.toList = (firstPart text).toList :: parts := by
  obtain ⟨pieces, hpieces⟩ := Text.exists_splitAll_of_mem hcomma
  have hfilled := (hread.unclosed_firstPart h hcomma).ne_nil
  rw [firstPart, String.toList_ofList] at hfilled ⊢
  rw [listParts, hpieces, List.map_cons, List.filter_cons_of_pos (by simpa using hfilled)]
  exact ⟨_, rfl⟩

/-- Texts that are read one by one are read as a list if no comma stands in one of them. The first
one with a comma is cut there, and is not read. -/
theorem parseList_intercalate (hread : Grammar read)
    (h : List.Forall₂ (fun text m => parseWith read text = .ok m) texts media) :
    ((∀ text ∈ texts, ',' ∉ text.toList) →
      parseListWith read (",".intercalate texts) = .ok media) ∧
    ∀ before text after, texts = before ++ text :: after → (∀ t ∈ before, ',' ∉ t.toList) →
      ',' ∈ text.toList →
      parseListWith read (",".intercalate texts) = .error ⟨firstPart text, .missingQuote⟩ := by
  rw [parseListWith_eq, listParts_intercalate]
  refine ⟨mapM_listParts_of_notMem h, ?_⟩
  rintro before text after rfl hbefore hcomma
  obtain ⟨front, back, hfront, hback, -⟩ :=
    Outcome.mapM_append_eq_ok.1 (Outcome.mapM_eq_ok_iff.2 h)
  obtain ⟨m, rest, hparse, -⟩ := Outcome.mapM_cons_eq_ok.1 hback
  obtain ⟨parts, hparts⟩ := hread.exists_listParts hparse hcomma
  rw [List.flatMap_append, List.flatMap_cons, hparts, List.cons_append]
  have hbeforeRead := mapM_listParts_of_notMem (Outcome.mapM_eq_ok_iff.1 hfront) hbefore
  refine Outcome.mapM_append_eq_error hbeforeRead ?_
  rw [String.ofList_toList]
  exact hread.parseWith_firstPart hparse hcomma

end Lists

theorem parseList_html_json_quoted : ∃ html json quoted : MediaType,
    parse "text/html;level=\"1\"" = .ok html ∧ parse " application/json;q=0.5" = .ok json ∧
      parse "text/plain;a=\"x,y\"" = .ok quoted ∧
      parseList (",".intercalate ["text/html;level=\"1\"", " application/json;q=0.5"]) =
        .ok [html, json] ∧
      parseList (",".intercalate
          ["text/html;level=\"1\"", " application/json;q=0.5", "text/plain;a=\"x,y\""]) =
        .error ⟨"text/plain;a=\"x", .missingQuote⟩ := by
  have hhtml : parse "text/html;level=\"1\"" =
      .ok ⟨"text", "html", .ofList [("level", "1")]⟩ := by rfl
  have hjson : parse " application/json;q=0.5" =
      .ok ⟨"application", "json", .ofList [("q", "0.5")]⟩ := by rfl
  have hquoted : parse "text/plain;a=\"x,y\"" =
      .ok ⟨"text", "plain", .ofList [("a", "x,y")]⟩ := by rfl
  have hfirst : firstPart "text/plain;a=\"x,y\"" = "text/plain;a=\"x" := by decide +kernel
  refine ⟨_, _, _, hhtml, hjson, hquoted, ?_, ?_⟩
  · exact (parseList_intercalate grammar_readChars (.cons hhtml (.cons hjson .nil))).1 (by decide)
  · rw [← hfirst]
    exact (parseList_intercalate grammar_readChars
      (.cons hhtml (.cons hjson (.cons hquoted .nil)))).2 [_, _] _ [] rfl (by decide) (by decide)

/-- A list of a single type that is read, which is no list that is read. -/
theorem parseList_splits_quotes : ∃ m : MediaType,
    parse "text/plain;a=\"x,y\"" = .ok m ∧ m.parameter? "a" = some "x,y" ∧
      parseList (",".intercalate ["text/plain;a=\"x,y\""]) =
        .error ⟨"text/plain;a=\"x", .missingQuote⟩ := by
  refine ⟨⟨"text", "plain", .ofList [("a", "x,y")]⟩, by rfl, ?_⟩
  decide +kernel

end RequestRouting.MediaType
