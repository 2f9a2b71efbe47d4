import RequestRouting.Proofs.Path.Reading
import RequestRouting.Proofs.Text.Splitting
import RequestRouting.Proofs.Text.Trimming

/-! Braces in patterns. A piece that stands between braces, or behind a star, is taken for a
variable or a catch-all as a whole, and further braces in it become part of the name. Every other
piece with a brace is refused. So two variables in one piece, text between two variables and a
placeholder inside a name are all accepted as long as the outer signs fit. -/
namespace RequestRouting.Path

inductive HasShape : List Char → PieceShape → Prop
  | anonymousCatchAll : HasShape ['*', '*'] .anonymousCatchAll
  | enclosedCatchAll (name : List Char) :
    HasShape ('\x7b' :: '*' :: (name ++ ['\x7d'])) (.namedCatchAll (String.ofList name))
  | starredCatchAll {name : List Char} (hname : name ≠ []) (hother : name ≠ ['*']) :
    HasShape ('*' :: name) (.namedCatchAll (String.ofList name))
  | wildcard : HasShape ['*'] .wildcard
  | param {definition : List Char} (hdefinition : definition.head? ≠ some '*') :
    HasShape ('\x7b' :: (definition ++ ['\x7d'])) (.param definition)
  | plain {cs : List Char} (hstar : cs.head? ≠ some '*') (henclosed : isBraced cs = false) :
    HasShape cs .plain

theorem isBraced_iff {cs : List Char} :
    isBraced cs = true ↔ ∃ inner, cs = '\x7b' :: (inner ++ ['\x7d']) := by
  unfold isBraced
  rw [Bool.and_eq_true, beq_iff_eq, beq_iff_eq]
  constructor
  · rintro ⟨hhead, hlast⟩
    obtain ⟨rest, rfl⟩ := List.head?_eq_some_iff.1 hhead
    obtain ⟨inner, hinner⟩ := List.getLast?_eq_some_iff.1 hlast
    cases inner with
    | nil => simp at hinner
    | cons c inner =>
      obtain ⟨rfl, rfl⟩ := List.cons.inj hinner
      exact ⟨inner, rfl⟩
  · rintro ⟨inner, rfl⟩
    simp [List.getLast?_cons]

theorem hasShape_of_star (rest : List Char) : HasShape ('*' :: rest) (shapeOf ('*' :: rest)) := by
  by_cases hnil : rest = []
  · rw [hnil]
    exact .wildcard
  · by_cases hstar : rest = ['*']
    · rw [hstar]
      exact .anonymousCatchAll
    · have hshape : shapeOf ('*' :: rest) = .namedCatchAll (String.ofList rest) := by
        simp [shapeOf, hnil, hstar]
      rw [hshape]
      exact .starredCatchAll hnil hstar

theorem hasShape_of_enclosed (inner : List Char) :
    HasShape ('\x7b' :: (inner ++ ['\x7d'])) (shapeOf ('\x7b' :: (inner ++ ['\x7d']))) := by
  by_cases hstar : inner.head? = some '*'
  · obtain ⟨name, rfl⟩ := List.head?_eq_some_iff.1 hstar
    have hshape : shapeOf ('\x7b' :: ('*' :: name ++ ['\x7d'])) =
        .namedCatchAll (String.ofList name) := by
      simp [shapeOf, List.getLast?_cons]
    rw [hshape]
    exact .enclosedCatchAll name
  · have htake : (inner ++ ['\x7d']).take 1 ≠ ['*'] := by
      cases inner with
      | nil => decide
      | cons c inner => simpa using hstar
    have hshape : shapeOf ('\x7b' :: (inner ++ ['\x7d'])) = .param inner := by
      simp [shapeOf, htake, isBraced_iff]
    rw [hshape]
    exact .param hstar

theorem shapeOf_eq_plain {cs : List Char} (hstar : cs.head? ≠ some '*')
    (henclosed : isBraced cs = false) : shapeOf cs = .plain := by
  have htwo : cs ≠ ['*', '*'] := by
    rintro rfl
    exact hstar rfl
  have hone : cs ≠ ['*'] := by
    rintro rfl
    exact hstar rfl
  have hcatchAll : ¬ (cs.take 2 = ['\x7b', '*'] ∧ cs.getLast? = some '\x7d') := by
    rintro ⟨htake, hlast⟩
    have hhead : cs.head? = some '\x7b' := by
      simpa [List.head?_take] using congrArg List.head? htake
    simp [isBraced, hhead, hlast] at henclosed
  unfold shapeOf
  rw [if_neg htwo, if_neg hcatchAll, if_neg fun h => hstar h.1, if_neg hone, henclosed]
  rfl

theorem hasShape_shapeOf (cs : List Char) : HasShape cs (shapeOf cs) := by
  by_cases hstar : cs.head? = some '*'
  · obtain ⟨rest, rfl⟩ := List.head?_eq_some_iff.1 hstar
    exact hasShape_of_star rest
  · cases henclosed : isBraced cs with
    | true =>
      obtain ⟨inner, rfl⟩ := isBraced_iff.1 henclosed
      exact hasShape_of_enclosed inner
    | false =>
      rw [shapeOf_eq_plain hstar henclosed]
      exact .plain hstar henclosed

def HasBrace (cs : List Char) : Prop := '\x7b' ∈ cs ∨ '\x7d' ∈ cs

instance (cs : List Char) : Decidable (HasBrace cs) :=
  inferInstanceAs (Decidable ('\x7b' ∈ cs ∨ '\x7d' ∈ cs))

/-- A brace in the place of a name: behind a star, or between the outer braces and before the first
colon. The name of a catch-all in braces can have colons. -/
inductive BraceInName : List Char → Prop
  | starred {name : List Char} (h : HasBrace name) : BraceInName ('*' :: name)
  | catchAll {name : List Char} (h : HasBrace name) :
    BraceInName ('\x7b' :: '*' :: (name ++ ['\x7d']))
  | param {definition : List Char} (h : HasBrace (definition.takeWhile (· != ':'))) :
    BraceInName ('\x7b' :: (definition ++ ['\x7d']))

/-- A piece with a brace that is neither between braces as a whole nor behind a star. -/
structure PartlyBraced (piece : List Char) : Prop where
  brace : HasBrace piece
  notStarred : piece.head? ≠ some '*'
  notEnclosed : isBraced piece = false

theorem hasBrace_cons_of_ne {c : Char} {cs : List Char} (hopen : c ≠ '\x7b') (hclose : c ≠ '\x7d') :
    HasBrace (c :: cs) ↔ HasBrace cs := by
  simp [HasBrace, hopen.symm, hclose.symm]

theorem braceInName_starred {name : List Char} : BraceInName ('*' :: name) ↔ HasBrace name := by
  constructor
  · intro h
    cases h with
    | starred h => exact h
  · exact .starred

theorem braceInName_enclosed {inner : List Char} :
    BraceInName ('\x7b' :: (inner ++ ['\x7d'])) ↔
      HasBrace (inner.takeWhile (· != ':')) ∨ ∃ name, inner = '*' :: name ∧ HasBrace name := by
  constructor
  · intro h
    -- a catch-all in braces is a braced piece too, so the constructors overlap
    generalize hpiece : '\x7b' :: (inner ++ ['\x7d']) = piece at h
    cases h with
    | starred h => simp at hpiece
    | @catchAll name h =>
      rw [List.cons.injEq, ← List.cons_append, List.append_cancel_right_eq] at hpiece
      exact .inr ⟨name, hpiece.2, h⟩
    | param h =>
      rw [List.cons.injEq, List.append_cancel_right_eq] at hpiece
      rw [hpiece.2]
      exact .inl h
  · rintro (h | ⟨name, rfl, h⟩)
    · exact .param h
    · exact .catchAll h

theorem braceInName_enclosedCatchAll {name : List Char} :
    BraceInName ('\x7b' :: '*' :: (name ++ ['\x7d'])) ↔ HasBrace name := by
  rw [← List.cons_append, braceInName_enclosed]
  constructor
  · rintro (h | ⟨other, hother, h⟩)
    · rw [List.takeWhile_cons_of_pos (by decide), hasBrace_cons_of_ne (by decide) (by decide)] at h
      exact h.imp (List.takeWhile_subset _ ·) (List.takeWhile_subset _ ·)
    · rw [(List.cons.inj hother).2]
      exact h
  · intro h
    exact .inr ⟨name, rfl, h⟩

theorem braceInName_param {definition : List Char} (hdefinition : definition.head? ≠ some '*') :
    BraceInName ('\x7b' :: (definition ++ ['\x7d'])) ↔
      HasBrace (definition.takeWhile (· != ':')) := by
  rw [braceInName_enclosed]
  apply or_iff_left
  rintro ⟨name, rfl, -⟩
  exact hdefinition rfl

theorem not_braceInName_of_plain {piece : List Char} (hstar : piece.head? ≠ some '*')
    (henclosed : isBraced piece = false) : ¬ BraceInName piece := by
  intro h
  cases h with
  | starred h => exact hstar rfl
  | @catchAll name h => simp [isBraced, List.getLast?_cons] at henclosed
  | @param definition h => simp [isBraced, List.getLast?_cons] at henclosed

theorem hasBrace_trimChars {cs : List Char} : HasBrace (Text.trimChars cs) ↔ HasBrace cs := by
  unfold HasBrace
  rw [Text.mem_trimChars_iff (by decide), Text.mem_trimChars_iff (by decide)]

theorem toList_of_readVariable {definition : List Char} {name : String} {constraint : Constraint}
    (h : readVariable definition = .ok (name, constraint)) :
    name.toList = Text.trimChars (definition.takeWhile (· != ':')) := by
  rw [Text.takeWhile_eq_splitFirst]
  unfold readVariable at h
  cases hs : Text.splitFirst ':' definition with
  | none =>
    simp only [hs] at h
    split at h
    · contradiction
    · obtain ⟨rfl, -⟩ := Prod.mk.inj (Except.ok.inj h)
      exact String.toList_ofList
  | some parts =>
    simp only [hs] at h
    split at h
    · contradiction
    split at h
    · obtain ⟨rfl, -⟩ := Prod.mk.inj (Except.ok.inj h)
      exact String.toList_ofList
    · contradiction

theorem hasBrace_name_iff {before : Before} {isLast : Bool} {piece : List Char} {segment : Segment}
    (h : readSegment before isLast piece = .ok segment) :
    (∃ name, segment.name? = some name ∧ HasBrace name.toList) ↔ BraceInName piece := by
  -- each shape has its own place for the name, or none
  have hshape := hasShape_shapeOf piece
  unfold readSegment at h
  generalize shapeOf piece = shape at h hshape
  cases hshape with
  | anonymousCatchAll =>
    obtain ⟨-, rfl⟩ := readCatchAll_eq_ok h
    simp [Segment.name?, braceInName_starred, HasBrace]
  | enclosedCatchAll name =>
    obtain ⟨-, rfl⟩ := readCatchAll_eq_ok h
    simp [Segment.name?, braceInName_enclosedCatchAll]
  | starredCatchAll hname hother =>
    obtain ⟨-, rfl⟩ := readCatchAll_eq_ok h
    simp [Segment.name?, braceInName_starred]
  | wildcard =>
    obtain rfl := Except.ok.inj h
    simp [Segment.name?, braceInName_starred, HasBrace]
  | param hdefinition =>
    obtain ⟨⟨name, constraint⟩, hread, h⟩ := Outcome.bind_eq_ok.1 h
    obtain ⟨-, rfl⟩ := checkName_eq_ok.1 h
    rw [braceInName_param hdefinition]
    simp [Segment.name?, toList_of_readVariable hread, hasBrace_trimChars]
  | plain hstar henclosed =>
    dsimp only at h
    split at h
    · contradiction
    split at h
    · contradiction
    · obtain rfl := Except.ok.inj h
      simp [Segment.name?, not_braceInName_of_plain hstar henclosed]

theorem exists_hasBrace_iff {before : Before} {pieces : List (List Char)}
    {segments : List Segment} (h : readSegments before pieces = .ok segments) :
    (∃ name ∈ segments.filterMap Segment.name?, HasBrace name.toList) ↔
      ∃ piece ∈ pieces, BraceInName piece := by
  induction pieces generalizing before segments with
  | nil =>
    obtain rfl := Except.ok.inj h
    simp
  | cons piece rest ih =>
    obtain ⟨segment, tail, hsegment, htail, rfl⟩ := readSegments_cons.1 h
    simp only [List.mem_cons, exists_eq_or_imp]
    rw [← ih htail, ← hasBrace_name_iff hsegment, List.filterMap_cons]
    cases segment.name? with
    | none => simp
    | some name => simp

def braceFault (piece : List Char) : PatternError :=
  if hasPlaceholder piece then .unresolvedPlaceholder (String.ofList piece)
  else .partialVariable (String.ofList piece)

theorem PartlyBraced.readSegment_eq {piece : List Char} (h : PartlyBraced piece) (before : Before)
    (isLast : Bool) : readSegment before isLast piece = .error (braceFault piece) := by
  have hcontains : (piece.contains '\x7b' || piece.contains '\x7d') = true := by
    simpa [HasBrace] using h.brace
  unfold readSegment braceFault
  rw [shapeOf_eq_plain h.notStarred h.notEnclosed]
  dsimp only
  rw [hcontains, if_pos rfl]
  split
  · rfl
  · rfl

def PatternError.piece? : PatternError → Option String
  | unresolvedPlaceholder piece | partialVariable piece => some piece
  | _ => none

theorem piece?_braceFault (piece : List Char) :
    (braceFault piece).piece? = some (String.ofList piece) := by
  unfold braceFault
  split <;> rfl

section Quoting

variable {before : Before} {isLast : Bool} {e : PatternError}

theorem piece?_of_checkName {name : String} {segment : Segment}
    (h : checkName before name segment = .error e) : e.piece? = none := by
  unfold checkName at h
  split at h
  · rw [← Except.error.inj h]
    rfl
  · contradiction

theorem piece?_of_readCatchAll {name? : Option String}
    (h : readCatchAll before isLast name? = .error e) : e.piece? = none := by
  unfold readCatchAll at h
  split at h
  · rw [← Except.error.inj h]
    rfl
  split at h
  · rw [← Except.error.inj h]
    rfl
  cases name? with
  | none => contradiction
  | some name =>
    dsimp only at h
    split at h
    · rw [← Except.error.inj h]
      rfl
    · exact piece?_of_checkName h

theorem piece?_of_readVariable {definition : List Char}
    (h : readVariable definition = .error e) : e.piece? = none := by
  unfold readVariable at h
  cases hs : Text.splitFirst ':' definition with
  | none =>
    simp only [hs] at h
    split at h
    · rw [← Except.error.inj h]
      rfl
    · contradiction
  | some parts =>
    simp only [hs] at h
    split at h
    · rw [← Except.error.inj h]
      rfl
    split at h
    · contradiction
    · rw [← Except.error.inj h]
      rfl

theorem eq_of_readSegment_error {piece : List Char} {quoted : String}
    (h : readSegment before isLast piece = .error e) (hquoted : e.piece? = some quoted) :
    quoted = String.ofList piece := by
  unfold readSegment at h
  split at h
  · rw [piece?_of_readCatchAll h] at hquoted
    contradiction
  · rw [piece?_of_readCatchAll h] at hquoted
    contradiction
  · contradiction
  · next definition _ =>
    cases hread : readVariable definition with
    | error e' =>
      rw [hread] at h
      obtain rfl := Except.error.inj h
      rw [piece?_of_readVariable hread] at hquoted
      contradiction
    | ok pair =>
      rw [hread] at h
      rw [piece?_of_checkName h] at hquoted
      contradiction
  · split at h
    · rw [← Except.error.inj h] at hquoted
      exact (Option.some.inj hquoted).symm
    split at h
    · rw [← Except.error.inj h] at hquoted
      exact (Option.some.inj hquoted).symm
    · contradiction

theorem eq_of_readSegment_braceFault {piece other : List Char}
    (h : readSegment before isLast other = .error (braceFault piece)) : other = piece :=
  (String.ofList_inj.1 (eq_of_readSegment_error h (piece?_braceFault piece))).symm

end Quoting

theorem readSegments_ne_ok {e : PatternError} {piece : List Char}
    (hfault : ∀ before isLast, readSegment before isLast piece = .error e) {before : Before}
    {pieces : List (List Char)} (hmem : piece ∈ pieces) (segments : List Segment) :
    readSegments before pieces ≠ .ok segments := by
  induction pieces generalizing before segments with
  | nil => contradiction
  | cons first rest ih =>
    intro h
    obtain ⟨segment, tail, hsegment, htail, -⟩ := readSegments_cons.1 h
    rcases List.mem_cons.1 hmem with rfl | hmem
    · rw [hfault] at hsegment
      contradiction
    · exact ih hmem tail htail

namespace Pattern

/-- Names with braces come from pieces with braces in the place of the name. A piece that is braced
in part is reported when the pieces before it can be read, and always keeps the text from being
read. -/
theorem parse_braces (text : String) :
    (∀ p, parse text = .ok p → ((∃ name ∈ p.names, HasBrace name.toList) ↔
      ∃ piece ∈ pieceChars (normalize text).toList, BraceInName piece)) ∧
    ∀ piece, PartlyBraced piece →
      (parse text = .error (braceFault piece) ↔
        ∃ front rest after, pieceChars (normalize text).toList = front ++ piece :: rest ∧
          LeadsTo ⟨[], false⟩ front after) ∧
      (piece ∈ pieceChars (normalize text).toList → ∃ e, parse text = .error e) := by
  constructor
  · intro p h
    obtain ⟨hcanonical, hread⟩ := parse_eq_ok.1 h
    rw [← hcanonical]
    exact exists_hasBrace_iff hread
  intro piece hpiece
  refine ⟨⟨?_, ?_⟩, fun hmem => ?_⟩
  · intro h
    obtain ⟨front, other, rest, after, hpieces, hleads, herror⟩ :=
      readSegments_eq_error.1 (parse_eq_error.1 h)
    obtain rfl := eq_of_readSegment_braceFault herror
    exact ⟨front, rest, after, hpieces, hleads⟩
  · rintro ⟨front, rest, after, hpieces, hleads⟩
    apply parse_eq_error.2
    apply readSegments_eq_error.2
    exact ⟨front, piece, rest, after, hpieces, hleads, hpiece.readSegment_eq _ _⟩
  · cases h : parse text with
    | error e => exact ⟨e, rfl⟩
    | ok p =>
      have hread := (parse_eq_ok.1 h).2
      rw [(parse_eq_ok.1 h).1] at hread
      exact absurd hread (readSegments_ne_ok hpiece.readSegment_eq hmem p.segments)

theorem parse_braces_users :
    parse "/users/id-\x7bid\x7d" = .error (.partialVariable "id-\x7bid\x7d") ∧
      ∃ p, parse "/users/\x7ba\x7d\x7bb\x7d" = .ok p ∧ ∃ name ∈ p.names, HasBrace name.toList := by
  constructor
  · have hpartly : PartlyBraced "id-\x7bid\x7d".toList := ⟨by decide, by decide, by decide⟩
    exact ((parse_braces _).2 _ hpartly).1.2
      ⟨["users".toList], [], ⟨[], false⟩, by decide, .literal "users", by rfl, by rfl⟩
  · have hread : parse "/users/\x7ba\x7d\x7bb\x7d" =
        .ok ⟨"/users/\x7ba\x7d\x7bb\x7d", [.literal "users", .param "a\x7d\x7bb" .any]⟩ := by rfl
    have hpiece : BraceInName "\x7ba\x7d\x7bb\x7d".toList :=
      @BraceInName.param "a\x7d\x7bb".toList (by decide)
    refine ⟨_, hread, ((parse_braces _).1 _ hread).2 ⟨_, ?_, hpiece⟩⟩
    decide

/-- Two variables in one piece, text between two variables, a placeholder in a name, and a variable
behind the star of a catch-all. -/
theorem parse_joined_variables :
    names <$> parse "/\x7ba\x7d\x7bb\x7d" = .ok ["a\x7d\x7bb"] ∧
      names <$> parse "/\x7ba\x7d-\x7bb\x7d" = .ok ["a\x7d-\x7bb"] ∧
      names <$> parse "/\x7b$\x7bx\x7d\x7d" = .ok ["$\x7bx\x7d"] ∧
      names <$> parse "/*\x7bx\x7d" = .ok ["\x7bx\x7d"] ∧
      ¬ ∀ text p, parse text = .ok p → ∀ name ∈ p.names, ¬ HasBrace name.toList := by
  refine ⟨by rfl, by rfl, by rfl, by rfl, fun h => ?_⟩
  have hread : parse "/\x7ba\x7d\x7bb\x7d" =
      .ok ⟨"/\x7ba\x7d\x7bb\x7d", [.param "a\x7d\x7bb" .any]⟩ := by rfl
  exact h _ _ hread "a\x7d\x7bb" (by decide) (by decide)

end Pattern

end RequestRouting.Path
