import RequestRouting.Proofs.Path.Braces

/-! The grammar of pieces: which segment a piece spells, and what can be wrong with a piece. A piece
is read as the segment that it spells, unless its name is used before or it is a catch-all with
pieces behind it; every piece that is not read has a fault of its own kind. -/
namespace RequestRouting.Path

inductive SpellsVariable : List Char → String → Constraint → Prop
  | bare {name : List Char} (hcolon : ':' ∉ name) (hname : Text.trimChars name ≠ []) :
    SpellsVariable name (String.ofList (Text.trimChars name)) .any
  | constrained {name source : List Char} {constraint : Constraint} (hcolon : ':' ∉ name)
    (hname : Text.trimChars name ≠ [])
    (h : Constraint.parse? (String.ofList (Text.trimChars source)) = some constraint) :
    SpellsVariable (name ++ ':' :: source) (String.ofList (Text.trimChars name)) constraint

inductive Spells : List Char → Segment → Prop
  | literal {text : List Char} (hstar : text.head? ≠ some '*') (hbrace : ¬ HasBrace text) :
    Spells text (.literal (String.ofList text))
  | param {definition : List Char} {name : String} {constraint : Constraint}
    (hstar : definition.head? ≠ some '*') (h : SpellsVariable definition name constraint) :
    Spells ('\x7b' :: (definition ++ ['\x7d'])) (.param name constraint)
  | wildcard : Spells ['*'] .wildcard
  | anonymousCatchAll : Spells ['*', '*'] (.catchAll none)
  | starredCatchAll {name : List Char} (hname : name ≠ []) (hother : name ≠ ['*']) :
    Spells ('*' :: name) (.catchAll (some (String.ofList name)))
  | enclosedCatchAll {name : List Char} (hname : name ≠ []) :
    Spells ('\x7b' :: '*' :: (name ++ ['\x7d'])) (.catchAll (some (String.ofList name)))

def IsCatchAll (piece : List Char) : Prop :=
  HasShape piece .anonymousCatchAll ∨ ∃ name, HasShape piece (.namedCatchAll name)

/-- What is wrong with a piece behind pieces with the names `earlier`: it is malformed, it uses one
of these names, or it is a catch-all and not the last piece. -/
inductive Fault (earlier : List String) : (isLast : Bool) → List Char → PatternError → Prop
  | unnamedCatchAll : Fault earlier true ['\x7b', '*', '\x7d'] .unnamedCatchAll
  | unnamedVariable {isLast : Bool} {definition : List Char} (hstar : definition.head? ≠ some '*')
    (hname : Text.trimChars (definition.takeWhile (· != ':')) = []) :
    Fault earlier isLast ('\x7b' :: (definition ++ ['\x7d'])) .unnamedVariable
  | invalidRegex {isLast : Bool} {name source : List Char}
    (hstar : (name ++ ':' :: source).head? ≠ some '*') (hcolon : ':' ∉ name)
    (hname : Text.trimChars name ≠ [])
    (h : Constraint.parse? (String.ofList (Text.trimChars source)) = none) :
    Fault earlier isLast ('\x7b' :: (name ++ ':' :: source ++ ['\x7d']))
      (.invalidRegex (String.ofList (Text.trimChars source)))
  | partlyBraced {isLast : Bool} {piece : List Char} (h : PartlyBraced piece) :
    Fault earlier isLast piece (braceFault piece)
  | repeatedName {isLast : Bool} {piece : List Char} {segment : Segment} {name : String}
    (h : Spells piece segment) (hlast : segment.isCatchAll = true → isLast = true)
    (hname : segment.name? = some name) (hmem : name ∈ earlier) :
    Fault earlier isLast piece (.repeatedName name)
  | catchAllNotLast {piece : List Char} (h : IsCatchAll piece) :
    Fault earlier false piece .catchAllNotLast

theorem HasShape.shapeOf_eq {piece : List Char} {shape : PieceShape} (h : HasShape piece shape) :
    shapeOf piece = shape := by
  cases h with
  | anonymousCatchAll => rfl
  | enclosedCatchAll name => simp [shapeOf, List.getLast?_cons]
  | starredCatchAll hname hother => simp [shapeOf, hname, hother]
  | wildcard => rfl
  | @param definition hdefinition =>
    have htake : (definition ++ ['\x7d']).take 1 ≠ ['*'] := by
      cases definition with
      | nil => decide
      | cons c rest => simpa using hdefinition
    simp [shapeOf, htake, isBraced_iff]
  | plain hstar henclosed => exact shapeOf_eq_plain hstar henclosed

section Variable

variable {definition : List Char} {name : String} {constraint : Constraint} {e : PatternError}

theorem cases_definition (definition : List Char) :
    (':' ∉ definition ∧ Text.splitFirst ':' definition = none) ∨
      ∃ front source, definition = front ++ ':' :: source ∧ ':' ∉ front ∧
        Text.splitFirst ':' definition = some (front, source) := by
  cases h : Text.splitFirst ':' definition with
  | none => exact .inl ⟨Text.splitFirst_eq_none_iff.1 h, rfl⟩
  | some parts =>
    obtain ⟨hdefinition, hcolon⟩ := Text.eq_append_of_splitFirst h
    exact .inr ⟨parts.1, parts.2, hdefinition, hcolon, rfl⟩

theorem readVariable_bare {front : List Char} (hcolon : ':' ∉ front) :
    readVariable front =
      if Text.trimChars front = [] then .error .unnamedVariable
      else .ok (String.ofList (Text.trimChars front), .any) := by
  unfold readVariable
  rw [Text.splitFirst_eq_none_iff.2 hcolon]
  simp [String.isEmpty_iff]

theorem readVariable_constrained {front source : List Char} (hcolon : ':' ∉ front) :
    readVariable (front ++ ':' :: source) =
      if Text.trimChars front = [] then .error .unnamedVariable
      else match Constraint.parse? (String.ofList (Text.trimChars source)) with
        | some constraint => .ok (String.ofList (Text.trimChars front), constraint)
        | none => .error (.invalidRegex (String.ofList (Text.trimChars source))) := by
  unfold readVariable
  rw [Text.splitFirst_append hcolon]
  cases h : Constraint.parse? (String.ofList (Text.trimChars source)) <;>
    simp only [String.isEmpty_iff, String.ofList_eq_empty_iff, h]

theorem readVariable_eq_ok :
    readVariable definition = .ok (name, constraint) ↔
      SpellsVariable definition name constraint := by
  constructor
  · intro h
    rcases cases_definition definition with ⟨hcolon, -⟩ | ⟨front, source, rfl, hcolon, -⟩
    · rw [readVariable_bare hcolon] at h
      split at h
      · contradiction
      next hname =>
      obtain ⟨rfl, rfl⟩ := Prod.mk.inj (Except.ok.inj h)
      exact .bare hcolon hname
    · rw [readVariable_constrained hcolon] at h
      split at h
      · contradiction
      next hname =>
      split at h
      · next hsource =>
        obtain ⟨rfl, rfl⟩ := Prod.mk.inj (Except.ok.inj h)
        exact .constrained hcolon hname hsource
      · contradiction
  · intro h
    cases h with
    | bare hcolon hname => rw [readVariable_bare hcolon, if_neg hname]
    | constrained hcolon hname hsource =>
      rw [readVariable_constrained hcolon, if_neg hname, hsource]

theorem readVariable_eq_error :
    readVariable definition = .error e ↔
      (Text.trimChars (definition.takeWhile (· != ':')) = [] ∧ e = .unnamedVariable) ∨
      ∃ front source, definition = front ++ ':' :: source ∧ ':' ∉ front ∧
        Text.trimChars front ≠ [] ∧
        Constraint.parse? (String.ofList (Text.trimChars source)) = none ∧
        e = .invalidRegex (String.ofList (Text.trimChars source)) := by
  rw [Text.takeWhile_eq_splitFirst]
  constructor
  · intro h
    rcases cases_definition definition with ⟨hcolon, hsplit⟩ | ⟨front, source, rfl, hcolon, hsplit⟩
    · rw [readVariable_bare hcolon] at h
      rw [hsplit]
      split at h
      · next hname => exact .inl ⟨hname, (Except.error.inj h).symm⟩
      · contradiction
    · rw [readVariable_constrained hcolon] at h
      rw [hsplit]
      split at h
      · next hname => exact .inl ⟨hname, (Except.error.inj h).symm⟩
      next hname =>
      split at h
      · contradiction
      next hsource =>
      exact .inr ⟨front, source, rfl, hcolon, hname, hsource, (Except.error.inj h).symm⟩
  · rintro (⟨hname, rfl⟩ | ⟨front, source, rfl, hcolon, hname, hsource, rfl⟩)
    · rcases cases_definition definition with
        ⟨hcolon, hsplit⟩ | ⟨front, source, rfl, hcolon, hsplit⟩
      · rw [hsplit] at hname
        rw [readVariable_bare hcolon]
        exact if_pos hname
      · rw [hsplit] at hname
        rw [readVariable_constrained hcolon]
        exact if_pos hname
    · rw [readVariable_constrained hcolon, if_neg hname, hsource]

end Variable

section Reading

variable {before : Before} {isLast : Bool} {piece : List Char} {segment : Segment}
  {e : PatternError}

theorem checkName_eq_error {name : String} :
    checkName before name segment = .error e ↔
      name ∈ before.names ∧ e = .repeatedName name := by
  unfold checkName
  by_cases hmem : name ∈ before.names
  · simp [hmem, eq_comm]
  · simp [hmem]

theorem readCatchAll_anonymous (hcaught : before.caught = false) :
    readCatchAll before isLast none =
      if isLast then .ok (.catchAll none) else .error .catchAllNotLast := by
  unfold readCatchAll
  rw [hcaught]
  cases isLast <;> rfl

theorem readCatchAll_named (hcaught : before.caught = false) (name : String) :
    readCatchAll before isLast (some name) =
      if isLast then
        if name = "" then .error .unnamedCatchAll
        else checkName before name (.catchAll (some name))
      else .error .catchAllNotLast := by
  unfold readCatchAll
  rw [hcaught]
  cases isLast
  · rfl
  · simp only [Bool.false_eq_true, if_false, Bool.not_true, if_true, String.isEmpty_iff]

theorem isBraced_of_not_hasBrace (h : ¬ HasBrace piece) : isBraced piece = false := by
  rw [← Bool.not_eq_true, isBraced_iff]
  rintro ⟨inner, rfl⟩
  exact h (.inl List.mem_cons_self)

def readShape (before : Before) (isLast : Bool) (piece : List Char) :
    PieceShape → Except PatternError Segment
  | .anonymousCatchAll => readCatchAll before isLast none
  | .namedCatchAll name => readCatchAll before isLast (some name)
  | .wildcard => .ok .wildcard
  | .param definition => do
    let (name, constraint) ← readVariable definition
    checkName before name (.param name constraint)
  | .plain =>
    if HasBrace piece then .error (braceFault piece) else .ok (.literal (String.ofList piece))

theorem readSegment_eq_readShape (before : Before) (isLast : Bool) (piece : List Char) :
    readSegment before isLast piece = readShape before isLast piece (shapeOf piece) := by
  unfold readSegment readShape
  cases shapeOf piece with
  | plain =>
    dsimp only
    by_cases hbrace : HasBrace piece
    · have hcontains : (piece.contains '\x7b' || piece.contains '\x7d') = true := by
        simpa [HasBrace] using hbrace
      rw [hcontains, if_pos rfl, if_pos hbrace, braceFault]
      split
      · rfl
      · rfl
    · have hcontains : (piece.contains '\x7b' || piece.contains '\x7d') = false := by
        simpa [HasBrace] using hbrace
      have hplaceholder : hasPlaceholder piece = false := by
        rw [hasPlaceholder, ← Bool.not_eq_true, Option.isSome_iff_exists]
        rintro ⟨parts, hparts⟩
        apply hbrace
        rw [(Text.eq_append_of_splitFirstPair hparts).1]
        exact .inl (by simp)
      rw [hcontains, hplaceholder, if_neg hbrace]
      rfl
  | _ => rfl

theorem HasShape.readSegment_eq {shape : PieceShape} (h : HasShape piece shape) (before : Before)
    (isLast : Bool) : readSegment before isLast piece = readShape before isLast piece shape := by
  rw [readSegment_eq_readShape, h.shapeOf_eq]

/-- A segment can stand behind what was read before: its name is new, and it is no catch-all in
front of another piece. -/
structure Segment.Admissible (before : Before) (isLast : Bool) (segment : Segment) : Prop where
  fresh : ∀ name, segment.name? = some name → name ∉ before.names
  last : segment.isCatchAll = true → isLast = true

theorem checkName_eq_ok_iff {name : String} (hname : segment.name? = some name)
    {segment' : Segment} :
    checkName before name segment = .ok segment' ↔
      segment' = segment ∧ ∀ other, segment.name? = some other → other ∉ before.names := by
  rw [checkName_eq_ok, hname]
  simp [eq_comm, and_comm]

theorem readCatchAll_named_eq_ok (hcaught : before.caught = false) {name : String} :
    readCatchAll before isLast (some name) = .ok segment ↔
      isLast = true ∧ name ≠ "" ∧ segment = .catchAll (some name) ∧
        ∀ other, Segment.name? (.catchAll (some name)) = some other → other ∉ before.names := by
  rw [readCatchAll_named hcaught, ← checkName_eq_ok_iff rfl]
  cases isLast with
  | false => simp
  | true => by_cases hname : name = "" <;> simp [hname]

theorem readSegment_eq_ok_iff_spells (hcaught : before.caught = false) :
    readSegment before isLast piece = .ok segment ↔
      Spells piece segment ∧ segment.Admissible before isLast := by
  constructor
  · intro h
    have hshape := hasShape_shapeOf piece
    rw [readSegment_eq_readShape] at h
    generalize shapeOf piece = shape at h hshape
    -- the conditions of a shape and the checks behind it are the premises of a spelling
    cases hshape with
    | anonymousCatchAll =>
      rw [readShape, readCatchAll_anonymous hcaught] at h
      split at h
      · next hlast =>
        obtain rfl := Except.ok.inj h
        exact ⟨.anonymousCatchAll, by simp [Segment.name?], fun _ => hlast⟩
      · contradiction
    | enclosedCatchAll name =>
      obtain ⟨hlast, hname, rfl, hfresh⟩ := (readCatchAll_named_eq_ok hcaught).1 h
      exact ⟨.enclosedCatchAll (by simpa using hname), hfresh, fun _ => hlast⟩
    | starredCatchAll hname hother =>
      obtain ⟨hlast, -, rfl, hfresh⟩ := (readCatchAll_named_eq_ok hcaught).1 h
      exact ⟨.starredCatchAll hname hother, hfresh, fun _ => hlast⟩
    | wildcard =>
      obtain rfl := Except.ok.inj h
      exact ⟨.wildcard, by simp [Segment.name?], fun h => absurd h (by decide)⟩
    | param hdefinition =>
      obtain ⟨⟨name, constraint⟩, hread, h⟩ := Outcome.bind_eq_ok.1 h
      obtain ⟨rfl, hfresh⟩ := (checkName_eq_ok_iff rfl).1 h
      exact ⟨.param hdefinition (readVariable_eq_ok.1 hread), hfresh,
        fun h => absurd h Bool.false_ne_true⟩
    | plain hstar henclosed =>
      rw [readShape] at h
      split at h
      · contradiction
      next hbrace =>
      obtain rfl := Except.ok.inj h
      exact ⟨.literal hstar hbrace, by simp [Segment.name?], fun h => absurd h Bool.false_ne_true⟩
  · rintro ⟨hspells, hfresh, hlast⟩
    cases hspells with
    | literal hstar hbrace =>
      rw [(HasShape.plain hstar (isBraced_of_not_hasBrace hbrace)).readSegment_eq]
      exact if_neg hbrace
    | param hstar hvariable =>
      rw [(HasShape.param hstar).readSegment_eq, readShape, readVariable_eq_ok.2 hvariable]
      exact (checkName_eq_ok_iff rfl).2 ⟨rfl, hfresh⟩
    | wildcard => rw [HasShape.wildcard.readSegment_eq, readShape]
    | anonymousCatchAll =>
      rw [HasShape.anonymousCatchAll.readSegment_eq, readShape, readCatchAll_anonymous hcaught,
        hlast rfl]
      rfl
    | starredCatchAll hname hother =>
      rw [(HasShape.starredCatchAll hname hother).readSegment_eq, readShape]
      exact (readCatchAll_named_eq_ok hcaught).2 ⟨hlast rfl, by simpa using hname, rfl, hfresh⟩
    | enclosedCatchAll hname =>
      rw [(HasShape.enclosedCatchAll _).readSegment_eq, readShape]
      exact (readCatchAll_named_eq_ok hcaught).2 ⟨hlast rfl, by simpa using hname, rfl, hfresh⟩

theorem readCatchAll_named_eq_error (hcaught : before.caught = false) {name : String} :
    readCatchAll before isLast (some name) = .error e ↔
      (isLast = false ∧ e = .catchAllNotLast) ∨
      (isLast = true ∧ name = "" ∧ e = .unnamedCatchAll) ∨
      (isLast = true ∧ name ≠ "" ∧ name ∈ before.names ∧ e = .repeatedName name) := by
  rw [readCatchAll_named hcaught]
  cases isLast with
  | false => simp [eq_comm]
  | true =>
    by_cases hname : name = ""
    · simp [hname, eq_comm]
    · simp [hname, checkName_eq_error]

theorem fault_of_readVariable {definition : List Char} {earlier : List String}
    (hstar : definition.head? ≠ some '*') (h : readVariable definition = .error e) :
    Fault earlier isLast ('\x7b' :: (definition ++ ['\x7d'])) e := by
  rcases readVariable_eq_error.1 h with
    ⟨hname, rfl⟩ | ⟨front, source, rfl, hcolon, hname, hsource, rfl⟩
  · exact .unnamedVariable hstar hname
  · exact .invalidRegex hstar hcolon hname hsource

theorem fault_of_readSegment (hcaught : before.caught = false)
    (h : readSegment before isLast piece = .error e) : Fault before.names isLast piece e := by
  have hshape := hasShape_shapeOf piece
  rw [readSegment_eq_readShape] at h
  generalize shapeOf piece = shape at h hshape
  cases hshape with
  | anonymousCatchAll =>
    rw [readShape, readCatchAll_anonymous hcaught] at h
    cases isLast with
    | true => contradiction
    | false =>
      obtain rfl := Except.error.inj h
      exact .catchAllNotLast (.inl .anonymousCatchAll)
  | enclosedCatchAll name =>
    rcases (readCatchAll_named_eq_error hcaught).1 h with
      ⟨rfl, rfl⟩ | ⟨rfl, hname, rfl⟩ | ⟨rfl, hname, hmem, rfl⟩
    · exact .catchAllNotLast (.inr ⟨_, .enclosedCatchAll name⟩)
    · obtain rfl : name = [] := by simpa using hname
      exact .unnamedCatchAll
    · exact .repeatedName (.enclosedCatchAll (by simpa using hname)) (fun _ => rfl) rfl hmem
  | @starredCatchAll name hne hother =>
    rcases (readCatchAll_named_eq_error hcaught).1 h with
      ⟨rfl, rfl⟩ | ⟨rfl, hname, -⟩ | ⟨rfl, -, hmem, rfl⟩
    · exact .catchAllNotLast (.inr ⟨_, .starredCatchAll hne hother⟩)
    · exact absurd (by simpa using hname) hne
    · exact .repeatedName (.starredCatchAll hne hother) (fun _ => rfl) rfl hmem
  | wildcard => contradiction
  | @param definition hstar =>
    rw [readShape] at h
    cases hread : readVariable definition with
    | error e' =>
      rw [hread] at h
      obtain rfl := Except.error.inj h
      exact fault_of_readVariable hstar hread
    | ok parts =>
      obtain ⟨name, constraint⟩ := parts
      rw [hread] at h
      obtain ⟨hmem, rfl⟩ := checkName_eq_error.1 h
      exact .repeatedName (.param hstar (readVariable_eq_ok.1 hread))
        (fun h => absurd h Bool.false_ne_true) rfl hmem
  | plain hstar henclosed =>
    rw [readShape] at h
    split at h
    · next hbrace =>
      obtain rfl := Except.error.inj h
      exact .partlyBraced ⟨hbrace, hstar, henclosed⟩
    · contradiction

theorem readSegment_of_repeated (hcaught : before.caught = false) {name : String}
    (h : Spells piece segment) (hlast : segment.isCatchAll = true → isLast = true)
    (hname : segment.name? = some name) (hmem : name ∈ before.names) :
    readSegment before isLast piece = .error (.repeatedName name) := by
  cases h with
  | literal _ _ | wildcard | anonymousCatchAll => contradiction
  | param hstar hvariable =>
    obtain rfl := Option.some.inj hname
    rw [(HasShape.param hstar).readSegment_eq, readShape, readVariable_eq_ok.2 hvariable]
    exact checkName_eq_error.2 ⟨hmem, rfl⟩
  | starredCatchAll hne hother =>
    obtain rfl := Option.some.inj hname
    rw [(HasShape.starredCatchAll hne hother).readSegment_eq, readShape,
      readCatchAll_named_eq_error hcaught]
    exact .inr (.inr ⟨hlast rfl, by simpa using hne, hmem, rfl⟩)
  | enclosedCatchAll hne =>
    obtain rfl := Option.some.inj hname
    rw [(HasShape.enclosedCatchAll _).readSegment_eq, readShape,
      readCatchAll_named_eq_error hcaught]
    exact .inr (.inr ⟨hlast rfl, by simpa using hne, hmem, rfl⟩)

theorem IsCatchAll.readSegment_eq (hcaught : before.caught = false) (h : IsCatchAll piece) :
    readSegment before false piece = .error .catchAllNotLast := by
  rcases h with hshape | ⟨name, hshape⟩
  · rw [hshape.readSegment_eq, readShape, readCatchAll_anonymous hcaught]
    rfl
  · rw [hshape.readSegment_eq, readShape, readCatchAll_named hcaught]
    rfl

theorem readSegment_eq_error_iff_fault (hcaught : before.caught = false) :
    readSegment before isLast piece = .error e ↔ Fault before.names isLast piece e := by
  constructor
  · exact fault_of_readSegment hcaught
  intro h
  cases h with
  | unnamedCatchAll =>
    have hshape : HasShape ['\x7b', '*', '\x7d'] (.namedCatchAll "") := .enclosedCatchAll []
    rw [hshape.readSegment_eq, readShape, readCatchAll_named_eq_error hcaught]
    exact .inr (.inl ⟨rfl, rfl, rfl⟩)
  | unnamedVariable hstar hname =>
    rw [(HasShape.param hstar).readSegment_eq, readShape,
      readVariable_eq_error.2 (.inl ⟨hname, rfl⟩)]
    rfl
  | invalidRegex hstar hcolon hname hsource =>
    rw [(HasShape.param hstar).readSegment_eq, readShape,
      readVariable_eq_error.2 (.inr ⟨_, _, rfl, hcolon, hname, hsource, rfl⟩)]
    rfl
  | partlyBraced h => exact h.readSegment_eq _ _
  | repeatedName h hlast hname hmem => exact readSegment_of_repeated hcaught h hlast hname hmem
  | catchAllNotLast h => exact h.readSegment_eq hcaught

end Reading

end RequestRouting.Path
