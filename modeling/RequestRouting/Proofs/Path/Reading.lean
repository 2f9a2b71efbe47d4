import RequestRouting.Path.Pattern
import RequestRouting.Proofs.Outcome

/-! What a pattern looks like that was read from a text. Pieces and segments correspond one to
one; a piece that is read as a literal is that literal, names differ from each other, and only
the last segment can be a catch-all. A text that cannot be read fails at its first piece that
cannot be read where it stands. -/
namespace RequestRouting.Path

theorem readSegments_cons {before : Before} {piece : List Char} {rest : List (List Char)}
    {segments : List Segment} :
    readSegments before (piece :: rest) = .ok segments ↔
      ∃ segment tail, readSegment before rest.isEmpty piece = .ok segment ∧
        readSegments (before.add segment) rest = .ok tail ∧ segments = segment :: tail := by
  rw [readSegments, Outcome.bind_eq_ok]
  constructor
  · rintro ⟨segment, hs, h⟩
    obtain ⟨tail, ht, h⟩ := Outcome.bind_eq_ok.1 h
    exact ⟨segment, tail, hs, ht, (Outcome.pure_eq_ok.1 h).symm⟩
  · rintro ⟨segment, tail, hs, ht, rfl⟩
    exact ⟨segment, hs, Outcome.bind_eq_ok.2 ⟨tail, ht, rfl⟩⟩

theorem readSegments_cons_of_ok {before : Before} {piece : List Char} {rest : List (List Char)}
    {segment : Segment} (hrest : rest ≠ [])
    (hsegment : readSegment before false piece = .ok segment) :
    readSegments before (piece :: rest) =
      (readSegments (before.add segment) rest).map (segment :: ·) := by
  rw [readSegments, List.isEmpty_eq_false_iff.2 hrest, hsegment]
  show (readSegments (before.add segment) rest >>= fun tail => pure (segment :: tail)) = _
  cases readSegments (before.add segment) rest <;> rfl

/-- Pieces that can be read where another one follows, and what they leave behind for it. -/
def LeadsTo : Before → List (List Char) → Before → Prop
  | before, [], after => before = after
  | before, piece :: front, after =>
    ∃ segment, readSegment before false piece = .ok segment ∧
      LeadsTo (before.add segment) front after

theorem exists_of_readSegments_error {e : PatternError} {before : Before}
    {pieces : List (List Char)} (h : readSegments before pieces = .error e) :
    ∃ front piece rest after, pieces = front ++ piece :: rest ∧ LeadsTo before front after ∧
      readSegment after rest.isEmpty piece = .error e := by
  induction pieces generalizing before with
  | nil => contradiction
  | cons piece rest ih =>
    cases hsegment : readSegment before rest.isEmpty piece with
    | error e' =>
      rw [readSegments, hsegment] at h
      obtain rfl := Except.error.inj h
      exact ⟨[], piece, rest, before, rfl, rfl, hsegment⟩
    | ok segment =>
      have hrest : rest ≠ [] := by
        rintro rfl
        rw [readSegments, hsegment] at h
        contradiction
      rw [List.isEmpty_eq_false_iff.2 hrest] at hsegment
      rw [readSegments_cons_of_ok hrest hsegment] at h
      cases htail : readSegments (before.add segment) rest with
      | error e' =>
        rw [htail] at h
        obtain rfl := Except.error.inj h
        obtain ⟨front, other, back, after, rfl, hleads, herror⟩ := ih htail
        exact ⟨piece :: front, other, back, after, rfl, ⟨segment, hsegment, hleads⟩, herror⟩
      | ok tail =>
        rw [htail] at h
        contradiction

theorem readSegments_eq_error {e : PatternError} {before : Before} {pieces : List (List Char)} :
    readSegments before pieces = .error e ↔
      ∃ front piece rest after, pieces = front ++ piece :: rest ∧ LeadsTo before front after ∧
        readSegment after rest.isEmpty piece = .error e := by
  constructor
  · exact exists_of_readSegments_error
  rintro ⟨front, piece, rest, after, rfl, hleads, herror⟩
  induction front generalizing before with
  | nil =>
    obtain rfl : before = after := hleads
    rw [List.nil_append, readSegments, herror]
    rfl
  | cons first front ih =>
    obtain ⟨segment, hsegment, hleads⟩ := hleads
    rw [List.cons_append, readSegments_cons_of_ok (by simp) hsegment, ih hleads]
    rfl

theorem checkName_eq_ok {before : Before} {name : String} {segment segment' : Segment} :
    checkName before name segment = .ok segment' ↔
      before.names.contains name = false ∧ segment = segment' := by
  unfold checkName
  cases before.names.contains name <;> simp

theorem readCatchAll_eq_ok {before : Before} {isLast : Bool} {name : Option String}
    {segment : Segment} (h : readCatchAll before isLast name = .ok segment) :
    isLast = true ∧ segment = .catchAll name := by
  unfold readCatchAll at h
  split at h
  · contradiction
  split at h
  · contradiction
  next hlast =>
    have hlast : isLast = true := by simpa using hlast
    cases name with
    | none => exact ⟨hlast, (Except.ok.inj h).symm⟩
    | some name =>
      dsimp only at h
      split at h
      · contradiction
      · exact ⟨hlast, (checkName_eq_ok.1 h).2.symm⟩

theorem readSegment_cases {before : Before} {isLast : Bool} {piece : List Char}
    {segment : Segment} (h : readSegment before isLast piece = .ok segment) :
    (isLast = true ∧ ∃ name, segment = .catchAll name) ∨ segment = .wildcard ∨
      (∃ name constraint, segment = .param name constraint) ∨
      segment = .literal (String.ofList piece) := by
  unfold readSegment at h
  split at h
  · obtain ⟨hlast, rfl⟩ := readCatchAll_eq_ok h
    exact .inl ⟨hlast, _, rfl⟩
  · obtain ⟨hlast, rfl⟩ := readCatchAll_eq_ok h
    exact .inl ⟨hlast, _, rfl⟩
  · exact .inr (.inl (Except.ok.inj h).symm)
  · obtain ⟨⟨name, constraint⟩, -, h⟩ := Outcome.bind_eq_ok.1 h
    obtain ⟨-, rfl⟩ := checkName_eq_ok.1 h
    exact .inr (.inr (.inl ⟨_, _, rfl⟩))
  · split at h
    · contradiction
    split at h
    · contradiction
    · exact .inr (.inr (.inr (Except.ok.inj h).symm))

section Fresh

variable {before : Before} {segment : Segment} {name : String}

theorem not_mem_names_of_checkName {other : String} {segment' : Segment}
    (h : checkName before other segment' = .ok segment) (hother : segment'.name? = some other)
    (hname : segment.name? = some name) : name ∉ before.names := by
  obtain ⟨hnew, rfl⟩ := checkName_eq_ok.1 h
  obtain rfl := Option.some.inj (hother.symm.trans hname)
  simpa using hnew

theorem not_mem_names_of_readCatchAll {isLast : Bool} {name? : Option String}
    (h : readCatchAll before isLast name? = .ok segment) (hname : segment.name? = some name) :
    name ∉ before.names := by
  obtain ⟨-, rfl⟩ := readCatchAll_eq_ok h
  obtain rfl : name? = some name := hname
  unfold readCatchAll at h
  split at h
  · contradiction
  split at h
  · contradiction
  dsimp only at h
  split at h
  · contradiction
  · exact not_mem_names_of_checkName h rfl rfl

theorem not_mem_names_of_readSegment {isLast : Bool} {piece : List Char}
    (h : readSegment before isLast piece = .ok segment) (hname : segment.name? = some name) :
    name ∉ before.names := by
  unfold readSegment at h
  split at h
  · exact not_mem_names_of_readCatchAll h hname
  · exact not_mem_names_of_readCatchAll h hname
  · rw [← Except.ok.inj h] at hname
    contradiction
  · obtain ⟨⟨other, constraint⟩, -, h⟩ := Outcome.bind_eq_ok.1 h
    exact not_mem_names_of_checkName h rfl hname
  · split at h
    · contradiction
    split at h
    · contradiction
    · rw [← Except.ok.inj h] at hname
      contradiction

end Fresh

theorem nodup_names_of_readSegments {before : Before} {pieces : List (List Char)}
    {segments : List Segment} (h : readSegments before pieces = .ok segments) :
    (segments.filterMap Segment.name?).Nodup ∧
      ∀ name ∈ segments.filterMap Segment.name?, name ∉ before.names := by
  induction pieces generalizing before segments with
  | nil =>
    obtain rfl := Except.ok.inj h
    simp
  | cons piece rest ih =>
    obtain ⟨segment, tail, hsegment, htail, rfl⟩ := readSegments_cons.1 h
    obtain ⟨hnodup, hnew⟩ := ih htail
    rw [List.filterMap_cons]
    cases hname : segment.name? with
    | none =>
      refine ⟨hnodup, fun name hmem => ?_⟩
      simpa [Before.add, hname] using hnew name hmem
    | some name =>
      simp only [Before.add, hname, Option.toList_some, List.cons_append, List.nil_append,
        List.mem_cons, not_or] at hnew
      refine ⟨List.nodup_cons.2 ⟨fun hmem => (hnew name hmem).1 rfl, hnodup⟩, ?_⟩
      rw [List.forall_mem_cons]
      exact ⟨not_mem_names_of_readSegment hsegment hname, fun other hmem => (hnew other hmem).2⟩

def CatchAllLast : List Segment → Prop
  | [] => True
  | segment :: rest => (segment.isCatchAll = true → rest = []) ∧ CatchAllLast rest

theorem catchAllLast_of_readSegments {before : Before} {pieces : List (List Char)}
    {segments : List Segment} (h : readSegments before pieces = .ok segments) :
    CatchAllLast segments := by
  induction pieces generalizing before segments with
  | nil =>
    obtain rfl := Except.ok.inj h
    trivial
  | cons piece rest ih =>
    obtain ⟨segment, tail, hsegment, htail, rfl⟩ := readSegments_cons.1 h
    refine ⟨fun hcatch => ?_, ih htail⟩
    rcases readSegment_cases hsegment with ⟨hlast, -⟩ | rfl | ⟨name, constraint, rfl⟩ | rfl
    · have hrest : rest = [] := List.isEmpty_iff.1 hlast
      subst hrest
      exact (Except.ok.inj htail).symm
    · contradiction
    · contradiction
    · contradiction

theorem eq_map_literal_of_readSegments {before : Before} {pieces : List (List Char)}
    {segments : List Segment} (h : readSegments before pieces = .ok segments)
    (hliteral : segments.all Segment.isLiteral) :
    segments = pieces.map fun piece => .literal (String.ofList piece) := by
  induction pieces generalizing before segments with
  | nil => exact (Except.ok.inj h).symm
  | cons piece rest ih =>
    obtain ⟨segment, tail, hsegment, htail, rfl⟩ := readSegments_cons.1 h
    simp only [List.all_cons, Bool.and_eq_true] at hliteral
    rw [List.map_cons, ih htail hliteral.2]
    rcases readSegment_cases hsegment with ⟨-, name, rfl⟩ | rfl | ⟨name, constraint, rfl⟩ | rfl
    · exact absurd hliteral.1 (by simp [Segment.isLiteral])
    · exact absurd hliteral.1 (by simp [Segment.isLiteral])
    · exact absurd hliteral.1 (by simp [Segment.isLiteral])
    · rfl

namespace Pattern

def Parsed (p : Pattern) : Prop := ∃ text, parse text = .ok p

theorem parse_eq_ok {text : String} {p : Pattern} :
    parse text = .ok p ↔ p.canonical = normalize text ∧
      readSegments ⟨[], false⟩ (pieceChars p.canonical.toList) = .ok p.segments := by
  obtain ⟨canonical, segments⟩ := p
  unfold parse
  rw [Outcome.bind_eq_ok]
  constructor
  · rintro ⟨segments', hread, h⟩
    have h := Outcome.pure_eq_ok.1 h
    simp only [Pattern.mk.injEq] at h
    obtain ⟨rfl, rfl⟩ := h
    exact ⟨rfl, hread⟩
  · rintro ⟨hcanonical, hread⟩
    dsimp only at hcanonical hread
    subst hcanonical
    exact ⟨segments, hread, rfl⟩

theorem parse_eq_error {text : String} {e : PatternError} :
    parse text = .error e ↔
      readSegments ⟨[], false⟩ (pieceChars (normalize text).toList) = .error e := by
  unfold parse
  cases h : readSegments ⟨[], false⟩ (pieceChars (normalize text).toList) with
  | error e' => simp [h, bind, Except.bind]
  | ok segments => simp [h, bind, Except.bind, pure, Except.pure]

theorem parsed_empty : empty.Parsed := ⟨"", parse_eq_ok.2 ⟨by decide, by rfl⟩⟩

theorem Parsed.catchAllLast {p : Pattern} (h : p.Parsed) : CatchAllLast p.segments := by
  obtain ⟨text, h⟩ := h
  exact catchAllLast_of_readSegments (parse_eq_ok.1 h).2

theorem Parsed.nodup_names {p : Pattern} (h : p.Parsed) : p.names.Nodup := by
  obtain ⟨text, h⟩ := h
  exact (nodup_names_of_readSegments (parse_eq_ok.1 h).2).1

theorem Parsed.segments_eq {p : Pattern} (h : p.Parsed) (hstatic : p.isStatic) :
    p.segments = (pieces p.canonical).map .literal := by
  obtain ⟨text, h⟩ := h
  rw [eq_map_literal_of_readSegments (parse_eq_ok.1 h).2 hstatic, pieces, List.map_map]
  rfl

end Pattern

end RequestRouting.Path
