import RequestRouting.Proofs.Path.Capturing
import RequestRouting.Proofs.Path.Grammar

/-! Reading whole patterns. A pattern that is read has one segment for each piece, spelled by it,
with names that differ and no catch-all before the end, and one pass over the pieces can gather
what else is kept of a pattern. A text that is not read fails because of its first piece with a
fault, whatever stands in the pieces behind it. -/
namespace RequestRouting.Path

def namesOf (segments : List Segment) : List String := segments.filterMap Segment.name?

def Fresh (before : List String) (segments : List Segment) : Prop :=
  (namesOf segments).Nodup ∧ ∀ name ∈ namesOf segments, name ∉ before

/-- Segments that pieces spell out, one by one, as they can stand in front of another piece: with
new names and without a catch-all. -/
structure Sound (before : List String) (front : List (List Char)) (segments : List Segment) :
    Prop where
  spells : List.Forall₂ Spells front segments
  fresh : Fresh before segments
  noCatchAll : segments.any Segment.isCatchAll = false

/-- Segments that pieces spell out, one by one, as they can stand at the end of a pattern: with new
names, and with no catch-all but in the last place. -/
structure WellRead (before : List String) (pieces : List (List Char)) (segments : List Segment) :
    Prop where
  spells : List.Forall₂ Spells pieces segments
  fresh : Fresh before segments
  catchAllLast : CatchAllLast segments

section Reading

variable {before after : Before} {segment : Segment} {piece : List Char}
  {pieces front : List (List Char)} {segments : List Segment} {e : PatternError}

theorem fresh_nil (before : List String) : Fresh before [] := ⟨List.nodup_nil, by simp [namesOf]⟩

theorem fresh_cons_iff :
    Fresh before.names (segment :: segments) ↔
      (∀ name, segment.name? = some name → name ∉ before.names) ∧
        Fresh (before.add segment).names segments := by
  unfold Fresh namesOf
  rw [List.filterMap_cons, Before.add]
  cases segment.name? with
  | none => simp
  | some name =>
    simp only [List.nodup_cons, List.forall_mem_cons, Option.some.injEq, forall_eq',
      Option.toList_some, List.singleton_append]
    constructor
    · rintro ⟨⟨hne, hnodup⟩, hname, hfresh⟩
      refine ⟨hname, hnodup, fun other hother => ?_⟩
      rw [List.mem_cons, not_or]
      refine ⟨?_, hfresh other hother⟩
      rintro rfl
      exact hne hother
    · rintro ⟨hname, hnodup, hfresh⟩
      exact ⟨⟨fun hmem => hfresh name hmem List.mem_cons_self, hnodup⟩, hname,
        fun other hother hmem => hfresh other hother (List.mem_cons_of_mem _ hmem)⟩

theorem caught_add (hcaught : before.caught = false) (h : segment.isCatchAll = false) :
    (before.add segment).caught = false := by
  rw [Before.add, hcaught, h]
  rfl

theorem readSegments_eq_ok_iff_wellRead (hcaught : before.caught = false) :
    readSegments before pieces = .ok segments ↔ WellRead before.names pieces segments := by
  induction pieces generalizing before segments with
  | nil =>
    constructor
    · intro h
      obtain rfl := Except.ok.inj h
      exact ⟨.nil, fresh_nil _, trivial⟩
    · rintro ⟨hspells, -, -⟩
      obtain rfl := List.forall₂_nil_left_iff.1 hspells
      rfl
  | cons piece rest ih =>
    rw [readSegments_cons]
    constructor
    · rintro ⟨segment, tail, hsegment, htail, rfl⟩
      obtain ⟨hspells, hname, hlast⟩ := (readSegment_eq_ok_iff_spells hcaught).1 hsegment
      -- behind a catch-all nothing is left, and every other segment leaves none behind
      cases hcatch : segment.isCatchAll with
      | true =>
        obtain rfl : rest = [] := List.isEmpty_iff.1 (hlast hcatch)
        obtain rfl := Except.ok.inj htail
        exact ⟨.cons hspells .nil, fresh_cons_iff.2 ⟨hname, fresh_nil _⟩, fun _ => rfl, trivial⟩
      | false =>
        obtain ⟨htailSpells, hfresh, htailLast⟩ := (ih (caught_add hcaught hcatch)).1 htail
        refine ⟨.cons hspells htailSpells, fresh_cons_iff.2 ⟨hname, hfresh⟩, ?_, htailLast⟩
        rw [hcatch]
        exact fun h => absurd h Bool.false_ne_true
    · rintro ⟨hspells, hfresh, hlast⟩
      obtain ⟨segment, tail, hsegment, htail, rfl⟩ := List.forall₂_cons_left_iff.1 hspells
      obtain ⟨hname, hfresh⟩ := fresh_cons_iff.1 hfresh
      cases hcatch : segment.isCatchAll with
      | true =>
        obtain rfl := hlast.1 hcatch
        obtain rfl := List.forall₂_nil_right_iff.1 htail
        exact ⟨segment, [],
          (readSegment_eq_ok_iff_spells hcaught).2 ⟨hsegment, hname, fun _ => rfl⟩, rfl, rfl⟩
      | false =>
        refine ⟨segment, tail,
          (readSegment_eq_ok_iff_spells hcaught).2 ⟨hsegment, hname, ?_⟩, ?_, rfl⟩
        · rw [hcatch]
          exact fun h => absurd h Bool.false_ne_true
        · exact (ih (caught_add hcaught hcatch)).2 ⟨htail, hfresh, hlast.2⟩

theorem names_add (segment : Segment) (segments : List Segment) (before : Before) :
    (namesOf segments).reverse ++ (before.add segment).names =
      (namesOf (segment :: segments)).reverse ++ before.names := by
  unfold namesOf
  rw [Before.add, List.filterMap_cons]
  cases segment.name? <;> simp

theorem leadsTo_iff (hcaught : before.caught = false) :
    LeadsTo before front after ↔ ∃ earlier, Sound before.names front earlier ∧
      after = ⟨(namesOf earlier).reverse ++ before.names, false⟩ := by
  induction front generalizing before with
  | nil =>
    constructor
    · intro h
      obtain rfl : before = after := h
      refine ⟨[], ⟨.nil, fresh_nil _, rfl⟩, ?_⟩
      rw [← hcaught]
      rfl
    · rintro ⟨earlier, ⟨hspells, -, -⟩, rfl⟩
      obtain rfl := List.forall₂_nil_left_iff.1 hspells
      show before = _
      rw [← hcaught]
      rfl
  | cons piece front ih =>
    constructor
    · rintro ⟨segment, hsegment, h⟩
      obtain ⟨hspells, hname, hlast⟩ := (readSegment_eq_ok_iff_spells hcaught).1 hsegment
      have hcatch : segment.isCatchAll = false := by
        rw [← Bool.not_eq_true]
        exact fun h => absurd (hlast h) Bool.false_ne_true
      obtain ⟨earlier, ⟨hearlier, hfresh, hnone⟩, rfl⟩ := (ih (caught_add hcaught hcatch)).1 h
      refine ⟨segment :: earlier,
        ⟨.cons hspells hearlier, fresh_cons_iff.2 ⟨hname, hfresh⟩, ?_⟩, ?_⟩
      · rw [List.any_cons, hcatch, hnone]
        rfl
      · rw [names_add]
    · rintro ⟨earlier, ⟨hspells, hfresh, hnone⟩, rfl⟩
      obtain ⟨segment, tail, hsegment, htail, rfl⟩ := List.forall₂_cons_left_iff.1 hspells
      obtain ⟨hname, hfresh⟩ := fresh_cons_iff.1 hfresh
      rw [List.any_cons, Bool.or_eq_false_iff] at hnone
      refine ⟨segment, (readSegment_eq_ok_iff_spells hcaught).2 ⟨hsegment, hname, ?_⟩, ?_⟩
      · rw [hnone.1]
        exact id
      · refine (ih (caught_add hcaught hnone.1)).2 ⟨tail, ⟨htail, hfresh, hnone.2⟩, ?_⟩
        rw [names_add]

theorem Fault.congr {earlier earlier' : List String} {isLast : Bool}
    (hnames : ∀ name ∈ earlier, name ∈ earlier') (h : Fault earlier isLast piece e) :
    Fault earlier' isLast piece e := by
  cases h with
  | unnamedCatchAll => exact .unnamedCatchAll
  | unnamedVariable hstar hname => exact .unnamedVariable hstar hname
  | invalidRegex hstar hcolon hname hsource => exact .invalidRegex hstar hcolon hname hsource
  | partlyBraced h => exact .partlyBraced h
  | repeatedName h hlast hname hmem => exact .repeatedName h hlast hname (hnames _ hmem)
  | catchAllNotLast h => exact .catchAllNotLast h

def FaultsAt (front : List (List Char)) (piece : List Char) (isLast : Bool) (e : PatternError) :
    Prop :=
  ∃ earlier, Sound [] front earlier ∧ Fault (namesOf earlier) isLast piece e

theorem readSegments_eq_error_iff :
    readSegments ⟨[], false⟩ pieces = .error e ↔
      ∃ front piece rest, pieces = front ++ piece :: rest ∧
        FaultsAt front piece rest.isEmpty e := by
  rw [readSegments_eq_error]
  constructor
  · rintro ⟨front, piece, rest, after, hpieces, hleads, herror⟩
    obtain ⟨earlier, hsound, rfl⟩ := (leadsTo_iff rfl).1 hleads
    have hfault := (readSegment_eq_error_iff_fault rfl).1 herror
    exact ⟨front, piece, rest, hpieces, earlier, hsound, hfault.congr (by simp)⟩
  · rintro ⟨front, piece, rest, hpieces, earlier, hsound, hfault⟩
    have hnone : (⟨[], false⟩ : Before).caught = false := rfl
    have hleads := (leadsTo_iff hnone).2 ⟨earlier, hsound, rfl⟩
    exact ⟨front, piece, rest, _, hpieces, hleads,
      (readSegment_eq_error_iff_fault rfl).2 (hfault.congr (by simp))⟩

theorem Fault.ne_severalCatchAlls {earlier : List String} {isLast : Bool}
    (h : Fault earlier isLast piece e) : e ≠ .severalCatchAlls := by
  cases h with
  | partlyBraced h =>
    unfold braceFault
    split <;> exact nofun
  | _ => exact nofun

theorem FaultsAt.ne_severalCatchAlls {isLast : Bool} (h : FaultsAt front piece isLast e) :
    e ≠ .severalCatchAlls := by
  obtain ⟨earlier, -, hfault⟩ := h
  exact hfault.ne_severalCatchAlls

end Reading

/-- What one pass over the pieces has gathered so far: segments, the names in their order, whether
there was a catch-all, and the number of literals. -/
structure Gathered where
  segments : List Segment
  names : List String
  caught : Bool
  literals : Nat

namespace Gathered

def nothing : Gathered := ⟨[], [], false, 0⟩

def add (segment : Segment) (g : Gathered) : Gathered where
  segments := g.segments ++ [segment]
  names := g.names ++ segment.name?.toList
  caught := g.caught || segment.isCatchAll
  literals := g.literals + if segment.isLiteral then 1 else 0

def before (g : Gathered) : Before := ⟨g.names.reverse, g.caught⟩

def gather (g : Gathered) : List (List Char) → Except PatternError Gathered
  | [] => .ok g
  | piece :: rest => do
    let segment ← readSegment g.before rest.isEmpty piece
    gather (g.add segment) rest

def ofSegments (segments : List Segment) : Gathered where
  segments := segments
  names := namesOf segments
  caught := segments.any Segment.isCatchAll
  literals := segments.countP Segment.isLiteral

theorem before_add (segment : Segment) (g : Gathered) :
    (g.add segment).before = g.before.add segment := by
  unfold before add Before.add
  cases segment.name? <;> simp

theorem add_ofSegments (segments : List Segment) (segment : Segment) :
    (ofSegments segments).add segment = ofSegments (segments ++ [segment]) := by
  have hname : segment.name?.toList = [segment].filterMap Segment.name? := by
    cases h : segment.name? <;> simp [h]
  simp [add, ofSegments, namesOf, List.countP_cons, hname]

theorem gather_ofSegments (done : List Segment) (pieces : List (List Char)) :
    (ofSegments done).gather pieces =
      (readSegments (ofSegments done).before pieces).map fun tail => ofSegments (done ++ tail) := by
  induction pieces generalizing done with
  | nil => simp [gather, readSegments, Except.map]
  | cons piece rest ih =>
    rw [gather, readSegments]
    cases hsegment : readSegment (ofSegments done).before rest.isEmpty piece with
    | error e => rfl
    | ok segment =>
      rw [Outcome.ok_bind, Outcome.ok_bind, add_ofSegments, ih, ← before_add, add_ofSegments]
      cases readSegments (ofSegments (done ++ [segment])).before rest with
      | error e => rfl
      | ok tail => simp [Except.map, pure, Except.pure]

end Gathered

theorem CatchAllLast.any_isCatchAll {segments : List Segment} (h : CatchAllLast segments) :
    segments.any Segment.isCatchAll = true ↔ ∃ name, segments.getLast? = some (.catchAll name) := by
  constructor
  · intro hany
    obtain ⟨segment, hmem, hcatch⟩ := List.any_eq_true.1 hany
    obtain ⟨name, rfl⟩ := catchAll_of_isCatchAll hcatch
    refine ⟨name, ?_⟩
    induction segments with
    | nil => contradiction
    | cons first rest ih =>
      rcases List.mem_cons.1 hmem with rfl | hmem
      · rw [h.1 rfl]
        rfl
      · rw [List.getLast?_cons_of_ne_nil (List.ne_nil_of_mem hmem)]
        exact ih h.2 (List.any_eq_true.2 ⟨_, hmem, rfl⟩) hmem
  · rintro ⟨name, hlast⟩
    exact List.any_eq_true.2 ⟨_, List.mem_of_getLast? hlast, rfl⟩

namespace Pattern

structure Consistent (p : Pattern) : Prop where
  wellRead : WellRead [] (pieceChars p.canonical.toList) p.segments
  nodup_names : p.names.Nodup
  hasCatchAll : p.hasCatchAll = true ↔ ∃ name, p.segments.getLast? = some (.catchAll name)
  isStatic : p.isStatic = true ↔ p.literalCount = p.segments.length
  trailingSlash : p.trailingSlash = true ↔ HasEndSlash p.canonical

theorem isStatic_iff (p : Pattern) : p.isStatic = true ↔ p.literalCount = p.segments.length := by
  rw [isStatic, literalCount, List.countP_eq_length, List.all_eq_true]

theorem parse_eq_ok_iff {text : String} {p : Pattern} :
    parse text = .ok p ↔ p.canonical = normalize text ∧
      WellRead [] (pieceChars (normalize text).toList) p.segments := by
  rw [parse_eq_ok, and_congr_right_iff]
  intro hcanonical
  rw [hcanonical]
  exact readSegments_eq_ok_iff_wellRead rfl

theorem consistent_of_parse {text : String} {p : Pattern} (h : parse text = .ok p) :
    p.Consistent := by
  obtain ⟨hcanonical, hread⟩ := parse_eq_ok_iff.1 h
  refine ⟨?_, hread.fresh.1, hread.catchAllLast.any_isCatchAll, p.isStatic_iff, endsInSlash_iff⟩
  rw [hcanonical]
  exact hread

theorem parse_eq_error_iff {text : String} {e : PatternError} :
    parse text = .error e ↔ ∃ front piece rest,
      pieceChars (normalize text).toList = front ++ piece :: rest ∧
        FaultsAt front piece rest.isEmpty e := by
  rw [parse_eq_error, readSegments_eq_error_iff]

/-- Texts with the same pieces up to the first one with a fault fail alike. -/
theorem parse_of_faultsAt {text : String} {front rest : List (List Char)} {piece : List Char}
    {e : PatternError} (h : FaultsAt front piece rest.isEmpty e) {rest' : List (List Char)}
    (hpieces : pieceChars (normalize text).toList = front ++ piece :: rest')
    (hrest : rest' = [] ↔ rest = []) : parse text = .error e := by
  refine parse_eq_error_iff.2 ⟨front, piece, rest', hpieces, ?_⟩
  have hempty : rest'.isEmpty = rest.isEmpty := by
    rw [Bool.eq_iff_iff, List.isEmpty_iff, List.isEmpty_iff, hrest]
  rwa [hempty]

theorem gather_pieces (text : String) :
    Gathered.nothing.gather (pieceChars (normalize text).toList) =
      (parse text).map fun p => ⟨p.segments, p.names, p.hasCatchAll, p.literalCount⟩ := by
  have hgather := Gathered.gather_ofSegments [] (pieceChars (normalize text).toList)
  refine Eq.trans hgather ?_
  have hbefore : (Gathered.ofSegments []).before = ⟨[], false⟩ := rfl
  rw [hbefore]
  cases h : parse text with
  | error e =>
    rw [parse_eq_error.1 h]
    rfl
  | ok p =>
    obtain ⟨hcanonical, hread⟩ := parse_eq_ok.1 h
    rw [hcanonical] at hread
    rw [hread]
    rfl

/-- Every text is read as a consistent pattern or fails at its first piece with a fault. One pass
over the pieces gathers the names, whether there is a catch-all, and the number of literals. A
failure does not depend on what stands in the pieces behind the faulty one, and is never one of
two catch-alls. -/
theorem parse_consistent (text : String) :
    (∀ p, parse text = .ok p ↔ p.canonical = normalize text ∧
      WellRead [] (pieceChars (normalize text).toList) p.segments) ∧
    (∀ p, parse text = .ok p → p.Consistent) ∧
    Gathered.nothing.gather (pieceChars (normalize text).toList) =
      (parse text).map (fun p => ⟨p.segments, p.names, p.hasCatchAll, p.literalCount⟩) ∧
    ∀ e, parse text = .error e ↔ e ≠ .severalCatchAlls ∧ ∃ front piece rest,
      pieceChars (normalize text).toList = front ++ piece :: rest ∧
        FaultsAt front piece rest.isEmpty e ∧
        ∀ text' rest', pieceChars (normalize text').toList = front ++ piece :: rest' →
          (rest' = [] ↔ rest = []) → parse text' = .error e := by
  refine ⟨fun p => parse_eq_ok_iff, fun p => consistent_of_parse, gather_pieces text,
    fun e => ⟨fun h => ?_, ?_⟩⟩
  · obtain ⟨front, piece, rest, hpieces, hfault⟩ := parse_eq_error_iff.1 h
    exact ⟨hfault.ne_severalCatchAlls, front, piece, rest, hpieces, hfault,
      fun text' rest' => parse_of_faultsAt hfault⟩
  · rintro ⟨-, front, piece, rest, hpieces, hfault, -⟩
    exact parse_of_faultsAt hfault hpieces Iff.rfl

/-- A pattern with a constraint and a catch-all, and a text that uses a name twice. -/
theorem parse_consistent_files :
    (∃ p, parse "files/\x7bid:int\x7d//*rest" = .ok p ∧ p.Consistent ∧ p.names = ["id", "rest"]) ∧
      ∃ front piece rest, [['\x7b', 'a', '\x7d'], ['\x7b', 'a', '\x7d'], ['x']] =
          front ++ piece :: rest ∧
        ∀ text' rest', pieceChars (normalize text').toList = front ++ piece :: rest' →
          (rest' = [] ↔ rest = []) → parse text' = .error (.repeatedName "a") := by
  constructor
  · have hparse : parse "files/\x7bid:int\x7d//*rest" = .ok ⟨"/files/\x7bid:int\x7d/*rest",
        [.literal "files", .param "id" .integer, .catchAll (some "rest")]⟩ := by rfl
    exact ⟨_, hparse, (parse_consistent _).2.1 _ hparse, by decide⟩
  · have hparse : parse "/\x7ba\x7d/\x7ba\x7d/x" = .error (.repeatedName "a") := by rfl
    obtain ⟨-, front, piece, rest, hpieces, -, hsame⟩ :=
      ((parse_consistent "/\x7ba\x7d/\x7ba\x7d/x").2.2.2 _).1 hparse
    exact ⟨front, piece, rest, hpieces, hsame⟩

end Pattern

end RequestRouting.Path
