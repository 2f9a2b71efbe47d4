import RequestRouting.Proofs.Path.Matching
import RequestRouting.Text.Character

/-! When a pattern matches a path, and what it captures then. The ends have to agree, there have to
be as many pieces as segments unless a catch-all takes the rest, and every segment has to fit the
piece in its place. The walk over the pieces never takes a rest that begins beyond their end. -/
namespace RequestRouting.Text

theorem length_le_byteLength (cs : List Char) : cs.length ≤ byteLength cs := by
  induction cs with
  | nil => exact Nat.le_refl 0
  | cons c cs ih =>
    have hsize := c.utf8Size_pos
    simp only [List.length_cons, byteLength]
    omega

end RequestRouting.Text

namespace RequestRouting.Path

def HasEndSlash (path : String) : Prop :=
  1 < Text.byteLength path.toList ∧ path.toList.getLast? = some '/'

theorem endsInSlash_iff {path : String} : endsInSlash path = true ↔ HasEndSlash path := by
  unfold endsInSlash endsInSlashChars HasEndSlash
  rw [Bool.and_eq_true, decide_eq_true_iff, beq_iff_eq, and_congr_left_iff]
  intro hlast
  constructor
  · intro hlength
    exact Nat.lt_of_lt_of_le hlength (Text.length_le_byteLength path.toList)
  · intro hbytes
    obtain ⟨before, hpath⟩ := List.getLast?_eq_some_iff.1 hlast
    rw [hpath] at hbytes ⊢
    cases before with
    | nil => exact absurd hbytes (by decide)
    | cons c before => simp

variable {options : MatchOptions}

def Segment.Fits (options : MatchOptions) : Segment → String → Prop
  | .literal text, piece =>
    text = piece ∨ options.caseSensitive = false ∧ Text.equalIgnoringCase text piece = true
  | .param _ constraint, piece => constraint.admits piece = true
  | .wildcard, _ => True
  | .catchAll _, _ => True

instance (segment : Segment) (piece : String) : Decidable (segment.Fits options piece) :=
  match segment with
  | .literal _ => inferInstanceAs (Decidable (_ ∨ _))
  | .param _ _ => inferInstanceAs (Decidable (_ = _))
  | .wildcard => .isTrue trivial
  | .catchAll _ => .isTrue trivial

def Segment.captured : Segment → String → List (String × String)
  | .param name _, piece => [(name, piece)]
  | _, _ => []

theorem equalLiteral_iff {text piece : String} :
    equalLiteral options text piece = true ↔ Segment.Fits options (.literal text) piece := by
  unfold equalLiteral Segment.Fits
  cases options.caseSensitive with
  | true => simp
  | false =>
    simp only [Bool.false_eq_true, if_false, true_and]
    constructor
    · exact .inr
    · rintro (rfl | hequal)
      · exact Text.equalIgnoringCase_self text
      · exact hequal

/-- As many pieces as segments, or a catch-all for those that are left behind the other segments. -/
def CountsAgree (segments : List Segment) (pieces : List String) : Prop :=
  pieces.length = segments.length ∨
    ∃ front name, segments = front ++ [.catchAll name] ∧ front.length ≤ pieces.length

theorem countsAgree_catchAll (name : Option String) (pieces : List String) :
    CountsAgree [.catchAll name] pieces :=
  .inr ⟨[], name, rfl, Nat.zero_le _⟩

theorem countsAgree_nil {pieces : List String} : CountsAgree [] pieces ↔ pieces = [] := by
  simp [CountsAgree]

theorem CountsAgree.length_le {front : List Segment} {name : Option String} {pieces : List String}
    (h : CountsAgree (front ++ [.catchAll name]) pieces) : front.length ≤ pieces.length := by
  rcases h with hlength | ⟨front', name', hsegments, hle⟩
  · rw [hlength, List.length_append]
    omega
  · have hfront := congrArg List.length hsegments
    simp only [List.length_append, List.length_singleton] at hfront
    omega

section Cons

variable {segment : Segment} {segments : List Segment} {pieces : List String}
  {entries : List (String × String)} (h : segment.isCatchAll = false)
include h

theorem countsAgree_cons :
    CountsAgree (segment :: segments) pieces ↔
      ∃ piece rest, pieces = piece :: rest ∧ CountsAgree segments rest := by
  constructor
  · rintro (hlength | ⟨front, name, hsegments, hle⟩)
    · obtain ⟨piece, rest, rfl⟩ := List.exists_cons_of_length_eq_add_one hlength
      exact ⟨piece, rest, rfl, .inl (by simpa using hlength)⟩
    · cases front with
      | nil =>
        simp only [List.nil_append, List.cons.injEq] at hsegments
        rw [hsegments.1] at h
        contradiction
      | cons first front =>
        simp only [List.cons_append, List.cons.injEq] at hsegments
        obtain ⟨piece, rest, rfl⟩ := List.exists_cons_of_length_pos (Nat.lt_of_lt_of_le
          (by simp) hle)
        exact ⟨piece, rest, rfl, .inr ⟨front, name, hsegments.2, by simpa using hle⟩⟩
  · rintro ⟨piece, rest, rfl, hlength | ⟨front, name, rfl, hle⟩⟩
    · exact .inl (by simpa using hlength)
    · exact .inr ⟨segment :: front, name, rfl, by simpa using hle⟩

theorem captureSegments_cons_nil : captureSegments options (segment :: segments) [] = none := by
  cases segment with
  | catchAll name => contradiction
  | _ => rfl

theorem captureSegments_cons (piece : String) :
    captureSegments options (segment :: segments) (piece :: pieces) =
      if segment.Fits options piece then
        (captureSegments options segments pieces).map (segment.captured piece ++ ·)
      else none := by
  cases segment with
  | literal text =>
    rw [captureSegments]
    simp only [equalLiteral_iff]
    split
    · exact Option.map_id'.symm
    · rfl
  | param name constraint => rfl
  | wildcard => exact Option.map_id'.symm
  | catchAll name => contradiction

theorem captureSegments_cons_eq_some :
    captureSegments options (segment :: segments) pieces = some entries ↔
      ∃ piece rest tail, pieces = piece :: rest ∧ segment.Fits options piece ∧
        captureSegments options segments rest = some tail ∧
          entries = segment.captured piece ++ tail := by
  cases pieces with
  | nil => simp [captureSegments_cons_nil h]
  | cons piece rest =>
    rw [captureSegments_cons h]
    constructor
    · intro hsome
      split at hsome
      · next hfits =>
        obtain ⟨tail, htail, rfl⟩ := Option.map_eq_some_iff.1 hsome
        exact ⟨piece, rest, tail, rfl, hfits, htail, rfl⟩
      · contradiction
    · rintro ⟨_, _, tail, ⟨⟩, hfits, htail, rfl⟩
      rw [if_pos hfits, htail]
      rfl

end Cons

theorem catchAll_of_isCatchAll {segment : Segment} (h : segment.isCatchAll = true) :
    ∃ name, segment = .catchAll name := by
  cases segment with
  | catchAll name => exact ⟨name, rfl⟩
  | _ => contradiction

theorem exists_captureSegments_iff {segments : List Segment} {pieces : List String}
    (hlast : CatchAllLast segments) :
    (∃ entries, captureSegments options segments pieces = some entries) ↔
      CountsAgree segments pieces ∧ ∀ e ∈ segments.zip pieces, e.1.Fits options e.2 := by
  induction segments generalizing pieces with
  | nil => cases pieces <;> simp [captureSegments, countsAgree_nil]
  | cons segment segments ih =>
    cases hcatch : segment.isCatchAll with
    | true =>
      obtain ⟨name, rfl⟩ := catchAll_of_isCatchAll hcatch
      obtain rfl : segments = [] := hlast.1 rfl
      refine iff_of_true ⟨_, rfl⟩ ⟨countsAgree_catchAll name pieces, ?_⟩
      cases pieces <;> simp [Segment.Fits]
    | false =>
      simp only [captureSegments_cons_eq_some hcatch, countsAgree_cons hcatch]
      constructor
      · rintro ⟨_, piece, rest, tail, rfl, hfits, htail, -⟩
        obtain ⟨hcount, hall⟩ := (ih hlast.2).1 ⟨tail, htail⟩
        rw [List.zip_cons_cons, List.forall_mem_cons]
        exact ⟨⟨piece, rest, rfl, hcount⟩, hfits, hall⟩
      · rintro ⟨⟨piece, rest, rfl, hcount⟩, hall⟩
        rw [List.zip_cons_cons, List.forall_mem_cons] at hall
        obtain ⟨tail, htail⟩ := (ih hlast.2).2 ⟨hcount, hall.2⟩
        exact ⟨_, piece, rest, tail, rfl, hall.1, htail, rfl⟩

section Entries

variable {segments : List Segment} {pieces : List String} {entries : List (String × String)}

theorem mem_entries_of_param (hlast : CatchAllLast segments)
    (h : captureSegments options segments pieces = some entries) {name piece : String}
    {constraint : Constraint}
    (hmem : (Segment.param name constraint, piece) ∈ segments.zip pieces) :
    (name, piece) ∈ entries := by
  induction segments generalizing pieces entries with
  | nil => simp at hmem
  | cons segment segments ih =>
    cases hcatch : segment.isCatchAll with
    | true =>
      obtain ⟨other, rfl⟩ := catchAll_of_isCatchAll hcatch
      obtain rfl : segments = [] := hlast.1 rfl
      cases pieces <;> simp at hmem
    | false =>
      obtain ⟨first, rest, tail, rfl, -, htail, rfl⟩ := (captureSegments_cons_eq_some hcatch).1 h
      rw [List.zip_cons_cons, List.mem_cons, Prod.mk.injEq] at hmem
      apply List.mem_append.2
      rcases hmem with ⟨rfl, rfl⟩ | hmem
      · exact .inl List.mem_cons_self
      · exact .inr (ih hlast.2 htail hmem)

theorem mem_entries_of_catchAll {front : List Segment} {name : String}
    (hlast : CatchAllLast (front ++ [.catchAll (some name)]))
    (h : captureSegments options (front ++ [.catchAll (some name)]) pieces = some entries) :
    (name, "/".intercalate (pieces.drop front.length)) ∈ entries := by
  induction front generalizing pieces entries with
  | nil =>
    obtain rfl := Option.some.inj h
    simp
  | cons segment front ih =>
    have hcatch : segment.isCatchAll = false := by
      rw [← Bool.not_eq_true]
      intro hcatch
      simpa using hlast.1 hcatch
    obtain ⟨first, rest, tail, rfl, -, htail, rfl⟩ := (captureSegments_cons_eq_some hcatch).1 h
    apply List.mem_append_right
    simpa using ih hlast.2 htail

end Entries

section Walk

variable {segments : List Segment} {pieces : List String}

def piecesFrom? (pieces : List String) (index : Nat) : Option (List String) :=
  if index ≤ pieces.length then some (pieces.drop index) else none

/-- Matching as a walk with an index into the pieces. It breaks off without an answer where a
catch-all begins beyond the end of the pieces. -/
def captureFrom (options : MatchOptions) (pieces : List String) :
    Nat → List Segment → Option (Option (List (String × String)))
  | index, [] => some (if index = pieces.length then some [] else none)
  | index, .catchAll name :: _ =>
    (piecesFrom? pieces index).map fun rest =>
      some (name.toList.map fun name => (name, "/".intercalate rest))
  | index, segment :: segments =>
    match pieces[index]? with
    | none => some none
    | some piece =>
      if segment.Fits options piece then
        (captureFrom options pieces (index + 1) segments).map
          (Option.map (segment.captured piece ++ ·))
      else some none

theorem captureFrom_nil {index : Nat} (h : index ≤ pieces.length) :
    captureFrom options pieces index [] =
      some (captureSegments options [] (pieces.drop index)) := by
  rw [captureFrom]
  rcases Nat.eq_or_lt_of_le h with rfl | hlt
  · simp [captureSegments]
  · rw [List.drop_eq_getElem_cons hlt, if_neg (Nat.ne_of_lt hlt)]
    rfl

theorem captureFrom_eq {index : Nat} (h : index ≤ pieces.length) :
    captureFrom options pieces index segments =
      some (captureSegments options segments (pieces.drop index)) := by
  induction segments generalizing index with
  | nil => exact captureFrom_nil h
  | cons segment segments ih =>
    cases hcatch : segment.isCatchAll with
    | true =>
      obtain ⟨name, rfl⟩ := catchAll_of_isCatchAll hcatch
      rw [captureFrom, piecesFrom?, if_pos h]
      rfl
    | false =>
      have hother : ∀ name, segment = .catchAll name → False := by
        rintro name rfl
        contradiction
      rw [captureFrom.eq_3 _ _ _ _ _ hother]
      -- at the end of the pieces the walk stops, so the index never passes it
      rcases Nat.eq_or_lt_of_le h with rfl | hlt
      · rw [List.getElem?_eq_none h, List.drop_length, captureSegments_cons_nil hcatch]
      · rw [List.getElem?_eq_getElem hlt, List.drop_eq_getElem_cons hlt,
          captureSegments_cons hcatch, ih hlt]
        dsimp only
        split
        · rfl
        · rfl

end Walk

structure Matches (p : Pattern) (options : MatchOptions) (path : String) : Prop where
  endSlash : p.trailingSlash = true → HasEndSlash path
  noEndSlash : p.trailingSlash = false → p.hasCatchAll = false → options.trailingSlash = false →
    ¬ HasEndSlash path
  counts : CountsAgree p.segments (pieces path)
  fits : ∀ e ∈ p.segments.zip (pieces path), e.1.Fits options e.2

/-- What a match assigns: to every parameter its piece, and to a catch-all with a name the pieces
that are left. -/
structure Assigns (p : Pattern) (path : String) (values : Dictionary String) : Prop where
  keys : ∀ name, name ∈ values.keys ↔ name ∈ p.names
  param : ∀ name constraint piece, (Segment.param name constraint, piece) ∈
    p.segments.zip (pieces path) → values.get? name = some piece
  catchAll : ∀ front name, p.segments = front ++ [.catchAll name] →
    front.length ≤ (pieces path).length ∧ ∀ n, name = some n →
      values.get? n = some ("/".intercalate ((pieces path).drop front.length))

theorem slashesAgree_iff {p : Pattern} {path : String} :
    slashesAgree p options path = true ↔
      (p.trailingSlash = true → HasEndSlash path) ∧
        (p.trailingSlash = false → p.hasCatchAll = false → options.trailingSlash = false →
          ¬ HasEndSlash path) := by
  rw [← endsInSlash_iff]
  unfold slashesAgree
  cases endsInSlash path <;> cases p.trailingSlash <;> cases p.hasCatchAll <;> simp

namespace Pattern

def captureByIndex (p : Pattern) (options : MatchOptions) (path : String) :
    Option (Option (Dictionary String)) :=
  if slashesAgree p options path then
    (captureFrom options (pieces path) 0 p.segments).map (Option.map Dictionary.ofList)
  else some none

variable {p : Pattern} {path : String}

theorem captureByIndex_eq (p : Pattern) (options : MatchOptions) (path : String) :
    p.captureByIndex options path = some (p.capture options path) := by
  unfold captureByIndex capture
  rw [captureFrom_eq (Nat.zero_le _), List.drop_zero]
  split
  · rfl
  · rfl

theorem Parsed.accepts_iff_matches (hp : p.Parsed) :
    p.accepts options path = true ↔ Matches p options path := by
  rw [accepts_iff, slashesAgree_iff, exists_captureSegments_iff hp.catchAllLast]
  constructor
  · rintro ⟨⟨hend, hnone⟩, hcounts, hfits⟩
    exact ⟨hend, hnone, hcounts, hfits⟩
  · rintro ⟨hend, hnone, hcounts, hfits⟩
    exact ⟨⟨hend, hnone⟩, hcounts, hfits⟩

theorem Parsed.assigns_of_capture (hp : p.Parsed) {values : Dictionary String}
    (h : p.capture options path = some values) : Assigns p path values := by
  have hlast := hp.catchAllLast
  have hkeys := hp.mem_keys_capture h
  obtain ⟨-, entries, hentries, rfl⟩ := capture_eq_some.1 h
  have hvalue : ∀ entry ∈ entries,
      (Dictionary.ofList entries).get? entry.1 = some entry.2 := by
    intro entry hentry
    apply Dictionary.get?_ofList_of_mem _ hentry
    rw [map_fst_captureSegments hlast hentries]
    exact hp.nodup_names
  have hcounts := ((exists_captureSegments_iff hlast).1 ⟨entries, hentries⟩).1
  refine ⟨hkeys, ?_, ?_⟩
  · intro name constraint piece hmem
    exact hvalue _ (mem_entries_of_param hlast hentries hmem)
  · intro front name hsegments
    rw [hsegments] at hlast hentries hcounts
    refine ⟨hcounts.length_le, ?_⟩
    rintro n rfl
    exact hvalue _ (mem_entries_of_catchAll hlast hentries)

/-- A pattern matches the paths that it describes and assigns what it says, and the walk over the
pieces always comes to an answer. -/
theorem capture_spec {text : String} (h : parse text = .ok p) (options : MatchOptions)
    (path : String) :
    ((p.capture options path).isSome = true ↔ Matches p options path) ∧
      (∀ values, p.capture options path = some values → Assigns p path values) ∧
      p.captureByIndex options path = some (p.capture options path) := by
  have hp : p.Parsed := ⟨text, h⟩
  refine ⟨hp.accepts_iff_matches, ?_, captureByIndex_eq p options path⟩
  intro values hvalues
  exact hp.assigns_of_capture hvalues

def filesPattern : Pattern where
  canonical := "/files/\x7bid:int\x7d/\x7b*rest\x7d"
  segments := [.literal "files", .param "id" .integer, .catchAll (some "rest")]

/-- Other letters, doubled slashes, and one at the end that only the catch-all allows for. -/
theorem capture_spec_files :
    parse "files/\x7bid:int\x7d/\x7b*rest\x7d" = .ok filesPattern ∧
      Matches filesPattern ⟨false, false⟩ "/FILES/7//a/b/" ∧
      ∃ values, filesPattern.capture ⟨false, false⟩ "/FILES/7//a/b/" = some values ∧
        Assigns filesPattern "/FILES/7//a/b/" values ∧ values.get? "rest" = some "a/b" := by
  have hparse : parse "files/\x7bid:int\x7d/\x7b*rest\x7d" = .ok filesPattern := by rfl
  have hcapture : filesPattern.capture ⟨false, false⟩ "/FILES/7//a/b/" =
      some (.ofList [("id", "7"), ("rest", "a/b")]) := by decide
  obtain ⟨hmatches, hassigns, -⟩ := capture_spec hparse ⟨false, false⟩ "/FILES/7//a/b/"
  refine ⟨hparse, hmatches.1 ?_, _, hcapture, hassigns _ hcapture, by decide⟩
  rw [hcapture]
  rfl

end Pattern

end RequestRouting.Path
