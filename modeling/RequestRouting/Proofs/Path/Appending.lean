import RequestRouting.Proofs.Path.Joining

/-! Putting a pattern behind another one. What a piece is read as does not depend on where it
stands; its place only decides whether its name is still free and whether it may be a catch-all. So
segments that can be read apart can be read one behind the other unless they share a name or a
catch-all stands in the way, and joining patterns appends their segments. -/
namespace RequestRouting.Path

def readAlone (piece : List Char) : Except PatternError Segment :=
  readSegment ⟨[], false⟩ true piece

theorem readCatchAll_eq_ok_iff {before : Before} {isLast : Bool} {name? : Option String}
    {segment : Segment} :
    readCatchAll before isLast name? = .ok segment ↔ before.caught = false ∧ isLast = true ∧
      (∀ name, name? = some name → name.isEmpty = false ∧ name ∉ before.names) ∧
        segment = .catchAll name? := by
  unfold readCatchAll
  cases before.caught with
  | true => simp
  | false =>
    cases isLast with
    | false => simp
    | true =>
      cases name? with
      | none => simp [@eq_comm _ segment]
      | some name =>
        by_cases hempty : name = ""
        · simp [hempty]
        · simp [hempty, checkName_eq_ok, @eq_comm _ segment]

theorem readSegment_eq_ok {before : Before} {isLast : Bool} {piece : List Char}
    {segment : Segment} :
    readSegment before isLast piece = .ok segment ↔ readAlone piece = .ok segment ∧
      (∀ name, segment.name? = some name → name ∉ before.names) ∧
        (segment.isCatchAll = true → isLast = true ∧ before.caught = false) := by
  -- the shape is seen without what came before, which only the checks for a shape look at
  unfold readAlone readSegment
  cases shapeOf piece with
  | anonymousCatchAll =>
    simp only [readCatchAll_eq_ok_iff]
    constructor
    · rintro ⟨hcaught, hlast, -, rfl⟩
      simp [hcaught, hlast, Segment.name?]
    · rintro ⟨⟨-, -, -, rfl⟩, -, h⟩
      simp [h rfl]
  | namedCatchAll name =>
    simp only [readCatchAll_eq_ok_iff]
    constructor
    · rintro ⟨hcaught, hlast, hname, rfl⟩
      simpa [hcaught, hlast, Segment.name?] using hname
    · rintro ⟨⟨-, -, hname, rfl⟩, hnew, h⟩
      obtain ⟨hlast, hcaught⟩ := h rfl
      refine ⟨hcaught, hlast, ?_, rfl⟩
      rintro other ⟨⟩
      exact ⟨(hname name rfl).1, hnew name rfl⟩
  | wildcard =>
    constructor
    · intro h
      obtain rfl := Except.ok.inj h
      exact ⟨rfl, nofun, nofun⟩
    · exact fun h => h.1
  | param definition =>
    simp only [Outcome.bind_eq_ok, checkName_eq_ok]
    constructor
    · rintro ⟨⟨name, constraint⟩, hread, hnew, rfl⟩
      refine ⟨⟨_, hread, rfl, rfl⟩, ?_, nofun⟩
      rintro other ⟨⟩
      simpa using hnew
    · rintro ⟨⟨⟨name, constraint⟩, hread, -, rfl⟩, hnew, -⟩
      exact ⟨_, hread, by simpa using hnew name rfl, rfl⟩
  | plain =>
    dsimp only
    constructor
    · intro h
      refine ⟨h, ?_, ?_⟩
      all_goals
        split at h
        · contradiction
        split at h
        · contradiction
        · obtain rfl := Except.ok.inj h
          exact nofun
    · exact fun h => h.1

/-- The segments can stand behind what came before them. -/
structure CanFollow (before : Before) (segments : List Segment) : Prop where
  distinct : (segments.filterMap Segment.name?).Nodup
  fresh : ∀ name ∈ segments.filterMap Segment.name?, name ∉ before.names
  catchAllLast : CatchAllLast segments
  onlyCatchAll : segments.any Segment.isCatchAll = true → before.caught = false

theorem canFollow_nil (before : Before) : CanFollow before [] :=
  ⟨List.nodup_nil, by simp, trivial, by simp⟩

theorem names_cons (segment : Segment) (rest : List Segment) :
    (segment :: rest).filterMap Segment.name? =
      segment.name?.toList ++ rest.filterMap Segment.name? := by
  rw [List.filterMap_cons]
  cases segment.name? <;> rfl

theorem canFollow_cons {before : Before} {segment : Segment} {rest : List Segment} :
    CanFollow before (segment :: rest) ↔
      (∀ name, segment.name? = some name → name ∉ before.names) ∧
        (segment.isCatchAll = true → rest = [] ∧ before.caught = false) ∧
          CanFollow (before.add segment) rest := by
  constructor
  · rintro ⟨hdistinct, hfresh, hlast, honly⟩
    rw [names_cons, List.nodup_append] at hdistinct
    rw [names_cons] at hfresh
    refine ⟨?_, ?_, hdistinct.2.1, ?_, hlast.2, ?_⟩
    · intro name hname
      exact hfresh name (List.mem_append_left _ (by simp [hname]))
    · intro hcatch
      exact ⟨hlast.1 hcatch, honly (by simp [hcatch])⟩
    · intro name hname hmem
      rcases List.mem_append.1 hmem with hmem | hmem
      · exact hdistinct.2.2 name hmem name hname rfl
      · exact hfresh name (List.mem_append_right _ hname) hmem
    · intro hany
      have hcaught := honly (by simp [hany])
      cases hcatch : segment.isCatchAll with
      | true =>
        rw [hlast.1 hcatch] at hany
        contradiction
      | false => simp [Before.add, hcaught, hcatch]
  · rintro ⟨hnew, hcatch, hdistinct, hfresh, hlast, honly⟩
    refine ⟨?_, ?_, ⟨fun h => (hcatch h).1, hlast⟩, ?_⟩
    · rw [names_cons, List.nodup_append]
      refine ⟨by cases segment.name? <;> simp, hdistinct, ?_⟩
      rintro name hname _ hother rfl
      exact hfresh name hother (List.mem_append_left _ hname)
    · rw [names_cons, List.forall_mem_append]
      refine ⟨fun name hname => hnew name (by simpa using hname), fun name hname hmem => ?_⟩
      exact hfresh name hname (List.mem_append_right _ hmem)
    · rw [List.any_cons, Bool.or_eq_true]
      rintro (h | hany)
      · exact (hcatch h).2
      · have hcaught := honly hany
        simp only [Before.add, Bool.or_eq_false_iff] at hcaught
        exact hcaught.1

theorem readSegments_eq_ok {before : Before} {pieces : List (List Char)}
    {segments : List Segment} :
    readSegments before pieces = .ok segments ↔
      pieces.mapM readAlone = .ok segments ∧ CanFollow before segments := by
  induction pieces generalizing before segments with
  | nil =>
    rw [readSegments, List.mapM_nil]
    constructor
    · intro h
      obtain rfl := Except.ok.inj h
      exact ⟨rfl, canFollow_nil before⟩
    · exact fun h => h.1
  | cons piece rest ih =>
    rw [readSegments_cons, Outcome.mapM_cons_eq_ok]
    constructor
    · rintro ⟨segment, tail, hsegment, htail, rfl⟩
      obtain ⟨halone, hnew, hcatch⟩ := readSegment_eq_ok.1 hsegment
      obtain ⟨hrest, hfollow⟩ := ih.1 htail
      refine ⟨⟨segment, tail, halone, hrest, rfl⟩, canFollow_cons.2 ⟨hnew, fun h => ?_, hfollow⟩⟩
      have hlength := Outcome.length_mapM hrest
      rw [List.isEmpty_iff.1 (hcatch h).1] at hlength
      exact ⟨List.length_eq_zero_iff.1 hlength, (hcatch h).2⟩
    · rintro ⟨⟨segment, tail, halone, hrest, rfl⟩, hfollow⟩
      obtain ⟨hnew, hcatch, htail⟩ := canFollow_cons.1 hfollow
      refine ⟨segment, tail, readSegment_eq_ok.2 ⟨halone, hnew, fun h => ?_⟩,
        ih.2 ⟨hrest, htail⟩, rfl⟩
      have hlength := Outcome.length_mapM hrest
      rw [(hcatch h).1] at hlength
      exact ⟨List.isEmpty_iff.2 (List.length_eq_zero_iff.1 hlength.symm), (hcatch h).2⟩

theorem catchAllLast_append {front back : List Segment} (hne : back ≠ []) :
    CatchAllLast (front ++ back) ↔
      front.any Segment.isCatchAll = false ∧ CatchAllLast back := by
  induction front with
  | nil => simp
  | cons segment front ih =>
    rw [List.cons_append, CatchAllLast, ih, List.any_cons, Bool.or_eq_false_iff, and_assoc]
    refine and_congr_left' ?_
    simp [hne]

/-- Segments that can be read apart can stand one behind the other unless they share a name or a
catch-all stands in the way. -/
theorem canFollow_append {front back : List Segment} (hfront : CanFollow ⟨[], false⟩ front)
    (hback : CanFollow ⟨[], false⟩ back) (hne : back ≠ []) :
    CanFollow ⟨[], false⟩ (front ++ back) ↔ front.any Segment.isCatchAll = false ∧
      ∀ name ∈ front.filterMap Segment.name?, name ∉ back.filterMap Segment.name? := by
  constructor
  · rintro ⟨hdistinct, -, hlast, -⟩
    rw [List.filterMap_append, List.nodup_append] at hdistinct
    refine ⟨((catchAllLast_append hne).1 hlast).1, ?_⟩
    exact fun name hname hother => hdistinct.2.2 name hname name hother rfl
  · rintro ⟨hnone, hapart⟩
    refine ⟨?_, by simp, ?_, by simp⟩
    · rw [List.filterMap_append, List.nodup_append]
      refine ⟨hfront.distinct, hback.distinct, ?_⟩
      rintro name hname _ hother rfl
      exact hapart name hname hother
    · exact (catchAllLast_append hne).2 ⟨hnone, hback.catchAllLast⟩

namespace Pattern

/-- The pattern is the second one behind the first one. -/
structure Appends (p q joined : Pattern) : Prop where
  segments : joined.segments = p.segments ++ q.segments
  names : joined.names = p.names ++ q.names
  literalCount : joined.literalCount = p.literalCount + q.literalCount
  hasCatchAll : joined.hasCatchAll = q.hasCatchAll
  trailingSlash : joined.trailingSlash = q.trailingSlash

variable {p q joined : Pattern}

theorem Parsed.readAlone (h : p.Parsed) :
    (pieceChars p.canonical.toList).mapM Path.readAlone = .ok p.segments ∧
      CanFollow ⟨[], false⟩ p.segments := by
  obtain ⟨text, h⟩ := h
  exact readSegments_eq_ok.1 (parse_eq_ok.1 h).2

theorem Parsed.pieceChars_ne_nil (h : p.Parsed) (hne : p.segments ≠ []) :
    pieceChars p.canonical.toList ≠ [] := by
  intro hnil
  have hread := h.readAlone.1
  rw [hnil] at hread
  exact hne (Except.ok.inj hread).symm

theorem toList_join_canonical (hp : p.Parsed) (hq : q.Parsed) (hne : q.segments ≠ []) :
    (join p.canonical q.canonical).toList = stem p.canonical.toList ++ q.canonical.toList := by
  rw [join, String.toList_ofList,
    joinChars_of_pieces hp.isNormal hq.isNormal (hq.pieceChars_ne_nil hne)]

theorem pieceChars_join (hp : p.Parsed) (hq : q.Parsed) (hne : q.segments ≠ []) :
    pieceChars (join p.canonical q.canonical).toList =
      pieceChars p.canonical.toList ++ pieceChars q.canonical.toList := by
  rw [toList_join_canonical hp hq hne, ← pieceChars_stem hp.isNormal]
  obtain ⟨c, rest, heq, -⟩ := hq.isNormal.exists_eq_cons (hq.pieceChars_ne_nil hne)
  rw [heq, pieceChars_append_slash, pieceChars_cons_slash]

theorem combine_eq_ok (hp : p.Parsed) (hq : q.Parsed) (hne : q.segments ≠ []) :
    p.combine q = .ok joined ↔ joined.canonical = join p.canonical q.canonical ∧
      joined.segments = p.segments ++ q.segments ∧
        CanFollow ⟨[], false⟩ (p.segments ++ q.segments) := by
  have hcanonical : normalize (join p.canonical q.canonical) = join p.canonical q.canonical := by
    rw [normalize, join, String.toList_ofList, (isNormal_joinChars _ _).normalizeChars_eq]
  have hread : (pieceChars (join p.canonical q.canonical).toList).mapM Path.readAlone =
      .ok (p.segments ++ q.segments) := by
    rw [pieceChars_join hp hq hne, Outcome.mapM_append_eq_ok]
    exact ⟨_, _, hp.readAlone.1, hq.readAlone.1, rfl⟩
  rw [combine, parse_eq_ok, hcanonical, and_congr_right_iff]
  intro h
  rw [h, readSegments_eq_ok, hread]
  constructor
  · rintro ⟨hsegments, hfollow⟩
    obtain hsegments := Except.ok.inj hsegments
    rw [hsegments]
    exact ⟨rfl, hfollow⟩
  · rintro ⟨hsegments, hfollow⟩
    rw [hsegments]
    exact ⟨rfl, hfollow⟩

theorem trailingSlash_of_combine (hp : p.Parsed) (hq : q.Parsed) (hne : q.segments ≠ [])
    (h : joined.canonical = join p.canonical q.canonical) :
    joined.trailingSlash = q.trailingSlash := by
  obtain ⟨c, rest, heq, -⟩ := hq.isNormal.exists_eq_cons (hq.pieceChars_ne_nil hne)
  rw [trailingSlash, trailingSlash, endsInSlash, endsInSlash, h,
    toList_join_canonical hp hq hne, heq]
  have hlong : 1 < (stem p.canonical.toList ++ '/' :: c :: rest).length := by
    rw [List.length_append, List.length_cons, List.length_cons]
    omega
  have hlong' : 1 < ('/' :: c :: rest).length := by simp
  unfold endsInSlashChars
  rw [List.getLast?_append_of_ne_nil _ (List.cons_ne_nil _ _), decide_eq_true hlong,
    decide_eq_true hlong']

theorem appends_of_combine (hp : p.Parsed) (hq : q.Parsed) (hne : q.segments ≠ [])
    (h : p.combine q = .ok joined) : Appends p q joined := by
  obtain ⟨hcanonical, hsegments, hfollow⟩ := (combine_eq_ok hp hq hne).1 h
  have hnone := ((canFollow_append hp.readAlone.2 hq.readAlone.2 hne).1 hfollow).1
  refine ⟨hsegments, ?_, ?_, ?_, trailingSlash_of_combine hp hq hne hcanonical⟩
  · rw [Pattern.names, hsegments, List.filterMap_append]
    rfl
  · rw [Pattern.literalCount, hsegments, List.countP_append]
    rfl
  · rw [Pattern.hasCatchAll, hsegments, List.any_append, hnone, Bool.false_or]
    rfl

theorem exists_combine_iff (hp : p.Parsed) (hq : q.Parsed) (hne : q.segments ≠ []) :
    (∃ joined, p.combine q = .ok joined) ↔
      p.hasCatchAll = false ∧ ∀ name ∈ p.names, name ∉ q.names := by
  have hfollow := canFollow_append hp.readAlone.2 hq.readAlone.2 hne
  constructor
  · rintro ⟨joined, h⟩
    exact hfollow.1 ((combine_eq_ok hp hq hne).1 h).2.2
  · intro h
    exact ⟨⟨_, _⟩, (combine_eq_ok hp hq hne).2 ⟨rfl, rfl, hfollow.2 h⟩⟩

/-- A pattern with segments can be put behind another one unless that ends in a catch-all or the
two share a name, and its segments are appended then. -/
theorem combine_appends {text text' : String} (hp : parse text = .ok p)
    (hq : parse text' = .ok q) (hne : q.segments ≠ []) :
    ((∃ joined, p.combine q = .ok joined) ↔
      p.hasCatchAll = false ∧ ∀ name ∈ p.names, name ∉ q.names) ∧
        ∀ joined, p.combine q = .ok joined → Appends p q joined := by
  have hp : p.Parsed := ⟨text, hp⟩
  have hq : q.Parsed := ⟨text', hq⟩
  exact ⟨exists_combine_iff hp hq hne, fun joined => appends_of_combine hp hq hne⟩

def usersPattern : Pattern := ⟨"/api/users /", [.literal "api", .literal "users "]⟩

def userFilesPattern : Pattern where
  canonical := "/\x7bid:int\x7d/*rest/"
  segments := [.param "id" .integer, .catchAll (some "rest")]

theorem combine_users_userFiles :
    parse "/api/users /" = .ok usersPattern ∧
      parse "\x7bid:int\x7d/*rest/" = .ok userFilesPattern ∧ userFilesPattern.segments ≠ [] ∧
        ∃ joined, usersPattern.combine userFilesPattern = .ok joined ∧
          Appends usersPattern userFilesPattern joined := by
  have hp : parse "/api/users /" = .ok usersPattern := by rfl
  have hq : parse "\x7bid:int\x7d/*rest/" = .ok userFilesPattern := by rfl
  have hne : userFilesPattern.segments ≠ [] := by decide
  obtain ⟨hsucceeds, happends⟩ := combine_appends hp hq hne
  obtain ⟨joined, hjoined⟩ := hsucceeds.2 ⟨by decide, by decide⟩
  exact ⟨hp, hq, hne, joined, hjoined, happends joined hjoined⟩

end Pattern

end RequestRouting.Path
