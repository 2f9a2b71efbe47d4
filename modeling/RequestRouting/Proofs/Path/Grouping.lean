import RequestRouting.Proofs.Path.Joining

/-! Joining three paths. Two lone slashes joined with each other leave nothing, while each alone
takes the end slash of the path before it away, and blanks with it. So it can matter which of three
paths are joined first, and the main statement says exactly when it does. -/
namespace RequestRouting.Path

def BlankBeforeSlash (cs : List Char) : Prop :=
  ∃ front c, cs = front ++ [c, '/'] ∧ Text.isBlank c = true

def BlankPiece (cs : List Char) : Prop :=
  ∃ blanks, cs = '/' :: (blanks ++ ['/']) ∧ blanks ≠ [] ∧ ∀ c ∈ blanks, Text.isBlank c = true

/-- It matters which of the three paths are joined first. -/
inductive GroupingCounts (a b c : List Char) : Prop
  /-- Two lone slashes leave nothing, and nothing keeps the end slash that a lone slash takes. -/
  | slashes (hb : b = ['/']) (hc : c = ['/']) (ha : endsInSlashChars a = true)
  /-- A blank before an end slash is lost with it, unless the lone slash is joined first. -/
  | blankBefore (hb : b = ['/']) (hc : c ≠ []) (ha : BlankBeforeSlash a)
  /-- A piece of blanks is lost with its end slash and leaves a lone slash. -/
  | blankPiece (hc : c = ['/']) (ha : a ≠ []) (hb : BlankPiece b)

section Associativity

variable {a b c : List Char}

/-- A lone slash in the middle is forgotten, unless a blank goes with it. -/
theorem stem_joinChars_slash (ha : IsNormal a) :
    stem (joinChars a ['/']) = stem a ↔ ¬ BlankBeforeSlash a := by
  by_cases hne : a = []
  · rw [hne]
    simp [joinChars_nil_left isNormal_slash, stem, Text.dropEndWhile, BlankBeforeSlash]
  have hcut : stem (Text.dropEndWhile Text.isBlank (stem a)) = stem a ↔
      ∀ c, (stem a).getLast? = some c → Text.isBlank c = false := by
    rw [← Text.dropEndWhile_eq_self_iff]
    constructor
    · intro h
      have hprefix := stem_isPrefix (Text.dropEndWhile Text.isBlank (stem a))
      rw [h] at hprefix
      exact (Text.dropEndWhile_isPrefix _ _).sublist.antisymm hprefix.sublist
    · intro h
      rw [h, stem_stem]
  rw [joinChars_slash ha hne, hcut]
  rcases ha.canonical.noDoubleSlash.eq_stem_or with hstem | hstem
  · rw [hstem]
    refine iff_of_true ha.trimmed.last ?_
    rintro ⟨front, c, rfl, -⟩
    rw [stem_eq_self_iff] at hstem
    simp at hstem
  · constructor
    · rintro h ⟨front, c, heq, hc⟩
      have hfront : stem a = front ++ [c] := by
        rw [hstem] at heq
        exact List.append_cancel_right (heq.trans (by simp))
      rw [h c (by simp [hfront])] at hc
      contradiction
    · intro h c hc
      obtain ⟨front, hfront⟩ := List.getLast?_eq_some_iff.1 hc
      rw [← Bool.not_eq_true]
      intro hblank
      refine h ⟨front, c, ?_, hblank⟩
      rw [hstem, hfront]
      simp

theorem stem_joinChars_of_pieces (ha : IsNormal a) (hb : IsNormal b) (hpieces : pieceChars b ≠ []) :
    stem (joinChars a b) = stem a ++ stem b := by
  rw [joinChars_of_pieces ha hb hpieces, stem_append _ hb hpieces]

theorem joinChars_assoc_of_pieces (ha : IsNormal a) (hb : IsNormal b) (hc : IsNormal c)
    (hpieces : pieceChars c ≠ []) :
    joinChars (joinChars a b) c = joinChars a (joinChars b c) ↔
      stem (joinChars a b) = stem a ++ stem b := by
  have hpieces' : pieceChars (stem b ++ c) ≠ [] := by
    obtain ⟨d, rest, rfl, hd⟩ := hc.exists_eq_cons hpieces
    rw [pieceChars_append_slash]
    rw [pieceChars_cons_slash] at hpieces
    exact List.append_ne_nil_of_right_ne_nil _ hpieces
  rw [joinChars_of_pieces (isNormal_joinChars a b) hc hpieces, joinChars_of_pieces hb hc hpieces,
    joinChars_of_pieces ha (isNormal_stem_append hb hc hpieces) hpieces', ← List.append_assoc,
    List.append_left_inj]

theorem joinChars_slash_ne_nil (hb : IsNormal b) (hne : stem b ≠ []) :
    joinChars b ['/'] ≠ [] := by
  have hb' : b ≠ [] := by
    rintro rfl
    exact hne rfl
  rw [joinChars_slash hb hb']
  exact dropEnd_isBlank_ne_nil (hb.canonical.isPrefix (stem_isPrefix b)) hne

theorem joinChars_slash_eq_slash_iff (hb : IsNormal b) (hpieces : pieceChars b ≠ []) :
    joinChars b ['/'] = ['/'] ↔ BlankPiece b := by
  have hne := ne_nil_of_pieceChars hpieces
  rw [joinChars_slash hb hne]
  constructor
  · intro h
    obtain ⟨blanks, hstem, hblanks⟩ := Text.exists_eq_dropEndWhile_append Text.isBlank (stem b)
    rw [h, List.singleton_append] at hstem
    have hblanksne : blanks ≠ [] := by
      rintro rfl
      rw [← pieceChars_stem hb, hstem] at hpieces
      exact hpieces rfl
    rcases hb.canonical.noDoubleSlash.eq_stem_or with hb' | hb'
    · -- Without an end slash the path would end in a blank.
      rw [hb'] at hstem
      have hlast := List.getLast?_eq_some_getLast hblanksne
      have htrimmed := hb.trimmed.last (blanks.getLast hblanksne)
      rw [hstem, List.getLast?_cons_of_ne_nil hblanksne] at htrimmed
      have hblank := hblanks _ (List.getLast_mem hblanksne)
      rw [htrimmed hlast] at hblank
      contradiction
    · rw [hstem] at hb'
      exact ⟨blanks, hb', hblanksne, hblanks⟩
  · rintro ⟨blanks, rfl, hblanksne, hblanks⟩
    have hopen : ('/' :: blanks).getLast? ≠ some '/' := by
      rw [List.getLast?_cons_of_ne_nil hblanksne]
      intro hlast
      have hblank := hblanks '/' (List.mem_of_getLast? hlast)
      exact absurd hblank (by decide)
    rw [← List.cons_append, stem_concat_slash, stem_eq_self_iff.2 hopen, ← List.singleton_append,
      Text.dropEndWhile_append_of_all _ hblanks]
    decide

theorem length_joinChars_slash_le (ha : IsNormal a) (hne : a ≠ []) :
    (joinChars a ['/']).length ≤ (stem a).length := by
  rw [joinChars_slash ha hne]
  exact (Text.dropEndWhile_isPrefix _ _).length_le

theorem joinChars_slash_of_pieces (ha : IsNormal a) (hb : IsNormal b)
    (hpieces : pieceChars b ≠ []) :
    joinChars (joinChars a b) ['/'] = stem a ++ joinChars b ['/'] := by
  have hne := ne_nil_of_pieceChars hpieces
  have hjoin := joinChars_of_pieces ha hb hpieces
  have hleft := joinChars_slash_ne_nil hb (stem_ne_nil hb hpieces)
  rw [joinChars_slash hb hne] at hleft
  rw [joinChars_slash (isNormal_joinChars a b) (by simp [hjoin, hne]),
    stem_joinChars_of_pieces ha hb hpieces, Text.dropEndWhile_append _ hleft,
    joinChars_slash hb hne]

theorem endsInSlashChars_concat {front : List Char} (hne : front ≠ []) :
    endsInSlashChars (front ++ ['/']) = true := by
  have hlength := List.length_pos_iff.2 hne
  simp [endsInSlashChars, hlength]

theorem joinChars_slash_slash (ha : IsNormal a) :
    joinChars (joinChars a ['/']) ['/'] = a ↔ endsInSlashChars a = false := by
  by_cases hne : a = []
  · rw [hne]
    decide
  rcases ha.canonical.noDoubleSlash.eq_stem_or with hstem | hstem
  · rw [joinChars_slash_of_stem ha hstem hne, joinChars_slash_of_stem ha hstem hne]
    have hopen := stem_eq_self_iff.1 hstem
    simp [endsInSlashChars, hopen]
  · by_cases hnil : stem a = []
    · rw [hnil, List.nil_append] at hstem
      rw [hstem]
      decide
    · have hlast : endsInSlashChars a = true := by
        rw [hstem]
        exact endsInSlashChars_concat hnil
      refine iff_of_false (fun h => ?_) (by simp [hlast])
      have hfirst := length_joinChars_slash_le ha hne
      have hsecond :=
        length_joinChars_slash_le (isNormal_joinChars a ['/']) (joinChars_slash_ne_nil ha hnil)
      have hbetween := (stem_isPrefix (joinChars a ['/'])).length_le
      have hlength := congrArg List.length hstem
      rw [h] at hsecond
      rw [List.length_append, List.length_singleton] at hlength
      omega

theorem not_blankBeforeSlash (h : endsInSlashChars a = false) : ¬ BlankBeforeSlash a := by
  rintro ⟨front, c, rfl, -⟩
  rw [← List.singleton_append, ← List.append_assoc, endsInSlashChars_concat (by simp)] at h
  contradiction

/-! Where the grouping counts, by the path that is empty, a lone slash or one with pieces. -/

theorem not_groupingCounts_nil_left : ¬ GroupingCounts [] b c := by
  rintro (⟨-, -, h⟩ | ⟨-, -, front, d, h, -⟩ | ⟨-, h, -⟩)
  · contradiction
  · simp at h
  · exact h rfl

theorem not_groupingCounts_nil_middle : ¬ GroupingCounts a [] c := by
  rintro (⟨h, -, -⟩ | ⟨h, -, -⟩ | ⟨-, -, blanks, h, -⟩)
  · contradiction
  · contradiction
  · contradiction

theorem not_groupingCounts_nil_right : ¬ GroupingCounts a b [] := by
  rintro (⟨-, h, -⟩ | ⟨-, h, -⟩ | ⟨h, -, -⟩)
  · contradiction
  · exact h rfl
  · contradiction

theorem groupingCounts_slashes_iff :
    GroupingCounts a ['/'] ['/'] ↔ endsInSlashChars a = true := by
  constructor
  · rintro (⟨-, -, h⟩ | ⟨-, -, hblank⟩ | ⟨-, -, blanks, hblanks, -⟩)
    · exact h
    · rw [← Bool.not_eq_false]
      intro hends
      exact not_blankBeforeSlash hends hblank
    · simp at hblanks
  · exact .slashes rfl rfl

theorem groupingCounts_slash_iff (hne : a ≠ []) (hpieces : pieceChars b ≠ []) :
    GroupingCounts a b ['/'] ↔ BlankPiece b := by
  constructor
  · rintro (⟨h, -, -⟩ | ⟨h, -, -⟩ | ⟨-, -, h⟩)
    · exact absurd h (ne_slash_of_pieceChars hpieces)
    · exact absurd h (ne_slash_of_pieceChars hpieces)
    · exact h
  · exact .blankPiece rfl hne

theorem groupingCounts_iff_of_pieces (hpieces : pieceChars c ≠ []) :
    GroupingCounts a b c ↔ b = ['/'] ∧ BlankBeforeSlash a := by
  constructor
  · rintro (⟨-, h, -⟩ | ⟨h, -, hblank⟩ | ⟨h, -, -⟩)
    · exact absurd h (ne_slash_of_pieceChars hpieces)
    · exact ⟨h, hblank⟩
    · exact absurd h (ne_slash_of_pieceChars hpieces)
  · rintro ⟨h, hblank⟩
    exact .blankBefore h (ne_nil_of_pieceChars hpieces) hblank

theorem joinChars_assoc_slash_of_pieces (ha : IsNormal a) (hb : IsNormal b) (hne : a ≠ [])
    (hpieces : pieceChars b ≠ []) :
    joinChars (joinChars a b) ['/'] = joinChars a (joinChars b ['/']) ↔ ¬ BlankPiece b := by
  rw [joinChars_slash_of_pieces ha hb hpieces]
  constructor
  · intro h hblank
    rw [(joinChars_slash_eq_slash_iff hb hpieces).2 hblank] at h
    have hlength := length_joinChars_slash_le ha hne
    rw [← h, List.length_append, List.length_singleton] at hlength
    omega
  · intro hblank
    have hleft : pieceChars (joinChars b ['/']) ≠ [] := by
      intro hnil
      rcases (isNormal_joinChars b ['/']).eq_nil_or_slash hnil with h | h
      · exact joinChars_slash_ne_nil hb (stem_ne_nil hb hpieces) h
      · exact hblank ((joinChars_slash_eq_slash_iff hb hpieces).1 h)
    rw [joinChars_of_pieces ha (isNormal_joinChars b ['/']) hleft]

theorem joinChars_assoc_slash (ha : IsNormal a) (hb : IsNormal b) :
    joinChars (joinChars a b) ['/'] = joinChars a (joinChars b ['/']) ↔
      ¬ GroupingCounts a b ['/'] := by
  by_cases hne : a = []
  · rw [hne, joinChars_nil_left hb, joinChars_nil_left (isNormal_joinChars b ['/'])]
    exact iff_of_true rfl not_groupingCounts_nil_left
  by_cases hpieces : pieceChars b = []
  · rcases hb.eq_nil_or_slash hpieces with rfl | rfl
    · rw [joinChars_nil_right ha, joinChars_nil_left isNormal_slash]
      exact iff_of_true rfl not_groupingCounts_nil_middle
    · have hnothing : joinChars ['/'] ['/'] = [] := by decide
      rw [hnothing, joinChars_nil_right ha, joinChars_slash_slash ha, groupingCounts_slashes_iff,
        Bool.not_eq_true]
  · rw [joinChars_assoc_slash_of_pieces ha hb hne hpieces, groupingCounts_slash_iff hne hpieces]

/-- When three paths can be joined in either order. -/
theorem joinChars_assoc_iff (ha : IsNormal a) (hb : IsNormal b) (hc : IsNormal c) :
    joinChars (joinChars a b) c = joinChars a (joinChars b c) ↔ ¬ GroupingCounts a b c := by
  by_cases hpieces : pieceChars c = []
  · rcases hc.eq_nil_or_slash hpieces with rfl | rfl
    · rw [joinChars_nil_right hb, joinChars_nil_right (isNormal_joinChars a b)]
      exact iff_of_true rfl not_groupingCounts_nil_right
    · exact joinChars_assoc_slash ha hb
  rw [joinChars_assoc_of_pieces ha hb hc hpieces, groupingCounts_iff_of_pieces hpieces]
  by_cases hb' : pieceChars b = []
  · rcases hb.eq_nil_or_slash hb' with rfl | rfl
    · rw [joinChars_nil_right ha]
      exact iff_of_true (List.append_nil _).symm (by simp)
    · have hstem : stem ['/'] = [] := by decide
      rw [hstem, List.append_nil, stem_joinChars_slash ha]
      simp
  · rw [stem_joinChars_of_pieces ha hb hb']
    exact iff_of_true rfl fun h => ne_slash_of_pieceChars hb' h.1

end Associativity

namespace Pattern

/-- Where all joins succeed, three patterns can be joined in either order unless a lone slash takes
an end slash or blanks away in one order only. -/
theorem combine_assoc_iff {text text' text'' : String} {a b c ab bc left right : Pattern}
    (ha : parse text = .ok a) (hb : parse text' = .ok b) (hc : parse text'' = .ok c)
    (hab : a.combine b = .ok ab) (hbc : b.combine c = .ok bc) (hleft : ab.combine c = .ok left)
    (hright : a.combine bc = .ok right) :
    left.sameCanonical right = true ↔
      ¬ GroupingCounts a.canonical.toList b.canonical.toList c.canonical.toList := by
  have hnormal : ∀ {text : String} {p : Pattern}, parse text = .ok p →
      IsNormal p.canonical.toList :=
    fun h => Parsed.isNormal ⟨_, h⟩
  rw [← joinChars_assoc_iff (hnormal ha) (hnormal hb) (hnormal hc), ← canonical_of_combine hab,
    ← canonical_of_combine hbc, ← canonical_of_combine hleft, ← canonical_of_combine hright,
    String.toList_inj, sameCanonical, beq_iff_eq]

def literalPattern (text : String) : Pattern := ⟨"/" ++ text, [.literal text]⟩

def lonePattern : Pattern := ⟨"/", []⟩

theorem combine_api_users :
    parse "api/" = .ok ⟨"/api/", [.literal "api"]⟩ ∧ parse "/" = .ok lonePattern ∧
      parse "users" = .ok (literalPattern "users") ∧
      ∃ ab bc left right, combine ⟨"/api/", [.literal "api"]⟩ lonePattern = .ok ab ∧
        lonePattern.combine (literalPattern "users") = .ok bc ∧
        ab.combine (literalPattern "users") = .ok left ∧
        combine ⟨"/api/", [.literal "api"]⟩ bc = .ok right ∧ left.sameCanonical right = true := by
  have ha : parse "api/" = .ok ⟨"/api/", [.literal "api"]⟩ := by rfl
  have hb : parse "/" = .ok lonePattern := by rfl
  have hc : parse "users" = .ok (literalPattern "users") := by rfl
  have hab : combine ⟨"/api/", [.literal "api"]⟩ lonePattern = .ok (literalPattern "api") := by rfl
  have hbc : combine lonePattern (literalPattern "users") = .ok (literalPattern "users") := by rfl
  have hleft : combine (literalPattern "api") (literalPattern "users") =
      .ok ⟨"/api/users", [.literal "api", .literal "users"]⟩ := by rfl
  have hright : combine ⟨"/api/", [.literal "api"]⟩ (literalPattern "users") =
      .ok ⟨"/api/users", [.literal "api", .literal "users"]⟩ := by rfl
  have hgroup : ¬ GroupingCounts "/api/".toList "/".toList "/users".toList := by
    rintro (⟨-, h, -⟩ | ⟨-, -, front, c, h, hc⟩ | ⟨h, -, -⟩)
    · contradiction
    · have hlast := congrArg (fun cs => cs.dropLast.getLast?) h
      obtain rfl : 'i' = c := by simpa using hlast
      exact absurd hc (by decide)
    · contradiction
  exact ⟨ha, hb, hc, _, _, _, _, hab, hbc, hleft, hright,
    (combine_assoc_iff ha hb hc hab hbc hleft hright).2 hgroup⟩

/-- Two lone slashes behind a path with an end slash: joined with each other first they leave it
alone, one after the other they take its end slash away. -/
theorem combine_lone_slashes :
    combine ⟨"/x/", [.literal "x"]⟩ lonePattern = .ok (literalPattern "x") ∧
      combine (literalPattern "x") lonePattern = .ok (literalPattern "x") ∧
      combine lonePattern lonePattern = .ok empty ∧
      combine ⟨"/x/", [.literal "x"]⟩ empty = .ok ⟨"/x/", [.literal "x"]⟩ ∧
      ¬ ∀ a b c ab bc left right : Pattern, a.Parsed → b.Parsed → c.Parsed →
        a.combine b = .ok ab → b.combine c = .ok bc → ab.combine c = .ok left →
          a.combine bc = .ok right → left.sameCanonical right = true := by
  refine ⟨by rfl, by rfl, by rfl, by rfl, fun h => ?_⟩
  have hx : Parsed ⟨"/x/", [.literal "x"]⟩ := ⟨"/x/", by rfl⟩
  have hlone : Parsed lonePattern := ⟨"/", by rfl⟩
  have hsame := h ⟨"/x/", [.literal "x"]⟩ lonePattern lonePattern (literalPattern "x") empty
    (literalPattern "x") ⟨"/x/", [.literal "x"]⟩ hx hlone hlone (by rfl) (by rfl) (by rfl) (by rfl)
  exact absurd hsame (by decide)

end Pattern

end RequestRouting.Path
