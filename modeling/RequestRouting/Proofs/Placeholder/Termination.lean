import Mathlib.Data.Set.Finite.Lattice
import Mathlib.Logic.Relation
import RequestRouting.Proofs.Placeholder.Resolving

/-! When the expansion of a text ends. A placeholder is not replaced inside its own replacement,
so the expansion ends if it comes to replace finitely many different placeholders, and only then.
Defaults can build new placeholders without end: there are texts without an expansion. -/
namespace RequestRouting.Placeholder

/-- A text to expand while some placeholders are being replaced. -/
structure Frame where
  visiting : List (List Char)
  value : List Char

namespace Resolver

variable {r : Resolver}

def GetsPast (r : Resolver) (frame : Frame) (before : List Piece) : Prop :=
  ∀ piece ∈ before, ∃ depth cs,
    (r.expandPiece (r.expand depth) frame.visiting frame.value piece).result = .ok cs

/-- Expanding a frame comes to expand the body of a placeholder in it, or what the placeholder
stands for. -/
inductive Opens (r : Resolver) (frame : Frame) : Frame → Prop
  | body {before after : List Piece} {body : List Char}
      (hpieces : pieces frame.value = before ++ .reference body :: after)
      (hbefore : r.GetsPast frame before) : Opens r frame ⟨frame.visiting, body⟩
  | found {before after : List Piece} {body placeholder : List Char} {depth : Nat} {found : String}
      (hpieces : pieces frame.value = before ++ .reference body :: after)
      (hbefore : r.GetsPast frame before)
      (hbody : (r.expand depth frame.visiting body).result = .ok placeholder)
      (hnew : placeholder ∉ frame.visiting) (hfound : r.lookup? placeholder = some found) :
      Opens r frame ⟨placeholder :: frame.visiting, found.toList⟩

def Reaches (r : Resolver) : Frame → Frame → Prop := Relation.ReflTransGen r.Opens

def replaced (r : Resolver) (frame : Frame) : Set (List Char) :=
  {placeholder | ∃ reached, r.Reaches frame reached ∧ placeholder ∈ reached.visiting}

/-- Some depth is enough for a text, and more than that changes nothing. -/
def Finishes (r : Resolver) (value : List Char) : Prop :=
  ∃ depth, Settled (r.expand depth [] value) ∧
    ∀ deeper, depth ≤ deeper → r.expand deeper [] value = r.expand depth [] value

theorem settled_of_mapM {α β : Type} {f : α → Logged Stop β} {before after : List α}
    {x : α} (hbefore : ∀ y ∈ before, Settled (f y) → ∃ b, (f y).result = .ok b)
    (h : Settled ((before ++ x :: after).mapM f)) : Settled (f x) := by
  induction before with
  | nil =>
    rw [List.nil_append, List.mapM_cons] at h
    exact h.of_bind
  | cons y before ih =>
    rw [List.cons_append, List.mapM_cons] at h
    obtain ⟨b, hb⟩ := hbefore y List.mem_cons_self h.of_bind
    apply ih _ (h.of_bind_ok hb).of_bind
    intro z hz
    exact hbefore z (List.mem_cons_of_mem _ hz)

theorem settled_of_getsPast {frame : Frame} {depth : Nat} {before after : List Piece}
    {piece : Piece} (h : Settled (r.expand (depth + 1) frame.visiting frame.value))
    (hpieces : pieces frame.value = before ++ piece :: after) (hbefore : r.GetsPast frame before) :
    Settled (r.expandPiece (r.expand depth) frame.visiting frame.value piece) := by
  unfold expand at h
  rw [hpieces] at h
  apply settled_of_mapM _ h.of_bind
  intro other hother hsettled
  obtain ⟨depth', cs, hcs⟩ := hbefore other hother
  exact ⟨cs, expandPiece_ok_of_settled hsettled hcs⟩

theorem settled_of_opens {frame child : Frame} {depth : Nat}
    (h : Settled (r.expand (depth + 1) frame.visiting frame.value)) (hopens : r.Opens frame child) :
    Settled (r.expand depth child.visiting child.value) := by
  cases hopens with
  | body hpieces hbefore => exact (settled_of_getsPast h hpieces hbefore).of_bind
  | found hpieces hbefore hbody hnew hfound =>
    have hpiece := settled_of_getsPast h hpieces hbefore
    have hrest := hpiece.of_bind_ok (expand_ok_of_settled hpiece.of_bind hbody)
    simp only [List.contains_eq_mem, hnew, decide_false, Bool.false_eq_true, if_false,
      hfound] at hrest
    exact hrest.of_bind

def opened (r : Resolver) (depth : Nat) (frame : Frame) : List Frame :=
  (pieces frame.value).flatMap fun
    | .literal _ => []
    | .reference body =>
      ⟨frame.visiting, body⟩ :: match (r.expand depth frame.visiting body).result with
        | .ok placeholder => (r.lookup? placeholder).toList.map fun found =>
            ⟨placeholder :: frame.visiting, found.toList⟩
        | .error _ => []

theorem mem_opened {frame child : Frame} {depth : Nat}
    (h : Settled (r.expand (depth + 1) frame.visiting frame.value)) (hopens : r.Opens frame child) :
    child ∈ r.opened depth frame := by
  unfold opened
  rw [List.mem_flatMap]
  cases hopens with
  | @body before after body hpieces hbefore =>
    refine ⟨.reference body, ?_, List.mem_cons_self⟩
    rw [hpieces]
    exact List.mem_append_right _ List.mem_cons_self
  | @found before after body placeholder depth' found hpieces hbefore hbody hnew hfound =>
    refine ⟨.reference body, ?_, List.mem_cons_of_mem _ ?_⟩
    · rw [hpieces]
      exact List.mem_append_right _ List.mem_cons_self
    · have hpiece := settled_of_getsPast h hpieces hbefore
      simp [expand_ok_of_settled hpiece.of_bind hbody, hfound]

theorem replaced_subset (frame : Frame) :
    r.replaced frame ⊆ {placeholder | placeholder ∈ frame.visiting} ∪
      ⋃ child ∈ {child | r.Opens frame child}, r.replaced child := by
  rintro placeholder ⟨reached, hreaches, hmem⟩
  rcases hreaches.cases_head with rfl | ⟨child, hopens, hreaches⟩
  · exact .inl hmem
  · exact .inr (Set.mem_biUnion hopens ⟨reached, hreaches, hmem⟩)

theorem finite_replaced {frame : Frame} {depth : Nat}
    (h : Settled (r.expand depth frame.visiting frame.value)) : (r.replaced frame).Finite := by
  induction depth generalizing frame with
  | zero => exact absurd rfl h
  | succ depth ih =>
    -- A frame that settles opens finitely many, and each of these settles with one level less.
    have hchildren : {child | r.Opens frame child}.Finite := by
      apply (List.finite_toSet (r.opened depth frame)).subset
      intro child hopens
      exact mem_opened h hopens
    apply Set.Finite.subset _ (replaced_subset frame)
    apply (List.finite_toSet frame.visiting).union
    apply hchildren.biUnion
    intro child hopens
    exact ih (settled_of_opens h hopens)

theorem exists_settled_piece {frame : Frame} {before after : List Piece} {piece : Piece}
    (hpieces : pieces frame.value = before ++ piece :: after) (hbefore : r.GetsPast frame before)
    (hchildren : ∀ child, r.Opens frame child →
      ∃ depth, Settled (r.expand depth child.visiting child.value)) :
    ∃ depth, Settled (r.expandPiece (r.expand depth) frame.visiting frame.value piece) := by
  cases piece with
  | literal c => exact ⟨0, settled_of_ok rfl⟩
  | reference body =>
    obtain ⟨depth, hbody⟩ := hchildren _ (.body hpieces hbefore)
    cases hres : (r.expand depth frame.visiting body).result with
    | error e =>
      refine ⟨depth, settled_bind hbody ?_⟩
      intro placeholder hplaceholder
      rw [hres] at hplaceholder
      contradiction
    | ok placeholder =>
      by_cases hnew : placeholder ∈ frame.visiting
      · refine ⟨depth, settled_bind hbody ?_⟩
        intro other hother
        obtain rfl := Except.ok.inj (hres.symm.trans hother)
        simp [Settled, hnew]
      cases hlookup : r.lookup? placeholder with
      | none =>
        refine ⟨depth, settled_bind hbody ?_⟩
        intro other hother
        obtain rfl := Except.ok.inj (hres.symm.trans hother)
        cases hlenient : r.lenient <;> simp [Settled, hnew, hlookup]
      | some found =>
        obtain ⟨depth', hfound⟩ := hchildren _ (.found hpieces hbefore hres hnew hlookup)
        -- The greater of the two depths is enough for the body and for what it stands for.
        have hbody' := expand_eq_of_le hbody (Nat.le_max_left depth depth')
        have hfound' := expand_eq_of_le hfound (Nat.le_max_right depth depth')
        refine ⟨max depth depth', settled_bind ?_ ?_⟩
        · rw [hbody']
          exact hbody
        · intro other hother
          rw [hbody', hres] at hother
          obtain rfl := Except.ok.inj hother
          simp only [List.contains_eq_mem, hnew, decide_false, Bool.false_eq_true, if_false,
            hlookup]
          apply settled_bind
          · rw [hfound']
            exact hfound
          · intro resolved _
            exact settled_of_ok rfl

theorem exists_settled_pieces {frame : Frame} {before after : List Piece}
    (hpieces : pieces frame.value = before ++ after) (hbefore : r.GetsPast frame before)
    (hchildren : ∀ child, r.Opens frame child →
      ∃ depth, Settled (r.expand depth child.visiting child.value)) :
    ∃ depth, Settled (after.mapM (r.expandPiece (r.expand depth) frame.visiting frame.value)) := by
  induction after generalizing before with
  | nil => exact ⟨0, settled_of_ok rfl⟩
  | cons piece after ih =>
    obtain ⟨depth, hpiece⟩ := exists_settled_piece hpieces hbefore hchildren
    cases hres : (r.expandPiece (r.expand depth) frame.visiting frame.value piece).result with
    | error e =>
      refine ⟨depth, ?_⟩
      rw [List.mapM_cons]
      apply settled_bind hpiece
      intro cs hcs
      rw [hres] at hcs
      contradiction
    | ok cs =>
      have hbefore' : r.GetsPast frame (before ++ [piece]) := by
        intro other hother
        rcases List.mem_append.1 hother with hother | hother
        · exact hbefore other hother
        · rw [List.mem_singleton.1 hother]
          exact ⟨depth, cs, hres⟩
      rw [List.append_cons] at hpieces
      obtain ⟨depth', hrest⟩ := ih hpieces hbefore'
      refine ⟨max depth depth', ?_⟩
      rw [List.mapM_cons, expandPiece_eq_of_le hpiece (Nat.le_max_left depth depth')]
      apply settled_bind hpiece
      intro cs _
      apply settled_bind
      · rw [mapM_eq_of_settled hrest]
        · exact hrest
        · intro other hother
          exact expandPiece_eq_of_le hother (Nat.le_max_right depth depth')
      · intro rest _
        exact settled_of_ok rfl

theorem exists_settled {frame : Frame} (hchildren : ∀ child, r.Opens frame child →
      ∃ depth, Settled (r.expand depth child.visiting child.value)) :
    ∃ depth, Settled (r.expand depth frame.visiting frame.value) := by
  have hbefore : r.GetsPast frame [] := by
    intro piece hpiece
    contradiction
  obtain ⟨depth, hparts⟩ := exists_settled_pieces (List.nil_append _).symm hbefore hchildren
  refine ⟨depth + 1, settled_bind hparts ?_⟩
  intro parts _
  exact settled_of_ok rfl

theorem nodup_of_reaches {frame reached : Frame} (h : r.Reaches frame reached)
    (hnodup : frame.visiting.Nodup) : reached.visiting.Nodup := by
  induction h with
  | refl => exact hnodup
  | tail _ hopens ih =>
    cases hopens with
    | body => exact ih
    | found _ _ _ hnew _ => exact List.nodup_cons.2 ⟨hnew, ih⟩

theorem length_visiting_le {start frame : Frame} (hfinite : (r.replaced start).Finite)
    (hnodup : start.visiting.Nodup) (hreaches : r.Reaches start frame) :
    frame.visiting.length ≤ hfinite.toFinset.card := by
  rw [← List.toFinset_card_of_nodup (nodup_of_reaches hreaches hnodup)]
  apply Finset.card_le_card
  intro placeholder hmem
  rw [Set.Finite.mem_toFinset]
  exact ⟨frame, hreaches, List.mem_toFinset.1 hmem⟩

/-- Where finitely many placeholders come to be replaced, the frames that are opened inside each
other replace ever more of them or have ever shorter texts. -/
theorem exists_settled_of_reaches {start frame : Frame} (hfinite : (r.replaced start).Finite)
    (hnodup : start.visiting.Nodup) (hreaches : r.Reaches start frame) :
    ∃ depth, Settled (r.expand depth frame.visiting frame.value) := by
  apply exists_settled
  intro child hopens
  have hchild : r.Reaches start child := hreaches.tail hopens
  exact exists_settled_of_reaches hfinite hnodup hchild
-- A body is shorter than its text. What a placeholder stands for can be longer, but is expanded
-- with one more placeholder being replaced.
termination_by (hfinite.toFinset.card - frame.visiting.length, frame.value.length)
decreasing_by
  have hlength := length_visiting_le hfinite hnodup hchild
  cases hopens with
  | @body before after body hpieces _ =>
    apply Prod.Lex.right
    have hmem : .reference body ∈ pieces frame.value := by
      rw [hpieces]
      exact List.mem_append_right _ List.mem_cons_self
    exact length_lt_of_mem hmem
  | found =>
    apply Prod.Lex.left
    simp only [List.length_cons] at hlength ⊢
    omega

theorem finishes_iff_exists_settled {value : List Char} :
    r.Finishes value ↔ ∃ depth, Settled (r.expand depth [] value) := by
  constructor
  · rintro ⟨depth, hsettled, -⟩
    exact ⟨depth, hsettled⟩
  · rintro ⟨depth, hsettled⟩
    refine ⟨depth, hsettled, ?_⟩
    intro deeper hle
    exact expand_eq_of_le hsettled hle

/-- A text resolves to a text or an error exactly when its expansion ends. -/
theorem isSome_resolve_iff_finishes {text : String} :
    (r.resolve text).isSome ↔ r.Finishes text.toList := by
  rw [isSome_resolve_iff, finishes_iff_exists_settled]

theorem finishes_of_finite_replaced {value : List Char} (h : (r.replaced ⟨[], value⟩).Finite) :
    r.Finishes value :=
  finishes_iff_exists_settled.2 (exists_settled_of_reaches h List.nodup_nil .refl)

theorem finite_replaced_of_finishes {value : List Char} (h : r.Finishes value) :
    (r.replaced ⟨[], value⟩).Finite := by
  obtain ⟨depth, hsettled⟩ := finishes_iff_exists_settled.1 h
  exact finite_replaced hsettled

/-- The expansion of a text ends exactly when it comes to replace finitely many placeholders. -/
theorem finishes_iff_finite_replaced (r : Resolver) (value : List Char) :
    r.Finishes value ↔ (r.replaced ⟨[], value⟩).Finite :=
  ⟨finite_replaced_of_finishes, finishes_of_finite_replaced⟩

/-- Properties whose values put together an ever longer default. -/
def grower : Resolver where
  properties := .ofList [("d", "$"), ("p", "$\x7bd\x7d\x7bu:$\x7bd\x7d\x7bp\x7dZ"),
    ("r", "$\x7bd\x7d\x7br\x7d\x7d")]

def grownPart : List Char → List Char
  | ['d'] => ['$']
  | ['p'] => "$\x7bu:$\x7bp\x7dZ".toList
  | ['r'] => "$\x7br\x7d\x7d".toList
  | _ => []

def growingTail (n : Nat) : List Char := List.replicate n 'Z' ++ ['$', '\x7b', 'r', '\x7d']

def growingBody (n : Nat) : List Char :=
  'u' :: ':' :: '$' :: '\x7b' :: 'p' :: '\x7d' :: growingTail n

/-- A placeholder that has no value, and a default with `n` letters between two others. -/
def growing (n : Nat) : List Char := '$' :: '\x7b' :: (growingBody n ++ ['\x7d'])

theorem growingTail_succ (n : Nat) : growingTail (n + 1) = 'Z' :: growingTail n := rfl

theorem splitAtClosing_growingTail (n : Nat) :
    splitAtClosing 0 (growingTail n ++ ['\x7d']) = some (growingTail n, []) := by
  induction n with
  | zero => decide
  | succ n ih =>
    rw [growingTail_succ, List.cons_append, splitAtClosing_literal (by simp) (by decide), ih]
    rfl

theorem pieces_growing (n : Nat) : pieces (growing n) = [.reference (growingBody n)] := by
  have hsplit : splitAtClosing 0 (growingBody n ++ ['\x7d']) = some (growingBody n, []) := by
    simp only [growingBody, List.cons_append]
    rw [splitAtClosing_literal (by simp) (by decide),
      splitAtClosing_literal (by simp) (by decide), splitAtClosing_open,
      splitAtClosing_literal (by simp) (by decide), splitAtClosing_close,
      splitAtClosing_growingTail]
    rfl
  rw [growing, pieces_reference hsplit, pieces_nil]

theorem bodies_growingBody (n : Nat) : bodies (growingBody n) = [['p'], ['r']] := by
  have htail : bodies (growingTail n) = [['r']] := by
    induction n with
    | zero => decide
    | succ n ih => rw [growingTail_succ, bodies_literal (by decide), ih]
  rw [growingBody, bodies_literal (by decide), bodies_literal (by decide), bodies_reference rfl,
    htail]

theorem fill_growingBody (n : Nat) :
    fill grownPart (growingBody n) = 'u' :: ':' :: growing (n + 1) := by
  have htail : fill grownPart (growingTail n) = growingTail n ++ ['\x7d'] := by
    induction n with
    | zero => decide
    | succ n ih => rw [growingTail_succ, fill_literal (by decide), ih, List.cons_append]
  rw [growingBody, fill_literal (by decide), fill_literal (by decide), fill_reference rfl, htail]
  rfl

variable {visiting : List (List Char)} {value : List Char}

theorem expandPiece_grower_d (depth : Nat) (hd : ['d'] ∉ visiting) :
    (grower.expandPiece (grower.expand (depth + 1)) visiting value (.reference ['d'])).result =
      .ok (grownPart ['d']) := by
  have hlookup : grower.lookup? ['d'] = some "$" := by decide
  exact expandPiece_reference rfl hd hlookup rfl

theorem expandPiece_grower {name : Char} (hname : name = 'p' ∨ name = 'r') (depth : Nat)
    (hnew : [name] ∉ visiting) (hd : ['d'] ∉ visiting) :
    (grower.expandPiece (grower.expand (depth + 2)) visiting value (.reference [name])).result =
      .ok (grownPart [name]) := by
  obtain ⟨found, hlookup, hbodies, hfill⟩ : ∃ found : String, grower.lookup? [name] = some found ∧
      (∀ body ∈ bodies found.toList, body = ['d']) ∧
        fill grownPart found.toList = grownPart [name] := by
    rcases hname with rfl | rfl
    · exact ⟨"$\x7bd\x7d\x7bu:$\x7bd\x7d\x7bp\x7dZ", by decide, by decide, by decide⟩
    · exact ⟨"$\x7bd\x7d\x7br\x7d\x7d", by decide, by decide, by decide⟩
  have hname' : ['d'] ∉ [name] :: visiting := by
    rcases hname with rfl | rfl <;> simp [hd]
  refine expandPiece_reference ?_ hnew hlookup ?_
  · rcases hname with rfl | rfl <;> rfl
  · rw [← hfill]
    apply expand_eq_fill
    intro body hbody
    rw [hbodies body hbody]
    exact expandPiece_grower_d depth hname'

theorem lookup?_grower (cs : List Char) :
    grower.lookup? ('u' :: ':' :: cs) = some (String.ofList cs) := by
  -- no property has a name that starts like this one, so the default counts
  have hnone : ∀ cs, grower.properties.get? (String.ofList ('u' :: cs)) = none := by
    intro cs
    have hentries : grower.properties.entries.map (·.1) = ["d", "p", "r"] := by decide
    rw [Dictionary.get?, List.lookup_eq_none_iff]
    intro entry hentry
    have hname := List.mem_map_of_mem (f := (·.1)) hentry
    rw [hentries] at hname
    rw [bne_iff_ne, Ne, ← String.toList_inj, String.toList_ofList]
    intro heq
    simp only [List.mem_cons, List.not_mem_nil, or_false] at hname
    rcases hname with hname | hname | hname
    all_goals
      rw [hname] at heq
      simp at heq
  have hsplit : Text.splitFirst ':' ('u' :: ':' :: cs) = some (['u'], cs) := rfl
  rw [lookup?, hnone, hsplit]
  show some ((grower.properties.get? (String.ofList ['u'])).getD _) = _
  rw [hnone]
  rfl

/-- Each of these placeholders opens the next one, which is no placeholder before it. -/
theorem opens_growing {n : Nat}
    (hvisiting : ∀ placeholder ∈ visiting, ∃ m ≤ n, placeholder = 'u' :: ':' :: growing m) :
    grower.Opens ⟨visiting, growing n⟩
      ⟨('u' :: ':' :: growing (n + 1)) :: visiting, growing (n + 1)⟩ := by
  have hname : ∀ c, [c] ∉ visiting := by
    intro c hc
    obtain ⟨m, -, heq⟩ := hvisiting _ hc
    simp at heq
  have hbody : (grower.expand 3 visiting (growingBody n)).result =
      .ok ('u' :: ':' :: growing (n + 1)) := by
    rw [← fill_growingBody]
    apply expand_eq_fill
    intro body hbody
    rw [bodies_growingBody] at hbody
    simp only [List.mem_cons, List.not_mem_nil, or_false] at hbody
    rcases hbody with rfl | rfl
    · exact expandPiece_grower (.inl rfl) 0 (hname _) (hname _)
    · exact expandPiece_grower (.inr rfl) 0 (hname _) (hname _)
  have hnew : 'u' :: ':' :: growing (n + 1) ∉ visiting := by
    intro hmem
    obtain ⟨m, hm, heq⟩ := hvisiting _ hmem
    have hlength := congrArg List.length heq
    simp [growing, growingBody, growingTail] at hlength
    omega
  have hbefore : grower.GetsPast ⟨visiting, growing n⟩ [] := by
    intro piece hpiece
    contradiction
  have hopens := Opens.found (pieces_growing n) hbefore hbody hnew (lookup?_grower _)
  rw [String.toList_ofList] at hopens
  exact hopens

theorem not_settled_growing (depth : Nat) {n : Nat}
    (hvisiting : ∀ placeholder ∈ visiting, ∃ m ≤ n, placeholder = 'u' :: ':' :: growing m) :
    ¬ Settled (grower.expand depth visiting (growing n)) := by
  induction depth generalizing n visiting with
  | zero =>
    intro h
    exact h rfl
  | succ depth ih =>
    -- One level less would be enough for the next of these placeholders.
    intro h
    apply ih _ (settled_of_opens h (opens_growing hvisiting))
    intro placeholder hmem
    rcases List.mem_cons.1 hmem with rfl | hmem
    · exact ⟨n + 1, Nat.le_refl _, rfl⟩
    · obtain ⟨m, hm, heq⟩ := hvisiting placeholder hmem
      exact ⟨m, Nat.le_succ_of_le hm, heq⟩

/-- A text that has no expansion. -/
theorem not_finishes_growing : ¬ grower.Finishes "$\x7bu:$\x7bp\x7d$\x7br\x7d\x7d".toList := by
  rintro ⟨depth, hsettled, -⟩
  have hnone : ∀ placeholder ∈ ([] : List (List Char)),
      ∃ m ≤ 0, placeholder = 'u' :: ':' :: growing m := by
    intro placeholder hmem
    contradiction
  exact not_settled_growing depth hnone hsettled

end Resolver

end RequestRouting.Placeholder
