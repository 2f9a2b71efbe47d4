import RequestRouting.Regex.Reader

/-! Reading a text that is followed by a closing parenthesis and an anchor: what has been read
without them is read with them, and they are left. -/
namespace RequestRouting.Regex

/-- What stands behind a text that has been put into a group between anchors. -/
def closing : List Char := [')', '$']

/-- A reader that gives the same when its text goes on with the closing part. -/
def IgnoresClosing {α : Type} (read : List Char → Option (α × List Char)) : Prop :=
  ∀ ⦃cs x rest⦄, read cs = some (x, rest) → read (cs ++ closing) = some (x, rest ++ closing)

theorem IgnoresClosing.map {α β : Type} {read : List Char → Option (α × List Char)}
    (hread : IgnoresClosing read) (f : α → β) :
    IgnoresClosing fun cs => (read cs).map fun (x, rest) => (f x, rest) := by
  intro cs y rest h
  obtain ⟨⟨x, r⟩, hx, heq⟩ := Option.map_eq_some_iff.1 h
  obtain ⟨rfl, rfl⟩ := by simpa using heq
  simp [hread hx]

section Prefixes

variable {p : Char → Bool} {cs : List Char}

theorem takeWhile_append_closing {c : Char} {rest : List Char} (h : cs.dropWhile p = c :: rest) :
    (cs ++ closing).takeWhile p = cs.takeWhile p ∧
      (cs ++ closing).dropWhile p = c :: (rest ++ closing) := by
  induction cs with
  | nil => simp at h
  | cons d cs ih =>
    by_cases hd : p d = true
    · simp only [List.dropWhile_cons, hd, if_true] at h
      simp [hd, ih h]
    · simp only [List.dropWhile_cons, hd] at h
      obtain ⟨rfl, rfl⟩ := by simpa using h
      simp [hd]

theorem dropWhile_append_closing_of_nil (hp : p ')' = true) (hp' : p '$' = true)
    (h : cs.dropWhile p = []) : (cs ++ closing).dropWhile p = [] := by
  induction cs with
  | nil => simp [closing, hp, hp']
  | cons d cs ih =>
    by_cases hd : p d = true
    · simp_all
    · simp [hd] at h

theorem dropWhile_append_closing (cs : List Char) (hp : p ')' = false) :
    (cs ++ closing).takeWhile p = cs.takeWhile p ∧
      (cs ++ closing).dropWhile p = cs.dropWhile p ++ closing := by
  induction cs with
  | nil => simp [closing, hp]
  | cons d cs ih =>
    by_cases hd : p d = true
    · simp [hd, ih]
    · simp [hd]

end Prefixes

theorem readHex_ignoresClosing (width : Nat) : IgnoresClosing (readHex width) := by
  intro cs c rest h
  unfold readHex at h
  split at h
  · rename_i inner
    dsimp only at h
    split at h
    · rename_i after heq
      obtain ⟨htake, hdrop⟩ := takeWhile_append_closing heq
      obtain ⟨x, hx, hc⟩ := Option.map_eq_some_iff.1 h
      simp_all [readHex]
    · simp at h
  · rename_i hbrace
    split at h
    · simp at h
    · obtain ⟨x, hx, hc⟩ := Option.map_eq_some_iff.1 h
      have hne : ∀ inner, cs ++ closing ≠ '\x7b' :: inner := by
        cases cs <;> simp_all [closing]
      have hlong : ¬(cs ++ closing).length < width := by
        simp only [List.length_append]
        omega
      rw [readHex.eq_2 _ _ hne, if_neg hlong, List.take_append_of_le_length (by omega),
        List.drop_append_of_le_length (by omega)]
      simp_all

theorem readBoundary_ignoresClosing : IgnoresClosing readBoundary := by
  intro cs look rest h
  obtain _ | ⟨c, _ | ⟨d, inner⟩⟩ := cs
  · simp_all [readBoundary, closing]
  · by_cases hbrace : c = '\x7b'
    · simp [readBoundary, hbrace] at h
    · simp_all [readBoundary]
      grind
  by_cases hbrace : c = '\x7b'
  · subst hbrace
    have hend := dropWhile_append_closing (p := isBoundaryNameChar) (d :: inner) (by decide)
    simp only [readBoundary, List.cons_append, List.isEmpty_cons, List.head?_cons, Option.any_some,
      Bool.false_eq_true, if_false] at h hend ⊢
    rw [hend.1, hend.2]
    by_cases hd : isBoundaryNameChar d = true
    · simp only [hd, Bool.not_true, Bool.false_eq_true, if_false] at h ⊢
      split at h
      · rename_i heq
        simp only [heq, List.cons_append]
        split at h <;> simp_all
      · simp at h
    · simp only [hd, Bool.not_false, if_true] at h ⊢
      obtain ⟨rfl, rfl⟩ := by simpa using h
      rfl
  · simp_all [readBoundary]
    grind

theorem readEscape_ignoresClosing : IgnoresClosing readEscape := by
  intro cs e rest h
  cases cs with
  | nil => simp [readEscape] at h
  | cons c cs =>
    simp only [readEscape, List.cons_append] at h ⊢
    split at h
    case h_7 => exact (readHex_ignoresClosing 2).map Escape.literal h
    case h_8 => exact (readHex_ignoresClosing 4).map Escape.literal h
    case h_9 => exact (readHex_ignoresClosing 8).map Escape.literal h
    case h_18 => exact readBoundary_ignoresClosing.map Escape.look h
    all_goals simp_all

theorem readClassItem_ignoresClosing : IgnoresClosing readClassItem := by
  intro cs e rest h
  unfold readClassItem at h
  split at h
  · simp at h
  · exact readEscape_ignoresClosing h
  · obtain ⟨rfl, rfl⟩ := by simpa using h
    unfold readClassItem
    simp_all

def beginsRange : List Char → Bool
  | '-' :: ']' :: _ => false
  | '-' :: '-' :: _ => false
  | '-' :: _ => true
  | _ => false

theorem beginsRange_append_closing (cs : List Char) :
    beginsRange (cs ++ closing) = beginsRange cs := by
  obtain _ | ⟨c, _ | ⟨d, cs⟩⟩ := cs
  · rfl
  · by_cases hc : c = '-'
    · subst hc
      rfl
    · simp [beginsRange, hc]
  · by_cases hc : c = '-'
    · subst hc
      by_cases hd : d = ']'
      · subst hd
        rfl
      · by_cases hd' : d = '-'
        · subst hd'
          rfl
        · simp [beginsRange, hd, hd']
    · simp [beginsRange, hc]

theorem readClassRange_eq (cs : List Char) : readClassRange cs =
    (readClassItem cs).bind fun (item, rest) =>
      match beginsRange rest, item with
      | false, .literal c => some (.single c, rest)
      | false, .set s => some (s, rest)
      | true, .literal first =>
        match readClassItem (rest.drop 1) with
        | some (.literal last, after) =>
          if first ≤ last then some (.range first last, after) else none
        | _ => none
      | _, _ => none := by
  unfold readClassRange beginsRange
  cases readClassItem cs <;> rfl

theorem readClassRange_ignoresClosing : IgnoresClosing readClassRange := by
  intro cs s rest h
  rw [readClassRange_eq] at h ⊢
  obtain ⟨⟨item, mid⟩, hitem, h⟩ := Option.bind_eq_some_iff.1 h
  rw [readClassItem_ignoresClosing hitem, Option.bind_some]
  dsimp only at h ⊢
  rw [beginsRange_append_closing]
  split at h
  · simp_all
  · simp_all
  · have hmid : mid ≠ [] := by
      rintro rfl
      simp [beginsRange] at *
    obtain ⟨d, mid, rfl⟩ := List.exists_cons_of_ne_nil hmid
    split at h
    · rename_i last after hlast
      simp only [List.drop_succ_cons, List.drop_zero] at hlast
      simp_all [readClassItem_ignoresClosing hlast]
    · simp at h
  · simp at h

def readClassName (flags : Flags) (negated : Bool) (cs : List Char) :
    Option (CharSet × List Char) :=
  match cs.dropWhile (· != ':') with
  | ':' :: ']' :: after =>
    (CharSet.named? (String.ofList (cs.takeWhile (· != ':')))).map fun s =>
      ((s.closeIf flags.ignoreCase).complementIf negated, after)
  | _ => none

theorem readClassName_eq_none {flags : Flags} {negated : Bool} {cs : List Char}
    (h : ∀ after, cs.dropWhile (· != ':') ≠ ':' :: ']' :: after) :
    readClassName flags negated cs = none := by
  unfold readClassName
  split
  · exact absurd ‹_› (h _)
  · rfl

theorem readClassName_append_closing (flags : Flags) (negated : Bool) (cs : List Char) :
    readClassName flags negated (cs ++ closing) =
      (readClassName flags negated cs).map fun (s, rest) => (s, rest ++ closing) := by
  by_cases hend : ∃ after, cs.dropWhile (· != ':') = ':' :: ']' :: after
  · obtain ⟨after, hafter⟩ := hend
    obtain ⟨htake, hdrop⟩ := takeWhile_append_closing hafter
    simp only [readClassName, htake, hdrop, hafter, List.cons_append, Option.map_map]
    rfl
  · have hend' : ∀ after, (cs ++ closing).dropWhile (· != ':') ≠ ':' :: ']' :: after := by
      intro after
      cases hrest : cs.dropWhile (· != ':') with
      | nil =>
        rw [dropWhile_append_closing_of_nil (by decide) (by decide) hrest]
        simp
      | cons c rest =>
        rw [(takeWhile_append_closing hrest).2]
        rintro heq
        obtain _ | ⟨d, rest⟩ := rest
        · simp [closing] at heq
        · simp_all
    rw [readClassName_eq_none hend', readClassName_eq_none fun after h => hend ⟨after, h⟩]
    rfl

theorem readNamedClass_colon {flags : Flags} {cs : List Char} (h : ∀ after, cs ≠ '^' :: after) :
    readNamedClass flags ('[' :: ':' :: cs) = readClassName flags false cs := by
  unfold readNamedClass
  simp_all only
  rfl

theorem readNamedClass_eq_none {flags : Flags} {cs : List Char}
    (h : ∀ rest, cs ≠ '[' :: ':' :: rest) : readNamedClass flags cs = none := by
  unfold readNamedClass
  split
  · exact absurd rfl (h _)
  · rfl

theorem readNamedClass_append_closing (flags : Flags) (cs : List Char) :
    readNamedClass flags (cs ++ closing) =
      (readNamedClass flags cs).map fun (s, rest) => (s, rest ++ closing) := by
  by_cases hopen : ∃ rest, cs = '[' :: ':' :: rest
  · obtain ⟨rest, rfl⟩ := hopen
    by_cases hcaret : ∃ after, rest = '^' :: after
    · obtain ⟨after, rfl⟩ := hcaret
      exact readClassName_append_closing flags true after
    · have hcaret' : ∀ after, rest ++ closing ≠ '^' :: after := by
        cases rest <;> simp_all [closing]
      simp only [List.cons_append]
      rw [readNamedClass_colon hcaret', readNamedClass_colon (by simpa using hcaret)]
      exact readClassName_append_closing flags false rest
  · have hopen' : ∀ rest, cs ++ closing ≠ '[' :: ':' :: rest := by
      obtain _ | ⟨c, _ | ⟨d, cs⟩⟩ := cs <;> simp_all [closing]
    rw [readNamedClass_eq_none hopen', readNamedClass_eq_none fun rest h => hopen ⟨rest, h⟩]
    rfl

def readHyphens (negated : Bool) (cs : List Char) : OpenClass × List Char :=
  let hyphens := cs.takeWhile (· == '-')
  let rest := cs.dropWhile (· == '-')
  let k : OpenClass := hyphens.foldl (fun k c => k.add ⟨.single c, 0⟩) ⟨negated, none, .nothing, []⟩
  match hyphens, rest with
  | [], ']' :: after => (k.add ⟨.single ']', 0⟩, after)
  | _, _ => (k, rest)

theorem readClassHead_of_ne_caret {cs : List Char} (h : ∀ rest, cs ≠ '^' :: rest) :
    readClassHead cs = readHyphens false cs := by
  unfold readClassHead
  split
  rename_i heq
  split at heq
  · exact absurd rfl (h _)
  · obtain ⟨rfl, rfl⟩ := by simpa using heq
    rfl

theorem readHyphens_append_closing (negated : Bool) (cs : List Char) :
    readHyphens negated (cs ++ closing) =
      ((readHyphens negated cs).1, (readHyphens negated cs).2 ++ closing) := by
  obtain ⟨htake, hdrop⟩ := dropWhile_append_closing (p := (· == '-')) cs (by decide)
  simp only [readHyphens, htake, hdrop]
  rcases cs.takeWhile (· == '-') with _ | ⟨c, hyphens⟩
  · rcases cs.dropWhile (· == '-') with _ | ⟨d, rest⟩
    · simp [closing]
    · by_cases hd : d = ']'
      · simp [hd]
      · simp [hd]
  · rfl

theorem readClassHead_append_closing (cs : List Char) :
    readClassHead (cs ++ closing) = ((readClassHead cs).1, (readClassHead cs).2 ++ closing) := by
  by_cases hcaret : ∃ rest, cs = '^' :: rest
  · obtain ⟨rest, rfl⟩ := hcaret
    exact readHyphens_append_closing true rest
  · have hcaret' : ∀ rest, cs ++ closing ≠ '^' :: rest := by
      cases cs <;> simp_all [closing]
    rw [readClassHead_of_ne_caret hcaret',
      readClassHead_of_ne_caret fun rest h => hcaret ⟨rest, h⟩]
    exact readHyphens_append_closing false cs

theorem readFlags_ignoresClosing (flags : Flags) (seen : List Char) :
    IgnoresClosing (readFlags flags seen) := by
  intro cs inner rest h
  induction cs generalizing flags seen with
  | nil => simp [readFlags] at h
  | cons c cs ih =>
    simp only [readFlags, List.cons_append] at h ⊢
    split at h
    · rw [if_pos ‹_›]
      split at h
      · simp at h
      · obtain ⟨rfl, rfl⟩ := by simpa using h
        rw [if_neg ‹_›]
        rfl
    · rw [if_neg ‹_›]
      split at h
      · simp at h
      · rw [if_neg ‹_›]
        split at h <;> simp_all

theorem readGroupName_ignoresClosing (groups : Groups) : IgnoresClosing (readGroupName groups) := by
  intro cs name rest h
  unfold readGroupName at h
  dsimp only at h
  split at h
  · rename_i heq
    obtain ⟨htake, hdrop⟩ := takeWhile_append_closing heq
    simp only [readGroupName, htake, hdrop]
    split at h
    · rw [if_pos ‹_›]
      simp_all
    · simp at h
  · simp at h

def readGroupFlags (flags : Flags) (cs : List Char) : Option (GroupHead × List Char) :=
  match readFlags flags [] cs with
  | some (inner, ')' :: after) => some (.directive inner, after)
  | some (inner, _ :: after) => some (.plain inner, after)
  | _ => none

theorem readGroupFlags_ignoresClosing (flags : Flags) : IgnoresClosing (readGroupFlags flags) := by
  intro cs head rest h
  unfold readGroupFlags at h
  split at h
  · rename_i hflags
    simp_all [readGroupFlags, readFlags_ignoresClosing _ _ hflags]
  · rename_i hflags
    simp_all [readGroupFlags, readFlags_ignoresClosing _ _ hflags]
  · simp at h

theorem readGroupHead_flags {flags : Flags} {groups : Groups} {cs : List Char}
    (hname : ∀ rest, cs ≠ '<' :: rest ∧ cs ≠ 'P' :: '<' :: rest)
    (hother : ∀ rest, cs ≠ '=' :: rest ∧ cs ≠ '!' :: rest ∧ cs ≠ ')' :: rest) :
    readGroupHead flags groups ('?' :: cs) = readGroupFlags flags cs := by
  unfold readGroupHead
  split <;> simp_all
  rfl

theorem readGroupHead_ignoresClosing (flags : Flags) (groups : Groups) :
    IgnoresClosing (readGroupHead flags groups) := by
  intro cs head rest h
  have hname := (readGroupName_ignoresClosing groups).map fun name => GroupHead.numbered (some name)
  unfold readGroupHead at h
  split at h
  · simp at h
  · simp at h
  · simp at h
  · simp at h
  · exact hname h
  · rename_i inner heq hnot
    have := hname h
    obtain _ | ⟨c, inner⟩ := inner
    · simp [readGroupName] at h
    · simp_all [readGroupHead]
  · simp at h
  · rename_i inner _ _ _ _ _ _ _
    rw [List.cons_append, readGroupHead_flags]
    · exact readGroupFlags_ignoresClosing flags h
    all_goals
      obtain _ | ⟨c, _ | ⟨d, inner⟩⟩ := inner
      · simp [readFlags] at h
      · simp_all [closing]
      · simp_all
  · obtain ⟨rfl, rfl⟩ := by simpa using h
    obtain _ | ⟨c, cs⟩ := cs
    · simp_all [readGroupHead, closing]
    · simp_all [readGroupHead]

theorem readLazyMark_append_closing (cs : List Char) :
    readLazyMark (cs ++ closing) = ((readLazyMark cs).1, (readLazyMark cs).2 ++ closing) := by
  cases cs with
  | nil => rfl
  | cons c cs =>
    by_cases hc : c = '?'
    · subst hc
      rfl
    · simp [readLazyMark, hc]

theorem readCount_ignoresClosing : IgnoresClosing readCount := by
  intro cs n rest h
  have hblank := dropWhile_append_closing (p := Text.isBlank) cs (by decide)
  have hdigits := dropWhile_append_closing (p := Char.isDigit) (cs.dropWhile Text.isBlank)
    (by decide)
  have hbehind := dropWhile_append_closing (p := Text.isBlank)
    ((cs.dropWhile Text.isBlank).dropWhile Char.isDigit) (by decide)
  simp only [readCount, hblank.2, hdigits.1, hdigits.2, hbehind.2] at h ⊢
  obtain ⟨k, hk, h⟩ := Option.bind_eq_some_iff.1 h
  rw [hk, Option.bind_some]
  split at h
  · rw [if_pos ‹_›]
    simp_all
  · simp at h

theorem readBounds_ignoresClosing : IgnoresClosing readBounds := by
  intro cs n rest h
  obtain ⟨⟨min, mid⟩, hmin, h⟩ := Option.bind_eq_some_iff.1 h
  have hmin' := readCount_ignoresClosing hmin
  rw [readBounds, hmin']
  dsimp only at h
  simp only [Option.bind_eq_bind, Option.bind_some]
  split at h
  · simp_all
  · simp_all
  · rename_i inner hinner
    obtain ⟨⟨max, mid'⟩, hmax, h⟩ := Option.bind_eq_some_iff.1 h
    have hmax' := readCount_ignoresClosing hmax
    dsimp only at h
    split at h
    · split at h
      · have hne : ∀ after, inner ++ closing ≠ '\x7d' :: after := by
          cases inner <;> simp_all [closing]
        simp only [List.cons_append, hmax', Option.bind_some]
        rw [if_pos ‹_›]
        simp_all
      · simp at h
    · simp at h
  · simp at h

theorem readOperator_ignoresClosing : IgnoresClosing readOperator := by
  intro cs n rest h
  unfold readOperator at h
  split at h
  · simp_all [readOperator]
  · simp_all [readOperator]
  · simp_all [readOperator]
  · exact readBounds_ignoresClosing h
  · simp at h

theorem readPrimitive_ignoresClosing (flags : Flags) : IgnoresClosing (readPrimitive flags) := by
  intro cs e rest h
  unfold readPrimitive at h
  split at h
  · simp at h
  · exact readEscape_ignoresClosing.map (Escape.toExpr flags) h
  · simp_all [readPrimitive]
  · simp_all [readPrimitive]
  · simp_all [readPrimitive]
  · simp_all [readPrimitive]

/-- A class that is closed in a text does not depend on what stands behind the text, and more
fuel than is enough makes no difference. -/
theorem readClass_ignoresClosing {flags : Flags} {fuel fuel' : Nat} (hfuel : fuel ≤ fuel')
    (k : OpenClass) : ∀ ⦃cs s rest⦄, readClass flags fuel k cs = some (s, rest) →
      readClass flags fuel' k (cs ++ closing) = some (s, rest ++ closing) := by
  induction fuel generalizing fuel' k with
  | zero => simp [readClass]
  | succ fuel ih =>
    intro cs s rest h
    obtain ⟨fuel', rfl⟩ : ∃ n, fuel' = n + 1 := ⟨fuel' - 1, by omega⟩
    have ih := fun k => @ih fuel' (by omega) k
    unfold readClass at h
    split at h
    · simp at h
    · simp_all [readClass]
    · exact ih _ h
    · exact ih _ h
    · exact ih _ h
    · rename_i inner
      have hnamed := readNamedClass_append_closing flags ('[' :: inner)
      simp only [List.cons_append] at hnamed
      simp only [List.cons_append, readClass, hnamed, readClassHead_append_closing]
      split at h
      · rename_i hclass
        rw [hclass]
        exact ih _ h
      · rename_i hclass
        rw [hclass]
        generalize readClassHead inner = head at h ⊢
        obtain ⟨⟨item, mid⟩, hitem, h⟩ := Option.bind_eq_some_iff.1 h
        simp only [Option.map_none, ih _ hitem, Option.bind_some]
        exact ih _ h
    · obtain ⟨⟨s, mid⟩, hrange, h⟩ := Option.bind_eq_some_iff.1 h
      rw [readClass.eq_8]
      · simp only [readClassRange_ignoresClosing hrange, Option.bind_some]
        exact ih _ h
      all_goals
        obtain _ | ⟨c, _ | ⟨d, cs⟩⟩ := cs <;> simp_all [closing]

/-- A group that ended with the text, read with some fuel, ends at the parenthesis behind it
when it is read with other fuel. -/
def GroupIgnoresClosing (fuel fuel' : Nat) : Prop :=
  ∀ ⦃flags groups g cs e groups' rest⦄, readGroup fuel flags groups g cs = some (e, groups', rest) →
    readGroup fuel' flags groups g (cs ++ closing) = some (e, groups', rest ++ closing)

section Group

variable {fuel fuel' : Nat} {flags : Flags} {groups groups' : Groups} {g : OpenGroup}
  {cs rest : List Char} {e : Written Expr}

theorem readGroup_class_append_closing (ih : GroupIgnoresClosing fuel fuel') (hfuel : fuel ≤ fuel')
    (h : readGroup (fuel + 1) flags groups g ('[' :: cs) = some (e, groups', rest)) :
    readGroup (fuel' + 1) flags groups g ('[' :: (cs ++ closing)) =
      some (e, groups', rest ++ closing) := by
  simp only [readGroup, readClassHead_append_closing] at h ⊢
  generalize readClassHead cs = head at h ⊢
  obtain ⟨⟨s, mid⟩, hclass, h⟩ := Option.bind_eq_some_iff.1 h
  rw [readClass_ignoresClosing hfuel _ hclass, Option.bind_some]
  exact ih h

theorem readGroup_open_append_closing (ih : GroupIgnoresClosing fuel fuel')
    (h : readGroup (fuel + 1) flags groups g ('(' :: cs) = some (e, groups', rest)) :
    readGroup (fuel' + 1) flags groups g ('(' :: (cs ++ closing)) =
      some (e, groups', rest ++ closing) := by
  simp only [readGroup] at h ⊢
  split at h
  · simp at h
  · rename_i flags' mid hhead
    rw [readGroupHead_ignoresClosing _ _ hhead]
    exact ih h
  · rename_i flags' mid hhead
    rw [readGroupHead_ignoresClosing _ _ hhead]
    dsimp only
    split at h
    · rename_i hbody
      rw [ih hbody]
      exact ih h
    · simp at h
  · rename_i name mid hhead
    rw [readGroupHead_ignoresClosing _ _ hhead]
    dsimp only
    split at h
    · rename_i hbody
      rw [ih hbody]
      exact ih h
    · simp at h

theorem readGroup_part_append_closing (ih : GroupIgnoresClosing fuel fuel') {c : Char}
    (hclose : c ≠ ')') (hbar : c ≠ '|') (hclass : c ≠ '[') (hopen : c ≠ '(')
    (h : readGroup (fuel + 1) flags groups g (c :: cs) = some (e, groups', rest)) :
    readGroup (fuel' + 1) flags groups g (c :: (cs ++ closing)) =
      some (e, groups', rest ++ closing) := by
  rw [readGroup.eq_7 _ _ _ _ _ _ hclose hbar hclass hopen] at h ⊢
  split at h
  · rw [if_pos ‹_›]
    obtain ⟨⟨⟨min, max⟩, mid⟩, hoperator, h⟩ := Option.bind_eq_some_iff.1 h
    have hoperator' := readOperator_ignoresClosing hoperator
    rw [List.cons_append] at hoperator'
    rw [hoperator', Option.bind_some]
    dsimp only at h ⊢
    rw [readLazyMark_append_closing]
    generalize readLazyMark mid = lazyMark at h ⊢
    obtain ⟨g', hrepeat, h⟩ := Option.bind_eq_some_iff.1 h
    rw [hrepeat, Option.bind_some]
    exact ih h
  · rw [if_neg ‹_›]
    obtain ⟨⟨e, mid⟩, hprimitive, h⟩ := Option.bind_eq_some_iff.1 h
    have hprimitive' := readPrimitive_ignoresClosing flags hprimitive
    rw [List.cons_append] at hprimitive'
    rw [hprimitive', Option.bind_some]
    exact ih h

/-- Some more fuel is needed, since the parenthesis is looked at where the text had ended. -/
theorem groupIgnoresClosing (hfuel : fuel < fuel') : GroupIgnoresClosing fuel fuel' := by
  induction fuel generalizing fuel' with
  | zero =>
    intro flags groups g cs e groups' rest h
    obtain ⟨fuel', rfl⟩ : ∃ n, fuel' = n + 1 := ⟨fuel' - 1, by omega⟩
    simp only [readGroup, List.isEmpty_iff] at h
    split at h
    · simp_all [readGroup, closing]
    · simp at h
  | succ fuel ih =>
    intro flags groups g cs e groups' rest h
    obtain ⟨fuel', rfl⟩ : ∃ n, fuel' = n + 1 := ⟨fuel' - 1, by omega⟩
    have hlt : fuel < fuel' := Nat.lt_of_succ_lt_succ hfuel
    obtain _ | ⟨c, cs⟩ := cs
    · simp_all [readGroup, closing]
    by_cases hclose : c = ')'
    · subst hclose
      obtain ⟨rfl, rfl, rfl⟩ := by simpa [readGroup] using h
      simp [readGroup]
    by_cases hbar : c = '|'
    · subst hbar
      exact ih hlt h
    by_cases hclass : c = '['
    · subst hclass
      exact readGroup_class_append_closing (ih hlt) (Nat.le_of_lt hlt) h
    by_cases hopen : c = '('
    · subst hopen
      exact readGroup_open_append_closing (ih hlt) h
    · exact readGroup_part_append_closing (ih hlt) hclose hbar hclass hopen h

end Group

end RequestRouting.Regex
