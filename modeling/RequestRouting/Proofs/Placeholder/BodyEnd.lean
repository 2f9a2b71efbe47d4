import Mathlib.Order.Lattice.Nat
import RequestRouting.Proofs.Placeholder.Balance
import RequestRouting.Proofs.Text.Character

/-! Where the body of a placeholder ends, in bytes. Main statement: it ends at the first closing
brace before which as many placeholders are closed as are opened. A walk along the bytes with a
depth and an index comes to the same end, and the text can be sliced there. -/
namespace RequestRouting.Placeholder

section Balanced

variable {cs body rest : List Char} {e : Nat}

/-- A closing brace is at this byte, and before it as many placeholders are closed as are opened. -/
def BalancedAt (cs : List Char) (e : Nat) : Prop :=
  ∃ before after, cs = before ++ '\x7d' :: after ∧ Text.byteLength before = e ∧ Balances 0 before

theorem isLeast_of_isBody (hcs : cs = body ++ '\x7d' :: rest) (hbody : IsBody 0 body) :
    IsLeast {e | BalancedAt cs e} (Text.byteLength body) := by
  refine ⟨⟨body, rest, hcs, rfl, hbody.balances⟩, ?_⟩
  rintro e ⟨before, after, hbefore, rfl, hbalances⟩
  rw [hcs] at hbefore
  rcases List.append_eq_append_iff.1 hbefore with ⟨more, rfl, -⟩ | ⟨more, rfl, hmore⟩
  · rw [Text.byteLength_append]
    exact Nat.le_add_right _ _
  · -- a balanced brace that is not behind the body would be one inside it
    cases more with
    | nil => rw [List.append_nil]
    | cons c more =>
      obtain ⟨rfl, -⟩ := List.cons.inj hmore
      exact absurd hbalances (hbody.first before ⟨more, by simp⟩)

theorem isBody_of_isLeast {before after : List Char} (hcs : cs = before ++ '\x7d' :: after)
    (hbalances : Balances 0 before)
    (hleast : ∀ e, BalancedAt cs e → Text.byteLength before ≤ e) : IsBody 0 before := by
  refine ⟨hbalances, ?_⟩
  rintro earlier ⟨between, rfl⟩ hearlier
  have hle := hleast _ ⟨earlier, between ++ '\x7d' :: after, by simp [hcs], rfl, hearlier⟩
  have hbrace : Text.byteLength ['\x7d'] = 1 := rfl
  rw [Text.byteLength_append, Text.byteLength_append, hbrace] at hle
  omega

theorem bodyEnd?_eq_some_iff :
    bodyEnd? cs = some e ↔ ∃ body rest, cs = body ++ '\x7d' :: rest ∧ IsBody 0 body ∧
      Text.byteLength body = e := by
  unfold bodyEnd?
  simp only [Option.map_eq_some_iff, Prod.exists, splitAtClosing_eq_some_iff, and_assoc]

theorem bodyEnd?_eq_some_iff_isLeast :
    bodyEnd? cs = some e ↔ IsLeast {e | BalancedAt cs e} e := by
  rw [bodyEnd?_eq_some_iff]
  constructor
  · rintro ⟨body, rest, hcs, hbody, rfl⟩
    exact isLeast_of_isBody hcs hbody
  · rintro ⟨⟨before, after, hcs, rfl, hbalances⟩, hleast⟩
    exact ⟨before, after, hcs, isBody_of_isLeast hcs hbalances fun e he => hleast he, rfl⟩

theorem bodyEnd?_eq_none_iff : bodyEnd? cs = none ↔ ∀ e, ¬ BalancedAt cs e := by
  constructor
  · intro hnone e he
    have hleast : IsLeast {e | BalancedAt cs e} (sInf {e | BalancedAt cs e}) :=
      ⟨Nat.sInf_mem ⟨e, he⟩, fun e he => Nat.sInf_le he⟩
    rw [bodyEnd?_eq_some_iff_isLeast.2 hleast] at hnone
    contradiction
  · intro hnever
    cases hend : bodyEnd? cs with
    | none => rfl
    | some e => exact absurd (bodyEnd?_eq_some_iff_isLeast.1 hend).1 (hnever e)

theorem bodyEnd?_append (h : bodyEnd? cs = some e) (more : List Char) :
    bodyEnd? (cs ++ more) = some e := by
  obtain ⟨body, rest, rfl, hbody, he⟩ := bodyEnd?_eq_some_iff.1 h
  exact bodyEnd?_eq_some_iff.2 ⟨body, rest ++ more, by simp, hbody, he⟩

end Balanced

section Places

variable {text : String} {before cs : List Char}

theorem exists_splits (h : text.toList = before ++ cs) :
    ∃ place : text.Pos, place.Splits (String.ofList before) (String.ofList cs) ∧
      place.offset = ⟨Text.byteLength before⟩ := by
  have htext : text = String.ofList before ++ String.ofList cs := by
    rw [← String.ofList_append, ← h, String.ofList_toList]
  have hsplits := String.Pos.splits_ofEqAppend htext
  refine ⟨.ofEqAppend htext, hsplits, ?_⟩
  rw [hsplits.offset_eq_rawEndPos, ← Text.utf8ByteSize_ofList]
  rfl

theorem utf8ByteSize_eq (h : text.toList = before ++ cs) :
    text.utf8ByteSize = Text.byteLength before + Text.byteLength cs := by
  rw [← Text.byteLength_append, ← h, ← Text.utf8ByteSize_ofList, String.ofList_toList]

/-- The places around a closing brace at byte `e`. Behind the opening of a placeholder, the text is
read as the slice before the brace, and as the pieces of the slice behind it. -/
structure Cut (body : String) (e : Nat) (closing behind : body.Pos) : Prop where
  closing_eq : closing.offset.byteIdx = e
  behind_eq : behind.offset.byteIdx = e + 1
  lt_size : e < body.utf8ByteSize
  inside_lt : (body.sliceTo closing).utf8ByteSize < body.utf8ByteSize
  outside_lt : (body.sliceFrom behind).utf8ByteSize < body.utf8ByteSize
  pieces_eq : pieces ('$' :: '\x7b' :: body.toList) =
    .reference (body.sliceTo closing).copy.toList :: pieces (body.sliceFrom behind).copy.toList

theorem exists_cut {body : String} {e : Nat} (h : bodyEnd? body.toList = some e) :
    ∃ closing behind, Cut body e closing behind := by
  obtain ⟨inside, outside, hbody, hinner, rfl⟩ := bodyEnd?_eq_some_iff.1 h
  have hbehind : body.toList = (inside ++ ['\x7d']) ++ outside := by
    rw [hbody, List.append_assoc, List.singleton_append]
  have hsize : body.utf8ByteSize = Text.byteLength inside + (1 + Text.byteLength outside) :=
    utf8ByteSize_eq hbody
  obtain ⟨closing, hinside, hclosing⟩ := exists_splits hbody
  obtain ⟨behind, houtside, hoffset⟩ := exists_splits hbehind
  refine ⟨closing, behind, ?_, ?_, ?_, ?_, ?_, ?_⟩
  · rw [hclosing]
  · rw [hoffset]
    exact Text.byteLength_append inside ['\x7d']
  · omega
  · rw [← String.Slice.utf8ByteSize_copy, hinside.copy_sliceTo_eq, Text.utf8ByteSize_ofList]
    omega
  · rw [← String.Slice.utf8ByteSize_copy, houtside.copy_sliceFrom_eq, Text.utf8ByteSize_ofList]
    omega
  · rw [hinside.copy_sliceTo_eq, houtside.copy_sliceFrom_eq, String.toList_ofList,
      String.toList_ofList]
    exact pieces_reference (splitAtClosing_eq_some_iff.2 ⟨hbody, hinner⟩)

end Places

section Walk

/-- What stands from a byte on, if a character begins there or the text ends there. -/
def tailAt? (text : String) (index : Nat) : Option (List Char) :=
  if h : String.Pos.Raw.IsValid text ⟨index⟩ then some (text.sliceFrom ⟨⟨index⟩, h⟩).copy.toList
  else none

inductive Look where
  | ends
  | goesOn (depth bytes : Nat)

def look : (depth : Nat) → List Char → Look
  | depth, '$' :: '\x7b' :: _ => .goesOn (depth + 1) 2
  | 0, '\x7d' :: _ => .ends
  | depth + 1, '\x7d' :: _ => .goesOn depth 1
  | depth, c :: _ => .goesOn depth c.utf8Size
  | depth, [] => .goesOn depth 1

/-- Walks along the bytes of a text and tells where a placeholder ends in it, if it does. There is
no answer after a look at a byte at which no character begins, or if the rounds run out. -/
def walk (text : String) : (rounds depth index : Nat) → Option (Option Nat)
  | rounds, depth, index =>
    if index < text.utf8ByteSize then
      match rounds with
      | 0 => none
      | rounds + 1 => do
        match look depth (← tailAt? text index) with
        | .ends => return some index
        | .goesOn depth bytes => walk text rounds depth (index + bytes)
    else some none

variable {text : String} {before cs : List Char} {c : Char} {depth : Nat}

theorem tailAt?_eq (h : text.toList = before ++ cs) :
    tailAt? text (Text.byteLength before) = some cs := by
  obtain ⟨place, hsplits, hoffset⟩ := exists_splits h
  have hvalid : String.Pos.Raw.IsValid text ⟨Text.byteLength before⟩ := hoffset ▸ place.isValid
  have hplace : (⟨⟨Text.byteLength before⟩, hvalid⟩ : text.Pos) = place :=
    String.Pos.ext hoffset.symm
  rw [tailAt?, dif_pos hvalid, hplace, hsplits.copy_sliceFrom_eq, String.toList_ofList]

theorem byteLength_lt (h : text.toList = before ++ c :: cs) :
    Text.byteLength before < text.utf8ByteSize := by
  have hpos := c.utf8Size_pos
  rw [utf8ByteSize_eq h, Text.byteLength]
  omega

theorem walk_ends (h : text.toList = before ++ c :: cs) (hlook : look depth (c :: cs) = .ends)
    {rounds : Nat} (hrounds : 0 < rounds) : walk text rounds depth (Text.byteLength before) =
      some (some (Text.byteLength before)) := by
  obtain ⟨rounds, rfl⟩ := Nat.exists_eq_succ_of_ne_zero hrounds.ne'
  rw [walk, if_pos (byteLength_lt h), tailAt?_eq h]
  simp only [Option.bind_eq_bind, Option.bind_some, hlook]
  rfl

theorem walk_goesOn {deeper : Nat} (front : List Char)
    (h : text.toList = before ++ c :: (front ++ cs))
    (hlook : look depth (c :: (front ++ cs)) = .goesOn deeper (Text.byteLength (c :: front)))
    {rounds : Nat} (hrounds : 0 < rounds) : walk text rounds depth (Text.byteLength before) =
      walk text (rounds - 1) deeper (Text.byteLength (before ++ c :: front)) := by
  obtain ⟨rounds, rfl⟩ := Nat.exists_eq_succ_of_ne_zero hrounds.ne'
  rw [walk, if_pos (byteLength_lt h), tailAt?_eq h, Text.byteLength_append]
  simp only [Option.bind_eq_bind, Option.bind_some, hlook]
  rfl

theorem walk_end (h : text.toList = before) (rounds depth : Nat) :
    walk text rounds depth (Text.byteLength before) = some none := by
  have hsize : text.utf8ByteSize = Text.byteLength before :=
    utf8ByteSize_eq (h.trans (List.append_nil before).symm)
  unfold walk
  rw [hsize, if_neg (Nat.lt_irrefl _)]

theorem map_end_append (before front : List Char) (found : Option (List Char × List Char)) :
    (found.map fun (body, rest) => (front ++ body, rest)).map
        (fun (body, _) => Text.byteLength before + Text.byteLength body) =
      found.map fun (body, _) => Text.byteLength (before ++ front) + Text.byteLength body := by
  cases found with
  | none => rfl
  | some parts => simp [Text.byteLength_append, Nat.add_assoc]

/-- From the byte at which what is ahead begins, the walk finds the end that is split off. Every
round takes at least one character. -/
theorem walk_eq {rounds : Nat} (h : text.toList = before ++ cs) (hrounds : cs.length ≤ rounds) :
    walk text rounds depth (Text.byteLength before) =
      some ((splitAtClosing depth cs).map fun (body, _) =>
        Text.byteLength before + Text.byteLength body) := by
  fun_induction splitAtClosing depth cs generalizing before rounds with
  | case1 =>
    rw [walk_end (by simpa using h)]
    rfl
  | case2 depth cs ih =>
    have hrest : cs.length ≤ rounds - 1 := Nat.le_of_succ_le (Nat.le_pred_of_lt hrounds)
    rw [walk_goesOn ['\x7b'] h rfl (Nat.zero_lt_of_lt hrounds), ih (by simp [h]) hrest]
    exact congrArg some (map_end_append before ['$', '\x7b'] _).symm
  | case3 cs =>
    rw [walk_ends h rfl (Nat.zero_lt_of_lt hrounds)]
    rfl
  | case4 depth cs ih =>
    have hrest : cs.length ≤ rounds - 1 := Nat.le_pred_of_lt hrounds
    rw [walk_goesOn [] h rfl (Nat.zero_lt_of_lt hrounds), ih (by simp [h]) hrest]
    exact congrArg some (map_end_append before ['\x7d'] _).symm
  | case5 depth c cs hopen hclose hdeeper ih =>
    have hrest : cs.length ≤ rounds - 1 := Nat.le_pred_of_lt hrounds
    have hlook : look depth (c :: cs) = .goesOn depth (Text.byteLength [c]) := by
      rw [look]
      · rfl
      · exact hopen
      · exact hclose
      · exact hdeeper
    rw [walk_goesOn [] h hlook (Nat.zero_lt_of_lt hrounds), ih (by simp [h]) hrest]
    exact congrArg some (map_end_append before [c] _).symm

theorem walk_eq_bodyEnd? (body : String) {rounds : Nat} (h : body.length ≤ rounds) :
    walk body rounds 0 0 = some (bodyEnd? body.toList) := by
  have hbody : body.toList = [] ++ body.toList := rfl
  have hwalk : walk body rounds 0 (Text.byteLength []) = _ := walk_eq hbody h
  simpa only [bodyEnd?, Text.byteLength, Nat.zero_add] using hwalk

end Walk

/-- For every text, the body of a placeholder ends at the first closing brace before which as many
placeholders are closed as are opened, and has no end if there is no such brace. The walk along the
bytes comes to this end. The text can be sliced at it and behind the brace, the slices are shorter
than the text, and text behind it changes nothing. -/
theorem bodyEnd_first_balanced (body : String) :
    (∀ e, bodyEnd? body.toList = some e ↔ IsLeast {e | BalancedAt body.toList e} e) ∧
    (bodyEnd? body.toList = none ↔ ∀ e, ¬ BalancedAt body.toList e) ∧
    (∀ rounds, body.length ≤ rounds → walk body rounds 0 0 = some (bodyEnd? body.toList)) ∧
    ∀ e, bodyEnd? body.toList = some e →
      (∃ closing behind, Cut body e closing behind) ∧
      ∀ more, bodyEnd? (body ++ more).toList = some e := by
  refine ⟨fun e => bodyEnd?_eq_some_iff_isLeast, bodyEnd?_eq_none_iff,
    fun rounds => walk_eq_bodyEnd? body, fun e h => ⟨exists_cut h, fun more => ?_⟩⟩
  rw [String.toList_append]
  exact bodyEnd?_append h more.toList

/-- The end counts bytes, and the brace of the placeholder inside is not the one. -/
theorem bodyEnd_first_balanced_nested :
    bodyEnd? "größe.$\x7benv\x7d\x7d/".toList = some 14 ∧
    walk "größe.$\x7benv\x7d\x7d/" 20 0 0 = some (some 14) ∧
    (∃ closing behind, Cut "größe.$\x7benv\x7d\x7d/" 14 closing behind) ∧
    bodyEnd? ("größe.$\x7benv\x7d\x7d/" ++ "\x7d").toList = some 14 := by
  obtain ⟨-, -, hwalk, hend⟩ := bodyEnd_first_balanced "größe.$\x7benv\x7d\x7d/"
  have hbody : bodyEnd? "größe.$\x7benv\x7d\x7d/".toList = some 14 := by decide
  refine ⟨hbody, ?_, (hend 14 hbody).1, (hend 14 hbody).2 _⟩
  rw [hwalk 20 (by decide), hbody]

example : bodyEnd? "a$\x7bb\x7d".toList = none := by decide

end RequestRouting.Placeholder
