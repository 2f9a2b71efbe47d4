import RequestRouting.Placeholder.Template

/-! Reading texts with placeholders. The pieces of a text follow one another, whatever fuel they
were read with, and put together they are the text again. -/
namespace RequestRouting.Placeholder

theorem eq_append_of_splitAtClosing {depth : Nat} {cs body rest : List Char}
    (h : splitAtClosing depth cs = some (body, rest)) : cs = body ++ '\x7d' :: rest := by
  fun_induction splitAtClosing depth cs generalizing body rest with
  | case1 => contradiction
  | case2 depth cs ih =>
    obtain ⟨⟨body', rest'⟩, hsplit, heq⟩ := Option.map_eq_some_iff.1 h
    obtain ⟨rfl, rfl⟩ := Prod.mk.inj heq
    rw [ih hsplit]
    rfl
  | case3 cs =>
    obtain ⟨rfl, rfl⟩ := Prod.mk.inj (Option.some.inj h)
    rfl
  | case4 depth cs ih =>
    obtain ⟨⟨body', rest'⟩, hsplit, heq⟩ := Option.map_eq_some_iff.1 h
    obtain ⟨rfl, rfl⟩ := Prod.mk.inj heq
    rw [ih hsplit]
    rfl
  | case5 depth c cs _ _ _ ih =>
    obtain ⟨⟨body', rest'⟩, hsplit, heq⟩ := Option.map_eq_some_iff.1 h
    obtain ⟨rfl, rfl⟩ := Prod.mk.inj heq
    rw [ih hsplit]
    rfl

theorem length_of_splitAtClosing {depth : Nat} {cs body rest : List Char}
    (h : splitAtClosing depth cs = some (body, rest)) : body.length + rest.length < cs.length := by
  rw [eq_append_of_splitAtClosing h, List.length_append, List.length_cons]
  omega

theorem splitAtClosing_open (depth : Nat) (cs : List Char) :
    splitAtClosing depth ('$' :: '\x7b' :: cs) =
      (splitAtClosing (depth + 1) cs).map fun (body, rest) => ('$' :: '\x7b' :: body, rest) := by
  rw [splitAtClosing]

theorem splitAtClosing_close (depth : Nat) (cs : List Char) :
    splitAtClosing (depth + 1) ('\x7d' :: cs) =
      (splitAtClosing depth cs).map fun (body, rest) => ('\x7d' :: body, rest) := by
  rw [splitAtClosing]

theorem splitAtClosing_literal {c : Char} {cs : List Char} (hopen : ¬ ['$', '\x7b'] <+: c :: cs)
    (hclose : c ≠ '\x7d') (depth : Nat) : splitAtClosing depth (c :: cs) =
      (splitAtClosing depth cs).map fun (body, rest) => (c :: body, rest) := by
  rw [splitAtClosing]
  · rintro after rfl rfl
    exact hopen (List.prefix_append ['$', '\x7b'] after)
  · rintro _ rfl
    contradiction
  · rintro _ _ rfl
    contradiction

theorem readPieces_nil (fuel : Nat) : readPieces fuel [] = [] := by
  cases fuel with
  | zero => rfl
  | succ fuel => rfl

theorem readPieces_congr {fuel fuel' : Nat} {cs : List Char} (h : cs.length ≤ fuel)
    (h' : cs.length ≤ fuel') : readPieces fuel cs = readPieces fuel' cs := by
  fun_induction readPieces fuel cs generalizing fuel' with
  | case1 cs =>
    rw [List.length_eq_zero_iff.1 (Nat.le_zero.1 h), readPieces_nil]
    rfl
  | case2 => rw [readPieces_nil]
  | case3 fuel cs body rest hsplit ih =>
    have hlength := length_of_splitAtClosing hsplit
    simp only [List.length_cons] at h h'
    cases fuel' with
    | zero => omega
    | succ fuel' =>
      have hrest : readPieces fuel rest = readPieces fuel' rest := ih (by omega) (by omega)
      simp only [readPieces, hsplit, hrest]
  | case4 fuel cs hsplit =>
    simp only [List.length_cons] at h'
    cases fuel' with
    | zero => omega
    | succ fuel' => simp only [readPieces, hsplit]
  | case5 fuel c cs hplain ih =>
    simp only [List.length_cons] at h h'
    cases fuel' with
    | zero => omega
    | succ fuel' =>
      have hrest : readPieces fuel cs = readPieces fuel' cs := ih (by omega) (by omega)
      rw [readPieces, hrest]
      exact hplain

@[simp] theorem pieces_nil : pieces [] = [] := rfl

theorem pieces_reference {cs body rest : List Char} (h : splitAtClosing 0 cs = some (body, rest)) :
    pieces ('$' :: '\x7b' :: cs) = .reference body :: pieces rest := by
  have hlength := length_of_splitAtClosing h
  have hrest : readPieces (cs.length + 1) rest = readPieces rest.length rest :=
    readPieces_congr (by omega) (by omega)
  simp only [pieces, List.length_cons, readPieces, h, hrest]

theorem pieces_literal {c : Char} {cs : List Char}
    (h : ¬ (c = '$' ∧ cs.head? = some '\x7b')) : pieces (c :: cs) = .literal c :: pieces cs := by
  rw [pieces, List.length_cons, readPieces, pieces]
  rintro cs' rfl rfl
  exact h ⟨rfl, rfl⟩

def Piece.text : Piece → List Char
  | .literal c => [c]
  | .reference body => '$' :: '\x7b' :: (body ++ ['\x7d'])

theorem flatMap_text_readPieces (fuel : Nat) (cs : List Char) :
    (readPieces fuel cs).flatMap Piece.text = cs := by
  have hliterals : ∀ cs : List Char, (cs.map Piece.literal).flatMap Piece.text = cs := by
    intro cs
    rw [List.flatMap_map]
    exact List.flatMap_singleton' cs
  fun_induction readPieces fuel cs with
  | case1 cs => exact hliterals cs
  | case2 => rfl
  | case3 fuel cs body rest hsplit ih =>
    rw [List.flatMap_cons, ih, eq_append_of_splitAtClosing hsplit, Piece.text]
    simp
  | case4 fuel cs => exact hliterals _
  | case5 fuel c cs _ ih =>
    rw [List.flatMap_cons, ih]
    rfl

theorem text_sublist_of_mem {cs : List Char} {piece : Piece} (h : piece ∈ pieces cs) :
    piece.text.Sublist cs := by
  have hread := flatMap_text_readPieces cs.length cs
  obtain ⟨before, after, hpieces⟩ := List.append_of_mem h
  rw [pieces] at hpieces
  rw [hpieces, List.flatMap_append, List.flatMap_cons] at hread
  rw [← hread]
  exact (List.sublist_append_left _ _).trans (List.sublist_append_right _ _)

theorem body_sublist_of_mem {cs body : List Char} (h : .reference body ∈ pieces cs) :
    body.Sublist cs := by
  apply List.Sublist.trans _ (text_sublist_of_mem h)
  exact .cons _ (.cons _ (List.sublist_append_left _ _))

theorem length_lt_of_mem {cs body : List Char} (h : .reference body ∈ pieces cs) :
    body.length < cs.length := by
  have hlength := (text_sublist_of_mem h).length_le
  simp only [Piece.text, List.length_cons, List.length_append] at hlength
  omega

def bodies (cs : List Char) : List (List Char) :=
  (pieces cs).filterMap fun
    | .literal _ => none
    | .reference body => some body

def Piece.fill (replacement : List Char → List Char) : Piece → List Char
  | .literal c => [c]
  | .reference body => replacement body

def fill (replacement : List Char → List Char) (cs : List Char) : List Char :=
  (pieces cs).flatMap (Piece.fill replacement)

theorem mem_bodies {cs body : List Char} : body ∈ bodies cs ↔ .reference body ∈ pieces cs := by
  rw [bodies, List.mem_filterMap]
  constructor
  · rintro ⟨piece, hmem, hpiece⟩
    cases piece with
    | literal c => contradiction
    | reference other =>
      obtain rfl := Option.some.inj hpiece
      exact hmem
  · intro hmem
    exact ⟨.reference body, hmem, rfl⟩

variable {replacement : List Char → List Char}

theorem bodies_reference {cs body rest : List Char} (h : splitAtClosing 0 cs = some (body, rest)) :
    bodies ('$' :: '\x7b' :: cs) = body :: bodies rest := by
  rw [bodies, pieces_reference h]
  rfl

theorem fill_reference {cs body rest : List Char} (h : splitAtClosing 0 cs = some (body, rest)) :
    fill replacement ('$' :: '\x7b' :: cs) = replacement body ++ fill replacement rest := by
  rw [fill, pieces_reference h]
  rfl

theorem bodies_literal {c : Char} (h : c ≠ '$') (cs : List Char) :
    bodies (c :: cs) = bodies cs := by
  rw [bodies, pieces_literal fun hc => h hc.1]
  rfl

theorem fill_literal {c : Char} (h : c ≠ '$') (cs : List Char) :
    fill replacement (c :: cs) = c :: fill replacement cs := by
  rw [fill, pieces_literal fun hc => h hc.1]
  rfl

end RequestRouting.Placeholder
