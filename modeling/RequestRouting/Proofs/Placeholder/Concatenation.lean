import RequestRouting.Proofs.Placeholder.Flat
import RequestRouting.Proofs.Placeholder.Resolving

/-! Texts behind each other. Where the first one closes all its placeholders and none is opened
across the boundary, the two are read as if each stood alone. What is being replaced is the same for
every placeholder of a text, so the two resolve together exactly as they do apart. -/
namespace RequestRouting.Placeholder

variable {x y : List Char}

/-- Read from left to right, every placeholder that is opened is closed. -/
inductive Closed : List Char → Prop
  | nil : Closed []
  | literal {c : Char} {rest : List Char} (hopen : ¬ ['$', '\x7b'] <+: c :: rest)
      (hrest : Closed rest) : Closed (c :: rest)
  | placeholder {after body rest : List Char}
      (hclosing : splitAtClosing 0 after = some (body, rest))
      (hrest : Closed rest) : Closed ('$' :: '\x7b' :: after)

/-- A placeholder is opened by the last character of the one text and the first of the other. -/
def OpensAcross (x y : List Char) : Prop := x.getLast? = some '$' ∧ y.head? = some '\x7b'

instance : Decidable (OpensAcross x y) := inferInstanceAs (Decidable (_ ∧ _))

theorem OpensAcross.append (h : OpensAcross x y) (before : List Char) :
    OpensAcross (before ++ x) y := by
  constructor
  · rw [List.getLast?_append, h.1, Option.some_or]
  · exact h.2

theorem splitAtClosing_append {depth : Nat} {cs body rest : List Char}
    (h : splitAtClosing depth cs = some (body, rest)) (y : List Char) :
    splitAtClosing depth (cs ++ y) = some (body, rest ++ y) := by
  obtain ⟨rfl, hbody⟩ := splitAtClosing_eq_some_iff.1 h
  rw [List.append_assoc, List.cons_append]
  exact hbody.splitAtClosing_eq (rest ++ y)

theorem pieces_append (hx : Closed x) (hboundary : ¬ OpensAcross x y) :
    pieces (x ++ y) = pieces x ++ pieces y := by
  induction hx with
  | nil => rfl
  | @literal c rest hopen _ ih =>
    have hrest : ¬ OpensAcross rest y := fun h => hboundary (h.append [c])
    have hplain : ¬ (c = '$' ∧ (rest ++ y).head? = some '\x7b') := by
      rintro ⟨rfl, hhead⟩
      cases rest with
      | nil => exact hboundary ⟨rfl, hhead⟩
      | cons d rest => exact head?_of_not_opening hopen ⟨rfl, hhead⟩
    rw [List.cons_append, pieces_literal hplain, pieces_literal (head?_of_not_opening hopen),
      ih hrest]
    rfl
  | @placeholder after body rest hclosing _ ih =>
    have hrest : ¬ OpensAcross rest y := by
      intro h
      apply hboundary
      rw [eq_append_of_splitAtClosing hclosing]
      have happend := h.append ('$' :: '\x7b' :: body ++ ['\x7d'])
      simpa using happend
    rw [List.cons_append, List.cons_append, pieces_reference (splitAtClosing_append hclosing y),
      pieces_reference hclosing, ih hrest]
    rfl

namespace Resolver

variable {r : Resolver} {visiting : List (List Char)} {value out : List Char}

theorem expandPiece_eq_ok_congr
    {expandText : List (List Char) → List Char → Logged Stop (List Char)}
    (value value' : List Char) (piece : Piece) (out : List Char) :
    (r.expandPiece expandText visiting value piece).result = .ok out ↔
      (r.expandPiece expandText visiting value' piece).result = .ok out := by
  cases piece with
  | literal c => rfl
  | reference body =>
    simp only [expandPiece, Logged.result_bind, Outcome.bind_eq_ok]
    apply exists_congr
    intro placeholder
    apply and_congr_right
    intro _
    split
    · rfl
    split
    · rfl
    split
    · rfl
    · simp

theorem expand_succ_eq_ok {depth : Nat} :
    (r.expand (depth + 1) visiting value).result = .ok out ↔
      ∃ parts, ((pieces value).mapM fun piece =>
        (r.expandPiece (r.expand depth) visiting [] piece).result) = .ok parts ∧
          parts.flatten = out := by
  rw [expand, Logged.result_bind, Outcome.bind_eq_ok, Logged.result_mapM]
  simp only [Outcome.mapM_eq_ok_congr (expandPiece_eq_ok_congr value []), Logged.result_pure,
    Except.ok.injEq]

theorem expand_append_eq_ok (hx : Closed x) (hboundary : ¬ OpensAcross x y) {depth : Nat} :
    (r.expand depth visiting (x ++ y)).result = .ok out ↔
      ∃ front back, (r.expand depth visiting x).result = .ok front ∧
        (r.expand depth visiting y).result = .ok back ∧ out = front ++ back := by
  cases depth with
  | zero => simp [expand]
  | succ depth =>
    simp only [expand_succ_eq_ok, pieces_append hx hboundary, Outcome.mapM_append_eq_ok]
    constructor
    · rintro ⟨_, ⟨front, back, hfront, hback, rfl⟩, rfl⟩
      exact ⟨_, _, ⟨front, hfront, rfl⟩, ⟨back, hback, rfl⟩, List.flatten_append⟩
    · rintro ⟨_, _, ⟨front, hfront, rfl⟩, ⟨back, hback, rfl⟩, rfl⟩
      exact ⟨_, ⟨front, back, hfront, hback, rfl⟩, List.flatten_append⟩

theorem expand_ok_of_le {depth deeper : Nat}
    (h : (r.expand depth visiting value).result = .ok out) (hle : depth ≤ deeper) :
    (r.expand deeper visiting value).result = .ok out := by
  rw [expand_eq_of_le (settled_of_ok h) hle, h]

/-- Resolving is compositional: a text put together from two resolves to what the two resolve to,
and only if the two do. -/
theorem resolve_append (r : Resolver) {x y : String} (hx : Closed x.toList)
    (hboundary : ¬ OpensAcross x.toList y.toList) (out : String) :
    r.outcome? (x ++ y) = some (.ok out) ↔ ∃ front back, r.outcome? x = some (.ok front) ∧
      r.outcome? y = some (.ok back) ∧ out = front ++ back := by
  simp only [outcome?_eq_ok, String.toList_append]
  constructor
  · rintro ⟨depth, h⟩
    obtain ⟨front, back, hfront, hback, hout⟩ := (expand_append_eq_ok hx hboundary).1 h
    refine ⟨String.ofList front, String.ofList back, ⟨depth, ?_⟩, ⟨depth, ?_⟩, ?_⟩
    · rw [String.toList_ofList, hfront]
    · rw [String.toList_ofList, hback]
    · rw [← String.toList_inj, hout, String.toList_append, String.toList_ofList,
        String.toList_ofList]
  · rintro ⟨front, back, ⟨depth, hfront⟩, ⟨depth', hback⟩, rfl⟩
    refine ⟨max depth depth', (expand_append_eq_ok hx hboundary).2
      ⟨front.toList, back.toList, ?_, ?_, String.toList_append⟩⟩
    · exact expand_ok_of_le hfront (Nat.le_max_left depth depth')
    · exact expand_ok_of_le hback (Nat.le_max_right depth depth')

def versioned : Resolver where
  properties := .ofList [("env", "prod"), ("prod.base", "/v2")]

def basePath : String := "\x7d$\x7b$\x7benv\x7d.base\x7d$"

def itemPath : String := "/$\x7bmissing:\x7bid\x7d\x7d"

/-- Braces that open or close nothing are text like any other, and a lone dollar sign may stand
where the texts meet. -/
theorem resolve_append_versioned :
    Closed basePath.toList ∧ ¬ OpensAcross basePath.toList itemPath.toList ∧
    versioned.outcome? basePath = some (.ok "\x7d/v2$") ∧
    versioned.outcome? itemPath = some (.ok "/\x7bid\x7d") ∧
    versioned.outcome? (basePath ++ itemPath) = some (.ok ("\x7d/v2$" ++ "/\x7bid\x7d")) := by
  have hx : Closed basePath.toList :=
    .literal (by decide) (.placeholder rfl (.literal (by decide) .nil))
  have hboundary : ¬ OpensAcross basePath.toList itemPath.toList := by decide
  have hfront : versioned.outcome? basePath = some (.ok "\x7d/v2$") :=
    outcome?_eq_ok.2 ⟨4, by decide⟩
  have hback : versioned.outcome? itemPath = some (.ok "/\x7bid\x7d") :=
    outcome?_eq_ok.2 ⟨4, by decide⟩
  exact ⟨hx, hboundary, hfront, hback,
    (resolve_append versioned hx hboundary _).2 ⟨_, _, hfront, hback, rfl⟩⟩

end Resolver

end RequestRouting.Placeholder
