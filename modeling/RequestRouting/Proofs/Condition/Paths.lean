import Mathlib.Data.Set.Basic
import RequestRouting.Condition.Paths
import RequestRouting.Proofs.Order.Distinct
import RequestRouting.Proofs.Outcome

/-! The canonical forms in a path condition. They stand there each once and in increasing order,
so they decide the condition up to the patterns' segments, which are not compared. -/
namespace RequestRouting.PathCondition

def declared (paths : List String) : Set String :=
  {text | (∃ path ∈ paths, ∃ p, Path.Pattern.parse path = .ok p ∧ p.canonical = text) ∨
    paths = [] ∧ text = ""}

theorem texts_ofPatterns (patterns : List Path.Pattern) :
    (ofPatterns patterns).texts =
      (Order.SortedSet.ofList
        (if patterns.isEmpty then [""] else patterns.map (·.canonical))).toList := by
  cases patterns with
  | nil => rfl
  | cons p ps => exact Order.map_distinctBy Path.Pattern.canonical (p :: ps)

theorem mem_texts_ofPatterns {patterns : List Path.Pattern} {text : String} :
    text ∈ (ofPatterns patterns).texts ↔
      (∃ p ∈ patterns, p.canonical = text) ∨ patterns = [] ∧ text = "" := by
  rw [texts_ofPatterns, Order.SortedSet.mem_ofList]
  cases patterns with
  | nil => simp
  | cons p ps =>
    change text ∈ (p :: ps).map Path.Pattern.canonical ↔ _
    simp only [List.mem_map, List.cons_ne_nil, false_and, or_false]

theorem parsePattern_eq_ok {path : String} {p : Path.Pattern} :
    parsePattern path = .ok p ↔ Path.Pattern.parse path = .ok p :=
  Outcome.mapError_eq_ok

theorem mem_texts_of_parse {paths : List String} {c : PathCondition} (h : parse paths = .ok c)
    (text : String) : text ∈ c.texts ↔ text ∈ declared paths := by
  obtain ⟨ps, hps, h⟩ := Outcome.bind_eq_ok.1 h
  obtain rfl := Outcome.pure_eq_ok.1 h
  rw [mem_texts_ofPatterns, declared, Set.mem_ofPred_eq]
  refine or_congr ?_ (and_congr_left' ?_)
  · simp only [Outcome.mem_mapM_iff hps, parsePattern_eq_ok]
    constructor
    · rintro ⟨p, ⟨path, hpath, hp⟩, htext⟩
      exact ⟨path, hpath, p, hp, htext⟩
    · rintro ⟨path, hpath, p, hp, htext⟩
      exact ⟨p, ⟨path, hpath, hp⟩, htext⟩
  · have hlength := Outcome.length_mapM hps
    rw [← List.length_eq_zero_iff, hlength, List.length_eq_zero_iff]

theorem exists_parse_iff {paths : List String} :
    (∃ c, parse paths = .ok c) ↔ ∀ path ∈ paths, ∃ p, Path.Pattern.parse path = .ok p := by
  simp only [← parsePattern_eq_ok]
  rw [← Outcome.exists_mapM_iff]
  exact Outcome.exists_bind_pure_iff

theorem texts_eq_iff {paths paths' : List String} {c d : PathCondition} (hc : parse paths = .ok c)
    (hd : parse paths' = .ok d) : c.texts = d.texts ↔ declared paths = declared paths' := by
  have hsorted : ∀ {paths : List String} {c : PathCondition}, parse paths = .ok c →
      c.texts.Pairwise (compare · · = .lt) := by
    intro paths c h
    obtain ⟨ps, -, h⟩ := Outcome.bind_eq_ok.1 h
    obtain rfl := Outcome.pure_eq_ok.1 h
    rw [texts_ofPatterns]
    exact Order.SortedSet.sorted _
  rw [Set.ext_iff]
  simp only [← mem_texts_of_parse hc, ← mem_texts_of_parse hd]
  constructor
  · intro h text
    rw [h]
  · exact Order.eq_of_pairwise_lt (hsorted hc) (hsorted hd)

end RequestRouting.PathCondition
