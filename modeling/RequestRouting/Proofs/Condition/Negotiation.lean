import RequestRouting.Proofs.Mapping.Fit

/-! Content negotiation. The list of what a client accepts is gone through from the best type on,
and types that neither of two conditions offers do not count. The first type that only one of them
offers, when no earlier one is offered, decides for that one. -/
namespace RequestRouting

theorem MediaType.isCompatibleWith_of_same {m n : MediaType} (h : m.sameTypeAndSubtype n = true) :
    m.isCompatibleWith n = true := by
  simp only [sameTypeAndSubtype, Bool.and_eq_true, beq_iff_eq] at h
  simp [isCompatibleWith, includes, includesSubtype, h]

namespace ProducesCondition

variable {c d : ProducesCondition} {t : MediaType} {r : Request}

/-- A type that is declared without negation includes the accepted one or is included in it. -/
def Offers (c : ProducesCondition) (accepted : MediaType) : Prop :=
  ∃ e ∈ c.expressions, e.negated = false ∧
    (e.mediaType.includes accepted = true ∨ accepted.includes e.mediaType = true)

instance (c : ProducesCondition) (accepted : MediaType) : Decidable (c.Offers accepted) :=
  inferInstanceAs (Decidable (∃ e ∈ c.expressions.toList, _))

theorem indexOf?_eq_none_iff {test : MediaType → Bool} :
    c.indexOf? test = none ↔
      ∀ e ∈ c.expressions, e.negated = false → test e.mediaType = false := by
  unfold indexOf?
  rw [List.findIdx?_eq_none_iff]
  simp only [Bool.and_eq_false_imp, Bool.not_eq_true']
  rfl

theorem indexOf?_compatible_eq_none_iff :
    c.indexOf? (·.isCompatibleWith t) = none ↔ ¬ c.Offers t := by
  rw [indexOf?_eq_none_iff]
  unfold Offers MediaType.isCompatibleWith
  simp only [not_exists, not_and, not_or, Bool.not_eq_true, Bool.or_eq_false_iff]

theorem indexOf?_same_eq_none (h : ¬ c.Offers t) : c.indexOf? (·.sameTypeAndSubtype t) = none := by
  rw [indexOf?_eq_none_iff]
  intro e he hpositive
  have hincompatible := indexOf?_eq_none_iff.1 (indexOf?_compatible_eq_none_iff.2 h) e he hpositive
  refine eq_false_of_ne_true fun hsame => ?_
  rw [MediaType.isCompatibleWith_of_same hsame] at hincompatible
  contradiction

theorem compareFor_of_not_offers (hc : ¬ c.Offers t) (hd : ¬ d.Offers t) :
    compareFor c d t = .eq := by
  unfold compareFor
  rw [indexOf?_same_eq_none hc, indexOf?_same_eq_none hd, indexOf?_compatible_eq_none_iff.2 hc,
    indexOf?_compatible_eq_none_iff.2 hd]
  rfl

theorem compareIndex_none_of_ne {place : Option Nat} (h : place ≠ none) :
    compareIndex place none = .lt := by
  cases place with
  | none => contradiction
  | some i => rfl

theorem compareFor_of_offers (hc : c.Offers t) (hd : ¬ d.Offers t) : compareFor c d t = .lt := by
  have hplace : c.indexOf? (·.isCompatibleWith t) ≠ none :=
    fun hnone => indexOf?_compatible_eq_none_iff.1 hnone hc
  unfold compareFor
  rw [indexOf?_same_eq_none hd, indexOf?_compatible_eq_none_iff.2 hd,
    compareIndex_none_of_ne hplace]
  cases c.indexOf? (·.sameTypeAndSubtype t) <;> rfl

theorem compareByList_append {before : List MediaType}
    (h : ∀ s ∈ before, ¬ c.Offers s ∧ ¬ d.Offers s) (rest : List MediaType) :
    compareByList c d (before ++ rest) = compareByList c d rest := by
  induction before with
  | nil => rfl
  | cons s before ih =>
    obtain ⟨hs, hbefore⟩ := List.forall_mem_cons.1 h
    rw [List.cons_append, compareByList, compareFor_of_not_offers hs.1 hs.2, ih hbefore]
    rfl

theorem compareByList_eq_lt {before rest : List MediaType}
    (h : ∀ s ∈ before, ¬ c.Offers s ∧ ¬ d.Offers s) (hc : c.Offers t) (hd : ¬ d.Offers t) :
    compareByList c d (before ++ t :: rest) = .lt := by
  rw [compareByList_append h, compareByList, compareFor_of_offers hc hd]
  rfl

theorem compareByList_eq_eq {accepted : List MediaType}
    (h : ∀ s ∈ accepted, ¬ c.Offers s ∧ ¬ d.Offers s) : compareByList c d accepted = .eq := by
  rw [← List.append_nil accepted, compareByList_append h]
  rfl

theorem compareFit_of_accepted {accepted : List MediaType}
    (hread : r.acceptedMediaTypes = .ok accepted) (hc : c.isEmpty = false)
    (hd : d.isEmpty = false) : compareFit r c d = compareByList c d accepted := by
  unfold compareFit
  rw [hc, hd, hread]
  rfl

/-- The best type that is offered at all decides for the condition that offers it alone, and
conditions that offer nothing are equally good. -/
theorem compareFit_follows_preference {accepted : List MediaType}
    (hread : r.acceptedMediaTypes = .ok accepted) (hc : c.isEmpty = false)
    (hd : d.isEmpty = false) :
    (∀ before t rest, accepted = before ++ t :: rest →
      (∀ s ∈ before, ¬ c.Offers s ∧ ¬ d.Offers s) → c.Offers t → ¬ d.Offers t →
        compareFit r c d = .lt ∧ compareFit r d c = .gt) ∧
    ((∀ s ∈ accepted, ¬ c.Offers s ∧ ¬ d.Offers s) → compareFit r c d = .eq) := by
  constructor
  · rintro before t rest rfl hbefore ht ht'
    have hlt : compareFit r c d = .lt := by
      rw [compareFit_of_accepted hread hc hd, compareByList_eq_lt hbefore ht ht']
    exact ⟨hlt, Std.OrientedCmp.gt_of_lt hlt⟩
  · intro hnone
    rw [compareFit_of_accepted hread hc hd, compareByList_eq_eq hnone]

def imageClient : Request where
  method := .get
  path := "/"
  headers := [⟨"accept", Text.encodeUtf8 "application/json;q=0.5, text/*;q=0.8, image/png"⟩]

def plainText : ProducesCondition := ⟨.ofList [⟨.applicationJson, true⟩, ⟨.textPlain, false⟩]⟩

def jsonOnly : ProducesCondition := ⟨.ofList [⟨.applicationJson, false⟩]⟩

theorem plainText_before_json :
    let image := MediaType.ofNames "image" "png"
    let text := (MediaType.ofNames "text" "*").withParameter "q" "0.8"
    let json := MediaType.applicationJson.withParameter "q" "0.5"
    imageClient.acceptedMediaTypes = .ok [image, text, json] ∧
      (¬ plainText.Offers image ∧ ¬ jsonOnly.Offers image) ∧
      plainText.Offers text ∧ ¬ jsonOnly.Offers text ∧
      compareFit imageClient plainText jsonOnly = .lt ∧
      compareFit imageClient jsonOnly plainText = .gt := by
  intro image text json
  have hread : imageClient.acceptedMediaTypes = .ok [image, text, json] := rfl
  have himage : ¬ plainText.Offers image ∧ ¬ jsonOnly.Offers image := by decide
  have htext : plainText.Offers text := by decide
  have htext' : ¬ jsonOnly.Offers text := by decide
  have hfit := (compareFit_follows_preference hread rfl rfl).1 [image] text [json] rfl
    (List.forall_mem_singleton.2 himage) htext htext'
  exact ⟨hread, himage, htext, htext', hfit⟩

end ProducesCondition

end RequestRouting
