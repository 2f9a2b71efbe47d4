import RequestRouting.Condition.Consumes
import RequestRouting.Proofs.Media.Inclusion

/-! Inclusion and specificity. Ranks tell types from wildcards, and subtypes from wildcards, so a
media type ranks before one that includes more, except among the wildcards for subtypes of one type:
`*` and all `*+suffix` have the same rank. -/
namespace RequestRouting.MediaType

variable {a b m : MediaType}

theorem isWildcardType_iff : m.isWildcardType = true ↔ m.mainType = "*" := beq_iff_eq

theorem isWildcardSubtype_iff : m.isWildcardSubtype = true ↔ IsWildcard m.subType.toList := by
  rw [isWildcardSubtype, Bool.or_eq_true, beq_iff_eq, Option.isSome_iff_exists]
  simp only [wildcardSuffix?_eq_some_iff]
  constructor
  · rintro (hstar | ⟨suffix, hsuffix⟩)
    · rw [hstar]
      exact .star
    · rw [hsuffix]
      exact .suffixed _
  · generalize hm : m.subType.toList = cs
    rintro (_ | suffix)
    · exact .inl (String.toList_inj.1 hm)
    · exact .inr ⟨String.ofList suffix, by rw [String.toList_ofList]⟩

theorem specificParameterCount_of_empty (h : m.parameters = ∅) : m.specificParameterCount = 0 := by
  rw [specificParameterCount, h]
  rfl

theorem compareSpecificity_of_empty (ha : a.parameters = ∅) (hb : b.parameters = ∅) :
    compareSpecificity a b = (compare a.isWildcardType b.isWildcardType).then
      (compare a.isWildcardSubtype b.isWildcardSubtype) := by
  have hcount : compareOn specificParameterCount b a = .eq := by
    rw [compareOn, specificParameterCount_of_empty ha, specificParameterCount_of_empty hb]
    rfl
  simp only [compareSpecificity, compareLex, hcount, Ordering.then_eq]
  rfl

theorem wildcard_of_includes (hab : a.includes b = true) (hba : b.includes a = false) :
    b.isWildcardType = false ∧ (a.isWildcardType = true ∨ a.isWildcardSubtype = true) := by
  have hnot : ¬ (b.mainType = "*" ∨
      b.mainType = a.mainType ∧ Covers b.subType.toList a.subType.toList) := by
    rw [← includes_iff, hba]
    exact Bool.false_ne_true
  rw [not_or] at hnot
  refine ⟨eq_false_of_ne_true (mt isWildcardType_iff.1 hnot.1), ?_⟩
  rcases includes_iff.1 hab with hstar | ⟨htype, hcovers⟩
  · exact .inl (isWildcardType_iff.2 hstar)
  · refine .inr (isWildcardSubtype_iff.2 ?_)
    by_contra hplain
    refine hnot.2 ⟨htype.symm, ?_⟩
    rw [hcovers.eq_of_not_isWildcard hplain]
    exact .same _

section Consuming

variable {c d : ConsumesCondition}

/-- The first expression of a condition, which is one of the most specific, is for this type. -/
def Leads (m : MediaType) (c : ConsumesCondition) : Prop :=
  ∃ e, c.expressions.toList.head? = some e ∧ e.mediaType = m

theorem compareFit_of_leads (hc : b.Leads c) (hd : a.Leads d) :
    c.compareFit d = compareSpecificity b a := by
  obtain ⟨e, he, rfl⟩ := hc
  obtain ⟨f, hf, rfl⟩ := hd
  simp only [ConsumesCondition.compareFit, he, hf, MediaExpression.compareSpecificity]

end Consuming

/-- Of two types without parameters the included one comes first, and so does a condition that it
leads. Only a wildcard subtype in a wildcard for all subtypes is no better than that. -/
theorem specificity_of_includes (ha : a.parameters = ∅) (hb : b.parameters = ∅)
    (hab : a.includes b = true) (hba : b.includes a = false) :
    (a.isWildcardType = true ∨ b.isWildcardSubtype = false →
      compareSpecificity b a = .lt ∧ ∀ c d : ConsumesCondition, b.Leads c → a.Leads d →
        c.compareFit d = .lt ∧ d.compareFit c = .gt) ∧
    (a.isWildcardType = false → b.isWildcardSubtype = true →
      compareSpecificity b a = .eq ∧ ∀ c d : ConsumesCondition, b.Leads c → a.Leads d →
        c.compareFit d = .eq) := by
  obtain ⟨hbType, hwild⟩ := wildcard_of_includes hab hba
  constructor
  · intro hrank
    have hlt : compareSpecificity b a = .lt := by
      rw [compareSpecificity_of_empty hb ha, hbType]
      cases hType : a.isWildcardType with
      | true => rfl
      | false =>
        rw [hType, or_iff_right Bool.false_ne_true] at hrank hwild
        rw [hrank, hwild]
        rfl
    refine ⟨hlt, fun c d hc hd => ⟨(compareFit_of_leads hc hd).trans hlt, ?_⟩⟩
    rw [compareFit_of_leads hd hc]
    exact Std.OrientedCmp.gt_of_lt hlt
  · intro hType hbSub
    have heq : compareSpecificity b a = .eq := by
      rw [hType, or_iff_right Bool.false_ne_true] at hwild
      rw [compareSpecificity_of_empty hb ha, hbType, hType, hbSub, hwild]
      rfl
    exact ⟨heq, fun c d hc hd => (compareFit_of_leads hc hd).trans heq⟩

def consumedAlone (m : MediaType) : ConsumesCondition := ⟨.ofList [⟨m, false⟩], true⟩

theorem leads_consumedAlone (m : MediaType) : m.Leads m.consumedAlone := ⟨⟨m, false⟩, rfl, rfl⟩

def anyApplication : MediaType := ofNames "application" "*"

def jsonSuffix : MediaType := ofNames "application" "*+json"

def problemJson : MediaType := ofNames "application" "problem+json"

def problemReport : Request where
  method := .post
  path := "/"
  headers := [⟨"content-type", Text.encodeUtf8 "application/problem+json"⟩]

theorem problemJson_before_jsonSuffix :
    parse "application/*+json" = .ok jsonSuffix ∧
      parse "application/problem+json" = .ok problemJson ∧
      jsonSuffix.parameters = ∅ ∧ problemJson.parameters = ∅ ∧
      jsonSuffix.includes problemJson = true ∧ problemJson.includes jsonSuffix = false ∧
      problemJson.isWildcardSubtype = false ∧
      compareSpecificity problemJson jsonSuffix = .lt ∧
      problemJson.consumedAlone.compareFit jsonSuffix.consumedAlone = .lt ∧
      jsonSuffix.consumedAlone.compareFit problemJson.consumedAlone = .gt := by
  have hincludes : jsonSuffix.includes problemJson = true := by decide +kernel
  have hnot : problemJson.includes jsonSuffix = false := by decide +kernel
  have hplain : problemJson.isWildcardSubtype = false := by decide +kernel
  obtain ⟨hlt, hfit⟩ := (specificity_of_includes rfl rfl hincludes hnot).1 (.inr hplain)
  exact ⟨rfl, rfl, rfl, rfl, hincludes, hnot, hplain, hlt,
    hfit _ _ (leads_consumedAlone _) (leads_consumedAlone _)⟩

/-- Two wildcards, one of which includes the other, have the same rank, and neither of two
conditions for them that take the same request fits better. -/
theorem jsonSuffix_ranks_like_star :
    parse "application/*" = .ok anyApplication ∧ parse "application/*+json" = .ok jsonSuffix ∧
      anyApplication.parameters = ∅ ∧ jsonSuffix.parameters = ∅ ∧
      anyApplication.includes jsonSuffix = true ∧ jsonSuffix.includes anyApplication = false ∧
      compareSpecificity jsonSuffix anyApplication = .eq ∧
      anyApplication.consumedAlone.narrow problemReport = some anyApplication.consumedAlone ∧
      jsonSuffix.consumedAlone.narrow problemReport = some jsonSuffix.consumedAlone ∧
      jsonSuffix.consumedAlone.compareFit anyApplication.consumedAlone = .eq := by
  refine ⟨rfl, rfl, rfl, rfl, ?_⟩
  decide +kernel

end RequestRouting.MediaType
