import RequestRouting.Proofs.Condition.Extending
import RequestRouting.Proofs.Mapping.Declarations

/-! What becomes of each header expression of a mapping. It stands among the headers or declares
media types, and an expression for `Accept` or `Content-Type` whose value holds no media type does
neither: the mapping is the one without it. -/
namespace RequestRouting

open HeaderCondition (isMediaHeader)
open MediaExpression (entries headerEntries)

variable {text headerName : String} {before after values headers : List String} {f : NameValue}

theorem HeaderCondition.isMediaHeader_iff {name : String} :
    isMediaHeader (Text.asciiLower name) = true ↔
      Text.equalIgnoringCase name "content-type" = true ∨
        Text.equalIgnoringCase name "accept" = true := by
  have hcontentType : Text.asciiLower "content-type" = "content-type" := by rfl
  have haccept : Text.asciiLower "accept" = "accept" := by rfl
  simp only [isMediaHeader, Text.equalIgnoringCase, hcontentType, haccept, Bool.or_eq_true]
  exact or_comm

/-- An expression for media types without any: only present or absent, or with nothing but blanks
and commas for a value. -/
structure NameValue.DeclaresNothing (f : NameValue) : Prop where
  media : isMediaHeader f.lowercaseName.name = true
  empty : f.value.elim [] entries = []

namespace MediaExpression

variable {s : Order.SortedSet MediaExpression}

/-- An entry in the value of a header expression stands among the expressions, turned around where
the header expression is negated. -/
def Contributes (headerName : String) (f : NameValue) (s : Order.SortedSet MediaExpression) :
    Prop :=
  ∃ entry ∈ headerEntries headerName f, ∃ g, parse (String.ofList entry) = .ok g ∧
    { g with negated := g.negated != f.negated } ∈ s.toList

theorem headerEntries_of_declaresNothing (h : f.DeclaresNothing) (headerName : String) :
    headerEntries headerName f = [] := by
  rw [headerEntries, h.empty, ite_self]

theorem ofHeader_of_declaresNothing (hf : NameValue.parse .headers text = .ok f)
    (h : f.DeclaresNothing) (headerName : String) : ofHeader headerName text = .ok [] := by
  rw [ofHeader_eq hf, headerEntries_of_declaresNothing h]
  rfl

theorem contributes_iff (hs : parseAll headerName values headers = .ok s) (htext : text ∈ headers)
    (hf : NameValue.parse .headers text = .ok f) :
    Contributes headerName f s ↔ headerEntries headerName f ≠ [] := by
  constructor
  · rintro ⟨entry, hentry, -⟩
    exact List.ne_nil_of_mem hentry
  · intro hne
    obtain ⟨entry, hentry⟩ := List.exists_mem_of_ne_nil _ hne
    have hdeclared : (f.negated, entry) ∈ declaredEntries headerName values headers :=
      .inr ⟨text, htext, f, hf, entry, hentry, rfl⟩
    obtain ⟨g, hg⟩ := (exists_parseAll_iff.1 ⟨s, hs⟩).2 _ hdeclared
    exact ⟨entry, hentry, g, hg, (mem_of_parseAll hs _).2 ⟨_, hdeclared, g, hg, rfl⟩⟩

end MediaExpression

theorem HeaderCondition.mem_iff {c : HeaderCondition} (h : parse headers = .ok c)
    (htext : text ∈ headers) (hf : NameValue.parse .headers text = .ok f) :
    f.lowercaseName ∈ c.expressions.toList ↔ isMediaHeader f.lowercaseName.name = false := by
  rw [mem_of_parse h]
  constructor
  · rintro ⟨-, -, -, -, -, hother⟩
    exact hother
  · intro hother
    exact ⟨text, htext, f, hf, rfl, hother⟩

namespace Mapping

variable {spec : MappingSpec} {m : Mapping}

/-- The condition that keeps a header expression, or what it declares. -/
inductive Restricts (m : Mapping) (f : NameValue) : Prop
  | header (h : f.lowercaseName ∈ m.headers.expressions.toList)
  | consumes (h : MediaExpression.Contributes "content-type" f m.consumes.expressions)
  | produces (h : MediaExpression.Contributes "accept" f m.produces.expressions)

def alsoDeclaring (m : Mapping) (consumed produced : List MediaExpression) : Mapping :=
  { m with consumes := m.consumes.adding consumed, produces := m.produces.adding produced }

theorem ofSpec_insertHeader_iff (hf : NameValue.parse .headers text = .ok f)
    (hmedia : isMediaHeader f.lowercaseName.name = true) :
    ofSpec { spec with headers := before ++ text :: after } = .ok m ↔
      ∃ plain consumed produced, ofSpec { spec with headers := before ++ after } = .ok plain ∧
        MediaExpression.ofHeader "content-type" text = .ok consumed ∧
        MediaExpression.ofHeader "accept" text = .ok produced ∧
        m = plain.alsoDeclaring consumed produced := by
  simp only [ofSpec_eq_ok]
  constructor
  · intro h
    have hheaders := (HeaderCondition.parse_insert_iff hf hmedia).1 h.headers
    obtain ⟨consumes, consumed, hconsumes, hconsumed, heq⟩ :=
      ConsumesCondition.parse_insertHeader_iff.1 h.consumes
    obtain ⟨produces, produced, hproduces, hproduced, heq'⟩ :=
      ProducesCondition.parse_insertHeader_iff.1 h.produces
    refine ⟨{ m with consumes, produces }, consumed, produced, ?_, hconsumed, hproduced, ?_⟩
    · exact { h with headers := hheaders, consumes := hconsumes, produces := hproduces }
    · rw [alsoDeclaring, ← heq, ← heq']
  · rintro ⟨plain, consumed, produced, hplain, hconsumed, hproduced, rfl⟩
    have hconsumes := ConsumesCondition.parse_insertHeader_iff.2
      ⟨_, consumed, hplain.consumes, hconsumed, rfl⟩
    have hproduces := ProducesCondition.parse_insertHeader_iff.2
      ⟨_, produced, hplain.produces, hproduced, rfl⟩
    exact {
      hplain with
      headers := (HeaderCondition.parse_insert_iff hf hmedia).2 hplain.headers
      consumes := hconsumes
      produces := hproduces }

theorem ofSpec_insertHeader_of_declaresNothing (hf : NameValue.parse .headers text = .ok f)
    (h : f.DeclaresNothing) :
    ofSpec { spec with headers := before ++ text :: after } = .ok m ↔
      ofSpec { spec with headers := before ++ after } = .ok m := by
  have hnothing := MediaExpression.ofHeader_of_declaresNothing hf h
  have hsame (plain : Mapping) : plain.alsoDeclaring [] [] = plain := by
    rw [alsoDeclaring, ConsumesCondition.adding_nil, ProducesCondition.adding_nil]
  simp only [ofSpec_insertHeader_iff hf h.media, hnothing, Except.ok.injEq]
  constructor
  · rintro ⟨plain, _, _, hplain, rfl, rfl, rfl⟩
    rwa [hsame]
  · intro hm
    exact ⟨m, [], [], hm, rfl, rfl, (hsame m).symm⟩

/-- Each header expression restricts the mapping, but for those that name a header for media types
and declare none. Without such an expression the mapping is the same. -/
theorem restricts_iff (h : ofSpec spec = .ok m) (htext : text ∈ spec.headers) :
    ∃ f, NameValue.parse .headers text = .ok f ∧ (m.Restricts f ↔ ¬ f.DeclaresNothing) ∧
      (f.DeclaresNothing → ∀ before after, spec.headers = before ++ text :: after →
        ofSpec { spec with headers := before ++ after } = .ok m) := by
  have hm := ofSpec_eq_ok.1 h
  obtain ⟨f, hf⟩ := HeaderCondition.exists_parse_iff.1 ⟨_, hm.headers⟩ text htext
  have hheader := HeaderCondition.mem_iff hm.headers htext hf
  refine ⟨f, hf, ⟨?_, fun hsome => ?_⟩, fun hnothing before after hsplit => ?_⟩
  · have hno := MediaExpression.headerEntries_of_declaresNothing (f := f)
    rintro (hmem | ⟨entry, hentry, -⟩ | ⟨entry, hentry, -⟩) hnothing
    · exact absurd hnothing.media (by simp [hheader.1 hmem])
    · exact List.ne_nil_of_mem hentry (hno hnothing _)
    · exact List.ne_nil_of_mem hentry (hno hnothing _)
  · cases hmedia : isMediaHeader f.lowercaseName.name with
    | false => exact .header (hheader.2 hmedia)
    | true =>
      -- Some entry is left in the value, and the name says which condition takes it.
      have hne : f.value.elim [] entries ≠ [] := fun hempty => hsome ⟨hmedia, hempty⟩
      obtain ⟨s, hs, hconsumes⟩ := ConsumesCondition.parse_eq_ok.1 hm.consumes
      obtain hname | hname := HeaderCondition.isMediaHeader_iff.1 hmedia
      · refine .consumes ?_
        rwa [hconsumes, MediaExpression.contributes_iff hs htext hf, headerEntries, if_pos hname]
      · refine .produces ?_
        rwa [MediaExpression.contributes_iff (ProducesCondition.parse_eq_ok.1 hm.produces) htext hf,
          headerEntries, if_pos hname]
  · refine (ofSpec_insertHeader_of_declaresNothing hf hnothing).1 ?_
    rw [← hsplit]
    exact h

theorem restricts_but_for_bare_accept :
    ∃ m, ofSpec { headers := ["X-Team", "CONTENT-TYPE!=text/plain", "!Accept"] } = .ok m ∧
      m.Restricts ⟨"X-Team", none, false⟩ ∧
      m.Restricts ⟨"CONTENT-TYPE", some "text/plain", true⟩ ∧
      ¬ m.Restricts ⟨"Accept", none, true⟩ ∧
      ofSpec { headers := ["X-Team", "CONTENT-TYPE!=text/plain"] } = .ok m := by
  have hread : (ofSpec { headers := ["X-Team", "CONTENT-TYPE!=text/plain", "!Accept"] }).isOk =
      true := by decide +kernel
  obtain ⟨m, hm⟩ := Outcome.isOk_iff.1 hread
  obtain ⟨team, hteam, hrestricts, -⟩ := restricts_iff hm (.head _)
  obtain rfl : ⟨"X-Team", none, false⟩ = team := Except.ok.inj hteam
  obtain ⟨plain, hplain, hrestricts', -⟩ := restricts_iff hm (.tail _ (.head _))
  obtain rfl : ⟨"CONTENT-TYPE", some "text/plain", true⟩ = plain := Except.ok.inj hplain
  obtain ⟨accept, haccept, hlost, hwithout⟩ := restricts_iff hm (.tail _ (.tail _ (.head _)))
  obtain rfl : ⟨"Accept", none, true⟩ = accept := Except.ok.inj haccept
  have hnothing : NameValue.DeclaresNothing ⟨"Accept", none, true⟩ := ⟨by decide, rfl⟩
  refine ⟨m, hm, hrestricts.2 fun h => absurd h.media (by decide), hrestricts'.2 fun h => ?_,
    fun h => hlost.1 h hnothing, hwithout hnothing ["X-Team", "CONTENT-TYPE!=text/plain"] [] rfl⟩
  exact absurd h.empty (by decide)

/-- A mapping for requests without a body type takes those with any. -/
theorem bare_contentType_lost :
    NameValue.parse .headers "!Content-Type" = .ok ⟨"Content-Type", none, true⟩ ∧
      ofSpec { headers := ["!Content-Type"] } = ofSpec {} ∧
      ¬ ∀ spec m text f, ofSpec spec = .ok m → text ∈ spec.headers →
        NameValue.parse .headers text = .ok f → m.Restricts f := by
  have hread : NameValue.parse .headers "!Content-Type" = .ok ⟨"Content-Type", none, true⟩ := by rfl
  have hkept : (ofSpec { headers := ["!Content-Type"] }).map (fun m =>
      (m.headers.expressions.toList, m.consumes.expressions.toList,
        m.produces.expressions.toList)) = .ok ([], [], []) := by decide +kernel
  refine ⟨hread, by decide +kernel, fun h => ?_⟩
  obtain ⟨m, hm, hkept⟩ := Outcome.map_eq_ok.1 hkept
  simp only [Prod.mk.injEq] at hkept
  obtain ⟨hheaders, hconsumes, hproduces⟩ := hkept
  obtain hmem | ⟨_, _, _, _, hmem⟩ | ⟨_, _, _, _, hmem⟩ :=
    h _ m _ _ hm (List.mem_singleton_self _) hread
  · rw [hheaders] at hmem
    contradiction
  · rw [hconsumes] at hmem
    contradiction
  · rw [hproduces] at hmem
    contradiction

end Mapping

end RequestRouting
