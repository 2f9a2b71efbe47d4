import RequestRouting.Proofs.Condition.Spelling
import RequestRouting.Proofs.Mapping.HeaderExpressions

/-! Media types declared by a header. An expression for `Content-Type` or `Accept` with a value
declares what the value declares as an attribute, and with `!=` it declares the same media types
turned around. -/
namespace RequestRouting

namespace MediaExpression

variable {headerName text name value : String} {negated : Bool}

def turned (negated : Bool) (e : MediaExpression) : MediaExpression :=
  { e with negated := e.negated != negated }

theorem turned_false : turned false = id := by
  ext1 e
  simp [turned]

theorem turned_true : turned true = fun e => { e with negated := !e.negated } := by
  ext1 e
  simp [turned]

theorem entries_trim (value : String) : entries (Text.trim value) = entries value := by
  have hcomma : Text.isBlank ',' = false := by decide
  rw [entries, Text.trim, String.toList_ofList, Text.map_trimChars_splitAll_trimChars hcomma,
    entries]

theorem ofHeader_of_ne (hf : NameValue.parse .headers text = .ok ⟨name, some value, negated⟩)
    (hname : Text.equalIgnoringCase name headerName = false) :
    ofHeader headerName text = .ok [] := by
  rw [ofHeader_eq hf, headerEntries, hname]
  rfl

theorem ofHeader_of_eq
    (hf : NameValue.parse .headers text = .ok ⟨name, some (Text.trim value), negated⟩)
    (hname : Text.equalIgnoringCase name headerName = true) :
    ofHeader headerName text = (parseList value).map (List.map (turned negated)) := by
  rw [ofHeader_eq hf, headerEntries, if_pos hname, Option.elim_some, entries_trim, parseList_eq]
  rfl

end MediaExpression

inductive MediaAttribute
  | consumes
  | produces

namespace MediaAttribute

def headerName : MediaAttribute → String
  | consumes => "content-type"
  | produces => "accept"

def values : MediaAttribute → MappingSpec → List String
  | consumes, spec => spec.consumes
  | produces, spec => spec.produces

def withValues (values : List String) : MediaAttribute → MappingSpec → MappingSpec
  | consumes, spec => { spec with consumes := values }
  | produces, spec => { spec with produces := values }

def adding (es : List MediaExpression) : MediaAttribute → Mapping → Mapping
  | consumes, m => { m with consumes := m.consumes.adding es }
  | produces, m => { m with produces := m.produces.adding es }

variable {attr : MediaAttribute} {spec : MappingSpec} {m : Mapping} {text name value : String}
  {before after front back : List String} {negated : Bool}

theorem isPlain_headerName (attr : MediaAttribute) : NameValue.IsPlain attr.headerName.toList where
  nonempty := by cases attr <;> decide
  notBlank := by
    have hall : (attr.headerName.toList.all fun c => !Text.isBlank c) = true := by
      cases attr <;> decide
    simpa using hall
  unmarked := by cases attr <;> decide
  unequal := by cases attr <;> decide

theorem ofSpec_insertValue_iff :
    Mapping.ofSpec (attr.withValues (front ++ value :: back) spec) = .ok m ↔
      ∃ plain es, Mapping.ofSpec (attr.withValues (front ++ back) spec) = .ok plain ∧
        MediaExpression.parseList value = .ok es ∧ m = attr.adding es plain := by
  simp only [Mapping.ofSpec_eq_ok]
  cases attr with
  | consumes =>
    constructor
    · intro h
      obtain ⟨c, es, hc, hes, heq⟩ := ConsumesCondition.parse_insertValue_iff.1 h.consumes
      exact ⟨{ m with consumes := c }, es, { h with consumes := hc }, hes, by rw [adding, ← heq]⟩
    · rintro ⟨plain, es, h, hes, rfl⟩
      have hc := ConsumesCondition.parse_insertValue_iff.2 ⟨_, es, h.consumes, hes, rfl⟩
      exact { h with consumes := hc }
  | produces =>
    constructor
    · intro h
      obtain ⟨c, es, hc, hes, heq⟩ := ProducesCondition.parse_insertValue_iff.1 h.produces
      exact ⟨{ m with produces := c }, es, { h with produces := hc }, hes, by rw [adding, ← heq]⟩
    · rintro ⟨plain, es, h, hes, rfl⟩
      have hc := ProducesCondition.parse_insertValue_iff.2 ⟨_, es, h.produces, hes, rfl⟩
      exact { h with produces := hc }

theorem adding_consumes (es : List MediaExpression) (m : Mapping) :
    consumes.adding es m = m.alsoDeclaring es [] := by
  rw [Mapping.alsoDeclaring, ProducesCondition.adding_nil, adding]

theorem adding_produces (es : List MediaExpression) (m : Mapping) :
    produces.adding es m = m.alsoDeclaring [] es := by
  rw [Mapping.alsoDeclaring, ConsumesCondition.adding_nil, adding]

theorem ofSpec_insertHeader_iff
    (hf : NameValue.parse .headers text = .ok ⟨name, some (Text.trim value), negated⟩)
    (hname : Text.equalIgnoringCase name attr.headerName = true) :
    Mapping.ofSpec { spec with headers := before ++ text :: after } = .ok m ↔
      ∃ plain es, Mapping.ofSpec { spec with headers := before ++ after } = .ok plain ∧
        MediaExpression.parseList value = .ok es ∧
        m = attr.adding (es.map (MediaExpression.turned negated)) plain := by
  have hown := MediaExpression.ofHeader_of_eq hf hname
  cases attr with
  | consumes =>
    have hother : Text.equalIgnoringCase name "accept" = false := by
      rw [Text.equalIgnoringCase, beq_iff_eq.1 hname]
      decide
    have hmedia := HeaderCondition.isMediaHeader_iff.2 (.inl hname)
    rw [Mapping.ofSpec_insertHeader_iff hf hmedia, ← headerName, hown,
      MediaExpression.ofHeader_of_ne hf hother]
    simp only [Outcome.map_eq_ok, Except.ok.injEq, adding_consumes]
    constructor
    · rintro ⟨plain, _, _, hplain, ⟨es, hes, rfl⟩, rfl, rfl⟩
      exact ⟨plain, es, hplain, hes, rfl⟩
    · rintro ⟨plain, es, hplain, hes, rfl⟩
      exact ⟨plain, _, [], hplain, ⟨es, hes, rfl⟩, rfl, rfl⟩
  | produces =>
    have hother : Text.equalIgnoringCase name "content-type" = false := by
      rw [Text.equalIgnoringCase, beq_iff_eq.1 hname]
      decide
    have hmedia := HeaderCondition.isMediaHeader_iff.2 (.inr hname)
    rw [Mapping.ofSpec_insertHeader_iff hf hmedia, MediaExpression.ofHeader_of_ne hf hother]
    simp only [headerName] at hown
    simp only [hown, Outcome.map_eq_ok, Except.ok.injEq, adding_produces]
    constructor
    · rintro ⟨plain, _, _, hplain, rfl, ⟨es, hes, rfl⟩, rfl⟩
      exact ⟨plain, es, hplain, hes, rfl⟩
    · rintro ⟨plain, es, hplain, hes, rfl⟩
      exact ⟨plain, [], _, hplain, rfl, ⟨es, hes, rfl⟩, rfl⟩

/-- A header expression for media types and the attribute that it stands for. With an equals sign
they declare the same, and with `!=` the media types of the value are turned around. Everything else
stays as it is. -/
theorem ofSpec_mediaHeader (hheaders : spec.headers = before ++ after)
    (hvalues : attr.values spec = front ++ back)
    (hname : Text.equalIgnoringCase name attr.headerName = true)
    (hvalue : ¬ ['!', '='] <:+: value.toList) :
    (∀ m,
        Mapping.ofSpec { spec with headers := before ++ (name ++ "=" ++ value) :: after } = .ok m ↔
          Mapping.ofSpec (attr.withValues (front ++ value :: back) spec) = .ok m) ∧
      ((∃ m, Mapping.ofSpec { spec with headers := before ++ (name ++ "!=" ++ value) :: after } =
          .ok m) ↔
        ∃ m, Mapping.ofSpec (attr.withValues (front ++ value :: back) spec) = .ok m) ∧
      ∀ m, Mapping.ofSpec { spec with headers := before ++ (name ++ "!=" ++ value) :: after } =
          .ok m ↔
        ∃ plain es, Mapping.ofSpec spec = .ok plain ∧ MediaExpression.parseList value = .ok es ∧
          m = attr.adding (es.map fun e => { e with negated := !e.negated }) plain := by
  have hplain : NameValue.IsPlain name.toList := attr.isPlain_headerName.of_equalIgnoringCase hname
  have hsame : { spec with headers := before ++ after } = spec := by rw [← hheaders]
  have hsame' : attr.withValues (front ++ back) spec = spec := by
    rw [← hvalues]
    cases attr <;> rfl
  have hequal : NameValue.parse .headers (name ++ "=" ++ value) =
      .ok ⟨name, some (Text.trim value), false⟩ := NameValue.parse_equal hplain hvalue
  have hunequal : NameValue.parse .headers (name ++ "!=" ++ value) =
      .ok ⟨name, some (Text.trim value), true⟩ := NameValue.parse_unequal hplain
  refine ⟨fun m => ?_, ?_, fun m => ?_⟩
  · rw [ofSpec_insertHeader_iff hequal hname, ofSpec_insertValue_iff, hsame, hsame',
      MediaExpression.turned_false, List.map_id_fun]
    rfl
  · simp only [ofSpec_insertHeader_iff hunequal hname, ofSpec_insertValue_iff, hsame, hsame']
    constructor
    · rintro ⟨_, plain, es, hm, hes, -⟩
      exact ⟨_, plain, es, hm, hes, rfl⟩
    · rintro ⟨_, plain, es, hm, hes, -⟩
      exact ⟨_, plain, es, hm, hes, rfl⟩
  · rw [ofSpec_insertHeader_iff hunequal hname, hsame, MediaExpression.turned_true]

theorem ofSpec_contentType_respelled :
    ∃ m n plain es,
      Mapping.ofSpec { headers := ["CONTENT-type=text/css, !text/*", "X-Team"] } = .ok m ∧
      Mapping.ofSpec { headers := ["X-Team"], consumes := ["text/css, !text/*"] } = .ok m ∧
      Mapping.ofSpec { headers := ["CONTENT-type!=text/css, !text/*", "X-Team"] } = .ok n ∧
      Mapping.ofSpec { headers := ["X-Team"] } = .ok plain ∧
      MediaExpression.parseList "text/css, !text/*" = .ok es ∧
      n = consumes.adding (es.map fun e => { e with negated := !e.negated }) plain := by
  have hread : (Mapping.ofSpec {
      headers := ["CONTENT-type=text/css, !text/*", "X-Team"] }).isOk = true := by decide +kernel
  have hread' : (Mapping.ofSpec {
      headers := ["CONTENT-type!=text/css, !text/*", "X-Team"] }).isOk = true := by decide +kernel
  obtain ⟨m, hm⟩ := Outcome.isOk_iff.1 hread
  obtain ⟨n, hn⟩ := Outcome.isOk_iff.1 hread'
  have hheaders : MappingSpec.headers { headers := ["X-Team"] } = [] ++ ["X-Team"] := rfl
  have hvalues : consumes.values { headers := ["X-Team"] } = [] ++ [] := rfl
  have hname : Text.equalIgnoringCase "CONTENT-type" consumes.headerName = true := by decide
  have hvalue : ¬ ['!', '='] <:+: "text/css, !text/*".toList := by decide
  obtain ⟨hequal, -, hunequal⟩ := ofSpec_mediaHeader hheaders hvalues hname hvalue
  obtain ⟨plain, es, hplain, hes, hn'⟩ := (hunequal n).1 hn
  exact ⟨m, n, plain, es, hm, (hequal m).1 hm, hn, hplain, hes, hn'⟩

end MediaAttribute

end RequestRouting
