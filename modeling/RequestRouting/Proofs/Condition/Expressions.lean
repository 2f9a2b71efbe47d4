import Mathlib.Data.Set.Basic
import RequestRouting.Condition.Consumes
import RequestRouting.Condition.Headers
import RequestRouting.Condition.Params
import RequestRouting.Condition.Produces
import RequestRouting.Proofs.Order.Comparison
import RequestRouting.Proofs.Order.Distinct
import RequestRouting.Proofs.Outcome
import RequestRouting.Proofs.Text.Splitting
import RequestRouting.Proofs.Text.Trimming

/-! The expressions that conditions hold. An expression stands in a condition exactly when one of
the declared texts is read as it: only equal expressions compare equal, so none is lost where a
condition leaves out what compares equal to another one. -/
namespace RequestRouting

instance : Std.LawfulEqOrd NameValue where
  eq_of_compare {e f} h := by
    change compareLex _ (compareLex _ _) e f = .eq at h
    simp only [Order.compareLex_eq_iff, Order.compareOn_eq_iff] at h
    cases e
    cases f
    simpa using h

instance lawfulEqOrd_pair : Std.LawfulEqOrd (String × String) where
  eq_of_compare {p q} h := by
    change compareLex _ _ p q = .eq at h
    simp only [Order.compareLex_eq_iff, Order.compareOn_eq_iff] at h
    exact Prod.ext h.1 h.2

instance : Std.LawfulEqOrd MediaType where
  eq_of_compare {m n} h := by
    change compareLex _ (compareLex _ _) m n = .eq at h
    simp only [Order.compareLex_eq_iff, Order.compareOn_eq_iff] at h
    obtain ⟨mainType, subType, parameters, sorted⟩ := m
    obtain ⟨mainType', subType', parameters', sorted'⟩ := n
    simpa using h

instance : Std.LawfulEqOrd MediaExpression where
  eq_of_compare {e f} h := by
    change compareLex _ (compareLex _ _) e f = .eq at h
    simp only [Order.compareLex_eq_iff, Order.compareOn_eq_iff] at h
    cases e
    cases f
    simpa using h.2

namespace MediaExpression

theorem parse_trimChars (cs : List Char) :
    parse (String.ofList (Text.trimChars cs)) = parse (String.ofList cs) := by
  unfold parse
  rw [String.toList_ofList, String.toList_ofList, (Text.isTrimmed_trimChars cs).trimChars_eq]

def entries (text : String) : List (List Char) :=
  ((Text.splitAll ',' text.toList).map Text.trimChars).filter (!·.isEmpty)

theorem entries_joined (value value' : String) :
    entries (value ++ "," ++ value') = entries value ++ entries value' := by
  have hchars : (value ++ "," ++ value').toList = value.toList ++ ',' :: value'.toList := by
    simp [String.toList_append]
  unfold entries
  rw [hchars, Text.splitAll_append, List.map_append, List.filter_append]

def headerEntries (headerName : String) (f : NameValue) : List (List Char) :=
  if Text.equalIgnoringCase f.name headerName then f.value.elim [] entries else []

/-- The entries that declare media types, with whether they are negated from outside: those of
the values, and those of every header of this name. -/
def declaredEntries (headerName : String) (values headers : List String) :
    Set (Bool × List Char) :=
  {x | ∃ value ∈ values, ∃ entry ∈ entries value, x = (false, entry)} ∪
    {x | ∃ header ∈ headers, ∃ f, NameValue.parse .headers header = .ok f ∧
      ∃ entry ∈ headerEntries headerName f, x = (f.negated, entry)}

def declared (headerName : String) (values headers : List String) : Set MediaExpression :=
  {e | ∃ x ∈ declaredEntries headerName values headers, ∃ g,
    parse (String.ofList x.2) = .ok g ∧ e = { g with negated := g.negated != x.1 }}

theorem parseList_eq (text : String) :
    parseList text = (entries text).mapM fun entry => parse (String.ofList entry) := by
  unfold parseList entries
  rw [List.filter_map, List.mapM_map]
  simp only [Function.comp_def, parse_trimChars]

theorem mem_of_parseList {text : String} {es : List MediaExpression} (h : parseList text = .ok es)
    (e : MediaExpression) :
    e ∈ es ↔ ∃ entry ∈ entries text, parse (String.ofList entry) = .ok e := by
  rw [parseList_eq] at h
  exact Outcome.mem_mapM_iff h

theorem exists_parseList_iff {text : String} :
    (∃ es, parseList text = .ok es) ↔
      ∀ entry ∈ entries text, ∃ e, parse (String.ofList entry) = .ok e := by
  rw [parseList_eq]
  exact Outcome.exists_mapM_iff

theorem ofHeader_eq {headerName header : String} {f : NameValue}
    (hf : NameValue.parse .headers header = .ok f) :
    ofHeader headerName header =
      ((headerEntries headerName f).mapM fun entry => parse (String.ofList entry)).map
        (List.map fun g => { g with negated := g.negated != f.negated }) := by
  unfold ofHeader headerEntries
  rw [hf, Outcome.ok_bind]
  cases Text.equalIgnoringCase f.name headerName with
  | false => rfl
  | true =>
    cases f.value with
    | none => rfl
    | some value =>
      simp only [Option.elim_some, if_true, ← parseList_eq]
      cases parseList value <;> rfl

theorem mem_of_ofHeader {headerName header : String} {es : List MediaExpression}
    (h : ofHeader headerName header = .ok es) (e : MediaExpression) :
    e ∈ es ↔ ∃ f, NameValue.parse .headers header = .ok f ∧
      ∃ entry ∈ headerEntries headerName f, ∃ g, parse (String.ofList entry) = .ok g ∧
        e = { g with negated := g.negated != f.negated } := by
  obtain ⟨f, hf, -⟩ := Outcome.bind_eq_ok.1 h
  rw [ofHeader_eq hf, Outcome.map_eq_ok] at h
  obtain ⟨gs, hgs, rfl⟩ := h
  simp only [List.mem_map, Outcome.mem_mapM_iff hgs, hf, Except.ok.injEq, exists_eq_left']
  constructor
  · rintro ⟨g, ⟨entry, hentry, hg⟩, rfl⟩
    exact ⟨entry, hentry, g, hg, rfl⟩
  · rintro ⟨entry, hentry, g, hg, rfl⟩
    exact ⟨g, ⟨entry, hentry, hg⟩, rfl⟩

theorem exists_ofHeader_iff {headerName header : String} :
    (∃ es, ofHeader headerName header = .ok es) ↔ ∃ f, NameValue.parse .headers header = .ok f ∧
      ∀ entry ∈ headerEntries headerName f, ∃ g, parse (String.ofList entry) = .ok g := by
  constructor
  · rintro ⟨es, h⟩
    obtain ⟨f, hf, -⟩ := Outcome.bind_eq_ok.1 h
    rw [ofHeader_eq hf, Outcome.map_eq_ok] at h
    obtain ⟨gs, hgs, -⟩ := h
    exact ⟨f, hf, Outcome.exists_mapM_iff.1 ⟨gs, hgs⟩⟩
  · rintro ⟨f, hf, hentries⟩
    obtain ⟨gs, hgs⟩ := Outcome.exists_mapM_iff.2 hentries
    rw [ofHeader_eq hf, hgs]
    exact ⟨_, rfl⟩

theorem mem_of_parseAll {headerName : String} {values headers : List String}
    {s : Order.SortedSet MediaExpression} (h : parseAll headerName values headers = .ok s)
    (e : MediaExpression) : e ∈ s.toList ↔ e ∈ declared headerName values headers := by
  obtain ⟨lists, hlists, h⟩ := Outcome.bind_eq_ok.1 h
  obtain ⟨fromHeaders, hheaders, h⟩ := Outcome.bind_eq_ok.1 h
  obtain rfl := Outcome.pure_eq_ok.1 h
  rw [Order.SortedSet.mem_ofList, List.mem_append, List.mem_flatten, List.mem_flatten]
  constructor
  · rintro (⟨es, hes, he⟩ | ⟨es, hes, he⟩)
    · obtain ⟨value, hvalue, hread⟩ := Outcome.exists_of_mem_mapM hlists hes
      obtain ⟨entry, hentry, hparse⟩ := (mem_of_parseList hread e).1 he
      exact ⟨(false, entry), .inl ⟨value, hvalue, entry, hentry, rfl⟩, e, hparse, by simp⟩
    · obtain ⟨header, hheader, hread⟩ := Outcome.exists_of_mem_mapM hheaders hes
      obtain ⟨f, hf, entry, hentry, g, hg, rfl⟩ := (mem_of_ofHeader hread e).1 he
      exact ⟨(f.negated, entry), .inr ⟨header, hheader, f, hf, entry, hentry, rfl⟩, g, hg, rfl⟩
  · rintro ⟨x, ⟨value, hvalue, entry, hentry, rfl⟩ | ⟨header, hheader, f, hf, entry, hentry, rfl⟩,
      g, hg, rfl⟩
    · obtain ⟨es, hes, hread⟩ := Outcome.exists_of_mapM hlists hvalue
      exact .inl ⟨es, hes, (mem_of_parseList hread _).2 ⟨entry, hentry, by simpa using hg⟩⟩
    · obtain ⟨es, hes, hread⟩ := Outcome.exists_of_mapM hheaders hheader
      exact .inr ⟨es, hes, (mem_of_ofHeader hread _).2 ⟨f, hf, entry, hentry, g, hg, rfl⟩⟩

theorem exists_parseAll_iff {headerName : String} {values headers : List String} :
    (∃ s, parseAll headerName values headers = .ok s) ↔
      (∀ header ∈ headers, ∃ f, NameValue.parse .headers header = .ok f) ∧
        ∀ x ∈ declaredEntries headerName values headers,
          ∃ g, parse (String.ofList x.2) = .ok g := by
  have hparts : (∃ s, parseAll headerName values headers = .ok s) ↔
      (∃ lists, values.mapM parseList = .ok lists) ∧
        ∃ fromHeaders, headers.mapM (ofHeader headerName) = .ok fromHeaders := by
    constructor
    · rintro ⟨s, h⟩
      obtain ⟨lists, hlists, h⟩ := Outcome.bind_eq_ok.1 h
      obtain ⟨fromHeaders, hheaders, -⟩ := Outcome.bind_eq_ok.1 h
      exact ⟨⟨lists, hlists⟩, ⟨fromHeaders, hheaders⟩⟩
    · rintro ⟨⟨lists, hlists⟩, ⟨fromHeaders, hheaders⟩⟩
      unfold parseAll
      rw [hlists, Outcome.ok_bind, hheaders]
      exact ⟨_, rfl⟩
  rw [hparts, Outcome.exists_mapM_iff, Outcome.exists_mapM_iff]
  simp only [exists_parseList_iff, exists_ofHeader_iff]
  constructor
  · rintro ⟨hvalues, hheaders⟩
    refine ⟨fun header hheader => (hheaders header hheader).imp fun f hf => hf.1, ?_⟩
    rintro x (⟨value, hvalue, entry, hentry, rfl⟩ | ⟨header, hheader, f, hf, entry, hentry, rfl⟩)
    · exact hvalues value hvalue entry hentry
    · obtain ⟨f', hf', hentries⟩ := hheaders header hheader
      obtain rfl := Except.ok.inj (hf.symm.trans hf')
      exact hentries entry hentry
  · rintro ⟨hheaders, hentries⟩
    constructor
    · intro value hvalue entry hentry
      exact hentries (false, entry) (.inl ⟨value, hvalue, entry, hentry, rfl⟩)
    · intro header hheader
      obtain ⟨f, hf⟩ := hheaders header hheader
      refine ⟨f, hf, fun entry hentry => ?_⟩
      exact hentries (f.negated, entry) (.inr ⟨header, hheader, f, hf, entry, hentry, rfl⟩)

end MediaExpression

theorem ParamCondition.mem_of_parse {params : List String} {c : ParamCondition}
    (h : parse params = .ok c) (e : NameValue) :
    e ∈ c.expressions.toList ↔ ∃ text ∈ params, NameValue.parse .params text = .ok e := by
  obtain ⟨es, hes, h⟩ := Outcome.bind_eq_ok.1 h
  obtain rfl := Outcome.pure_eq_ok.1 h
  exact Order.SortedSet.mem_ofList.trans (Outcome.mem_mapM_iff hes)

theorem ParamCondition.exists_parse_iff {params : List String} :
    (∃ c, parse params = .ok c) ↔ ∀ text ∈ params, ∃ e, NameValue.parse .params text = .ok e := by
  rw [← Outcome.exists_mapM_iff]
  exact Outcome.exists_bind_pure_iff

theorem HeaderCondition.mem_of_parse {headers : List String} {c : HeaderCondition}
    (h : parse headers = .ok c) (e : NameValue) :
    e ∈ c.expressions.toList ↔ ∃ text ∈ headers, ∃ f, NameValue.parse .headers text = .ok f ∧
      e = f.lowercaseName ∧ isMediaHeader e.name = false := by
  obtain ⟨es, hes, h⟩ := Outcome.bind_eq_ok.1 h
  obtain rfl := Outcome.pure_eq_ok.1 h
  rw [Order.SortedSet.mem_ofList, List.mem_filter, List.mem_map]
  simp only [Outcome.mem_mapM_iff hes, Bool.not_eq_true']
  constructor
  · rintro ⟨⟨f, ⟨text, htext, hf⟩, rfl⟩, hother⟩
    exact ⟨text, htext, f, hf, rfl, hother⟩
  · rintro ⟨text, htext, f, hf, rfl, hother⟩
    exact ⟨⟨f, ⟨text, htext, hf⟩, rfl⟩, hother⟩

theorem HeaderCondition.exists_parse_iff {headers : List String} :
    (∃ c, parse headers = .ok c) ↔
      ∀ text ∈ headers, ∃ f, NameValue.parse .headers text = .ok f := by
  rw [← Outcome.exists_mapM_iff]
  exact Outcome.exists_bind_pure_iff

theorem ConsumesCondition.mem_of_parse {consumes headers : List String} {c : ConsumesCondition}
    (h : parse consumes headers = .ok c) (e : MediaExpression) :
    e ∈ c.expressions.toList ↔ e ∈ MediaExpression.declared "content-type" consumes headers := by
  obtain ⟨expressions, hread, h⟩ := Outcome.bind_eq_ok.1 h
  obtain rfl := Outcome.pure_eq_ok.1 h
  exact MediaExpression.mem_of_parseAll hread e

theorem ConsumesCondition.exists_parse_iff {consumes headers : List String} :
    (∃ c, parse consumes headers = .ok c) ↔
      (∀ header ∈ headers, ∃ f, NameValue.parse .headers header = .ok f) ∧
        ∀ x ∈ MediaExpression.declaredEntries "content-type" consumes headers,
          ∃ g, MediaExpression.parse (String.ofList x.2) = .ok g := by
  rw [← MediaExpression.exists_parseAll_iff]
  exact Outcome.exists_bind_pure_iff

theorem ProducesCondition.mem_of_parse {produces headers : List String} {c : ProducesCondition}
    (h : parse produces headers = .ok c) (e : MediaExpression) :
    e ∈ c.expressions.toList ↔ e ∈ MediaExpression.declared "accept" produces headers := by
  obtain ⟨expressions, hread, h⟩ := Outcome.bind_eq_ok.1 h
  obtain rfl := Outcome.pure_eq_ok.1 h
  exact MediaExpression.mem_of_parseAll hread e

theorem ProducesCondition.exists_parse_iff {produces headers : List String} :
    (∃ c, parse produces headers = .ok c) ↔
      (∀ header ∈ headers, ∃ f, NameValue.parse .headers header = .ok f) ∧
        ∀ x ∈ MediaExpression.declaredEntries "accept" produces headers,
          ∃ g, MediaExpression.parse (String.ofList x.2) = .ok g := by
  rw [← MediaExpression.exists_parseAll_iff]
  exact Outcome.exists_bind_pure_iff

end RequestRouting
