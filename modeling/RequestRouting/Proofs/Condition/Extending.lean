import RequestRouting.Proofs.Condition.Expressions

/-! Conditions with one declaration more. A header that declares media types leaves the header
condition alone and adds its expressions to the condition of its name; a value of an attribute adds
its own expressions in the same way. -/
namespace RequestRouting

variable {text value headerName : String} {before after values headers : List String}
  {f : NameValue}

namespace HeaderCondition

variable {c : HeaderCondition}

theorem parse_eq_ok : parse headers = .ok c ↔
    ∃ es, headers.mapM (NameValue.parse .headers) = .ok es ∧
      c = ⟨.ofList ((es.map NameValue.lowercaseName).filter fun e => !isMediaHeader e.name)⟩ := by
  rw [parse, Outcome.bind_eq_ok]
  exact exists_congr fun es => and_congr_right' (Outcome.pure_eq_ok.trans eq_comm)

theorem parse_insert_iff (hf : NameValue.parse .headers text = .ok f)
    (hmedia : isMediaHeader f.lowercaseName.name = true) :
    parse (before ++ text :: after) = .ok c ↔ parse (before ++ after) = .ok c := by
  rw [parse_eq_ok, parse_eq_ok]
  constructor
  · rintro ⟨es, hes, rfl⟩
    obtain ⟨front, g, back, hfront, hg, hback, rfl⟩ := Outcome.mapM_insert_eq_ok.1 hes
    obtain rfl := Except.ok.inj (hf.symm.trans hg)
    exact ⟨_, Outcome.mapM_append_eq_ok.2 ⟨front, back, hfront, hback, rfl⟩, by simp [hmedia]⟩
  · rintro ⟨es, hes, rfl⟩
    obtain ⟨front, back, hfront, hback, rfl⟩ := Outcome.mapM_append_eq_ok.1 hes
    have hall := Outcome.mapM_insert_eq_ok.2 ⟨front, f, back, hfront, hf, hback, rfl⟩
    exact ⟨_, hall, by simp [hmedia]⟩

end HeaderCondition

namespace MediaExpression

variable {s : Order.SortedSet MediaExpression}

theorem parseAll_eq_ok : parseAll headerName values headers = .ok s ↔
    ∃ declared fromHeaders, values.mapM parseList = .ok declared ∧
      headers.mapM (ofHeader headerName) = .ok fromHeaders ∧
        s = .ofList (declared.flatten ++ fromHeaders.flatten) := by
  rw [parseAll]
  simp only [Outcome.bind_eq_ok, Outcome.pure_eq_ok, exists_and_left]
  refine exists_congr fun declared => and_congr_right' (exists_congr fun fromHeaders => ?_)
  exact and_congr_right' eq_comm

theorem parseAll_insertHeader_iff : parseAll headerName values (before ++ text :: after) = .ok s ↔
    ∃ t es, parseAll headerName values (before ++ after) = .ok t ∧
      ofHeader headerName text = .ok es ∧ s = t.union (.ofList es) := by
  have hunion (declared front back : List (List MediaExpression)) (es : List MediaExpression) :
      Order.SortedSet.ofList (declared.flatten ++ (front ++ es :: back).flatten) =
        (Order.SortedSet.ofList (declared.flatten ++ (front ++ back).flatten)).union
          (.ofList es) := by
    refine Order.SortedSet.ofList_eq_union fun e => ?_
    simp only [List.flatten_append, List.flatten_cons, List.mem_append]
    tauto
  constructor
  · intro h
    obtain ⟨declared, lists, hdeclared, hlists, rfl⟩ := parseAll_eq_ok.1 h
    obtain ⟨front, es, back, hfront, hes, hback, rfl⟩ := Outcome.mapM_insert_eq_ok.1 hlists
    have hrest := Outcome.mapM_append_eq_ok.2 ⟨front, back, hfront, hback, rfl⟩
    exact ⟨_, es, parseAll_eq_ok.2 ⟨declared, _, hdeclared, hrest, rfl⟩, hes, hunion ..⟩
  · rintro ⟨t, es, h, hes, rfl⟩
    obtain ⟨declared, lists, hdeclared, hlists, rfl⟩ := parseAll_eq_ok.1 h
    obtain ⟨front, back, hfront, hback, rfl⟩ := Outcome.mapM_append_eq_ok.1 hlists
    have hall := Outcome.mapM_insert_eq_ok.2 ⟨front, es, back, hfront, hes, hback, rfl⟩
    exact parseAll_eq_ok.2 ⟨declared, _, hdeclared, hall, (hunion ..).symm⟩

theorem parseAll_insertValue_iff : parseAll headerName (before ++ value :: after) headers = .ok s ↔
    ∃ t es, parseAll headerName (before ++ after) headers = .ok t ∧ parseList value = .ok es ∧
      s = t.union (.ofList es) := by
  have hunion (front back fromHeaders : List (List MediaExpression)) (es : List MediaExpression) :
      Order.SortedSet.ofList ((front ++ es :: back).flatten ++ fromHeaders.flatten) =
        (Order.SortedSet.ofList ((front ++ back).flatten ++ fromHeaders.flatten)).union
          (.ofList es) := by
    refine Order.SortedSet.ofList_eq_union fun e => ?_
    simp only [List.flatten_append, List.flatten_cons, List.mem_append]
    tauto
  constructor
  · intro h
    obtain ⟨lists, fromHeaders, hlists, hheaders, rfl⟩ := parseAll_eq_ok.1 h
    obtain ⟨front, es, back, hfront, hes, hback, rfl⟩ := Outcome.mapM_insert_eq_ok.1 hlists
    have hrest := Outcome.mapM_append_eq_ok.2 ⟨front, back, hfront, hback, rfl⟩
    exact ⟨_, es, parseAll_eq_ok.2 ⟨_, fromHeaders, hrest, hheaders, rfl⟩, hes, hunion ..⟩
  · rintro ⟨t, es, h, hes, rfl⟩
    obtain ⟨lists, fromHeaders, hlists, hheaders, rfl⟩ := parseAll_eq_ok.1 h
    obtain ⟨front, back, hfront, hback, rfl⟩ := Outcome.mapM_append_eq_ok.1 hlists
    have hall := Outcome.mapM_insert_eq_ok.2 ⟨front, es, back, hfront, hes, hback, rfl⟩
    exact parseAll_eq_ok.2 ⟨_, fromHeaders, hall, hheaders, (hunion ..).symm⟩

end MediaExpression

namespace ConsumesCondition

variable {c : ConsumesCondition}

def adding (c : ConsumesCondition) (es : List MediaExpression) : ConsumesCondition :=
  { c with expressions := c.expressions.union (.ofList es) }

theorem adding_nil (c : ConsumesCondition) : c.adding [] = c := by
  have hsame : c.expressions.union (.ofList []) = c.expressions := Order.SortedSet.union_empty _
  rw [adding, hsame]

theorem parse_eq_ok : parse values headers = .ok c ↔
    ∃ s, MediaExpression.parseAll "content-type" values headers = .ok s ∧
      c = { expressions := s } := by
  rw [parse, Outcome.bind_eq_ok]
  exact exists_congr fun s => and_congr_right' (Outcome.pure_eq_ok.trans eq_comm)

theorem parse_insertHeader_iff : parse values (before ++ text :: after) = .ok c ↔
    ∃ d es, parse values (before ++ after) = .ok d ∧
      MediaExpression.ofHeader "content-type" text = .ok es ∧ c = d.adding es := by
  simp only [parse_eq_ok, MediaExpression.parseAll_insertHeader_iff]
  constructor
  · rintro ⟨_, ⟨t, es, ht, hes, rfl⟩, rfl⟩
    exact ⟨_, es, ⟨t, ht, rfl⟩, hes, rfl⟩
  · rintro ⟨_, es, ⟨t, ht, rfl⟩, hes, rfl⟩
    exact ⟨_, ⟨t, es, ht, hes, rfl⟩, rfl⟩

theorem parse_insertValue_iff : parse (before ++ value :: after) headers = .ok c ↔
    ∃ d es, parse (before ++ after) headers = .ok d ∧
      MediaExpression.parseList value = .ok es ∧ c = d.adding es := by
  simp only [parse_eq_ok, MediaExpression.parseAll_insertValue_iff]
  constructor
  · rintro ⟨_, ⟨t, es, ht, hes, rfl⟩, rfl⟩
    exact ⟨_, es, ⟨t, ht, rfl⟩, hes, rfl⟩
  · rintro ⟨_, es, ⟨t, ht, rfl⟩, hes, rfl⟩
    exact ⟨_, ⟨t, es, ht, hes, rfl⟩, rfl⟩

end ConsumesCondition

namespace ProducesCondition

variable {c : ProducesCondition}

def adding (c : ProducesCondition) (es : List MediaExpression) : ProducesCondition :=
  ⟨c.expressions.union (.ofList es)⟩

theorem adding_nil (c : ProducesCondition) : c.adding [] = c :=
  ProducesCondition.ext (Order.SortedSet.union_empty _)

theorem parse_eq_ok : parse values headers = .ok c ↔
    MediaExpression.parseAll "accept" values headers = .ok c.expressions := by
  rw [parse, Outcome.bind_eq_ok]
  constructor
  · rintro ⟨s, hs, h⟩
    obtain rfl := Outcome.pure_eq_ok.1 h
    exact hs
  · intro h
    exact ⟨c.expressions, h, rfl⟩

theorem parse_insertHeader_iff : parse values (before ++ text :: after) = .ok c ↔
    ∃ d es, parse values (before ++ after) = .ok d ∧
      MediaExpression.ofHeader "accept" text = .ok es ∧ c = d.adding es := by
  rw [parse_eq_ok, MediaExpression.parseAll_insertHeader_iff]
  constructor
  · rintro ⟨t, es, ht, hes, hc⟩
    exact ⟨⟨t⟩, es, parse_eq_ok.2 ht, hes, ProducesCondition.ext hc⟩
  · rintro ⟨d, es, hd, hes, rfl⟩
    exact ⟨d.expressions, es, parse_eq_ok.1 hd, hes, rfl⟩

theorem parse_insertValue_iff : parse (before ++ value :: after) headers = .ok c ↔
    ∃ d es, parse (before ++ after) headers = .ok d ∧
      MediaExpression.parseList value = .ok es ∧ c = d.adding es := by
  rw [parse_eq_ok, MediaExpression.parseAll_insertValue_iff]
  constructor
  · rintro ⟨t, es, ht, hes, hc⟩
    exact ⟨⟨t⟩, es, parse_eq_ok.2 ht, hes, ProducesCondition.ext hc⟩
  · rintro ⟨d, es, hd, hes, rfl⟩
    exact ⟨d.expressions, es, parse_eq_ok.1 hd, hes, rfl⟩

end ProducesCondition

end RequestRouting
