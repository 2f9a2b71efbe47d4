import RequestRouting.Proofs.Tag.Overriding

/-! What the local aliases of a type do to the values of a tag. They are gone through once, in the
order of their declaration, and a value gets as far as the aliases after it hand it on. A conflict
is reported where two different values get to one attribute, and only there. -/
namespace RequestRouting

def Alias.Joins (a : Alias) (attr other : String) : Prop :=
  a.attr = attr ∧ a.targetAttr = other ∨ a.attr = other ∧ a.targetAttr = attr

theorem Alias.Joins.eq_or_eq {a : Alias} {attr other p q : String} (h : a.Joins attr other)
    (hpq : a.Joins p q) : p = attr ∧ q = other ∨ p = other ∧ q = attr := by
  rcases h with ⟨rfl, rfl⟩ | ⟨rfl, rfl⟩ <;> rcases hpq with ⟨rfl, rfl⟩ | ⟨rfl, rfl⟩ <;> simp

namespace TagType

def filled? (values : Dictionary TagValue) (attr : String) : Option TagValue :=
  (values.get? attr).filter fun v => !v.isEmpty

/-- A value of the one attribute gets to the other when the aliases are gone through once. Each of
them may hand it on from one end to the other. -/
def HandsOn : List Alias → String → String → Prop
  | [], attr, other => attr = other
  | a :: rest, attr, other =>
    HandsOn rest attr other ∨ ∃ next, a.Joins attr next ∧ HandsOn rest next other

variable {t : TagType} {tag : Tag} {a : Alias} {values values' : Dictionary TagValue}

theorem handsOn_self (aliases : List Alias) (attr : String) : HandsOn aliases attr attr := by
  induction aliases with
  | nil => rfl
  | cons a rest ih => exact .inl ih

theorem isEmpty_of_filled? {attr : String} {v : TagValue} (h : filled? values attr = some v) :
    v.isEmpty = false := by
  have hfilter := (Option.filter_eq_some_iff.1 h).2
  rwa [Bool.not_eq_true'] at hfilter

theorem filled?_insert {v : TagValue} (hv : v.isEmpty = false) (values : Dictionary TagValue)
    (attr other : String) :
    filled? (values.insert attr v) other =
      if other = attr then some v else filled? values other := by
  unfold filled?
  rw [Dictionary.get?_insert]
  split
  · simp [hv]
  · rfl

theorem valueOf?_eq_filled? (t : TagType) (tag : Tag) :
    t.valueOf? tag = filled? (t.defaults.insertMany tag.attrs.entries) := by
  funext attr
  unfold valueOf? filled?
  rw [Dictionary.get?_insertMany]

/-- Going through an alias without a conflict loses no value and takes none from elsewhere, and both
ends then have the same. -/
structure Spreads (a : Alias) (values values' : Dictionary TagValue) : Prop where
  kept : ∀ attr v, filled? values attr = some v → filled? values' attr = some v
  handed : ∀ attr other v, a.Joins attr other → filled? values attr = some v →
    ∃ w, filled? values' other = some w ∧ w.normalized = v.normalized
  source : ∀ attr v, filled? values' attr = some v → filled? values attr = some v ∨
    ∃ other, a.Joins other attr ∧ filled? values other = some v

theorem spreads_of_none (hattr : filled? values a.attr = none)
    (htarget : filled? values a.targetAttr = none) : Spreads a values values where
  kept _ _ hv := hv
  handed attr other v hjoins hv := by
    rcases hjoins with ⟨rfl, -⟩ | ⟨-, rfl⟩
    · rw [hattr] at hv
      contradiction
    · rw [htarget] at hv
      contradiction
  source _ _ hv := .inl hv

theorem spreads_of_eq {v w : TagValue} (hv : filled? values a.attr = some v)
    (hw : filled? values a.targetAttr = some w) (hsame : v.normalized = w.normalized) :
    Spreads a values values where
  kept _ _ hx := hx
  handed attr other x hjoins hx := by
    rcases hjoins with ⟨rfl, rfl⟩ | ⟨rfl, rfl⟩
    · obtain rfl := Option.some.inj (hv.symm.trans hx)
      exact ⟨w, hw, hsame.symm⟩
    · obtain rfl := Option.some.inj (hw.symm.trans hx)
      exact ⟨v, hv, hsame⟩
  source _ _ hx := .inl hx

theorem spreads_insert {attr other : String} {v : TagValue} (hends : a.Joins attr other)
    (hv : filled? values attr = some v) (hnone : filled? values other = none) :
    Spreads a values (values.insert other v) := by
  have hinsert := filled?_insert (isEmpty_of_filled? hv) values other
  have hne : ∀ p w, filled? values p = some w → p ≠ other := by
    rintro p w hw rfl
    rw [hnone] at hw
    contradiction
  constructor
  case kept =>
    intro p w hw
    rw [hinsert, if_neg (hne p w hw)]
    exact hw
  case handed =>
    intro p q w hjoins hw
    rcases hends.eq_or_eq hjoins with ⟨rfl, rfl⟩ | ⟨rfl, -⟩
    · obtain rfl := Option.some.inj (hv.symm.trans hw)
      exact ⟨v, (hinsert q).trans (if_pos rfl), rfl⟩
    · exact absurd rfl (hne p w hw)
  case source =>
    intro p w hw
    rw [hinsert] at hw
    split at hw
    · next heq =>
      obtain rfl := Option.some.inj hw
      rw [heq]
      exact .inr ⟨attr, hends, hv⟩
    · exact .inl hw

theorem equateAlias_cases (t : TagType) (values : Dictionary TagValue) (a : Alias) :
    (∃ values', t.equateAlias values a = .ok values' ∧ Spreads a values values') ∨
      t.equateAlias values a = .error (.aliasConflict t.name a.targetAttr a.attr) ∧
        Clashes (filled? values) a.attr a.targetAttr := by
  have hforward : a.Joins a.attr a.targetAttr := .inl ⟨rfl, rfl⟩
  have hback : a.Joins a.targetAttr a.attr := .inr ⟨rfl, rfl⟩
  unfold equateAlias
  dsimp only
  rw [← filled?, ← filled?]
  cases hv : filled? values a.attr with
  | none =>
    cases hw : filled? values a.targetAttr with
    | none => exact .inl ⟨values, rfl, spreads_of_none hv hw⟩
    | some w => exact .inl ⟨_, rfl, spreads_insert hback hw hv⟩
  | some v =>
    cases hw : filled? values a.targetAttr with
    | none => exact .inl ⟨_, rfl, spreads_insert hforward hv hw⟩
    | some w =>
      dsimp only
      split
      · next hsame => exact .inl ⟨values, rfl, spreads_of_eq hv hw hsame⟩
      · next hother => exact .inr ⟨rfl, v, w, hv, hw, hother⟩

theorem Spreads.contradicts {rest : List Alias} (h : Spreads a values values')
    (hrest : Contradicts (filled? values') (HandsOn rest)) :
    Contradicts (filled? values) (HandsOn (a :: rest)) := by
  have horigin : ∀ attr v other, filled? values' attr = some v → HandsOn rest attr other →
      ∃ p, filled? values p = some v ∧ HandsOn (a :: rest) p other := by
    intro attr v other hv hhands
    rcases h.source attr v hv with hv | ⟨p, hjoins, hv⟩
    · exact ⟨attr, hv, .inl hhands⟩
    · exact ⟨p, hv, .inr ⟨attr, hjoins, hhands⟩⟩
  obtain ⟨attr, attr', other, v, w, hv, hw, hne, hhands, hhands'⟩ := hrest
  obtain ⟨p, hp, hpother⟩ := horigin attr v other hv hhands
  obtain ⟨q, hq, hqother⟩ := horigin attr' w other hw hhands'
  exact ⟨p, q, other, v, w, hp, hq, hne, hpother, hqother⟩

theorem foldlM_equateAlias_cases (t : TagType) (aliases : List Alias)
    (values : Dictionary TagValue) :
    (∃ values', aliases.foldlM t.equateAlias values = .ok values' ∧
        ∀ attr other v, HandsOn aliases attr other → filled? values attr = some v →
          ∃ w, filled? values' other = some w ∧ w.normalized = v.normalized) ∨
      (∃ attr other, aliases.foldlM t.equateAlias values =
          .error (.aliasConflict t.name attr other)) ∧
        Contradicts (filled? values) (HandsOn aliases) := by
  induction aliases generalizing values with
  | nil =>
    refine .inl ⟨values, rfl, ?_⟩
    rintro attr other v rfl hv
    exact ⟨v, hv, rfl⟩
  | cons a rest ih =>
    rw [List.foldlM_cons]
    rcases equateAlias_cases t values a with ⟨next, hok, hspreads⟩ | ⟨herror, v, w, hv, hw, hne⟩
    · rw [hok]
      -- a later conflict is one between the values that were there before this alias
      rcases ih next with ⟨last, hlast, harrives⟩ | ⟨herror, hcontradicts⟩
      · refine .inl ⟨last, hlast, ?_⟩
        rintro attr other v (hhands | ⟨p, hjoins, hhands⟩) hv
        · exact harrives attr other v hhands (hspreads.kept attr v hv)
        · obtain ⟨w, hw, hwv⟩ := hspreads.handed attr p v hjoins hv
          obtain ⟨x, hx, hxw⟩ := harrives p other w hhands hw
          exact ⟨x, hx, hxw.trans hwv⟩
      · exact .inr ⟨herror, hspreads.contradicts hcontradicts⟩
    · rw [herror]
      refine .inr ⟨⟨_, _, rfl⟩, a.attr, a.targetAttr, a.attr, v, w, hv, hw, hne, ?_, ?_⟩
      · exact handsOn_self (a :: rest) a.attr
      · exact .inr ⟨a.attr, .inr ⟨rfl, rfl⟩, handsOn_self rest a.attr⟩

theorem foldlM_equateAlias_ok_iff (t : TagType) (aliases : List Alias)
    (values : Dictionary TagValue) :
    (∃ values', aliases.foldlM t.equateAlias values = .ok values') ↔
      ¬ Contradicts (filled? values) (HandsOn aliases) := by
  rcases foldlM_equateAlias_cases t aliases values with
    ⟨values', hok, harrives⟩ | ⟨⟨attr, other, herror⟩, hcontradicts⟩
  · have hnone : ¬ Contradicts (filled? values) (HandsOn aliases) := by
      rintro ⟨p, q, attr, v, w, hv, hw, hne, hp, hq⟩
      obtain ⟨x, hx, hxv⟩ := harrives p attr v hp hv
      obtain ⟨y, hy, hyw⟩ := harrives q attr w hq hw
      obtain rfl := Option.some.inj (hx.symm.trans hy)
      exact hne (hxv.symm.trans hyw)
    exact ⟨fun _ => hnone, fun _ => ⟨values', hok⟩⟩
  · simp [herror, hcontradicts]

/-- The attributes of a tag of the type itself can be told exactly when no two different values get
to one attribute. -/
theorem ownAttributes_cases (t : TagType) (tag : Tag) :
    (∃ attributes, t.ownAttributes tag = .ok attributes ∧
        ¬ Contradicts (t.valueOf? tag) (HandsOn t.localAliases)) ∨
      (∃ attr other, t.ownAttributes tag = .error (.aliasConflict t.name attr other)) ∧
        Contradicts (t.valueOf? tag) (HandsOn t.localAliases) := by
  rw [valueOf?_eq_filled?]
  unfold ownAttributes equateAliases
  rcases foldlM_equateAlias_cases t t.localAliases (t.defaults.insertMany tag.attrs.entries) with
    ⟨values, hok, -⟩ | ⟨⟨attr, other, herror⟩, hcontradicts⟩
  · rw [hok]
    exact .inl ⟨⟨t.name, values⟩, rfl, (foldlM_equateAlias_ok_iff t _ _).1 ⟨values, hok⟩⟩
  · rw [herror]
    exact .inr ⟨⟨attr, other, rfl⟩, hcontradicts⟩

end TagType

end RequestRouting
