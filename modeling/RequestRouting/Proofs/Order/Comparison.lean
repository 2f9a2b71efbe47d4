/-! Ways to build comparisons that keep a total preorder one: comparing by a key, putting a
missing value last, and an order that may change nothing. A comparison that agrees with a total
preorder on some values is one on them. -/
namespace RequestRouting.Order

variable {α β : Type}

theorem compareLex_eq_iff {cmp cmp' : α → α → Ordering} {a b : α} :
    compareLex cmp cmp' a b = .eq ↔ cmp a b = .eq ∧ cmp' a b = .eq := Ordering.then_eq_eq

theorem compareOn_eq_iff [Ord β] [Std.LawfulEqOrd β] {key : α → β} {a b : α} :
    compareOn key a b = .eq ↔ key a = key b := Std.LawfulEqOrd.compare_eq_iff_eq

theorem transCmp_comap (cmp : β → β → Ordering) [Std.TransCmp cmp] (key : α → β) :
    Std.TransCmp fun a b => cmp (key a) (key b) where
  eq_swap := Std.OrientedCmp.eq_swap
  isLE_trans := Std.TransCmp.isLE_trans

theorem transCmp_const_eq : Std.TransCmp fun (_ _ : α) => Ordering.eq where
  eq_swap := rfl
  isLE_trans _ _ := rfl

structure IsTotalPreorderOn (P : α → Prop) (cmp : α → α → Ordering) : Prop where
  refl : ∀ a, P a → cmp a a = .eq
  swap : ∀ a b, P a → P b → cmp b a = (cmp a b).swap
  trans : ∀ a b c, P a → P b → P c → (cmp a b).isLE → (cmp b c).isLE → (cmp a c).isLE

theorem isTotalPreorderOn_of_eq {P : α → Prop} {cmp cmp' : α → α → Ordering} [Std.TransCmp cmp']
    (h : ∀ a b, P a → P b → cmp a b = cmp' a b) : IsTotalPreorderOn P cmp where
  refl a ha := by
    rw [h a a ha ha]
    exact Std.ReflCmp.compare_self
  swap a b ha hb := by
    rw [h a b ha hb, h b a hb ha]
    exact Std.OrientedCmp.eq_swap
  trans a b c ha hb hc := by
    rw [h a b ha hb, h b c hb hc, h a c ha hc]
    exact Std.TransCmp.isLE_trans

def compareNoneLast (cmp : α → α → Ordering) : Option α → Option α → Ordering
  | some a, some b => cmp a b
  | some _, none => .lt
  | none, some _ => .gt
  | none, none => .eq

instance (cmp : α → α → Ordering) [Std.TransCmp cmp] : Std.TransCmp (compareNoneLast cmp) where
  eq_swap {a b} := by
    cases a <;> cases b <;> simp only [compareNoneLast]
    all_goals first | exact Std.OrientedCmp.eq_swap | rfl
  isLE_trans {a b c} hab hbc := by
    cases a <;> cases b <;> cases c <;> simp only [compareNoneLast] at *
    all_goals first | exact Std.TransCmp.isLE_trans hab hbc | contradiction | rfl

end RequestRouting.Order
