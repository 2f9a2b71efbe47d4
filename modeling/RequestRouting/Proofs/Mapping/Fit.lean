import RequestRouting.Mapping
import RequestRouting.Proofs.Order.Comparison

/-! The order of mappings by fit. Each condition is compared by a total preorder, so mappings
are too, whatever the request: a list of them can be sorted, and its first entry fits at
least as well as every other. -/
namespace RequestRouting

namespace PathCondition

variable {α : Type} (cmp : α → α → Ordering) [Std.TransCmp cmp]

theorem compareLists_swap (xs ys : List α) :
    compareLists cmp xs ys = (compareLists cmp ys xs).swap := by
  induction xs generalizing ys with
  | nil => cases ys <;> rfl
  | cons x xs ih =>
    cases ys with
    | nil => rfl
    | cons y ys =>
      simp only [compareLists, Ordering.swap_then]
      rw [← ih ys, ← Std.OrientedCmp.eq_swap]

theorem compareLists_isLE_trans {xs ys zs : List α} (hxy : (compareLists cmp xs ys).isLE)
    (hyz : (compareLists cmp ys zs).isLE) : (compareLists cmp xs zs).isLE := by
  induction xs generalizing ys zs with
  | nil =>
    cases ys with
    | nil => exact hyz
    | cons y ys => simp [compareLists] at hxy
  | cons x xs ih =>
    cases zs with
    | nil => rfl
    | cons z zs =>
      cases ys with
      | nil => simp [compareLists] at hyz
      | cons y ys =>
        simp only [compareLists, Ordering.isLE_then_iff_and] at *
        refine ⟨Std.TransCmp.isLE_trans hxy.1 hyz.1, ?_⟩
        rcases hxy.2 with hlt | hle
        · exact .inl (Std.TransCmp.lt_of_lt_of_isLE hlt hyz.1)
        · rcases hyz.2 with hlt' | hle'
          · exact .inl (Std.TransCmp.lt_of_isLE_of_lt hxy.1 hlt')
          · exact .inr (ih hle hle')

instance : Std.TransCmp (compareLists cmp) where
  eq_swap := compareLists_swap cmp _ _
  isLE_trans := compareLists_isLE_trans cmp

instance : Std.TransCmp compareFit := Order.transCmp_comap (compareLists _) patterns

end PathCondition

namespace MethodCondition

theorem compareSize_eq :
    compareSize =
      compareLex (compareOn isEmpty) fun c d => compareOn (fun c => c.methods.size) d c := by
  funext c d
  unfold compareSize compareLex compareOn
  cases c.isEmpty <;> cases d.isEmpty <;> rfl

instance : Std.TransCmp compareSize := by
  rw [compareSize_eq]
  infer_instance

theorem compareFit_head :
    compareFit .head = compareLex (compareOn fun c => !c.contains .head) compareSize := by
  funext c d
  simp only [compareFit, compareLex, compareOn, if_true]
  cases c.contains .head <;> cases d.contains .head <;> rfl

theorem compareFit_of_ne_head {m : Method} (h : m ≠ .head) : compareFit m = compareSize := by
  funext c d
  exact if_neg h

instance (m : Method) : Std.TransCmp (compareFit m) := by
  by_cases h : m = .head
  · rw [h, compareFit_head]
    infer_instance
  · rw [compareFit_of_ne_head h]
    infer_instance

end MethodCondition

instance : Std.TransCmp NameValue.compareSets :=
  inferInstanceAs (Std.TransCmp (compareLex
    (fun s t => compareOn (fun u : Order.SortedSet NameValue => u.size) t s)
    fun s t => compareOn (fun u => u.toList.countP (·.value.isSome)) t s))

instance : Std.TransCmp ParamCondition.compareFit :=
  Order.transCmp_comap NameValue.compareSets ParamCondition.expressions

instance : Std.TransCmp HeaderCondition.compareFit :=
  Order.transCmp_comap NameValue.compareSets HeaderCondition.expressions

namespace ConsumesCondition

theorem compareFit_eq :
    compareFit = fun c d => Order.compareNoneLast MediaExpression.compareSpecificity
      c.expressions.toList.head? d.expressions.toList.head? := by
  funext c d
  unfold compareFit
  cases c.expressions.toList.head? <;> cases d.expressions.toList.head? <;> rfl

instance : Std.TransCmp compareFit := by
  rw [compareFit_eq]
  exact Order.transCmp_comap _ _

end ConsumesCondition

namespace ProducesCondition

theorem compareIndex_eq : compareIndex = Order.compareNoneLast compare := by
  funext i j
  cases i <;> cases j <;> rfl

instance : Std.TransCmp compareIndex := by
  rw [compareIndex_eq]
  infer_instance

instance (accepted : MediaType) : Std.TransCmp (compareFor · · accepted) := by
  have byPlace (test : MediaType → Bool) := Order.transCmp_comap compareIndex
    fun c : ProducesCondition => c.indexOf? test
  have := byPlace (·.sameTypeAndSubtype accepted)
  have := byPlace (·.isCompatibleWith accepted)
  exact inferInstanceAs (Std.TransCmp (compareLex _ _))

theorem transCmp_compareByList (accepted : List MediaType) :
    Std.TransCmp (compareByList · · accepted) := by
  induction accepted with
  | nil => exact Order.transCmp_const_eq
  | cons m rest ih =>
    exact inferInstanceAs (Std.TransCmp (compareLex (compareFor · · m) (compareByList · · rest)))

theorem compareByList_of_isEmpty {c d : ProducesCondition} (hc : c.isEmpty) (hd : d.isEmpty)
    (accepted : List MediaType) : compareByList c d accepted = .eq := by
  have noIndex (e : ProducesCondition) (he : e.isEmpty) (test : MediaType → Bool) :
      e.indexOf? test = none := by
    have hnil : e.expressions.toList = [] := List.isEmpty_iff.1 he
    simp [indexOf?, hnil]
  induction accepted with
  | nil => rfl
  | cons m rest ih =>
    simp [compareByList, compareFor, noIndex c hc, noIndex d hd, compareIndex, ih]

theorem compareFit_eq (r : Request) :
    compareFit r = compareLex (compareOn isEmpty)
      (compareByList · · (r.acceptedMediaTypes.toOption.getD [.all])) := by
  funext c d
  unfold compareFit compareLex compareOn
  cases hc : c.isEmpty <;> cases hd : d.isEmpty
  · rfl
  · rfl
  · rfl
  · exact (compareByList_of_isEmpty hc hd _).symm

instance (r : Request) : Std.TransCmp (compareFit r) := by
  have := transCmp_compareByList (r.acceptedMediaTypes.toOption.getD [.all])
  rw [compareFit_eq]
  infer_instance

end ProducesCondition

namespace Mapping

theorem transCmp_methodsFirst (r : Request) : Std.TransCmp fun m n : Mapping =>
    if r.method = .head then MethodCondition.compareFit r.method m.methods n.methods else .eq := by
  split
  · exact Order.transCmp_comap (MethodCondition.compareFit r.method) methods
  · exact Order.transCmp_const_eq

instance (r : Request) : Std.TransCmp (compareFit r) := by
  have := transCmp_methodsFirst r
  have := Order.transCmp_comap PathCondition.compareFit paths
  have := Order.transCmp_comap ParamCondition.compareFit params
  have := Order.transCmp_comap HeaderCondition.compareFit headers
  have := Order.transCmp_comap ConsumesCondition.compareFit consumes
  have := Order.transCmp_comap (ProducesCondition.compareFit r) produces
  have := Order.transCmp_comap (MethodCondition.compareFit r.method) methods
  exact inferInstanceAs (Std.TransCmp (compareLex _ (compareLex _ (compareLex _ (compareLex _
    (compareLex _ (compareLex _ _)))))))

/-- Whatever the request, the comparison by fit is a total preorder on all mappings. -/
theorem compareFit_totalPreorder (r : Request) :
    (∀ m, compareFit r m m = .eq) ∧ (∀ m n, compareFit r n m = (compareFit r m n).swap) ∧
      (∀ m n k, compareFit r m n ≠ .gt → compareFit r n k ≠ .gt → compareFit r m k ≠ .gt) ∧
      ∀ m n k, compareFit r m n = .eq → compareFit r n k = .eq → compareFit r m k = .eq := by
  refine ⟨?_, ?_, ?_, ?_⟩
  · intro m
    exact Std.ReflCmp.compare_self
  · intro m n
    exact Std.OrientedCmp.eq_swap
  · intro m n k hmn hnk
    rw [ne_eq, Ordering.ne_gt_iff_isLE] at *
    exact Std.TransCmp.isLE_trans hmn hnk
  · intro m n k hmn hnk
    exact Std.TransCmp.eq_trans hmn hnk

end Mapping

end RequestRouting
