import RequestRouting.Media.Preference
import RequestRouting.Proofs.Media.Reading
import RequestRouting.Proofs.Number.Value
import RequestRouting.Proofs.Order.Comparison
import RequestRouting.Proofs.Order.Ranking

/-! Preference among media types that are read. Their qualities are numbers between zero and one, so
that no two of them are without an order, and the comparison is a total preorder. Main statement:
sorting puts the higher quality first, then the more specific type, then the one that came first. -/
namespace RequestRouting.MediaType

variable {read : Reader} {m n : MediaType} {media : List MediaType}

def weight (m : MediaType) : ℚ := m.quality.toRat?.getD 0

structure IsWeighted (m : MediaType) : Prop where
  value : m.quality.toRat? = some m.weight
  nonneg : 0 ≤ m.weight
  le_one : m.weight ≤ 1

theorem isWeighted_of_toRat? {p : ℚ} (h : m.quality.toRat? = some p) (h₀ : 0 ≤ p) (h₁ : p ≤ 1) :
    m.IsWeighted := by
  have hweight : m.weight = p := by rw [weight, h, Option.getD_some]
  refine ⟨?_, ?_, ?_⟩
  · rw [h, hweight]
  · rwa [hweight]
  · rwa [hweight]

/-- Whatever a reader takes for a quality is checked. -/
theorem ReadBy.isWeighted (h : m.ReadBy read) : m.IsWeighted := by
  obtain ⟨text, h⟩ := h
  obtain ⟨-, -, hadmissible⟩ := parseWith_eq_ok.1 h
  cases hq : m.parameter? "q" with
  | none =>
    have hone : m.quality = .one := by rw [quality, hq, Option.bind_none, Option.getD_none]
    have hvalue := Number.Binary32.toRat?_one
    rw [← hone] at hvalue
    exact isWeighted_of_toRat? hvalue zero_le_one le_rfl
  | some q =>
    obtain ⟨x, hx, hunit⟩ := (Option.any_eq_true _ _).1 (hadmissible.quality q hq)
    have hread : m.quality = x := by
      rw [quality, hq, Option.bind_some, hx, Option.getD_some]
    obtain ⟨p, hp, h₀, h₁⟩ := Number.Binary32.isUnitInterval_iff.1 hunit
    rw [← hread] at hp
    exact isWeighted_of_toRat? hp h₀ h₁

/-- The comparison, were all qualities numbers. -/
def compareWeighted : MediaType → MediaType → Ordering :=
  compareLex (fun m n => compareOn weight n m) compareSpecificity

instance : Std.TransCmp compareWeighted := inferInstanceAs (Std.TransCmp (compareLex _ _))

theorem comparePreference_eq (hm : m.IsWeighted) (hn : n.IsWeighted) :
    comparePreference m n = compareWeighted m n := by
  have hquality : compareQuality m n = compareOn weight n m := by
    rw [compareQuality, Number.Binary32.compare?_eq hn.value hm.value]
    rfl
  simp only [comparePreference, compareWeighted, compareLex, hquality]

theorem compareWeighted_isLE_iff : (compareWeighted m n).isLE ↔
    n.weight ≤ m.weight ∧ (m.weight = n.weight → (compareSpecificity m n).isLE) := by
  have hisLE : (compare n.weight m.weight).isLE ↔ n.weight ≤ m.weight := by
    rw [← Ordering.ne_gt_iff_isLE, ← ne_eq, compare_le_iff_le]
  rw [compareWeighted, compareLex, Ordering.isLE_then_iff_and, compareOn, hisLE, compare_lt_iff_lt]
  refine and_congr_right fun hle => ?_
  rw [hle.lt_iff_ne, ne_eq, eq_comm, ← imp_iff_not_or]

/-- How a client ranks what it declares. -/
structure IsRanking (declared ranked : List MediaType) : Prop where
  perm : ranked.Perm declared
  weighted : ∀ m ∈ ranked, m.IsWeighted
  weights : ranked.Pairwise fun m n => n.weight ≤ m.weight
  specific : ranked.Pairwise fun m n => m.weight = n.weight → (compareSpecificity m n).isLE
  stable : ∀ m ∈ ranked, ranked.filter (comparePreference m · == .eq) =
    declared.filter (comparePreference m · == .eq)

theorem isTotalPreorderOn_comparePreference (read : Reader) :
    Order.IsTotalPreorderOn (ReadBy read) comparePreference :=
  Order.isTotalPreorderOn_of_eq fun _ _ hm hn => comparePreference_eq hm.isWeighted hn.isWeighted

theorem isRanking_sortByPreference (h : ∀ m ∈ media, m.IsWeighted) :
    IsRanking media (sortByPreference media) := by
  have hsort : sortByPreference media = Order.sortBy compareWeighted media :=
    Order.sortBy_congr fun m hm n hn => comparePreference_eq (h m hm) (h n hn)
  have hsorted := Order.pairwise_sortBy compareWeighted media
  simp only [compareWeighted_isLE_iff, List.pairwise_and_iff] at hsorted
  rw [← hsort] at hsorted
  refine ⟨Order.sortBy_perm _ _, fun m hm => h m (Order.mem_sortBy.1 hm), hsorted.1, hsorted.2, ?_⟩
  intro m hm
  have hweighted := h m (Order.mem_sortBy.1 hm)
  refine Order.filter_sortBy fun x hx y hy hmx hmy => ?_
  rw [beq_iff_eq, comparePreference_eq hweighted (h x hx)] at hmx
  rw [beq_iff_eq, comparePreference_eq hweighted (h y hy)] at hmy
  have hxy : compareWeighted x y = .eq := Std.TransCmp.eq_trans (Std.OrientedCmp.eq_symm hmx) hmy
  rw [comparePreference_eq (h x hx) (h y hy), hxy]
  exact Ordering.noConfusion

end RequestRouting.MediaType
