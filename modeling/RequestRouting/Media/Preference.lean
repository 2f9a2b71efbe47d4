import RequestRouting.Media.Basic
import RequestRouting.Order.Sorting

/-! The order of media types by how specific they are, and by how much a client prefers
them. -/
namespace RequestRouting.MediaType

def specificParameterCount (m : MediaType) : Nat := m.parameters.keys.countP (· != "q")

def compareSpecificity : MediaType → MediaType → Ordering :=
  compareLex (compareOn isWildcardType)
    (compareLex (compareOn isWildcardSubtype) fun m n => compareOn specificParameterCount n m)

instance : Std.TransCmp compareSpecificity :=
  inferInstanceAs (Std.TransCmp (compareLex _ (compareLex _ _)))

/-- The higher quality first; qualities that cannot be compared count as equal. -/
def compareQuality (m n : MediaType) : Ordering := (n.quality.compare? m.quality).getD .eq

def comparePreference : MediaType → MediaType → Ordering :=
  compareLex compareQuality compareSpecificity

def sortByPreference (media : List MediaType) : List MediaType :=
  Order.sortBy comparePreference media

end RequestRouting.MediaType
