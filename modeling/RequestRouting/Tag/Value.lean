import RequestRouting.Method

/-! Values of tag attributes. -/
namespace RequestRouting

inductive TagValue where
  | text (value : String)
  | texts (values : List String)
  | flag (value : Bool)
  | methods (values : List Method)
deriving DecidableEq

namespace TagValue

/-- An empty text or list counts as not set; a flag is always set. -/
def isEmpty : TagValue → Bool
  | text value => value.isEmpty
  | texts values => values.isEmpty
  | flag _ => false
  | methods values => values.isEmpty

/-- A text is the same as the list that holds it alone, and the empty text as the empty
list. -/
def normalized : TagValue → TagValue
  | text value => texts (if value.isEmpty then [] else [value])
  | other => other

def kind : TagValue → String
  | text _ => "string"
  | texts _ => "string array"
  | flag _ => "boolean"
  | methods _ => "method array"

theorem isEmpty_normalized (v : TagValue) : v.normalized.isEmpty = v.isEmpty := by
  cases v with
  | text value => by_cases h : value = "" <;> simp [normalized, isEmpty, h]
  | _ => rfl

end TagValue

end RequestRouting
