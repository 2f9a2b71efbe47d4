import RequestRouting.Dictionary

/-! Environment variables, and where the value of a setting comes from. -/
namespace RequestRouting

abbrev Variables := Dictionary String

def Variables.valueOr (vars : Variables) (name default : String) : String :=
  (vars.get? name).getD default

inductive ConfigSource where
  | fromVariable (name : String)
  | fallback (value : String)
  | programmatic
deriving DecidableEq

namespace ConfigSource

def detect (vars : Variables) (name default : String) : ConfigSource :=
  if vars.contains name then .fromVariable name else .fallback default

def isVariable : ConfigSource → Bool
  | fromVariable _ => true
  | _ => false

def isDefault : ConfigSource → Bool
  | fallback _ => true
  | _ => false

def describe : ConfigSource → String
  | fromVariable name => s!"Environment variable: {name}"
  | fallback value => s!"Default value: {value}"
  | programmatic => "Programmatically set"

end ConfigSource

end RequestRouting
