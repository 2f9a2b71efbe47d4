import RequestRouting.Dictionary
import RequestRouting.Error
import RequestRouting.Logged
import RequestRouting.Placeholder.Template

/-! Replacing placeholders by the values of properties. The name of a property may itself be
put together from placeholders, and values may hold further ones. A placeholder `key:default`
stands for the default where the key has no value. Properties can build ever longer
placeholders, so that a text may have no last expansion, and nothing that it resolves to. -/
namespace RequestRouting.Placeholder

/-- Why an expansion stops: an error, or more levels than were to be followed. -/
inductive Stop where
  | unfinished
  | failed (e : PlaceholderError)
deriving DecidableEq

def Stop.finished? {α : Type} (x : Logged Stop α) : Option (Logged PlaceholderError α) :=
  match x.result with
  | .ok a => some ⟨.ok a, x.events⟩
  | .error (.failed e) => some ⟨.error e, x.events⟩
  | .error .unfinished => none

structure Resolver where
  properties : Dictionary String
  /-- Leaves placeholders alone that nothing is known of. -/
  lenient : Bool := false

namespace Resolver

/-- The value behind a placeholder: of the whole text as a key, else of what stands before
the first colon, else the default behind it. -/
def lookup? (r : Resolver) (placeholder : List Char) : Option String :=
  match r.properties.get? (String.ofList placeholder) with
  | some value => some value
  | none => (Text.splitFirst ':' placeholder).map fun (key, default) =>
      (r.properties.get? (String.ofList key)).getD (String.ofList default)

/-- Expands one piece of `value`, given how to expand texts. The placeholders in `visiting`
are being replaced already and must not come up again. -/
def expandPiece (r : Resolver)
    (expandText : List (List Char) → List Char → Logged Stop (List Char))
    (visiting : List (List Char)) (value : List Char) : Piece → Logged Stop (List Char)
  | .literal c => return [c]
  | .reference body => do
    let placeholder ← expandText visiting body
    if visiting.contains placeholder then
      Logged.fail (.failed (.circular (String.ofList placeholder)))
    else match r.lookup? placeholder with
      | some found => do
        let resolved ← expandText (placeholder :: visiting) found.toList
        Logged.report (.placeholderResolved (String.ofList placeholder) (String.ofList resolved))
        return resolved
      | none =>
        if r.lenient then return '$' :: '\x7b' :: body ++ ['\x7d']
        else
          Logged.fail (.failed (.unresolvable (String.ofList placeholder) (String.ofList value)))

/-- Expands a text, through at most `depth` placeholders and values inside each other. -/
def expand (r : Resolver) : (depth : Nat) → (visiting : List (List Char)) → (value : List Char) →
    Logged Stop (List Char)
  | 0, _, _ => Logged.fail .unfinished
  | depth + 1, visiting, value => do
    let parts ← (pieces value).mapM (r.expandPiece (r.expand depth) visiting value)
    return parts.flatten

def resolveWithin (r : Resolver) (depth : Nat) (value : String) :
    Option (Logged PlaceholderError String) :=
  Stop.finished? (String.ofList <$> r.expand depth [] value.toList)

open Classical in
/-- What a text resolves to, through as many levels as it takes; `none` if there is no end. -/
noncomputable def resolve (r : Resolver) (value : String) :
    Option (Logged PlaceholderError String) :=
  if h : ∃ depth, (r.resolveWithin depth value).isSome then r.resolveWithin h.choose value
  else none

end Resolver

end RequestRouting.Placeholder
