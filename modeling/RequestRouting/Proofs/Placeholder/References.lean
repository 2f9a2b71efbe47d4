import Mathlib.Logic.Relation
import RequestRouting.Placeholder.Resolver
import RequestRouting.Proofs.Dictionary
import RequestRouting.Proofs.Placeholder.Flat

/-! Properties that refer to each other: the keys that a text reaches through placeholders, and the
text that replacing them leads to. A flat text that can be resolved reaches defined keys alone, and
none of them reaches itself. -/
namespace RequestRouting.Placeholder.Resolver

open Relation (TransGen ReflTransGen)

def Refers (r : Resolver) (key next : String) : Prop :=
  ∃ value, r.properties.get? key = some value ∧ Mentions value.toList next

/-- A key is reached through the placeholders of the text and of the values of reached keys. -/
def Reached (r : Resolver) (cs : List Char) (key : String) : Prop :=
  ∃ first, Mentions cs first ∧ ReflTransGen r.Refers first key

def Defined (r : Resolver) (key : String) : Prop := ∃ value, r.properties.get? key = some value

inductive Resolves (r : Resolver) : List Char → List Char → Prop
  | nil : Resolves r [] []
  | literal {c : Char} {rest out : List Char} (hopen : ¬ ['$', '\x7b'] <+: c :: rest)
      (hrest : Resolves r rest out) : Resolves r (c :: rest) (c :: out)
  | placeholder {key value : String} {rest resolved out : List Char}
      (hfirst : '\x7d' ∉ key.toList) (hvalue : r.properties.get? key = some value)
      (hresolved : Resolves r value.toList resolved) (hrest : Resolves r rest out) :
      Resolves r ('$' :: '\x7b' :: (key.toList ++ '\x7d' :: rest)) (resolved ++ out)

variable {r : Resolver}

theorem Reached.of_mentions {cs : List Char} {key : String} (h : Mentions cs key) :
    r.Reached cs key :=
  ⟨key, h, .refl⟩

theorem Reached.of_value {cs : List Char} {key next value : String} (hmentions : Mentions cs key)
    (hvalue : r.properties.get? key = some value) (h : r.Reached value.toList next) :
    r.Reached cs next := by
  obtain ⟨first, hfirst, hreaches⟩ := h
  exact ⟨key, hmentions, .head ⟨value, hvalue, hfirst⟩ hreaches⟩

theorem Resolves.unique {cs out out' : List Char} (h : r.Resolves cs out)
    (h' : r.Resolves cs out') : out = out' := by
  induction h generalizing out' with
  | nil =>
    cases h'
    rfl
  | @literal c rest out hopen _ ih =>
    generalize hcs : c :: rest = cs at h'
    cases h' with
    | nil => contradiction
    | literal _ hrest =>
      obtain ⟨rfl, rfl⟩ := List.cons.inj hcs
      rw [ih hrest]
    | placeholder => exact absurd (hcs ▸ List.prefix_append ['$', '\x7b'] _) hopen
  | @placeholder key value rest resolved out hfirst hvalue _ _ ihvalue ihrest =>
    generalize hcs : '$' :: '\x7b' :: (key.toList ++ '\x7d' :: rest) = cs at h'
    cases h' with
    | nil => contradiction
    | literal hopen => exact absurd (hcs ▸ List.prefix_append ['$', '\x7b'] _) hopen
    | @placeholder key' value' rest' resolved' out' hfirst' hvalue' hresolved' hrest' =>
      -- keys hold no closing brace, so both placeholders end at the first one
      have hbody : key.toList ++ '\x7d' :: rest = key'.toList ++ '\x7d' :: rest' := by
        simpa using hcs
      obtain ⟨hkey, rfl⟩ := (Text.append_sep_inj hfirst hfirst').1 hbody
      obtain rfl := String.toList_inj.1 hkey
      obtain rfl := Option.some.inj (hvalue.symm.trans hvalue')
      rw [ihvalue hresolved', ihrest hrest']

/-- The key has a value, and so has every key that it reaches, in finitely many steps. -/
inductive Grounded (r : Resolver) : String → Prop
  | intro {key value : String} (hvalue : r.properties.get? key = some value)
      (hnext : ∀ next, Mentions value.toList next → Grounded r next) : Grounded r key

theorem Grounded.defined {key : String} (h : r.Grounded key) : r.Defined key := by
  obtain ⟨hvalue, -⟩ := h
  exact ⟨_, hvalue⟩

theorem Grounded.of_refers {key next : String} (h : r.Grounded key) (hrefers : r.Refers key next) :
    r.Grounded next := by
  obtain ⟨hvalue, hnext⟩ := h
  obtain ⟨value, hvalue', hmentions⟩ := hrefers
  obtain rfl := Option.some.inj (hvalue.symm.trans hvalue')
  exact hnext next hmentions

theorem Grounded.not_cycle {key : String} (h : r.Grounded key) : ¬ TransGen r.Refers key key := by
  induction h with
  | @intro key value hvalue _ ih =>
    intro hcycle
    obtain ⟨next, ⟨value', hvalue', hmentions⟩, hback⟩ := TransGen.head'_iff.1 hcycle
    obtain rfl := Option.some.inj (hvalue.symm.trans hvalue')
    exact ih next hmentions (TransGen.tail' hback ⟨value, hvalue, hmentions⟩)

section Flat

variable (hvalues : ∀ entry ∈ r.properties.entries, Flat entry.2.toList)

include hvalues

theorem flat_of_get? {key value : String} (h : r.properties.get? key = some value) :
    Flat value.toList :=
  hvalues _ (Dictionary.mem_entries_of_get? h)

theorem Resolves.grounded_of_mentions {cs out : List Char} {key : String} (h : r.Resolves cs out)
    (hflat : Flat cs) (hmentions : Mentions cs key) : r.Grounded key := by
  induction h generalizing key with
  | nil => exact absurd hmentions not_mentions_nil
  | literal hopen _ ih =>
    exact ih (hflat.of_suffix (List.suffix_cons _ _)) ((mentions_cons hopen).1 hmentions)
  | @placeholder key' value rest resolved out hfirst hvalue _ _ ihvalue ihrest =>
    obtain ⟨hname, hrest⟩ := hflat.placeholder hfirst
    rcases (mentions_placeholder hfirst hname).1 hmentions with rfl | hmentions
    · rw [String.ofList_toList]
      apply Grounded.intro hvalue
      intro next hnext
      exact ihvalue (flat_of_get? hvalues hvalue) hnext
    · exact ihrest hrest hmentions

theorem Resolves.grounded {cs out : List Char} {key : String} (h : r.Resolves cs out)
    (hflat : Flat cs) (hreached : r.Reached cs key) : r.Grounded key := by
  obtain ⟨first, hmentions, hreaches⟩ := hreached
  induction hreaches with
  | refl => exact h.grounded_of_mentions hvalues hflat hmentions
  | tail _ hrefers ih => exact ih.of_refers hrefers

end Flat

end RequestRouting.Placeholder.Resolver
