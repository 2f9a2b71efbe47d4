import RequestRouting.Proofs.Dictionary
import RequestRouting.Proofs.Placeholder.Termination

/-! Texts and properties without colons. They hold no defaults, so only names of properties can be
replaced, and every expansion ends. -/
namespace RequestRouting.Placeholder

theorem colon_not_mem_of_pieces {cs body : List Char} {before after : List Piece}
    (hpieces : pieces cs = before ++ .reference body :: after) (hcolon : ':' ∉ cs) :
    ':' ∉ body := by
  intro hmem
  have hpiece : .reference body ∈ pieces cs := by
    rw [hpieces]
    exact List.mem_append_right _ List.mem_cons_self
  exact hcolon ((body_sublist_of_mem hpiece).subset hmem)

namespace Resolver

variable {r : Resolver} {visiting : List (List Char)} {value : List Char}

theorem get?_of_lookup? {placeholder : List Char} {found : String} (hcolon : ':' ∉ placeholder)
    (h : r.lookup? placeholder = some found) :
    r.properties.get? (String.ofList placeholder) = some found := by
  unfold lookup? at h
  split at h
  · next hget => rw [hget, h]
  · obtain ⟨⟨key, default⟩, hsplit, -⟩ := Option.map_eq_some_iff.1 h
    rw [(Text.eq_append_of_splitFirst hsplit).1] at hcolon
    exact absurd (List.mem_append_right _ List.mem_cons_self) hcolon

variable (hvalues : ∀ entry ∈ r.properties.entries, ':' ∉ entry.2.toList)

include hvalues

theorem colon_not_mem_of_expand {depth : Nat} {cs : List Char}
    (h : (r.expand depth visiting value).result = .ok cs) (hvalue : ':' ∉ value) : ':' ∉ cs := by
  induction depth generalizing visiting value cs with
  | zero => contradiction
  | succ depth ih =>
    unfold expand at h
    rw [Logged.result_bind] at h
    obtain ⟨parts, hparts, h⟩ := Outcome.bind_eq_ok.1 h
    obtain rfl := Except.ok.inj h
    rw [Logged.result_mapM] at hparts
    intro hmem
    obtain ⟨part, hpart, hmem⟩ := List.mem_flatten.1 hmem
    obtain ⟨piece, hpiece, hout⟩ := Outcome.exists_of_mem_mapM hparts hpart
    cases piece with
    | literal c =>
      obtain rfl := Except.ok.inj hout
      exact hvalue ((text_sublist_of_mem hpiece).subset hmem)
    | reference body =>
      have hchars : ':' ∉ body := fun hc => hvalue ((body_sublist_of_mem hpiece).subset hc)
      obtain ⟨placeholder, hbody, -, hcases⟩ := expandPiece_reference_cases hout
      have hplaceholder := ih hbody hchars
      rcases hcases with ⟨found, hlookup, hfound⟩ | ⟨-, -, rfl⟩
      · have hentry := Dictionary.mem_entries_of_get? (get?_of_lookup? hplaceholder hlookup)
        exact ih hfound (hvalues _ hentry) hmem
      · exact hvalue ((text_sublist_of_mem hpiece).subset hmem)

theorem names_of_reaches {frame : Frame} (hvalue : ':' ∉ value)
    (h : r.Reaches ⟨[], value⟩ frame) : ':' ∉ frame.value ∧
      ∀ placeholder ∈ frame.visiting, String.ofList placeholder ∈ r.properties.keys := by
  induction h with
  | refl => exact ⟨hvalue, by simp⟩
  | tail _ hopens ih =>
    obtain ⟨hcolon, hnames⟩ := ih
    cases hopens with
    | body hpieces _ => exact ⟨colon_not_mem_of_pieces hpieces hcolon, hnames⟩
    | found hpieces _ hbody _ hfound =>
      have hplaceholder :=
        colon_not_mem_of_expand hvalues hbody (colon_not_mem_of_pieces hpieces hcolon)
      have hentry := Dictionary.mem_entries_of_get? (get?_of_lookup? hplaceholder hfound)
      refine ⟨hvalues _ hentry, ?_⟩
      intro other hother
      rcases List.mem_cons.1 hother with rfl | hother
      · exact List.mem_map_of_mem hentry
      · exact hnames other hother

/-- Where neither the text nor a property holds a default, the expansion ends. -/
theorem finishes_of_colon_not_mem (hvalue : ':' ∉ value) : r.Finishes value := by
  apply finishes_of_finite_replaced
  apply (List.finite_toSet (r.properties.keys.map String.toList)).subset
  rintro placeholder ⟨frame, hreaches, hmem⟩
  have hname := (names_of_reaches hvalues hvalue hreaches).2 placeholder hmem
  exact List.mem_map.2 ⟨_, hname, String.toList_ofList⟩

end Resolver

end RequestRouting.Placeholder
