import RequestRouting.Proofs.Path.Capturing
import RequestRouting.Proofs.Text.Splitting

/-! What the options of matching are good for. Options that allow for more keep every match with
its values. One more slash at the end of a path makes no difference where it is allowed for, and
rules every path out where it is not, unless the pattern asks for it or has a catch-all. -/
namespace RequestRouting.Path

/-- At most the slash at the end becomes allowed and the case of letters stops to count. -/
structure MatchOptions.RelaxesTo (strict lax : MatchOptions) : Prop where
  trailingSlash : strict.trailingSlash = true → lax.trailingSlash = true
  caseSensitive : lax.caseSensitive = true → strict.caseSensitive = true

section Relaxing

variable {strict lax : MatchOptions} (h : strict.RelaxesTo lax)
include h

theorem Segment.Fits.relax {segment : Segment} {piece : String}
    (hfits : segment.Fits strict piece) : segment.Fits lax piece := by
  cases segment with
  | literal text =>
    rcases hfits with rfl | ⟨hcase, hequal⟩
    · exact .inl rfl
    · refine .inr ⟨?_, hequal⟩
      rw [← Bool.not_eq_true]
      intro hlax
      rw [h.caseSensitive hlax] at hcase
      contradiction
  | param _ _ | wildcard | catchAll _ => exact hfits

theorem captureSegments_relax {segments : List Segment} {pieces : List String}
    {entries : List (String × String)}
    (hentries : captureSegments strict segments pieces = some entries) :
    captureSegments lax segments pieces = some entries := by
  induction segments generalizing pieces entries with
  | nil => cases pieces <;> exact hentries
  | cons segment segments ih =>
    cases hcatch : segment.isCatchAll with
    | true =>
      obtain ⟨name, rfl⟩ := catchAll_of_isCatchAll hcatch
      exact hentries
    | false =>
      obtain ⟨piece, rest, tail, rfl, hfits, htail, rfl⟩ :=
        (captureSegments_cons_eq_some hcatch).1 hentries
      exact (captureSegments_cons_eq_some hcatch).2
        ⟨piece, rest, tail, rfl, hfits.relax h, ih htail, rfl⟩

theorem slashesAgree_relax {p : Pattern} {path : String}
    (hslash : slashesAgree p strict path = true) : slashesAgree p lax path = true := by
  rw [slashesAgree_iff] at hslash ⊢
  refine ⟨hslash.1, fun hpattern hcatch hlax => hslash.2 hpattern hcatch ?_⟩
  rw [← Bool.not_eq_true] at hlax ⊢
  exact mt h.trailingSlash hlax

end Relaxing

theorem pieces_append_slash (path : String) : pieces (path ++ "/") = pieces path := by
  have hslash : "/".toList = ['/'] := rfl
  unfold pieces pieceChars
  rw [String.toList_append, hslash, Text.splitAll_concat, List.filter_append]
  simp

theorem slashesAgree_of_trailingSlash {p : Pattern} {options : MatchOptions}
    (hpattern : p.trailingSlash = false) (hoptions : options.trailingSlash = true)
    (path : String) : slashesAgree p options path = true := by
  simp [slashesAgree, hpattern, hoptions]

namespace Pattern

/-- Relaxed options keep every match and its values. With slashes at the end allowed for, one more
of them in the path changes nothing for a pattern without; with none allowed for, no path with a
slash at the end fits a pattern that neither has one nor ends in a catch-all. -/
theorem capture_relaxed (p : Pattern) (path : String) :
    (∀ strict lax values, strict.RelaxesTo lax → p.capture strict path = some values →
      p.capture lax path = some values) ∧
    (∀ options : MatchOptions, options.trailingSlash = true → p.trailingSlash = false →
      p.capture options (path ++ "/") = p.capture options path) ∧
    ∀ options : MatchOptions, options.trailingSlash = false → p.trailingSlash = false →
      p.hasCatchAll = false → HasEndSlash path → p.capture options path = none := by
  refine ⟨?_, ?_, ?_⟩
  · intro strict lax values h hcapture
    obtain ⟨hslash, entries, hentries, hvalues⟩ := capture_eq_some.1 hcapture
    exact capture_eq_some.2
      ⟨slashesAgree_relax h hslash, entries, captureSegments_relax h hentries, hvalues⟩
  · intro options hoptions hpattern
    have hagree := slashesAgree_of_trailingSlash hpattern hoptions
    rw [capture, capture, if_pos (hagree _), if_pos (hagree _), pieces_append_slash]
  · intro options hoptions hpattern hcatch hpath
    rw [capture, if_neg]
    intro hslash
    exact (slashesAgree_iff.1 hslash).2 hpattern hcatch hoptions hpath

theorem capture_relaxed_user :
    ∃ p, parse "/Users/\x7bid\x7d" = .ok p ∧
      p.capture ⟨true, false⟩ "/Users/7" = some (.ofList [("id", "7")]) ∧
      p.capture ⟨true, false⟩ "/users/7/" = p.capture ⟨true, false⟩ "/users/7" ∧
      p.capture ⟨false, false⟩ "/users/7/" = none := by
  have hparse : parse "/Users/\x7bid\x7d" =
      .ok ⟨"/Users/\x7bid\x7d", [.literal "Users", .param "id" .any]⟩ := by rfl
  refine ⟨_, hparse, ?_, ?_, ?_⟩
  · exact (capture_relaxed _ "/Users/7").1 ⟨false, true⟩ ⟨true, false⟩ _
      ⟨fun _ => rfl, fun h => absurd h (by decide)⟩ (by decide)
  · exact (capture_relaxed _ "/users/7").2.1 ⟨true, false⟩ rfl (by decide)
  · exact (capture_relaxed _ "/users/7/").2.2 ⟨false, false⟩ rfl (by decide) (by decide)
      ⟨by decide, by decide⟩

end Pattern

end RequestRouting.Path
