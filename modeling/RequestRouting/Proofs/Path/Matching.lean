import RequestRouting.Path.Capture
import RequestRouting.Proofs.Dictionary
import RequestRouting.Proofs.Path.Reading

/-! What a match says. It gives a value to every variable of the pattern and to nothing else;
without a catch-all there are as many segments as pieces; and where case counts, a literal
pattern matches only the pieces that it spells out. -/
namespace RequestRouting.Path

variable {options : MatchOptions}

theorem map_fst_captureSegments {segments : List Segment} {pieces : List String}
    {entries : List (String × String)} (hlast : CatchAllLast segments)
    (h : captureSegments options segments pieces = some entries) :
    entries.map (·.1) = segments.filterMap Segment.name? := by
  fun_induction captureSegments options segments pieces generalizing entries with
  | case1 name rest pieces =>
    obtain rfl : rest = [] := hlast.1 rfl
    obtain rfl := Option.some.inj h
    cases name <;> rfl
  | case2 =>
    obtain rfl := Option.some.inj h
    rfl
  | case3 => contradiction
  | case4 => contradiction
  | case5 text segments piece pieces _ ih => exact ih hlast.2 h
  | case6 => contradiction
  | case7 name constraint segments piece pieces _ ih =>
    obtain ⟨tail, htail, rfl⟩ := Option.map_eq_some_iff.1 h
    rw [List.map_cons, ih hlast.2 htail]
    rfl
  | case8 => contradiction
  | case9 segments piece pieces ih => exact ih hlast.2 h

theorem length_of_captureSegments {segments : List Segment} {pieces : List String}
    {entries : List (String × String)} (hcatch : segments.any Segment.isCatchAll = false)
    (h : captureSegments options segments pieces = some entries) :
    segments.length = pieces.length := by
  fun_induction captureSegments options segments pieces generalizing entries with
  | case1 => simp [Segment.isCatchAll] at hcatch
  | case2 => rfl
  | case3 => contradiction
  | case4 => contradiction
  | case5 text segments piece pieces _ ih =>
    rw [List.length_cons, List.length_cons, ih (by simpa [Segment.isCatchAll] using hcatch) h]
  | case6 => contradiction
  | case7 name constraint segments piece pieces _ ih =>
    obtain ⟨tail, htail, -⟩ := Option.map_eq_some_iff.1 h
    rw [List.length_cons, List.length_cons,
      ih (by simpa [Segment.isCatchAll] using hcatch) htail]
  | case8 => contradiction
  | case9 segments piece pieces ih =>
    rw [List.length_cons, List.length_cons, ih (by simpa [Segment.isCatchAll] using hcatch) h]

theorem captureSegments_literals_self (pieces : List String) :
    captureSegments options (pieces.map .literal) pieces = some [] := by
  induction pieces with
  | nil => rfl
  | cons piece rest ih =>
    have hself : equalLiteral options piece piece = true := by
      unfold equalLiteral
      split <;> simp
    rw [List.map_cons, captureSegments, if_pos hself, ih]

theorem eq_of_captureSegments_literals (hcase : options.caseSensitive = true)
    {texts pieces : List String} {entries : List (String × String)}
    (h : captureSegments options (texts.map .literal) pieces = some entries) : texts = pieces := by
  induction texts generalizing pieces with
  | nil =>
    cases pieces with
    | nil => rfl
    | cons piece rest => contradiction
  | cons text texts ih =>
    cases pieces with
    | nil => contradiction
    | cons piece rest =>
      rw [List.map_cons, captureSegments] at h
      split at h
      · next heq =>
        have htext : text = piece := by simpa [equalLiteral, hcase] using heq
        rw [htext, ih h]
      · contradiction

namespace Pattern

theorem capture_eq_some {p : Pattern} {path : String} {values : Dictionary String} :
    p.capture options path = some values ↔ slashesAgree p options path = true ∧
      ∃ entries, captureSegments options p.segments (pieces path) = some entries ∧
        Dictionary.ofList entries = values := by
  unfold capture
  split
  · next h => simp [h, Option.map_eq_some_iff]
  · next h => simp [h]

theorem accepts_iff {p : Pattern} {path : String} :
    p.accepts options path = true ↔ slashesAgree p options path = true ∧
      ∃ entries, captureSegments options p.segments (pieces path) = some entries := by
  unfold accepts
  rw [Option.isSome_iff_exists]
  constructor
  · rintro ⟨values, h⟩
    obtain ⟨hslash, entries, hentries, -⟩ := capture_eq_some.1 h
    exact ⟨hslash, entries, hentries⟩
  · rintro ⟨hslash, entries, hentries⟩
    exact ⟨_, capture_eq_some.2 ⟨hslash, entries, hentries, rfl⟩⟩

theorem Parsed.mem_keys_capture {p : Pattern} (hp : p.Parsed) {path : String}
    {values : Dictionary String} (h : p.capture options path = some values) (name : String) :
    name ∈ values.keys ↔ name ∈ p.names := by
  obtain ⟨-, entries, hentries, rfl⟩ := capture_eq_some.1 h
  rw [Dictionary.mem_keys_ofList, map_fst_captureSegments hp.catchAllLast hentries]
  rfl

end Pattern

end RequestRouting.Path
