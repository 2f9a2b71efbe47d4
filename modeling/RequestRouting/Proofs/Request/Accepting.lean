import RequestRouting.Proofs.Media.Listing
import RequestRouting.Proofs.Media.Preference
import RequestRouting.Request.Basic

/-! What a client accepts. All parts of all `Accept` headers have to be read, and what is read from
them, or a star if there is nothing, is ranked by preference. This holds for every reader of media
types. -/
namespace RequestRouting.Request

open MediaType (Reader listParts parseWith readChars IsRanking ReadBy)

variable {read : Reader} {declared : List MediaType} {r : Request}

def acceptParts (r : Request) : List (List Char) :=
  (r.headerValues "accept").flatMap (listParts ·.toList)

def declaredBy (read : Reader) (h : Header) : Except MediaTypeError (List MediaType) :=
  headerText h >>= MediaType.parseListWith read

theorem declaredBy_eq_ok {h : Header} : declaredBy read h = .ok declared ↔
    ∃ text, h.text? = some text ∧
      (listParts text.toList).mapM (fun part => parseWith read (String.ofList part)) =
        .ok declared := by
  unfold declaredBy headerText
  cases h.text? with
  | none => simp [bind, Except.bind]
  | some text => simp [MediaType.parseListWith_eq]

theorem mapM_declaredBy_iff {hs : List Header} :
    (∃ lists, hs.mapM (declaredBy read) = .ok lists ∧ lists.flatten = declared) ↔
      (∀ h ∈ hs, ∃ text, h.text? = some text) ∧
        ((hs.filterMap Header.text?).flatMap (listParts ·.toList)).mapM
          (fun part => parseWith read (String.ofList part)) = .ok declared := by
  induction hs generalizing declared with
  | nil => simp [pure, Except.pure]
  | cons h hs ih =>
    constructor
    · rintro ⟨lists, hlists, rfl⟩
      obtain ⟨first, rest, hfirst, hrest, rfl⟩ := Outcome.mapM_cons_eq_ok.1 hlists
      obtain ⟨text, htext, hparts⟩ := declaredBy_eq_ok.1 hfirst
      obtain ⟨hall, hothers⟩ := ih.1 ⟨rest, hrest, rfl⟩
      refine ⟨List.forall_mem_cons.2 ⟨⟨text, htext⟩, hall⟩, ?_⟩
      rw [List.filterMap_cons_some htext, List.flatMap_cons]
      exact Outcome.mapM_append_eq_ok.2 ⟨_, _, hparts, hothers, List.flatten_cons⟩
    · rintro ⟨hall, hparts⟩
      obtain ⟨⟨text, htext⟩, hall⟩ := List.forall_mem_cons.1 hall
      rw [List.filterMap_cons_some htext, List.flatMap_cons] at hparts
      obtain ⟨first, others, hfirst, hothers, rfl⟩ := Outcome.mapM_append_eq_ok.1 hparts
      obtain ⟨lists, hlists, rfl⟩ := ih.2 ⟨hall, hothers⟩
      refine ⟨first :: lists, Outcome.mapM_cons_eq_ok.2 ⟨first, lists, ?_, hlists, rfl⟩,
        List.flatten_cons⟩
      exact declaredBy_eq_ok.2 ⟨text, htext, hfirst⟩

theorem declaredMediaTypes_eq_ok : r.declaredMediaTypes read = .ok declared ↔
    (∀ h ∈ r.headersNamed "accept", ∃ text, h.text? = some text) ∧
      r.acceptParts.mapM (fun part => parseWith read (String.ofList part)) = .ok declared := by
  rw [acceptParts, headerValues, ← mapM_declaredBy_iff, declaredMediaTypes, Outcome.bind_eq_ok]
  simp only [Outcome.pure_eq_ok]
  rfl

theorem acceptedMediaTypes_eq_error : (∃ e, r.acceptedMediaTypesWith read = .error e) ↔
    (∃ h ∈ r.headersNamed "accept", h.text? = none) ∨
      ∃ part ∈ r.acceptParts, ∃ e, parseWith read (String.ofList part) = .error e := by
  have hok : (∃ accepted, r.acceptedMediaTypesWith read = .ok accepted) ↔
      (∀ h ∈ r.headersNamed "accept", ∃ text, h.text? = some text) ∧
        ∀ part ∈ r.acceptParts, ∃ m, parseWith read (String.ofList part) = .ok m := by
    rw [acceptedMediaTypesWith, Outcome.exists_bind_pure_iff]
    simp only [declaredMediaTypes_eq_ok, exists_and_left, Outcome.exists_mapM_iff]
  rw [Outcome.exists_eq_error_iff, hok, not_and_or]
  simp only [Outcome.exists_eq_error_iff, ← Option.ne_none_iff_exists', not_forall, exists_prop,
    ne_eq, not_not]

theorem isRanking_of_acceptedMediaTypes {accepted : List MediaType}
    (h : r.acceptedMediaTypesWith read = .ok accepted) : ∃ declared,
      List.Forall₂ (fun part m => parseWith read (String.ofList part) = .ok m)
          r.acceptParts declared ∧
        accepted ≠ [] ∧ IsRanking (if declared = [] then [.all] else declared) accepted := by
  obtain ⟨declared, hdeclared, hsort⟩ := Outcome.bind_eq_ok.1 h
  obtain rfl := Outcome.pure_eq_ok.1 hsort
  obtain ⟨-, hparts⟩ := declaredMediaTypes_eq_ok.1 hdeclared
  simp only [List.isEmpty_iff]
  refine ⟨declared, Outcome.mapM_eq_ok_iff.1 hparts, ?_, MediaType.isRanking_sortByPreference ?_⟩
  · rw [MediaType.sortByPreference, ne_eq, Order.sortBy_eq_nil]
    split
    · exact List.cons_ne_nil _ _
    · assumption
  · intro m hm
    split at hm
    · have hall : ReadBy readChars .all := ⟨"*/*", rfl⟩
      rw [List.mem_singleton.1 hm]
      exact hall.isWeighted
    · obtain ⟨part, -, hpart⟩ := Outcome.exists_of_mem_mapM hparts hm
      exact ReadBy.isWeighted ⟨_, hpart⟩

/-- What a client accepts is a ranking of what stands in its headers. Reading fails only for a
header or a part of one that cannot be read. -/
theorem acceptedMediaTypes_faithful (read : Reader) (r : Request) :
    ((∃ e, r.acceptedMediaTypesWith read = .error e) ↔
      (∃ h ∈ r.headersNamed "accept", h.text? = none) ∨
        ∃ part ∈ r.acceptParts, ∃ e, parseWith read (String.ofList part) = .error e) ∧
    (∀ accepted, r.acceptedMediaTypesWith read = .ok accepted → ∃ declared,
      List.Forall₂ (fun part m => parseWith read (String.ofList part) = .ok m)
          r.acceptParts declared ∧
        accepted ≠ [] ∧ IsRanking (if declared = [] then [.all] else declared) accepted) ∧
    (∀ m, ReadBy read m → m.IsWeighted) ∧
    Order.IsTotalPreorderOn (ReadBy read) MediaType.comparePreference :=
  ⟨acceptedMediaTypes_eq_error, fun _ => isRanking_of_acceptedMediaTypes,
    fun _ => ReadBy.isWeighted, MediaType.isTotalPreorderOn_comparePreference read⟩

def pageRequest : Request where
  method := .get
  path := "/"
  headers := [⟨"accept", Text.encodeUtf8 "*/*;q=0.1, text/html"⟩,
    ⟨"accept", Text.encodeUtf8 "text/plain;q=1.0, ,text/html;level=1"⟩]

def html : MediaType := .ofNames "text" "html"

def htmlLevel : MediaType := ⟨"text", "html", .ofList [("level", "1")]⟩

def plainText : MediaType := ⟨"text", "plain", .ofList [("q", "1.0")]⟩

def anything : MediaType := ⟨"*", "*", .ofList [("q", "0.1")]⟩

theorem acceptedMediaTypes_pageRequest :
    pageRequest.acceptedMediaTypes = .ok [htmlLevel, html, plainText, anything] ∧
      IsRanking [anything, html, plainText, htmlLevel] [htmlLevel, html, plainText, anything] ∧
      html.IsWeighted ∧ MediaType.comparePreference html html = .eq := by
  obtain ⟨-, hranked, hweighted, hpreorder⟩ := acceptedMediaTypes_faithful readChars pageRequest
  have haccepted :
      pageRequest.acceptedMediaTypes = .ok [htmlLevel, html, plainText, anything] := by
    rfl
  have hhtml : ReadBy readChars html := ⟨"text/html", by rfl⟩
  obtain ⟨declared, hread, -, hranking⟩ := hranked _ haccepted
  have hdeclared : List.Forall₂ (fun part m => MediaType.parse (String.ofList part) = .ok m)
      pageRequest.acceptParts [anything, html, plainText, htmlLevel] := by
    exact .cons rfl (.cons rfl (.cons rfl (.cons rfl .nil)))
  obtain rfl : declared = [anything, html, plainText, htmlLevel] := by
    rw [← Outcome.mapM_eq_ok_iff] at hread hdeclared
    exact Except.ok.inj (hread.symm.trans hdeclared)
  exact ⟨haccepted, hranking, hweighted _ hhtml, hpreorder.refl _ hhtml⟩

end RequestRouting.Request
