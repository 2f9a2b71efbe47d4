import RequestRouting.Proofs.Media.Grammar
import RequestRouting.Proofs.Text.Character
import RequestRouting.Proofs.Text.Trimming

/-! What is read, by any reader of the grammar. A text has to spell a media type and meet the
conditions beyond the grammar; types and subtypes are tokens in lower case, the type a star only
before a star. -/
namespace RequestRouting.MediaType

structure IsName (s : String) : Prop where
  nonempty : s.toList ≠ []
  token : ∀ c ∈ s.toList, Text.isTokenChar c = true
  lower : ∀ c ∈ s.toList, c.toLower = c

theorem isName_asciiLower {cs : List Char} (hne : cs ≠ [])
    (htoken : ∀ c ∈ cs, Text.isTokenChar c = true) :
    IsName (Text.asciiLower (String.ofList cs)) where
  nonempty := by simpa [Text.asciiLower] using hne
  token c hc := by
    obtain ⟨d, hd, rfl⟩ : ∃ d ∈ cs, d.toLower = c := by simpa [Text.asciiLower] using hc
    exact Text.isTokenChar_toLower (htoken d hd)
  lower c hc := by
    obtain ⟨d, hd, rfl⟩ : ∃ d ∈ cs, d.toLower = c := by simpa [Text.asciiLower] using hc
    exact Text.toLower_toLower d

theorem IsName.of_subset {s : String} (h : IsName s) {cs : List Char} (hne : cs ≠ [])
    (hcs : cs ⊆ s.toList) : IsName (String.ofList cs) where
  nonempty := by simpa using hne
  token c hc := h.token c (hcs (by simpa using hc))
  lower c hc := h.lower c (hcs (by simpa using hc))

theorem IsName.asciiLower_eq {s : String} (h : IsName s) : Text.asciiLower s = s :=
  Text.asciiLower_eq_self_iff.2 h.lower

variable {read : Reader} {cs : List Char} {mime : Mime} {text : String} {m n : MediaType}

def kept (p : String × String) : String × String := (Text.asciiLower p.1, unquote p.2)

theorem ofMime_eq (mime : Mime) : ofMime mime =
    { ofNames mime.mainType mime.subType with
      parameters := .ofList (mime.parameters.map kept) } := by
  have hall : ∀ (pairs : List (String × String)) (m : MediaType),
      pairs.foldl (fun m p => m.withParameter p.1 p.2) m =
        { m with parameters := m.parameters.insertMany (pairs.map kept) } := by
    intro pairs
    induction pairs with
    | nil => exact fun _ => rfl
    | cons p pairs ih =>
      intro m
      rw [List.foldl_cons, ih]
      rfl
  exact hall _ _

theorem names_of_spellsMedia (h : SpellsMedia cs mime) :
    IsName (ofMime mime).mainType ∧
      ((ofMime mime).subType ≠ "" → IsName (ofMime mime).subType) := by
  rw [ofMime_eq]
  cases h with
  | bare hfilled htypes hsubtypes =>
    refine ⟨isName_asciiLower hfilled htypes, fun hsub => isName_asciiLower ?_ hsubtypes⟩
    rintro rfl
    exact hsub rfl
  | parametric hfilled htypes hsubFilled hsubtypes =>
    exact ⟨isName_asciiLower hfilled htypes, fun _ => isName_asciiLower hsubFilled hsubtypes⟩

structure IsAdmissible (m : MediaType) : Prop where
  filled : m.subType ≠ ""
  star : m.mainType = "*" → m.subType = "*"
  quality : ∀ q, m.parameter? "q" = some q →
    (Number.Binary32.parse? q).any Number.Binary32.isUnitInterval = true

theorem check_eq_ok : check m = .ok n ↔ m = n ∧ m.IsAdmissible := by
  have hstar : (m.isWildcardType && m.subType != "*") = true ↔
      ¬ (m.mainType = "*" → m.subType = "*") := by
    simp [isWildcardType]
  have hadmissible : m.IsAdmissible ↔ m.subType ≠ "" ∧ (m.mainType = "*" → m.subType = "*") ∧
      ∀ q, m.parameter? "q" = some q →
        (Number.Binary32.parse? q).any Number.Binary32.isUnitInterval = true :=
    ⟨fun h => ⟨h.filled, h.star, h.quality⟩, fun h => ⟨h.1, h.2.1, h.2.2⟩⟩
  rw [hadmissible]
  unfold check
  simp only [String.isEmpty_iff, hstar]
  cases hq : m.parameter? "q" with
  | none => grind
  | some q => grind

theorem parseWith_eq_ok : parseWith read text = .ok m ↔
    expandStar (Text.trimChars text.toList) ≠ [] ∧
      (∃ mime, read (expandStar (Text.trimChars text.toList)) = .ok mime ∧ ofMime mime = m) ∧
        m.IsAdmissible := by
  unfold parseWith
  rw [Outcome.mapError_eq_ok]
  split
  · next hempty => simp [List.isEmpty_iff.1 hempty]
  · next hfilled =>
    have hne := mt List.isEmpty_iff.2 hfilled
    cases read (expandStar (Text.trimChars text.toList)) with
    | error stop => simp
    | ok mime =>
      dsimp only
      rw [check_eq_ok]
      simp only [Except.ok.injEq, exists_eq_left']
      constructor
      · rintro ⟨rfl, h⟩
        exact ⟨hne, rfl, h⟩
      · rintro ⟨-, rfl, h⟩
        exact ⟨rfl, h⟩

/-- A text spells what it is taken for. -/
def Means (cs : List Char) (m : MediaType) : Prop := ∃ mime, SpellsMedia cs mime ∧ ofMime mime = m

theorem Grammar.parseWith_eq_ok (hread : Grammar read) : parseWith read text = .ok m ↔
    Means (expandStar (Text.trimChars text.toList)) m ∧ m.IsAdmissible := by
  rw [MediaType.parseWith_eq_ok]
  simp only [hread.spells]
  constructor
  · rintro ⟨-, hmeans, hadmissible⟩
    exact ⟨hmeans, hadmissible⟩
  · rintro ⟨hmeans, hadmissible⟩
    refine ⟨?_, hmeans, hadmissible⟩
    obtain ⟨mime, hspells, -⟩ := hmeans
    intro hempty
    exact hspells.ne_nil hempty

/-- Media types that are read from a text. -/
def ReadBy (read : Reader) (m : MediaType) : Prop := ∃ text, parseWith read text = .ok m

structure WellNamed (m : MediaType) : Prop where
  mainType : IsName m.mainType
  subType : IsName m.subType
  star : m.mainType = "*" → m.subType = "*"

theorem Grammar.wellNamed (hread : Grammar read) (h : m.ReadBy read) : m.WellNamed := by
  obtain ⟨text, h⟩ := h
  obtain ⟨⟨mime, hspells, rfl⟩, hadmissible⟩ := hread.parseWith_eq_ok.1 h
  obtain ⟨hmain, hsub⟩ := names_of_spellsMedia hspells
  exact ⟨hmain, hsub hadmissible.filled, hadmissible.star⟩

theorem expandStar_of_slash {cs : List Char} (h : '/' ∈ cs) : expandStar cs = cs := by
  refine if_neg ?_
  rintro rfl
  contradiction

end RequestRouting.MediaType
