import RequestRouting.Proofs.Tag.Carrying
import RequestRouting.Proofs.Tag.FirstResult
import RequestRouting.Proofs.Tag.Overriding

/-! Following carried tags through the whole registry. Merging a tag goes from its type to the
types of the tags that it carries, wherever these stand in the registry; it comes to an end because
every step leads to an earlier registration. -/
namespace RequestRouting

namespace TagRegistry

variable {r : TagRegistry} {types earlier : List TagType} {t : TagType} {tag : Tag}
  {target : String}

theorem mergeIn_cons_of_ne (h : t.name ≠ tag.name) :
    mergeIn (t :: earlier) tag target = mergeIn earlier tag target := by
  rw [mergeIn, if_neg h]

theorem mergeIn_of_find?_eq_none (h : find? types tag.name = none) :
    mergeIn types tag target = .ok none := by
  induction types with
  | nil => rfl
  | cons t earlier ih =>
    rw [find?_cons] at h
    split at h
    · contradiction
    · next hne => rw [mergeIn_cons_of_ne hne, ih h]

def mergeCarried (r : TagRegistry) (target : String) (t : TagType) (tag carriedTag : Tag) :
    Except MappingError (Option AttributeMap) := do
  if r.isOrCarries carriedTag.name target then
    let c ← t.carried (r.get? carriedTag.name) tag carriedTag
    r.merge c target
  else return none

theorem BuiltUp.merge_eq (h : BuiltUp r.types) (hfind : r.get? tag.name = some t) :
    r.merge tag target = (do
      t.checkDeclared tag
      if t.name = target then return some (← t.ownAttributes tag)
      else firstResult (r.mergeCarried target t tag) t.metas) := by
  obtain ⟨earlier, hs, hself, -⟩ := h.exists_earlier hfind
  have hown : r.merge tag target = mergeIn (t :: earlier) tag target :=
    (h.eq_of_suffix (f := (mergeIn · tag target)) (fun _ _ => mergeIn_cons_of_ne) hs hself).1
  rw [hown, mergeIn, if_pos (name_of_find? hfind)]
  congr 1
  funext _
  split
  · rfl
  · -- carried tags are of earlier types, and these look the same among all types
    apply firstResult_congr
    intro carriedTag hmem
    have hcarries : isOrCarriesIn r.types carriedTag.name target =
        isOrCarriesIn earlier carriedTag.name target :=
      h.eq_of_mem_metas (f := (isOrCarriesIn · carriedTag.name target))
        (fun _ _ => isOrCarriesIn_cons_of_ne) hs hmem
    have htype : find? r.types carriedTag.name = find? earlier carriedTag.name :=
      h.eq_of_mem_metas (f := (find? · carriedTag.name)) (fun _ _ => find?_cons_of_ne) hs hmem
    unfold mergeCarried isOrCarries get?
    rw [hcarries, htype]
    split
    · cases hc : t.carried (find? earlier carriedTag.name) tag carriedTag with
      | error e => rfl
      | ok c =>
        have hname : c.name = carriedTag.name := TagType.name_carried hc
        have hmerge : r.merge c target = mergeIn earlier c target :=
          h.eq_of_mem_metas (f := (mergeIn · c target))
            (fun _ _ hne => mergeIn_cons_of_ne (hname ▸ hne)) hs hmem
        exact hmerge.symm
    · rfl

/-- `isOrCarries` as a search through the whole registry. There is no answer where carried tags are
followed to more than a depth. -/
def isOrCarriesWithin (r : TagRegistry) (target : String) : Nat → String → Option Bool
  | 0, _ => none
  | depth + 1, name =>
    if name = target then some true
    else match r.get? name with
      | none => some false
      | some t => t.metas.anyM fun tag => r.isOrCarriesWithin target depth tag.name

def firstAnswer {ε α β : Type} (f : α → Option (Except ε (Option β))) :
    List α → Option (Except ε (Option β))
  | [] => some (.ok none)
  | x :: xs => do
    match ← f x with
    | .ok none => firstAnswer f xs
    | answer => some answer

def mergeWithin (r : TagRegistry) (target : String) :
    Nat → Tag → Option (Except MappingError (Option AttributeMap))
  | 0, _ => none
  | depth + 1, tag =>
    match r.get? tag.name with
    | none => some (.ok none)
    | some t =>
      match t.checkDeclared tag with
      | .error e => some (.error e)
      | .ok () =>
        if t.name = target then some ((t.ownAttributes tag).map some)
        else firstAnswer (fun carriedTag => do
          if ← r.isOrCarriesWithin target depth carriedTag.name then
            match t.carried (r.get? carriedTag.name) tag carriedTag with
            | .error e => some (.error e)
            | .ok c => r.mergeWithin target depth c
          else some (.ok none)) t.metas

theorem anyM_eq_some {α : Type} {f : α → Option Bool} {g : α → Bool} {xs : List α}
    (h : ∀ x ∈ xs, f x = some (g x)) : xs.anyM f = some (xs.any g) := by
  induction xs with
  | nil => rfl
  | cons x xs ih =>
    have hrest := ih fun y hy => h y (List.mem_cons_of_mem x hy)
    rw [List.anyM, h x List.mem_cons_self, hrest, List.any_cons]
    cases g x <;> rfl

theorem firstAnswer_eq_some {ε α β : Type} {f : α → Option (Except ε (Option β))}
    {g : α → Except ε (Option β)} {xs : List α} (h : ∀ x ∈ xs, f x = some (g x)) :
    firstAnswer f xs = some (firstResult g xs) := by
  induction xs with
  | nil => rfl
  | cons x xs ih =>
    have hrest := ih fun y hy => h y (List.mem_cons_of_mem x hy)
    rw [firstAnswer, h x List.mem_cons_self, hrest, firstResult]
    rcases g x with e | _ | y
    · rfl
    · rfl
    · rfl

/-- The types that are followed on one way have lower and lower ranks. -/
theorem BuiltUp.isOrCarriesWithin_eq (h : BuiltUp r.types) (target : String) {depth : Nat}
    {name : String} (hdepth : rank r.types name < depth) :
    r.isOrCarriesWithin target depth name = some (r.isOrCarries name target) := by
  induction depth generalizing name with
  | zero => contradiction
  | succ depth ih =>
    rw [isOrCarriesWithin, isOrCarries, h.isOrCarriesIn_eq]
    by_cases hname : name = target
    · simp [hname]
    · rw [if_neg hname, beq_false_of_ne hname, Bool.false_or]
      unfold get?
      cases hfind : find? r.types name with
      | none => rfl
      | some t =>
        rw [Option.any_some]
        apply anyM_eq_some
        intro tag htag
        have hlt := h.rank_lt hfind htag
        exact ih (by omega)

theorem BuiltUp.mergeWithin_eq (h : BuiltUp r.types) (target : String) {depth : Nat} {tag : Tag}
    (hdepth : rank r.types tag.name < depth) :
    r.mergeWithin target depth tag = some (r.merge tag target) := by
  induction depth generalizing tag with
  | zero => contradiction
  | succ depth ih =>
    rw [mergeWithin]
    cases hfind : r.get? tag.name with
    | none =>
      rw [merge, mergeIn_of_find?_eq_none hfind]
    | some t =>
      rw [h.merge_eq hfind]
      dsimp only
      cases t.checkDeclared tag with
      | error e => rfl
      | ok _ =>
        dsimp only
        split
        · cases t.ownAttributes tag <;> rfl
        · show _ = some (firstResult (r.mergeCarried target t tag) t.metas)
          apply firstAnswer_eq_some
          intro carriedTag hmem
          have hlt := h.rank_lt hfind hmem
          have hcarried : rank r.types carriedTag.name < depth := by omega
          rw [h.isOrCarriesWithin_eq target hcarried]
          unfold mergeCarried
          cases r.isOrCarries carriedTag.name target with
          | false => rfl
          | true =>
            cases hc : t.carried (r.get? carriedTag.name) tag carriedTag with
            | error e => rfl
            | ok c =>
              have hname : c.name = carriedTag.name := TagType.name_carried hc
              rw [← hname] at hcarried
              exact ih hcarried

/-- What a call to register a type does: it fails and changes nothing, or it adds the type under a
new name and leaves all others as they are. -/
def RegistersOrKeeps (r : TagRegistry) (t : TagType) : Prop :=
  (∃ fault, (r.register t).result = .error (.definition t.name fault)) ∧ r.registerOrKeep t = r ∨
    r.get? t.name = none ∧ (r.register t).result = .ok (r.registerOrKeep t) ∧
      ∀ name, (r.registerOrKeep t).get? name = if t.name = name then some t else r.get? name

/-- Types refer to registered types only, and never to themselves through others. Searches through
the registry end within as many steps as there are types, and find what can be reached. -/
structure Grounded (r : TagRegistry) : Prop where
  metas : ∀ name t, r.get? name = some t → ∀ tag ∈ t.metas, ∃ u, r.get? tag.name = some u ∧
    ∀ attr ∈ tag.attrs.keys, u.declares attr = true
  aliases : ∀ name t, r.get? name = some t → ∀ a ∈ t.aliases,
    t.declares a.attr = true ∧ r.HasTarget t a
  acyclic : WellFounded fun other name => r.Carries name other
  registers : ∀ t, r.RegistersOrKeeps t
  isOrCarries_iff : ∀ name target,
    r.isOrCarries name target = true ↔ Relation.ReflTransGen r.Carries name target
  isOrCarries_ends : ∀ depth name target, r.types.length < depth →
    r.isOrCarriesWithin target depth name = some (r.isOrCarries name target)
  merge_ends : ∀ depth tag target, r.types.length < depth →
    r.mergeWithin target depth tag = some (r.merge tag target)

theorem registersOrKeeps (r : TagRegistry) (t : TagType) : r.RegistersOrKeeps t := by
  cases hfault : r.fault? t with
  | some fault =>
    exact .inl ⟨⟨fault, result_register_of_fault hfault⟩, registerOrKeep_of_fault hfault⟩
  | none =>
    have hfits := fault?_eq_none_iff.1 hfault
    refine .inr ⟨hfits.new, ?_, ?_⟩
    · rw [registerOrKeep_of_fits hfits, result_register_of_fits hfits]
    · rw [registerOrKeep_of_fits hfits]
      exact find?_cons t r.types

theorem BuiltUp.aliases (h : BuiltUp r.types) {name : String} (hfind : r.get? name = some t)
    {a : Alias} (ha : a ∈ t.aliases) : t.declares a.attr = true ∧ r.HasTarget t a := by
  obtain ⟨earlier, hs, -, hfits⟩ := h.exists_earlier hfind
  obtain ⟨hdeclares, htarget⟩ := hfits.aliases a ha
  refine ⟨hdeclares, ?_⟩
  rcases htarget with hown | ⟨hother, ⟨tag, htag, hname⟩, u, hu, hattr⟩
  · exact .inl hown
  · refine .inr ⟨hother, ⟨tag, htag, hname⟩, u, ?_, hattr⟩
    have hsame : r.get? tag.name = find? earlier tag.name :=
      h.eq_of_mem_metas (f := (find? · tag.name)) (fun _ _ => find?_cons_of_ne) hs htag
    rw [← hname, hsame, hname]
    exact hu

theorem BuiltUp.grounded (h : BuiltUp r.types) : r.Grounded where
  metas _ _ hfind _ htag := h.exists_of_mem_metas hfind htag
  aliases _ _ hfind _ ha := h.aliases hfind ha
  acyclic := h.wellFounded_carries
  registers := r.registersOrKeeps
  isOrCarries_iff := h.isOrCarries_iff_reflTransGen
  isOrCarries_ends _ name target hdepth :=
    h.isOrCarriesWithin_eq target (Nat.lt_of_le_of_lt (rank_le_length r.types name) hdepth)
  merge_ends _ tag target hdepth :=
    h.mergeWithin_eq target (Nat.lt_of_le_of_lt (rank_le_length r.types tag.name) hdepth)

/-- After any calls, successful or not, on an empty or a builtin registry. -/
theorem registerEach_grounded (types : List TagType) :
    (empty.registerEach types).Grounded ∧ (builtin.registerEach types).Grounded := by
  have hempty : (empty.registerEach types).Reachable := ⟨types, .inl rfl⟩
  have hbuiltin : (builtin.registerEach types).Reachable := ⟨types, .inr rfl⟩
  exact ⟨hempty.builtUp.grounded, hbuiltin.builtUp.grounded⟩

end TagRegistry

end RequestRouting
