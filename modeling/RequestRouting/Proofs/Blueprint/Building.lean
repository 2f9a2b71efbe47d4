import Mathlib.Data.List.Induction
import RequestRouting.Blueprint.Build
import RequestRouting.Proofs.Outcome
import RequestRouting.Proofs.Table.Consistency

/-! A built table holds the mapping of every method of an accepted type, and nothing else, in the
order in which the methods are met. Building fails at the first method that has no readable
mapping or one whose conditions belong to another handler. -/
namespace RequestRouting

namespace MappingTable

variable {t : MappingTable}

def firstMet : List (Mapping × Handler) → List (Mapping × Handler)
  | [] => []
  | call :: rest => call :: (firstMet rest).filter fun other => !call.1.sameConditions other.1

theorem Consistent.registrations_registerEach (ht : t.Consistent)
    (calls : List (Mapping × Handler)) :
    (t.registerEach calls).registrations = t.registrations ++
      ((firstMet calls).filter fun call => (t.find? call.1).isNone).map registrationOf := by
  induction calls generalizing t with
  | nil => exact (List.append_nil _).symm
  | cons call rest ih =>
    have hnext : (t.registerOrKeep call).Consistent := ht.registerEach [call]
    rw [MappingTable.registerEach, List.foldl_cons, ← MappingTable.registerEach, ih hnext,
      firstMet, List.filter_cons, List.filter_filter]
    cases hfind : t.find? call.1 with
    | some existing =>
      rw [registerOrKeep_of_some hfind]
      -- What has the conditions of the call is not new either.
      have hnew : ∀ other : Mapping × Handler, (t.find? other.1).isNone =
          ((t.find? other.1).isNone && !call.1.sameConditions other.1) := by
        intro other
        cases hsame : call.1.sameConditions other.1 with
        | false => simp
        | true => simp [← find?_congr hsame, hfind]
      simp only [Option.isNone_some, Bool.false_eq_true, if_false, ← hnew]
    | none =>
      rw [registerOrKeep_of_none hfind, registrations_add]
      have hnew : ∀ other : Mapping × Handler, ((t.add call.1 call.2).find? other.1).isNone =
          ((t.find? other.1).isNone && !call.1.sameConditions other.1) := by
        intro other
        rw [ht.find?_add]
        cases call.1.sameConditions other.1 with
        | false => simp
        | true => simp
      simp only [Option.isNone_none, if_true, hnew, List.map_cons, List.append_assoc,
        List.singleton_append]

end MappingTable

namespace Blueprint

open MappingTable (firstMet registrationOf)

variable {b : Blueprint} {hs : List Handler} {e : MappingError}

def walk (b : Blueprint) : List Handler :=
  b.accepted.flatMap fun t => t.methods.map fun m => ⟨t, m⟩

def handlerMapping (b : Blueprint) (h : Handler) : Except MappingError (Option Mapping) :=
  (b.mappingFor h.type h.method).result

def met (b : Blueprint) (hs : List Handler) : List (Mapping × Handler) :=
  hs.filterMap fun h => (b.handlerMapping h).toOption.join.map fun m => (m, h)

/-- Behind these handlers the next one fails: its mapping cannot be read, or its conditions were
first met with another handler. -/
def FailsAt (b : Blueprint) (before : List Handler) (h : Handler) (e : MappingError) : Prop :=
  b.handlerMapping h = .error e ∨
    ∃ m call, b.handlerMapping h = .ok (some m) ∧
      (b.met before).find? (·.1.sameConditions m) = some call ∧ call.2 ≠ h ∧
      e = .ambiguousMapping m.render call.2.qualifiedName h.qualifiedName

def Passes (b : Blueprint) (hs : List Handler) : Prop :=
  ∀ before h, before ++ [h] <+: hs → ∀ e, ¬ b.FailsAt before h e

theorem mem_walk {h : Handler} :
    h ∈ b.walk ↔
      h.type ∈ b.handlerTypes ∧ b.isHandler h.type = true ∧ h.method ∈ h.type.methods := by
  unfold walk accepted
  simp only [List.mem_flatMap, List.mem_filter, List.mem_map]
  constructor
  · rintro ⟨t, ⟨ht, haccepted⟩, m, hm, rfl⟩
    exact ⟨ht, haccepted, hm⟩
  · rintro ⟨ht, haccepted, hm⟩
    exact ⟨h.type, ⟨ht, haccepted⟩, h.method, hm, rfl⟩

theorem mem_met {c : Mapping × Handler} :
    c ∈ b.met hs ↔ c.2 ∈ hs ∧ b.handlerMapping c.2 = .ok (some c.1) := by
  have hread : ∀ (x : Except MappingError (Option Mapping)) (m : Mapping),
      x.toOption.join = some m ↔ x = .ok (some m) := by
    intro x m
    cases x with
    | error e => simp [Except.toOption]
    | ok m' => simp [Except.toOption]
  unfold met
  simp only [List.mem_filterMap, Option.map_eq_some_iff, hread]
  constructor
  · rintro ⟨h, hmem, m, hm, rfl⟩
    exact ⟨hmem, hm⟩
  · rintro ⟨hmem, hm⟩
    exact ⟨c.2, hmem, c.1, hm, rfl⟩

theorem met_append (hs hs' : List Handler) : b.met (hs ++ hs') = b.met hs ++ b.met hs' :=
  List.filterMap_append

theorem met_cons_of_ok {h : Handler} {m : Mapping} (hm : b.handlerMapping h = .ok (some m))
    (hs : List Handler) : b.met (h :: hs) = (m, h) :: b.met hs := by
  unfold met
  rw [List.filterMap_cons, hm]
  rfl

theorem met_cons_of_none {h : Handler} (hm : b.handlerMapping h = .ok none) (hs : List Handler) :
    b.met (h :: hs) = b.met hs := by
  unfold met
  rw [List.filterMap_cons, hm]
  rfl

theorem concat_prefix (before : List Handler) (h : Handler) (after : List Handler) :
    before ++ [h] <+: before ++ h :: after := ⟨after, List.append_assoc _ _ _⟩

theorem passes_nil : b.Passes [] := by
  intro before h hfront
  simp at hfront

theorem passes_concat {h : Handler} :
    b.Passes (hs ++ [h]) ↔ b.Passes hs ∧ ∀ e, ¬ b.FailsAt hs h e := by
  unfold Passes
  simp only [List.prefix_concat_iff]
  constructor
  · intro hpasses
    exact ⟨fun before x hfront => hpasses before x (.inr hfront),
      hpasses hs h (.inl rfl)⟩
  · rintro ⟨hpasses, hlast⟩ before x (heq | hfront)
    · obtain ⟨rfl, hx⟩ := List.append_inj' heq rfl
      rw [List.singleton_inj.1 hx]
      exact hlast
    · exact hpasses before x hfront

def addHandler (b : Blueprint) (t : MappingTable) (h : Handler) :
    Except MappingError MappingTable := (b.addMethod h.type t h.method).result

theorem addHandler_of_error {t : MappingTable} {h : Handler}
    (hm : b.handlerMapping h = .error e) : b.addHandler t h = .error e := by
  unfold addHandler addMethod
  rw [Logged.result_bind, ← handlerMapping, hm]
  rfl

theorem addHandler_of_none {t : MappingTable} {h : Handler}
    (hm : b.handlerMapping h = .ok none) : b.addHandler t h = .ok t := by
  unfold addHandler addMethod
  rw [Logged.result_bind, ← handlerMapping, hm]
  rfl

theorem addHandler_of_some {t : MappingTable} {h : Handler} {m : Mapping}
    (hm : b.handlerMapping h = .ok (some m)) : b.addHandler t h = (t.register m h).result := by
  unfold addHandler addMethod
  rw [Logged.result_bind, ← handlerMapping, hm]
  rfl

theorem result_build :
    b.build.result = b.walk.foldlM b.addHandler (.empty b.config.matchOptions) := by
  have htypes : ∀ (types : List HandlerType) (t : MappingTable),
      (types.foldlM b.addType t).result =
        ((types.filter b.isHandler).flatMap fun t => t.methods.map fun m => ⟨t, m⟩).foldlM
          b.addHandler t := by
    intro types
    induction types with
    | nil => exact fun _ => rfl
    | cons type rest ih =>
      intro t
      rw [List.foldlM_cons, Logged.result_bind]
      simp only [ih]
      unfold addType
      cases haccepted : b.isHandler type with
      | false =>
        rw [List.filter_cons_of_neg (by simp [haccepted])]
        rfl
      | true =>
        rw [List.filter_cons_of_pos haccepted, List.flatMap_cons, List.foldlM_append,
          List.foldlM_map, if_pos rfl, Logged.result_foldlM]
        rfl
  unfold build
  rw [Logged.result_bind, htypes]
  exact bind_pure _

def tableOf (b : Blueprint) (hs : List Handler) : MappingTable :=
  (MappingTable.empty b.config.matchOptions).registerEach (b.met hs)

theorem find?_tableOf (m : Mapping) :
    (b.tableOf hs).find? m =
      ((b.met hs).find? (·.1.sameConditions m)).map registrationOf :=
  (MappingTable.registerEach_consistent b.config.matchOptions (b.met hs)).2.2.2 m

theorem tableOf_concat_of_none {h : Handler} (hm : b.handlerMapping h = .ok none) :
    b.tableOf (hs ++ [h]) = b.tableOf hs := by
  unfold tableOf
  rw [met_append, met_cons_of_none hm]
  exact congrArg _ (List.append_nil _)

theorem tableOf_concat_of_some {h : Handler} {m : Mapping}
    (hm : b.handlerMapping h = .ok (some m)) :
    b.tableOf (hs ++ [h]) = (b.tableOf hs).registerOrKeep (m, h) := by
  unfold tableOf
  rw [met_append, met_cons_of_ok hm]
  exact List.foldl_append

theorem failsAt_of_some {h : Handler} {m : Mapping} {call : Mapping × Handler}
    (hm : b.handlerMapping h = .ok (some m))
    (hcall : (b.met hs).find? (·.1.sameConditions m) = some call) :
    b.FailsAt hs h e ↔
      call.2 ≠ h ∧ e = .ambiguousMapping m.render call.2.qualifiedName h.qualifiedName := by
  constructor
  · rintro (herror | ⟨m', call', hm', hcall', hother, rfl⟩)
    · rw [hm] at herror
      cases herror
    · obtain rfl := Option.some.inj (Except.ok.inj (hm.symm.trans hm'))
      obtain rfl := Option.some.inj (hcall.symm.trans hcall')
      exact ⟨hother, rfl⟩
  · rintro ⟨hother, rfl⟩
    exact .inr ⟨m, call, hm, hcall, hother, rfl⟩

theorem addHandler_cases (b : Blueprint) (hs : List Handler) (h : Handler) :
    (∃ e, b.addHandler (b.tableOf hs) h = .error e ∧ ∀ e', b.FailsAt hs h e' ↔ e' = e) ∨
      (b.addHandler (b.tableOf hs) h = .ok (b.tableOf (hs ++ [h])) ∧
        ∀ e, ¬ b.FailsAt hs h e) := by
  cases hm : b.handlerMapping h with
  | error e =>
    refine .inl ⟨e, addHandler_of_error hm, fun e' => ?_⟩
    simp [FailsAt, hm, eq_comm]
  | ok mapping =>
    cases mapping with
    | none =>
      rw [addHandler_of_none hm, tableOf_concat_of_none hm]
      exact .inr ⟨rfl, fun e => by simp [FailsAt, hm]⟩
    | some m =>
      rw [addHandler_of_some hm, tableOf_concat_of_some hm]
      cases hcall : (b.met hs).find? (·.1.sameConditions m) with
      | none =>
        have hfind : (b.tableOf hs).find? m = none := by
          rw [find?_tableOf, hcall, Option.map_none]
        have hkeep : (b.tableOf hs).registerOrKeep (m, h) = (b.tableOf hs).add m h :=
          MappingTable.registerOrKeep_of_none hfind
        rw [MappingTable.result_register_of_none hfind, hkeep]
        exact .inr ⟨rfl, fun e => by simp [FailsAt, hm, hcall]⟩
      | some call =>
        have hfind : (b.tableOf hs).find? m = some (registrationOf call) := by
          rw [find?_tableOf, hcall, Option.map_some]
        have hkeep : (b.tableOf hs).registerOrKeep (m, h) = b.tableOf hs :=
          MappingTable.registerOrKeep_of_some hfind
        rw [MappingTable.result_register_of_some hfind, hkeep]
        by_cases hhandler : call.2 = h
        · refine .inr ⟨if_pos hhandler, fun e hfails => ?_⟩
          exact ((failsAt_of_some hm hcall).1 hfails).1 hhandler
        · refine .inl ⟨_, if_neg hhandler, fun e => ?_⟩
          rw [failsAt_of_some hm hcall]
          exact and_iff_right hhandler

theorem foldlM_addHandler_eq_ok {t : MappingTable} :
    hs.foldlM b.addHandler (.empty b.config.matchOptions) = .ok t ↔
      b.Passes hs ∧ t = b.tableOf hs := by
  -- the table is filled from left to right, so the last handler is taken off
  induction hs using List.reverseRecOn generalizing t with
  | nil =>
    rw [List.foldlM_nil, Outcome.pure_eq_ok]
    exact ⟨fun h => ⟨passes_nil, h.symm⟩, fun h => h.2.symm⟩
  | append_singleton hs h ih =>
    rw [List.foldlM_append, Outcome.bind_eq_ok, passes_concat]
    simp only [ih, List.foldlM_cons, List.foldlM_nil, bind_pure]
    rcases addHandler_cases b hs h with ⟨e, hstep, hfails⟩ | ⟨hstep, hpasses⟩
    · constructor
      · rintro ⟨s, ⟨-, rfl⟩, hs⟩
        rw [hstep] at hs
        cases hs
      · rintro ⟨⟨-, hnone⟩, -⟩
        exact absurd ((hfails e).2 rfl) (hnone e)
    · constructor
      · rintro ⟨s, ⟨hbefore, rfl⟩, hs⟩
        rw [hstep] at hs
        exact ⟨⟨hbefore, hpasses⟩, (Except.ok.inj hs).symm⟩
      · rintro ⟨⟨hbefore, -⟩, rfl⟩
        exact ⟨_, ⟨hbefore, rfl⟩, hstep⟩

theorem result_build_eq_ok {t : MappingTable} :
    b.build.result = .ok t ↔ b.Passes b.walk ∧ t = b.tableOf b.walk := by
  rw [result_build, foldlM_addHandler_eq_ok]

theorem result_build_eq_error :
    b.build.result = .error e ↔
      ∃ before h, before ++ [h] <+: b.walk ∧ b.Passes before ∧ b.FailsAt before h e := by
  rw [result_build, Outcome.foldlM_eq_error]
  simp only [foldlM_addHandler_eq_ok]
  constructor
  · rintro ⟨before, h, t, hfront, ⟨hpasses, rfl⟩, hstep⟩
    refine ⟨before, h, hfront, hpasses, ?_⟩
    rcases addHandler_cases b before h with ⟨e', hstep', hfails⟩ | ⟨hstep', -⟩
    · rw [hstep'] at hstep
      exact (hfails e).2 (Except.error.inj hstep).symm
    · rw [hstep'] at hstep
      cases hstep
  · rintro ⟨before, h, hfront, hpasses, hfails⟩
    refine ⟨before, h, _, hfront, ⟨hpasses, rfl⟩, ?_⟩
    rcases addHandler_cases b before h with ⟨e', hstep, hiff⟩ | ⟨-, hnone⟩
    · rw [hstep, (hiff e).1 hfails]
    · exact absurd hfails (hnone e)

theorem Passes.find?_tableOf (hpasses : b.Passes hs) {h : Handler} (hh : h ∈ hs) {m : Mapping}
    (hm : b.handlerMapping h = .ok (some m)) :
    ∃ reg, (b.tableOf hs).find? m = some reg ∧ reg.handler = h := by
  obtain ⟨before, after, rfl⟩ := List.append_of_mem hh
  have hhere : b.met (before ++ h :: after) = b.met before ++ (m, h) :: b.met after := by
    rw [met_append, met_cons_of_ok hm]
  rw [Blueprint.find?_tableOf, hhere, List.find?_append]
  cases hcall : (b.met before).find? (·.1.sameConditions m) with
  | none =>
    rw [Option.none_or, List.find?_cons_of_pos (by exact m.sameConditions_self)]
    exact ⟨_, rfl, rfl⟩
  | some call =>
    refine ⟨_, rfl, ?_⟩
    by_contra hother
    refine hpasses before h ?_ _ (.inr ⟨m, call, hm, hcall, hother, rfl⟩)
    exact concat_prefix before h after

theorem exists_result_build_eq_error :
    (∃ e, b.build.result = .error e) ↔
      (∃ h ∈ b.walk, ∃ e, b.handlerMapping h = .error e) ∨
        ∃ c ∈ b.met b.walk, ∃ d ∈ b.met b.walk, c.1.sameConditions d.1 = true ∧ c.2 ≠ d.2 := by
  constructor
  · rintro ⟨e, he⟩
    obtain ⟨before, h, hfront, -, hfails⟩ := result_build_eq_error.1 he
    have hh : h ∈ b.walk := hfront.subset (by simp)
    rcases hfails with hm | ⟨m, call, hm, hcall, hother, -⟩
    · exact .inl ⟨h, hh, e, hm⟩
    · have hmet := mem_met.1 (List.mem_of_find?_eq_some hcall)
      refine .inr ⟨call, mem_met.2 ⟨?_, hmet.2⟩, (m, h), mem_met.2 ⟨hh, hm⟩, ?_, hother⟩
      · exact hfront.subset (List.mem_append_left _ hmet.1)
      · have hsame := List.find?_some hcall
        exact hsame
  · intro hcause
    -- were a table built, none of the handlers would have failed
    cases hbuild : b.build.result with
    | error e => exact ⟨e, rfl⟩
    | ok t =>
      obtain ⟨hpasses, -⟩ := result_build_eq_ok.1 hbuild
      rcases hcause with ⟨h, hh, e, hm⟩ | ⟨c, hc, d, hd, hsame, hother⟩
      · obtain ⟨before, after, hwalk⟩ := List.append_of_mem hh
        refine absurd (.inl hm) (hpasses before h ?_ e)
        rw [hwalk]
        exact concat_prefix before h after
      · obtain ⟨hcmem, hcm⟩ := mem_met.1 hc
        obtain ⟨hdmem, hdm⟩ := mem_met.1 hd
        obtain ⟨reg, hreg, hregc⟩ := hpasses.find?_tableOf hcmem hcm
        obtain ⟨reg', hreg', hregd⟩ := hpasses.find?_tableOf hdmem hdm
        rw [MappingTable.find?_congr hsame, hreg'] at hreg
        rw [← hregc, ← hregd, Option.some.inj hreg] at hother
        exact absurd rfl hother

/-- Building loses no mapping and makes up none. -/
theorem build_spec (b : Blueprint) :
    (∀ t, b.build.result = .ok t →
      (∀ type ∈ b.handlerTypes, b.isHandler type = true → ∀ method ∈ type.methods, ∀ m,
        (b.mappingFor type method).result = .ok (some m) →
          ∃ reg, t.find? m = some reg ∧ reg.handler = ⟨type, method⟩) ∧
      t.registrations = (firstMet (b.met b.walk)).map registrationOf ∧
      t.registrations.Pairwise fun r s => r.mapping.sameConditions s.mapping = false) ∧
    (∀ e, b.build.result = .error e ↔
      ∃ before h, before ++ [h] <+: b.walk ∧ b.Passes before ∧ b.FailsAt before h e) ∧
    ((∃ e, b.build.result = .error e) ↔
      (∃ h ∈ b.walk, ∃ e, b.handlerMapping h = .error e) ∨
        ∃ c ∈ b.met b.walk, ∃ d ∈ b.met b.walk, c.1.sameConditions d.1 = true ∧ c.2 ≠ d.2) := by
  refine ⟨?_, fun e => result_build_eq_error, exists_result_build_eq_error⟩
  intro t ht
  obtain ⟨hpasses, rfl⟩ := result_build_eq_ok.1 ht
  have hempty := MappingTable.consistent_empty b.config.matchOptions
  refine ⟨?_, ?_, (hempty.registerEach _).distinct⟩
  · intro type htype haccepted method hmethod m hm
    exact hpasses.find?_tableOf (mem_walk.2 ⟨htype, haccepted, hmethod⟩) hm
  · have hnone : ∀ m, ((MappingTable.empty b.config.matchOptions).find? m).isNone = true :=
      fun _ => rfl
    rw [tableOf, hempty.registrations_registerEach, List.filter_eq_self.2 fun _ _ => hnone _]
    rfl

def showUser : HandlerMethod where
  name := "show"
  tags := [Tag.shorthand "GetMapping" "/\x7bid\x7d"]

def users : HandlerType where
  name := "Users"
  tags := [Tag.restController, Tag.requestMapping.set "value" (.texts ["/users"])]
  methods := [{ name := "helper" }, showUser]

theorem build_users :
    ∃ t m reg, ({ handlerTypes := [users] } : Blueprint).build.result = .ok t ∧
      t.find? m = some reg ∧ reg.handler = ⟨users, showUser⟩ := by
  have hbuild : (({ handlerTypes := [users] } : Blueprint).build.result.map (·.size)) = .ok 1 := by
    decide +kernel
  have hmapping : (({ handlerTypes := [users] } : Blueprint).mappingFor users showUser).result.map
      (·.map fun m => m.paths.texts) = .ok (some ["/users/\x7bid\x7d"]) := by
    decide +kernel
  obtain ⟨t, ht, -⟩ := Outcome.map_eq_ok.1 hbuild
  obtain ⟨m?, hm, hsome⟩ := Outcome.map_eq_ok.1 hmapping
  obtain ⟨m, rfl, -⟩ := Option.map_eq_some_iff.1 hsome
  obtain ⟨reg, hreg, hhandler⟩ := ((build_spec _).1 t ht).1 users List.mem_cons_self rfl showUser
    (by decide) m hm
  exact ⟨t, m, reg, ht, hreg, hhandler⟩

end Blueprint

end RequestRouting
