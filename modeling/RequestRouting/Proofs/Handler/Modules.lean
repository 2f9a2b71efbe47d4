import RequestRouting.Handler.Basic
import RequestRouting.Proofs.Text.Splitting

/-! Modules of handler types. A module is written as the names on the way to it with `::` between
them, and a base may have separators behind it. Main statement: a type lies in a base module exactly
if the names of its own module begin with those of the base, name by name. -/
namespace RequestRouting

def IsModuleName (name : List Char) : Prop := name ≠ [] ∧ ':' ∉ name

instance : DecidablePred IsModuleName := fun name =>
  inferInstanceAs (Decidable (name ≠ [] ∧ ':' ∉ name))

section Separators

variable {cs ds : List Char}

theorem trimSeparators_append (cs : List Char) :
    trimSeparators (cs ++ [':', ':']) = trimSeparators cs := by
  rw [trimSeparators, List.reverse_append]
  rfl

theorem trimSeparators_append_replicate (cs : List Char) (k : Nat) :
    trimSeparators (cs ++ (List.replicate k [':', ':']).flatten) = trimSeparators cs := by
  induction k with
  | zero => simp
  | succ k ih =>
    rw [List.replicate_succ', List.flatten_concat, ← List.append_assoc, trimSeparators_append, ih]

theorem trimSeparators_eq_self (h : cs.getLast? ≠ some ':') : trimSeparators cs = cs := by
  rw [trimSeparators, trimSeparators.go, List.reverse_reverse]
  intro front hfront
  apply h
  rw [← List.head?_reverse, hfront]
  rfl

theorem append_isPrefix_append_iff (h : cs.getLast? ≠ some ':') :
    ds ++ [':', ':'] <+: cs ++ [':', ':'] ↔ cs = ds ∨ ds ++ [':', ':'] <+: cs := by
  have hcut : cs ++ [':', ':'] = cs ++ [':'] ++ [':'] := by simp
  have hlast : ds ++ [':', ':'] ≠ cs ++ [':'] := by
    intro heq
    apply h
    have hcs : ds ++ [':'] = cs := by
      rw [List.append_cons] at heq
      exact List.append_cancel_right heq
    rw [← hcs, List.getLast?_concat]
  rw [hcut, List.prefix_concat_iff, List.prefix_concat_iff, or_iff_right hlast, ← hcut,
    List.append_cancel_right_eq, eq_comm]

theorem isModuleWithin_iff {modulePath base : List Char} :
    isModuleWithin modulePath base = true ↔
      modulePath = trimSeparators base ∨ trimSeparators base ++ [':', ':'] <+: modulePath := by
  rw [isModuleWithin, Bool.or_eq_true, beq_iff_eq, List.isPrefixOf_iff_prefix]

end Separators

section Names

variable {names base : List (List Char)}

def terminated (names : List (List Char)) : List Char := names.flatMap (· ++ [':', ':'])

theorem terminated_cons (name : List Char) (names : List (List Char)) :
    terminated (name :: names) = name ++ ':' :: ':' :: terminated names := by
  simp [terminated]

theorem terminated_eq (h : names ≠ []) :
    terminated names = [':', ':'].intercalate names ++ [':', ':'] := by
  induction names with
  | nil => contradiction
  | cons name names ih =>
    cases names with
    | nil => simp [terminated]
    | cons next names =>
      rw [List.intercalate_cons_cons, List.append_assoc, ← ih (List.cons_ne_nil _ _)]
      rfl

theorem terminated_isPrefix_iff (hbase : ∀ name ∈ base, ':' ∉ name)
    (hnames : ∀ name ∈ names, ':' ∉ name) :
    terminated base <+: terminated names ↔ base <+: names := by
  induction base generalizing names with
  | nil => simp [terminated]
  | cons name base ih =>
    cases names with
    | nil => simp [terminated]
    | cons name' names =>
      obtain ⟨hname, hbase⟩ := List.forall_mem_cons.1 hbase
      obtain ⟨hname', hnames⟩ := List.forall_mem_cons.1 hnames
      rw [terminated_cons, terminated_cons, Text.append_sep_isPrefix_iff hname hname',
        List.prefix_cons_inj, ih hbase hnames, List.cons_prefix_cons]

theorem exists_getLast?_intercalate (h : ∀ name ∈ names, IsModuleName name) (hne : names ≠ []) :
    ∃ c, ([':', ':'].intercalate names).getLast? = some c ∧ c ≠ ':' := by
  induction names with
  | nil => contradiction
  | cons name names ih =>
    obtain ⟨⟨hname, hcolon⟩, hnames⟩ := List.forall_mem_cons.1 h
    cases names with
    | nil =>
      refine ⟨name.getLast hname, ?_, ?_⟩
      · rw [List.intercalate_singleton, List.getLast?_eq_some_getLast hname]
      · intro heq
        exact hcolon (heq ▸ List.getLast_mem hname)
    | cons next names =>
      obtain ⟨c, hlast, hc⟩ := ih hnames (List.cons_ne_nil _ _)
      refine ⟨c, ?_, hc⟩
      rw [List.intercalate_cons_cons, List.getLast?_append, hlast, Option.some_or]

theorem getLast?_intercalate_ne (h : ∀ name ∈ names, IsModuleName name) :
    ([':', ':'].intercalate names).getLast? ≠ some ':' := by
  cases names with
  | nil => simp
  | cons name names =>
    obtain ⟨c, hlast, hc⟩ := exists_getLast?_intercalate h (List.cons_ne_nil _ _)
    rw [hlast]
    exact fun heq => hc (Option.some.inj heq)

theorem intercalate_eq_nil_iff (h : ∀ name ∈ names, IsModuleName name) :
    [':', ':'].intercalate names = [] ↔ names = [] := by
  cases names with
  | nil => simp
  | cons name names =>
    obtain ⟨c, hlast, -⟩ := exists_getLast?_intercalate h (List.cons_ne_nil _ _)
    simp only [List.cons_ne_nil, iff_false]
    intro heq
    rw [heq] at hlast
    contradiction

theorem not_separator_isPrefix (h : ∀ name ∈ names, IsModuleName name) :
    ¬ [':', ':'] <+: [':', ':'].intercalate names := by
  intro hprefix
  cases names with
  | nil => simp at hprefix
  | cons name names =>
    obtain ⟨hname, hcolon⟩ := h name List.mem_cons_self
    have hterminated : [] ++ ':' :: [':'] <+: name ++ ':' :: ':' :: terminated names := by
      rw [← terminated_cons, terminated_eq (List.cons_ne_nil _ _)]
      exact hprefix.trans (List.prefix_append _ _)
    exact hname ((Text.append_sep_isPrefix_iff List.not_mem_nil hcolon).1 hterminated).1.symm

theorem isModuleWithin_names_iff (hnames : ∀ name ∈ names, IsModuleName name)
    (hbase : ∀ name ∈ base, IsModuleName name) (k : Nat) :
    isModuleWithin ([':', ':'].intercalate names)
        ([':', ':'].intercalate base ++ (List.replicate k [':', ':']).flatten) = true ↔
      base ≠ [] ∧ base <+: names ∨ base = [] ∧ names = [] := by
  rw [isModuleWithin_iff, trimSeparators_append_replicate,
    trimSeparators_eq_self (getLast?_intercalate_ne hbase)]
  by_cases hbaseEmpty : base = []
  · -- without names nothing stands before the separator, and no module begins with one
    subst hbaseEmpty
    simp [intercalate_eq_nil_iff hnames, not_separator_isPrefix hnames]
  by_cases hnamesEmpty : names = []
  · subst hnamesEmpty
    have hbaseText : [] ≠ [':', ':'].intercalate base := fun heq =>
      hbaseEmpty ((intercalate_eq_nil_iff hbase).1 heq.symm)
    simp [hbaseEmpty, hbaseText]
  · have hcolon : terminated base <+: terminated names ↔ base <+: names :=
      terminated_isPrefix_iff (fun name hname => (hbase name hname).2)
        fun name hname => (hnames name hname).2
    rw [← append_isPrefix_append_iff (getLast?_intercalate_ne hnames), ← terminated_eq hbaseEmpty,
      ← terminated_eq hnamesEmpty, hcolon]
    simp [hbaseEmpty]

end Names

namespace HandlerType

/-- A type lies in a base module exactly if the names on the way to its module begin with those of
the base, however many separators follow the base. Only types outside all modules lie in the base
without names. -/
theorem isInModule_iff_isPrefix (t : HandlerType) {names base : List String}
    (hpath : t.modulePath = "::".intercalate names)
    (hnames : ∀ name ∈ names, IsModuleName name.toList)
    (hbase : ∀ name ∈ base, IsModuleName name.toList) (k : Nat) :
    t.isInModule ("::".intercalate base ++ String.join (List.replicate k "::")) = true ↔
      base ≠ [] ∧ base <+: names ∨ base = [] ∧ names = [] := by
  have hnamesText : ∀ name ∈ names.map String.toList, IsModuleName name := by
    simpa using hnames
  have hbaseText : ∀ name ∈ base.map String.toList, IsModuleName name := by
    simpa using hbase
  have hseparators : (String.join (List.replicate k "::")).toList =
      (List.replicate k [':', ':']).flatten := by
    rw [String.toList_join, List.flatMap_replicate]
    rfl
  rw [isInModule, hpath, String.toList_append, String.toList_intercalate, String.toList_intercalate,
    hseparators]
  refine (isModuleWithin_names_iff hnamesText hbaseText k).trans ?_
  rw [ne_eq, List.map_eq_nil_iff, List.map_eq_nil_iff,
    List.prefix_map_iff_of_injective fun _ _ => String.toList_injective]

def userPages : HandlerType where
  name := "UserPages"
  modulePath := "app::api::users"

theorem isInModule_iff_isPrefix_userPages :
    userPages.modulePath = "::".intercalate ["app", "api", "users"] ∧
    (∀ name ∈ ["app", "api", "users", "ap"], IsModuleName name.toList) ∧
    userPages.isInModule "app::api::::" = true ∧ userPages.isInModule "app::ap" = false := by
  have hpath : userPages.modulePath = "::".intercalate ["app", "api", "users"] := by decide
  have hnames : ∀ name ∈ ["app", "api", "users"], IsModuleName name.toList := by decide
  have hwritten : "app::api::::" =
      "::".intercalate ["app", "api"] ++ String.join (List.replicate 2 "::") := by decide
  have hcut : "app::ap" =
      "::".intercalate ["app", "ap"] ++ String.join (List.replicate 0 "::") := by decide
  refine ⟨hpath, by decide, ?_, ?_⟩
  · rw [hwritten]
    exact (isInModule_iff_isPrefix userPages hpath hnames (by decide) 2).2 (by decide)
  · rw [hcut, Bool.eq_false_iff]
    intro h
    have hprefix := (isInModule_iff_isPrefix userPages hpath hnames (by decide) 0).1 h
    revert hprefix
    decide

end HandlerType

end RequestRouting
