import RequestRouting.Event

/-! Computations that can fail and that report events on the way. The events up to a failure
are kept. Main statement: leaving the events out turns a logged computation into a plain
one, step by step, so results can be reasoned about without the log. -/
namespace RequestRouting

structure Logged (ε α : Type) where
  result : Except ε α
  events : List Event

namespace Logged

variable {ε ε' α β : Type}

protected def pure (a : α) : Logged ε α := ⟨.ok a, []⟩

protected def bind (x : Logged ε α) (f : α → Logged ε β) : Logged ε β :=
  match x.result with
  | .ok a => ⟨(f a).result, x.events ++ (f a).events⟩
  | .error e => ⟨.error e, x.events⟩

instance : Monad (Logged ε) where
  pure := Logged.pure
  bind := Logged.bind

instance : LawfulMonad (Logged ε) := LawfulMonad.mk' _
  (fun x => by
    show Logged.bind x (fun a => Logged.pure a) = x
    obtain ⟨result, events⟩ := x
    cases result <;> simp [Logged.bind, Logged.pure])
  (fun a f => by
    show Logged.bind (Logged.pure a) f = f a
    simp [Logged.bind, Logged.pure])
  (fun x f g => by
    show Logged.bind (Logged.bind x f) g = Logged.bind x fun a => Logged.bind (f a) g
    obtain ⟨result, events⟩ := x
    cases result with
    | error e => rfl
    | ok a =>
      simp only [Logged.bind]
      cases (f a).result <;> simp)

def ofExcept (x : Except ε α) : Logged ε α := ⟨x, []⟩

instance : MonadLift (Except ε) (Logged ε) := ⟨ofExcept⟩

def fail (e : ε) : Logged ε α := ⟨.error e, []⟩

def report (event : Event) : Logged ε Unit := ⟨.ok (), [event]⟩

def mapError (f : ε → ε') (x : Logged ε α) : Logged ε' α := ⟨x.result.mapError f, x.events⟩

@[simp] theorem result_pure (a : α) : (pure a : Logged ε α).result = .ok a := rfl

@[simp] theorem result_bind (x : Logged ε α) (f : α → Logged ε β) :
    (x >>= f).result = x.result >>= fun a => (f a).result := by
  show (Logged.bind x f).result = _
  unfold Logged.bind
  cases x.result <;> rfl

@[simp] theorem result_map (f : α → β) (x : Logged ε α) :
    (f <$> x).result = f <$> x.result := by
  show (Logged.bind x fun a => Logged.pure (f a)).result = _
  unfold Logged.bind
  cases x.result <;> rfl

@[simp] theorem result_ofExcept (x : Except ε α) : (ofExcept x).result = x := rfl

@[simp] theorem result_monadLift (x : Except ε α) :
    (MonadLiftT.monadLift x : Logged ε α).result = x := rfl

@[simp] theorem result_fail (e : ε) : (fail e : Logged ε α).result = .error e := rfl

@[simp] theorem result_report (event : Event) :
    (report event : Logged ε Unit).result = .ok () := rfl

theorem result_foldlM (f : β → α → Logged ε β) (b : β) (xs : List α) :
    (xs.foldlM f b).result = xs.foldlM (fun b x => (f b x).result) b := by
  induction xs generalizing b with
  | nil => rfl
  | cons x xs ih =>
    rw [List.foldlM_cons, List.foldlM_cons, result_bind]
    simp only [ih]

theorem result_mapM (f : α → Logged ε β) (xs : List α) :
    (xs.mapM f).result = xs.mapM fun x => (f x).result := by
  induction xs with
  | nil => rfl
  | cons x xs ih =>
    rw [List.mapM_cons, List.mapM_cons, result_bind]
    simp only [result_bind, ih, result_pure]
    rfl

end Logged

end RequestRouting
