import PaymentGateway.Payments

/-!
# Actions on a state

What an action does from a given state, and the actions that do nothing to the part of the state
that a view shows.  With services whose look-ups are such actions, preparing the request of a call
changes nothing a view shows, and no failure of it says that the gateway accepted.
-/

namespace PaymentGateway.Action

variable {σ τ α β : Type}

def perform (action : Action (StateM σ) α) (s : σ) : Except Failure α × σ :=
  action.run.run s

@[simp] theorem perform_pure (a : α) (s : σ) :
    perform (pure a : Action (StateM σ) α) s = (.ok a, s) := rfl

@[simp] theorem perform_throw (failure : Failure) (s : σ) :
    perform (throw failure : Action (StateM σ) α) s = (.error failure, s) := rfl

@[simp] theorem perform_liftM (step : StateM σ α) (s : σ) :
    perform (liftM step : Action (StateM σ) α) s = (.ok (step s).1, (step s).2) := rfl

theorem perform_bind (x : Action (StateM σ) α) (f : α → Action (StateM σ) β) (s : σ) :
    perform (x >>= f) s =
      match perform x s with
      | (.ok a, t) => perform (f a) t
      | (.error failure, t) => (.error failure, t) := by
  rcases hrun : perform x s with ⟨failure | a, t⟩ <;>
    rw [perform] at hrun <;>
    rw [perform, ExceptT.run_bind, StateT.run_bind, hrun] <;>
    rfl

theorem perform_bind_of_ok {x : Action (StateM σ) α} {s t : σ} {a : α}
    (h : perform x s = (.ok a, t)) (f : α → Action (StateM σ) β) :
    perform (x >>= f) s = perform (f a) t := by
  rw [perform_bind, h]

theorem perform_bind_of_error {x : Action (StateM σ) α} {s t : σ} {failure : Failure}
    (h : perform x s = (.error failure, t)) (f : α → Action (StateM σ) β) :
    perform (x >>= f) s = (.error failure, t) := by
  rw [perform_bind, h]

theorem exists_of_perform_bind {x : Action (StateM σ) α} {f : α → Action (StateM σ) β} {s u : σ}
    {b : β} (h : perform (x >>= f) s = (.ok b, u)) :
    ∃ a t, perform x s = (.ok a, t) ∧ perform (f a) t = (.ok b, u) := by
  rcases hrun : perform x s with ⟨failure | a, t⟩
  · rw [perform_bind_of_error hrun] at h
    cases h
  · rw [perform_bind_of_ok hrun] at h
    exact ⟨a, t, rfl, h⟩

theorem perform_bind_pure (x : Action (StateM σ) α) (f : α → β) (s : σ) :
    perform (x >>= fun a => pure (f a)) s = ((perform x s).1.map f, (perform x s).2) := by
  rw [perform_bind]
  rcases perform x s with ⟨failure | a, t⟩ <;> rfl

theorem perform_tryCatch (x : Action (StateM σ) α) (f : Failure → Action (StateM σ) α) (s : σ) :
    perform (tryCatch x f) s =
      match perform x s with
      | (.ok a, t) => (.ok a, t)
      | (.error failure, t) => perform (f failure) t := by
  rcases hrun : perform x s with ⟨failure | a, t⟩ <;>
    rw [perform] at hrun <;>
    rw [perform, ExceptT.run_tryCatch, StateT.run_bind, hrun] <;>
    rfl

/-! ## Actions that leave a view as it is -/

/-- An action that changes nothing a view shows, and whose failures never say that the gateway
accepted. -/
structure Quiet (view : σ → τ) (action : Action (StateM σ) α) : Prop where
  view_perform : ∀ s, view (perform action s).2 = view s
  not_accepted : ∀ s failure, (perform action s).1 = .error failure → failure.wasAccepted = false

namespace Quiet

variable {view : σ → τ}

theorem pure (a : α) : Quiet view (pure a : Action (StateM σ) α) :=
  ⟨fun _ => rfl, fun _ _ h => nomatch h⟩

theorem throw {failure : Failure} (h : failure.wasAccepted = false) :
    Quiet view (throw failure : Action (StateM σ) α) := by
  refine ⟨fun _ => rfl, ?_⟩
  intro s other hother
  rw [perform_throw] at hother
  cases hother
  exact h

theorem bind {x : Action (StateM σ) α} {f : α → Action (StateM σ) β} (hx : Quiet view x)
    (hf : ∀ a, Quiet view (f a)) : Quiet view (x >>= f) := by
  constructor
  · intro s
    have hview := hx.view_perform s
    rcases hrun : perform x s with ⟨failure | a, t⟩
    · rw [perform_bind_of_error hrun, ← hview, hrun]
    · rw [perform_bind_of_ok hrun, (hf a).view_perform, ← hview, hrun]
  · intro s failure h
    rcases hrun : perform x s with ⟨other | a, t⟩
    · rw [perform_bind_of_error hrun] at h
      cases h
      exact hx.not_accepted s failure (congrArg Prod.fst hrun)
    · rw [perform_bind_of_ok hrun] at h
      exact (hf a).not_accepted t failure h

end Quiet

end PaymentGateway.Action

/-! ## Services that only write when told to -/

namespace PaymentGateway

variable {σ τ : Type} {services : Services (StateM σ)} {view : σ → τ}

structure Services.QuietLookups (services : Services (StateM σ)) (view : σ → τ) : Prop where
  lastAuthorization? : ∀ payment tenant,
    Action.Quiet view (services.lastAuthorization? payment tenant)
  findMethod? : ∀ id tenant, Action.Quiet view (services.findMethod? id tenant)
  findAccount? : ∀ id tenant, Action.Quiet view (services.findAccount? id tenant)

/-- Services that leave it to their caller to write to the stores, and to say that the gateway
accepted. -/
structure Services.Quiet (services : Services (StateM σ)) (view : σ → τ) : Prop
    extends services.QuietLookups view where
  exchange : ∀ request, Action.Quiet view (services.exchange request)

namespace Payments

theorem quiet_modification (quiet : services.QuietLookups view) (kind : Modification) (call : Call) :
    Action.Quiet view (modification services kind call) := by
  apply (quiet.lastAuthorization? _ _).bind
  intro prior
  cases prior with
  | none => exact .throw rfl
  | some prior => exact .pure _

theorem quiet_funds (quiet : services.QuietLookups view) (kind : Movement) (call : Call) :
    Action.Quiet view (funds services kind call) := by
  unfold funds
  cases call.amount with
  | none => exact .throw rfl
  | some amount =>
    apply (quiet.findAccount? _ _).bind
    intro account
    apply (quiet.findMethod? _ _).bind
    intro stored
    dsimp only
    split
    · exact .pure _
    · exact .throw rfl

theorem quiet_prepare (quiet : services.QuietLookups view) (call : Call) :
    Action.Quiet view (prepare services call) := by
  unfold prepare
  cases call.kind with
  | authorize => exact quiet_funds quiet .auth call
  | purchase => exact quiet_funds quiet .sale call
  | credit => exact quiet_funds quiet .credit call
  | capture => exact quiet_modification quiet .capture call
  | void => exact quiet_modification quiet .void call
  | refund => exact .throw rfl

end Payments

end PaymentGateway
