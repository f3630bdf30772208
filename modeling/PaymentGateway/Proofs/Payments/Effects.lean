import PaymentGateway.Proofs.Payments.Performing

/-!
# What actions do outside

Services can be observed: the same operations, which besides note every exchange and every writing
with its reply.  A call on observed services shows what it did and in which order.
-/

namespace PaymentGateway

inductive Effect where
  | exchanged (request : FieldList) (reply : Except Failure FieldList)
  | appended (receipt : Receipt) (reply : Except Failure Unit)
  | stored (record : PaymentMethod) (reply : Except Failure Unit)

def Effect.isExchange : Effect → Bool
  | .exchanged _ _ => true
  | .appended _ _ | .stored _ _ => false

def Effect.sent? : Effect → Option FieldList
  | .exchanged request _ => some request
  | .appended _ _ | .stored _ _ => none

def Effect.isResponse : Effect → Bool
  | .exchanged _ (.ok _) => true
  | .exchanged _ (.error _) | .appended _ _ | .stored _ _ => false

abbrev Observed (σ : Type) := σ × List Effect

variable {σ α β : Type}

namespace Action

/-- The action that also notes what it did. -/
def noting (note : Except Failure α → List Effect) (action : Action (StateM σ) α) :
    Action (StateM (Observed σ)) α :=
  ExceptT.mk fun observed =>
    let (result, after) := perform action observed.1
    (result, (after, observed.2 ++ note result))

def silently (action : Action (StateM σ) α) : Action (StateM (Observed σ)) α :=
  noting (fun _ => []) action

theorem perform_noting (note : Except Failure α → List Effect) (action : Action (StateM σ) α)
    (s : σ) (effects : List Effect) :
    perform (noting note action) (s, effects) =
      ((perform action s).1, ((perform action s).2, effects ++ note (perform action s).1)) := rfl

theorem perform_silently (action : Action (StateM σ) α) (s : σ) (effects : List Effect) :
    perform (silently action) (s, effects) =
      ((perform action s).1, ((perform action s).2, effects)) := by
  rw [silently, perform_noting, List.append_nil]

theorem silently_pure (a : α) : silently (pure a : Action (StateM σ) α) = pure a := by
  apply ExceptT.ext
  apply funext
  rintro ⟨s, effects⟩
  exact perform_silently (pure a) s effects

theorem silently_throw (failure : Failure) :
    silently (throw failure : Action (StateM σ) α) = throw failure := by
  apply ExceptT.ext
  apply funext
  rintro ⟨s, effects⟩
  exact perform_silently (throw failure) s effects

theorem silently_bind (x : Action (StateM σ) α) (f : α → Action (StateM σ) β) :
    silently (x >>= f) = silently x >>= fun a => silently (f a) := by
  apply ExceptT.ext
  apply funext
  rintro ⟨s, effects⟩
  show perform (silently (x >>= f)) (s, effects) =
    perform (silently x >>= fun a => silently (f a)) (s, effects)
  rw [perform_silently, perform_bind, perform_bind, perform_silently]
  rcases perform x s with ⟨failure | a, t⟩
  · rfl
  · exact (perform_silently (f a) t effects).symm

end Action

open PaymentGateway.Action (noting silently)

def Services.observed (services : Services (StateM σ)) : Services (StateM (Observed σ)) where
  exchange request :=
    noting (fun reply => [.exchanged request reply]) (services.exchange request)
  appendReceipt receipt :=
    noting (fun reply => [.appended receipt reply]) (services.appendReceipt receipt)
  lastAuthorization? payment tenant := silently (services.lastAuthorization? payment tenant)
  receipts payment tenant := silently (services.receipts payment tenant)
  findMethod? id tenant := silently (services.findMethod? id tenant)
  putMethod record := noting (fun reply => [.stored record reply]) (services.putMethod record)
  findAccount? id tenant := silently (services.findAccount? id tenant)
  now observed := ((services.now observed.1).1, ((services.now observed.1).2, observed.2))

/-- What a program does outside when it is run with some services from a state. -/
def effectsOf (program : Services (StateM (Observed σ)) → Action (StateM (Observed σ)) α)
    (services : Services (StateM σ)) (s : σ) : List Effect :=
  (Action.perform (program services.observed) (s, [])).2.2

namespace Payments

theorem modification_observed (services : Services (StateM σ)) (kind : Modification)
    (call : Call) :
    modification services.observed kind call = silently (modification services kind call) := by
  rw [modification, modification, Action.silently_bind]
  apply bind_congr
  intro prior
  cases prior with
  | none => exact (Action.silently_throw _).symm
  | some prior => exact (Action.silently_pure _).symm

theorem funds_observed (services : Services (StateM σ)) (kind : Movement) (call : Call) :
    funds services.observed kind call = silently (funds services kind call) := by
  rw [funds, funds]
  cases call.amount with
  | none => exact (Action.silently_throw _).symm
  | some amount =>
    dsimp only
    rw [Action.silently_bind]
    apply bind_congr
    intro account
    rw [Action.silently_bind]
    apply bind_congr
    intro stored
    split
    · exact (Action.silently_pure _).symm
    · exact (Action.silently_throw _).symm

/-- Preparing a request does nothing outside. -/
theorem prepare_observed (services : Services (StateM σ)) (call : Call) :
    prepare services.observed call = silently (prepare services call) := by
  rw [prepare, prepare]
  cases call.kind with
  | authorize => exact funds_observed services .auth call
  | purchase => exact funds_observed services .sale call
  | credit => exact funds_observed services .credit call
  | capture => exact modification_observed services .capture call
  | void => exact modification_observed services .void call
  | refund => exact (Action.silently_throw _).symm

end Payments

end PaymentGateway
