import PaymentGateway.Memory
import PaymentGateway.Proofs.Payments.Performing

/-!
# The services of a world kept in memory

Only what writes to the stores changes them, and no operation says that the gateway accepted unless
it is made to.
-/

namespace PaymentGateway

/-- A gateway whose failures never say that it accepted. -/
def Gateway.Honest {γ : Type} (gateway : Gateway γ) : Prop :=
  ∀ request state failure, (gateway.exchange request state).1 = .error failure →
    failure.wasAccepted = false

structure StoreFailures.Honest (failures : StoreFailures) : Prop where
  lastAuthorization : ∀ failure, failures.lastAuthorization = some failure →
    failure.wasAccepted = false
  findMethod : ∀ failure, failures.findMethod = some failure → failure.wasAccepted = false
  findAccount : ∀ failure, failures.findAccount = some failure → failure.wasAccepted = false

namespace Memory

open PaymentGateway.Action (perform)

variable {α γ τ : Type}

/-! ## What the operations do -/

theorem perform_exchange (gateway : Gateway γ) (failures : StoreFailures) (request : FieldList)
    (world : World γ) :
    perform ((services gateway failures).exchange request) world =
      ((gateway.exchange request world.gateway).1,
        { world with gateway := (gateway.exchange request world.gateway).2 }) := rfl

theorem stores_of_exchange {gateway : Gateway γ} {fields : FieldList}
    {reply : Except Failure FieldList} {t u : World γ}
    (h : perform ((services gateway).exchange fields) t = (reply, u)) : u.stores = t.stores := by
  rw [perform_exchange, Prod.mk.injEq] at h
  rw [← h.2]

theorem perform_appendReceipt (gateway : Gateway γ) (receipt : Receipt) (world : World γ) :
    perform ((services gateway).appendReceipt receipt) world =
      (.ok (), { world with
        stores := { world.stores with ledger := world.stores.ledger.append receipt } }) := rfl

theorem ledger_of_appendReceipt {gateway : Gateway γ} {receipt : Receipt}
    {reply : Except Failure Unit} {v w : World γ}
    (h : perform ((services gateway).appendReceipt receipt) v = (reply, w)) :
    reply = .ok () ∧ w.stores.ledger = v.stores.ledger.append receipt := by
  rw [perform_appendReceipt, Prod.mk.injEq] at h
  rw [← h.2]
  exact ⟨h.1.symm, rfl⟩

theorem perform_lastAuthorization? (gateway : Gateway γ) (payment tenant : Uuid)
    (world : World γ) :
    perform ((services gateway).lastAuthorization? payment tenant) world =
      (.ok (world.stores.ledger.lastAuthorization? payment tenant), world) := rfl

theorem perform_receipts (gateway : Gateway γ) (payment tenant : Uuid) (world : World γ) :
    perform ((services gateway).receipts payment tenant) world =
      (.ok (world.stores.ledger.ofPayment payment tenant), world) := rfl

theorem perform_modification (gateway : Gateway γ) (kind : Modification) (call : Call)
    (world : World γ) :
    perform (Payments.modification (services gateway) kind call) world =
      match world.stores.ledger.lastAuthorization? call.ids.payment call.caller.tenant with
      | some prior => (.ok (prior.modification kind, none), world)
      | none => (.error (.missingAuthorization call.ids.payment), world) := by
  rw [Payments.modification, Action.perform_bind, perform_lastAuthorization?]
  dsimp only
  cases world.stores.ledger.lastAuthorization? call.ids.payment call.caller.tenant <;> rfl

/-! ## What the operations leave alone -/

theorem honest_noFailures : ({} : StoreFailures).Honest := by
  constructor <;> (intro failure h; cases h)

/-- Looking at a world leaves it as it is, also when it is made to fail. -/
theorem quiet_guarded {failure : Option Failure}
    (honest : ∀ error, failure = some error → error.wasAccepted = false) (view : World γ → τ)
    (look : World γ → α) :
    Action.Quiet view (guarded failure (do return look (← get)) : Action (Step γ) α) := by
  cases failure with
  | none => exact ⟨fun _ => rfl, fun _ _ h => nomatch h⟩
  | some error => exact .throw (honest error rfl)

theorem quiet_lookups (gateway : Gateway γ) {failures : StoreFailures} (honest : failures.Honest)
    (view : World γ → τ) : (services gateway failures).QuietLookups view where
  lastAuthorization? _ _ := quiet_guarded honest.lastAuthorization view _
  findMethod? _ _ := quiet_guarded honest.findMethod view _
  findAccount? _ _ := quiet_guarded honest.findAccount view _

theorem quiet_services {gateway : Gateway γ} {failures : StoreFailures}
    (hgateway : gateway.Honest) (hfailures : failures.Honest) :
    (services gateway failures).Quiet World.stores where
  toQuietLookups := quiet_lookups gateway hfailures World.stores
  exchange request := by
    refine ⟨fun _ => rfl, ?_⟩
    intro world failure h
    rw [perform_exchange] at h
    exact hgateway request world.gateway failure h

/-- Without failing look-ups, preparing a request leaves the whole world as it is. -/
theorem perform_prepare_snd (gateway : Gateway γ) (call : Call) (world : World γ) :
    (perform (Payments.prepare (services gateway) call) world).2 = world :=
  (Payments.quiet_prepare (quiet_lookups gateway honest_noFailures id) call).view_perform world

/-! ## A small world -/

def approval : FieldList :=
  .ofList [("pg_response_type", "A"), ("pg_trace_number", "T-1"), ("pg_transaction_type", "11")]

def approving : Gateway Unit := ⟨fun _ state => (.ok approval, state)⟩

theorem honest_approving : approving.Honest := by
  intro request state failure h
  cases h

def bareCall (kind : CallKind) : Call :=
  ⟨kind, ⟨.nil, .nil, .nil, .nil⟩, none, none, .empty, ⟨.nil, none⟩⟩

def tokenCall (kind : CallKind) : Call :=
  { bareCall kind with
    amount := some .zero
    overrides := .ofList [(Property.token.name, "token")] }

def emptyWorld : World Unit := ⟨(), .empty, .epoch⟩

def authorizedWorld : World Unit :=
  ⟨(), { Stores.empty with ledger := ⟨[(bareCall .authorize).receipt approval .epoch]⟩ }, .epoch⟩

end Memory

end PaymentGateway
