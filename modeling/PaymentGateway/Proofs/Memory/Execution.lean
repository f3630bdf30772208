import PaymentGateway.Proofs.Memory.Services
import PaymentGateway.Proofs.Payments.Course

/-!
# What becomes of a call in a world kept in memory

In memory a call is decided by what it finds in the stores and by the reply of the gateway.  The time
goes into the receipt and decides nothing: neither a receipt nor a payment method is looked at for
its time.
-/

namespace PaymentGateway

open PaymentGateway.Action (perform)

/-! ## Without times -/

def Receipt.timeless (receipt : Receipt) : Receipt :=
  { receipt with createdAt := .epoch }

def Outcome.timeless (outcome : Outcome) : Outcome :=
  { outcome with createdAt := .epoch }

def PaymentMethod.timeless (record : PaymentMethod) : PaymentMethod :=
  { record with createdAt := none }

def Ledger.timeless (ledger : Ledger) : Ledger :=
  ⟨ledger.receipts.map Receipt.timeless⟩

def PaymentMethods.timeless (methods : PaymentMethods) : PaymentMethods :=
  ⟨methods.records.map PaymentMethod.timeless⟩

def Stores.timeless (stores : Stores) : Stores :=
  ⟨stores.ledger.timeless, stores.methods.timeless, stores.accounts⟩

theorem Ledger.ofPayment_timeless (ledger : Ledger) (payment tenant : Uuid) :
    ledger.timeless.ofPayment payment tenant =
      (ledger.ofPayment payment tenant).map Receipt.timeless := by
  rw [ofPayment, timeless, List.filter_map]
  rfl

theorem Ledger.timeless_append (ledger : Ledger) (receipt : Receipt) :
    (ledger.append receipt).timeless = ledger.timeless.append receipt.timeless := by
  rw [append, timeless, List.map_append]
  rfl

/-- A ledger offers the same authorization whatever the times of its receipts. -/
theorem Ledger.lastAuthorization?_timeless (ledger : Ledger) (payment tenant : Uuid) :
    ledger.timeless.lastAuthorization? payment tenant =
      ledger.lastAuthorization? payment tenant := by
  rw [lastAuthorization?, ofPayment_timeless, ← List.map_reverse, List.find?_map]
  show (((ledger.ofPayment payment tenant).reverse.find? (·.isModifiable)).map
    Receipt.timeless).bind (·.reference?) = _
  rw [lastAuthorization?]
  cases (ledger.ofPayment payment tenant).reverse.find? (·.isModifiable) <;> rfl

theorem PaymentMethods.timeless_put (methods : PaymentMethods) (record : PaymentMethod) :
    (methods.put record).timeless = methods.timeless.put record.timeless := rfl

theorem PaymentMethods.find?_timeless (methods : PaymentMethods) (id tenant : Uuid) :
    methods.timeless.find? id tenant = (methods.find? id tenant).map PaymentMethod.timeless := by
  rw [find?, timeless, List.find?_map]
  rfl

theorem FundsSources.request_timeless (s : FundsSources) (kind : Movement) (amount : Decimal) :
    ({ s with stored := s.stored.map PaymentMethod.timeless } : FundsSources).request kind amount =
      s.request kind amount := by
  obtain ⟨overrides, account, _ | stored⟩ := s <;> rfl

def World.append {γ : Type} (world : World γ) (receipt : Receipt) : World γ :=
  { world with stores := { world.stores with ledger := world.stores.ledger.append receipt } }

theorem World.timeless_append {γ : Type} (world : World γ) (receipt : Receipt) :
    (world.append receipt).stores.timeless =
      { world.stores.timeless with
        ledger := world.stores.timeless.ledger.append receipt.timeless } := by
  show Stores.mk (world.stores.ledger.append receipt).timeless _ _ = _
  rw [Ledger.timeless_append]
  rfl

/-- Stores in which a call finds the same, times aside. -/
structure Stores.SameFor (call : Call) (s t : Stores) : Prop where
  authorization : s.ledger.lastAuthorization? call.ids.payment call.caller.tenant =
    t.ledger.lastAuthorization? call.ids.payment call.caller.tenant
  method : s.methods.timeless.find? call.ids.method call.caller.tenant =
    t.methods.timeless.find? call.ids.method call.caller.tenant
  account : s.accounts.find? call.ids.account = t.accounts.find? call.ids.account

theorem Stores.sameFor_of_timeless_eq {s t : Stores} (h : s.timeless = t.timeless) (call : Call) :
    s.SameFor call t := by
  have hledger : s.ledger.timeless = t.ledger.timeless := congrArg ledger h
  have hmethods : s.methods.timeless = t.methods.timeless := congrArg methods h
  have haccounts : s.accounts = t.accounts := (congrArg accounts h :)
  refine ⟨?_, ?_, ?_⟩
  · rw [← Ledger.lastAuthorization?_timeless, hledger, Ledger.lastAuthorization?_timeless]
  · rw [hmethods]
  · rw [haccounts]

namespace Memory

variable {γ δ : Type}

/-- The services of a world in which a clock of its own tells the time. -/
def clocked (gateway : Gateway γ) (clock : World γ → Timestamp) : Services (Step γ) :=
  { services gateway with now := do return clock (← get) }

theorem clocked_time (gateway : Gateway γ) : clocked gateway World.time = services gateway := rfl

theorem prepare_clocked (gateway : Gateway γ) (clock : World γ → Timestamp) (call : Call) :
    Payments.prepare (clocked gateway clock) call = Payments.prepare (services gateway) call := rfl

/-! ## The request of a call -/

theorem perform_funds (gateway : Gateway γ) (kind : Movement) (call : Call) (world : World γ) :
    perform (Payments.funds (services gateway) kind call) world =
      match call.amount with
      | none => (.error (.validation (.amountRequired call.kind)), world)
      | some amount =>
          ((FundsSources.request ⟨call.overrides, world.stores.accounts.find? call.ids.account,
            world.stores.methods.find? call.ids.method call.caller.tenant⟩ kind amount).mapError
              .validation, world) := by
  unfold Payments.funds
  cases call.amount with
  | none => rfl
  | some amount =>
    have haccount : perform ((services gateway).findAccount? call.ids.account call.caller.tenant)
        world = (.ok (world.stores.accounts.find? call.ids.account), world) := rfl
    have hstored : perform ((services gateway).findMethod? call.ids.method call.caller.tenant)
        world = (.ok (world.stores.methods.find? call.ids.method call.caller.tenant), world) := rfl
    rw [Action.perform_bind_of_ok haccount, Action.perform_bind_of_ok hstored]
    dsimp only
    cases FundsSources.request ⟨call.overrides, world.stores.accounts.find? call.ids.account,
      world.stores.methods.find? call.ids.method call.caller.tenant⟩ kind amount <;> rfl

/-- A call makes the same request wherever it finds the same. -/
theorem prepare_congr {call : Call} {w : World γ} {v : World δ}
    (same : w.stores.SameFor call v.stores) (gateway : Gateway γ) (other : Gateway δ) :
    (perform (Payments.prepare (services gateway) call) w).1 =
      (perform (Payments.prepare (services other) call) v).1 := by
  have hmodification (kind : Modification) :
      (perform (Payments.modification (services gateway) kind call) w).1 =
        (perform (Payments.modification (services other) kind call) v).1 := by
    rw [perform_modification, perform_modification, same.authorization]
    cases v.stores.ledger.lastAuthorization? call.ids.payment call.caller.tenant <;> rfl
  have hfunds (kind : Movement) :
      (perform (Payments.funds (services gateway) kind call) w).1 =
        (perform (Payments.funds (services other) kind call) v).1 := by
    rw [perform_funds, perform_funds]
    cases call.amount with
    | none => rfl
    | some amount =>
      dsimp only
      rw [← FundsSources.request_timeless, ← PaymentMethods.find?_timeless, same.account,
        same.method, PaymentMethods.find?_timeless,
        FundsSources.request_timeless ⟨_, _, v.stores.methods.find? _ _⟩]
  -- Each kind comes down to one of the two, and a refund prepares nothing.
  unfold Payments.prepare
  cases call.kind with
  | authorize => exact hfunds .auth
  | purchase => exact hfunds .sale
  | credit => exact hfunds .credit
  | capture => exact hmodification .capture
  | void => exact hmodification .void
  | refund => rfl

/-! ## What becomes of it -/

def settled (clock : World γ → Timestamp) (call : Call) (fields : FieldList) (world : World γ) :
    Except Failure FieldList → Except Failure Outcome × List Effect × World γ
  | .error failure => (.error failure, [.exchanged fields (.error failure)], world)
  | .ok response =>
      let receipt := call.receipt response (clock world)
      (.ok receipt.outcome, [.exchanged fields (.ok response), .appended receipt (.ok ())],
        world.append receipt)

theorem gateway_settled (clock : World γ → Timestamp) (call : Call) (fields : FieldList)
    (world : World γ) (reply : Except Failure FieldList) :
    (settled clock call fields world reply).2.2.gateway = world.gateway := by
  cases reply <;> rfl

/-- What a call comes to, does and leaves behind, given the request it prepared. -/
def conclusion (gateway : Gateway γ) (credentials : Credentials) (clock : World γ → Timestamp)
    (call : Call) (world : World γ) :
    Except Failure (Request × Option String) → Except Failure Outcome × List Effect × World γ
  | .error failure => (.error failure, [], world)
  | .ok (request, token) =>
      let fields := request.fields credentials (call.overlay token)
      let exchanged := gateway.exchange fields world.gateway
      settled clock call fields { world with gateway := exchanged.2 } exchanged.1

theorem eq_conclusion_of_course {gateway : Gateway γ} {clock : World γ → Timestamp}
    {credentials : Credentials} {call : Call} {world after : World γ}
    {result : Except Failure Outcome} {effects : List Effect}
    (course : Payments.Course (clocked gateway clock) credentials call world result effects
      after) :
    (result, effects, after) = conclusion gateway credentials clock call world
      (perform (Payments.prepare (services gateway) call) world).1 := by
  -- Preparing changes no world, so the exchange meets the world in which the call began.
  have hsame := perform_prepare_snd gateway call world
  cases course with
  | unprepared hprepare =>
    rw [prepare_clocked] at hprepare
    rw [hprepare] at hsame ⊢
    cases hsame
    rfl
  | @unanswered request token fields failure t u hprepare hfields hexchange =>
    rw [prepare_clocked] at hprepare
    rw [hprepare] at hsame ⊢
    obtain rfl : world = t := hsame.symm
    have hreply : ((gateway.exchange fields world.gateway).1,
        { world with gateway := (gateway.exchange fields world.gateway).2 }) =
        (.error failure, after) := hexchange
    rw [Prod.mk.injEq] at hreply
    rw [conclusion, hfields, hreply.1, hreply.2]
    rfl
  | @answered request token fields response time receipt reply t u v w hprepare hfields hexchange
      hnow hreceipt happend =>
    rw [prepare_clocked] at hprepare
    rw [hprepare] at hsame ⊢
    obtain rfl : world = t := hsame.symm
    have hreply : ((gateway.exchange fields world.gateway).1,
        { world with gateway := (gateway.exchange fields world.gateway).2 }) =
        (.ok response, u) := hexchange
    rw [Prod.mk.injEq] at hreply
    rw [conclusion, hfields, hreply.1, hreply.2]
    cases hnow
    subst hreceipt
    cases happend
    rfl

/-- Every call in a world comes to the conclusion of its request. -/
theorem perform_execute (gateway : Gateway γ) (credentials : Credentials)
    (clock : World γ → Timestamp) (call : Call) (world : World γ) :
    ((perform (Payments.execute (clocked gateway clock) credentials call) world).1,
        effectsOf (Payments.execute · credentials call) (clocked gateway clock) world,
        (perform (Payments.execute (clocked gateway clock) credentials call) world).2) =
      conclusion gateway credentials clock call world
        (perform (Payments.prepare (services gateway) call) world).1 :=
  eq_conclusion_of_course (Payments.course_execute (clocked gateway clock) credentials call world)

/-! ## The same call in two worlds -/

/-- What calls came to and did in two worlds that are related behind them: the same, times aside. -/
structure Alike (R : World γ → World δ → Prop)
    (c : Except Failure Outcome × List Effect × World γ)
    (d : Except Failure Outcome × List Effect × World δ) : Prop where
  result : c.1.map Outcome.timeless = d.1.map Outcome.timeless
  sent : c.2.1.filterMap Effect.sent? = d.2.1.filterMap Effect.sent?
  after : R c.2.2 d.2.2

/-- With the same reply a call comes to the same in two worlds, and what relates them still relates
them if it outlasts the writing of a receipt. -/
theorem alike_settled {R : World γ → World δ → Prop}
    (append : ∀ {w v} {receipt other : Receipt}, R w v → receipt.timeless = other.timeless →
      R (w.append receipt) (v.append other))
    {w : World γ} {v : World δ} (related : R w v) (clock : World γ → Timestamp)
    (otherClock : World δ → Timestamp) (call : Call) (fields : FieldList)
    (reply : Except Failure FieldList) :
    Alike R (settled clock call fields w reply) (settled otherClock call fields v reply) := by
  cases reply with
  | error failure => exact ⟨rfl, rfl, related⟩
  | ok response => exact ⟨rfl, rfl, append related rfl⟩

end Memory

end PaymentGateway
