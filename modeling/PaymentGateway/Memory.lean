import PaymentGateway.Payments

/-! # Memory — services kept in memory

The world of payments that keeps everything in memory: a gateway with a state of its own, the stores
and the time. Any store operation may be made to fail. -/

namespace PaymentGateway

/-- A gateway as its callers see it: an answer to each request, and a state of its own. -/
structure Gateway (γ : Type) where
  exchange : FieldList → γ → Except Failure FieldList × γ

/-- Everything that changes while calls are made. -/
structure World (γ : Type) where
  gateway : γ
  stores : Stores
  time : Timestamp

/-- The store operations that fail, and how. -/
structure StoreFailures where
  appendReceipt : Option Failure := none
  lastAuthorization : Option Failure := none
  receipts : Option Failure := none
  findMethod : Option Failure := none
  putMethod : Option Failure := none
  findAccount : Option Failure := none
  deriving DecidableEq

namespace Memory

variable {γ : Type}

abbrev Step (γ : Type) := StateM (World γ)

/-- Runs a store operation that may be made to fail. -/
def guarded {α : Type} (failure : Option Failure) (operation : Step γ α) : Action (Step γ) α :=
  match failure with
  | some error => throw error
  | none => ExceptT.lift operation

def exchange (gateway : Gateway γ) (request : FieldList) : Action (Step γ) FieldList :=
  ExceptT.mk fun world =>
    let (result, state) := gateway.exchange request world.gateway
    (result, { world with gateway := state })

def modifyStores (change : Stores → Stores) : Step γ Unit :=
  modify fun world => { world with stores := change world.stores }

/-- The services of a world kept in memory. -/
def services (gateway : Gateway γ) (failures : StoreFailures := {}) : Services (Step γ) where
  exchange := exchange gateway
  appendReceipt receipt := guarded failures.appendReceipt <|
    modifyStores fun stores => { stores with ledger := stores.ledger.append receipt }
  lastAuthorization? payment tenant := guarded failures.lastAuthorization do
    return (← get).stores.ledger.lastAuthorization? payment tenant
  receipts payment tenant := guarded failures.receipts do
    return (← get).stores.ledger.ofPayment payment tenant
  findMethod? id tenant := guarded failures.findMethod do
    return (← get).stores.methods.find? id tenant
  putMethod record := guarded failures.putMethod <|
    modifyStores fun stores => { stores with methods := stores.methods.put record }
  findAccount? id _ := guarded failures.findAccount do
    return (← get).stores.accounts.find? id
  now := do return (← get).time

def run {α : Type} (action : Action (Step γ) α) (world : World γ) :
    Except Failure α × World γ :=
  action.run.run world

end Memory

end PaymentGateway
