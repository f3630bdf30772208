import PaymentGateway.Call
import PaymentGateway.Stores

/-! # Payments — payment calls against a gateway and its stores

A call is resolved to exactly one request, sent, and recorded before its outcome is returned; there are
no retries. Everything outside is reached through `Services`, over any monad. -/

namespace PaymentGateway

abbrev Action (m : Type → Type) := ExceptT Failure m

/-- What payments need of their surroundings. -/
structure Services (m : Type → Type) where
  -- Sends a request and waits for the response.
  exchange : FieldList → Action m FieldList
  appendReceipt : Receipt → Action m Unit
  -- What the newest approved authorization of a payment and tenant offers.
  lastAuthorization? : (payment tenant : Uuid) → Action m (Option AuthorizationReference)
  receipts : (payment tenant : Uuid) → Action m (List Receipt)
  findMethod? : (id tenant : Uuid) → Action m (Option PaymentMethod)
  putMethod : PaymentMethod → Action m Unit
  findAccount? : (id tenant : Uuid) → Action m (Option Account)
  now : m Timestamp

namespace Payments

variable {m : Type → Type} [Monad m]

def modification (services : Services m) (kind : Modification) (call : Call) :
    Action m (Request × Option String) := do
  match ← services.lastAuthorization? call.ids.payment call.caller.tenant with
  | some prior => pure (prior.modification kind, none)
  | none => throw (.missingAuthorization call.ids.payment)

def funds (services : Services m) (kind : Movement) (call : Call) :
    Action m (Request × Option String) := do
  match call.amount with
  | none => throw (.validation (.amountRequired call.kind))
  | some amount =>
      let account ← services.findAccount? call.ids.account call.caller.tenant
      let stored ← services.findMethod? call.ids.method call.caller.tenant
      let sources : FundsSources := { overrides := call.overrides, account, stored }
      match sources.request kind amount with
      | .ok request => pure request
      | .error fault => throw (.validation fault)

/-- The request of a call, with the token that pays for it. -/
def prepare (services : Services m) (call : Call) : Action m (Request × Option String) :=
  match call.kind with
  | .authorize => funds services .auth call
  | .purchase => funds services .sale call
  | .credit => funds services .credit call
  | .capture => modification services .capture call
  | .void => modification services .void call
  | .refund => throw (.unsupported "refund")

/-- Records the response to a call. A failure to record keeps the outcome, for money may have
moved. -/
def conclude (services : Services m) (call : Call) (response : FieldList) : Action m Outcome := do
  let receipt := call.receipt response (← services.now)
  try
    services.appendReceipt receipt
  catch source =>
    throw (.unrecorded receipt.outcome source)
  pure receipt.outcome

/-- Runs one payment call from end to end. -/
def execute (services : Services m) (credentials : Credentials) (call : Call) :
    Action m Outcome := do
  let (request, token) ← prepare services call
  let response ← services.exchange (request.fields credentials (call.overlay token))
  conclude services call response

/-- The outcomes of every recorded response of a payment, oldest first. -/
def history (services : Services m) (payment tenant : Uuid) : Action m (List Outcome) := do
  let receipts ← services.receipts payment tenant
  pure (receipts.map (·.outcome))

/-- The last digits of a number, at most four of them. -/
def lastFour (number : String) : String :=
  let digits := number.toList.filter Char.isDigit
  String.ofList (digits.drop (digits.length - 4))

/-- The payment method that overrides with a token describe. Of a card number the last four digits
are kept, of a bank account number nothing. -/
def describeMethod (account method tenant : Uuid) (overrides : Overrides) (isDefault : Bool)
    (token : String) (now : Timestamp) : PaymentMethod where
  accountId := account
  id := method
  token := some token
  cardFirstName := overrides.get? .cardFirstName
  cardLastName := overrides.get? .cardLastName
  cardType := overrides.get? .cardType
  cardExpirationMonth := overrides.get? .cardExpirationMonth
  cardExpirationYear := overrides.get? .cardExpirationYear
  cardNumber := none
  cardLastFour := (overrides.get? .cardNumber).map lastFour
  routingNumber := overrides.get? .routingNumber
  accountNumber := none
  accountType := overrides.get? .accountType
  address := overrides.get? .address
  state := overrides.get? .state
  zip := overrides.get? .zip
  isDefault := isDefault
  createdAt := some now
  tenantId := tenant

/-- Stores a payment method that the gateway has already given a token. -/
def addMethod (services : Services m) (account method : Uuid) (overrides : Overrides)
    (isDefault : Bool) (caller : Caller) : Action m PaymentMethod := do
  match overrides.get? .token with
  | none => throw (.validation (.propertyRequired Property.token.name))
  | some token =>
      let record :=
        describeMethod account method caller.tenant overrides isDefault token (← services.now)
      services.putMethod record
      pure record

/-- Hosted payment pages are not offered. -/
def hostedPage : Action m FieldList :=
  throw (.unsupported "hosted payment page")

/-- Notifications of the gateway are not processed. -/
def takeNotification : Action m Unit :=
  throw (.unsupported "notification")

end Payments

end PaymentGateway
