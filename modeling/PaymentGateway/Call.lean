import PaymentGateway.Account
import PaymentGateway.Failure
import PaymentGateway.Overrides
import PaymentGateway.Request

/-! # Call — from a payment call to the request it sends

A call names an operation, the identifiers it concerns, an amount and the caller's overrides. Which
credential pays follows from the overrides and the stored payment method; together with the account
they make the request. -/

namespace PaymentGateway

/-- The name under which the software presents itself to the gateway. -/
def softwareName : String := "forte-agi"

def softwareVersion : String := "0.1.0"

structure Identifiers where
  account : Uuid
  payment : Uuid
  transaction : Uuid
  method : Uuid
  deriving DecidableEq

/-- On whose behalf a call is made. -/
structure Caller where
  tenant : Uuid
  user : Option String
  deriving DecidableEq

structure Call where
  kind : CallKind
  ids : Identifiers
  amount : Option Decimal
  currency : Option Currency
  overrides : Overrides
  caller : Caller
  deriving DecidableEq

/-! ## The overlay of identifiers -/

/-- The fields that tie a request back to the platform. -/
def identifyingPairs (ids : Identifiers) (caller : Caller) : List (Field × String) :=
  [(.consumerId, ids.account.toText), (.consumerOrderId, ids.payment.toText),
    (.walletId, ids.method.toText), (.enteredBy, caller.user.getD softwareName),
    (.softwareName, softwareName), (.softwareVersion, softwareVersion)]

def identifyingFields (ids : Identifiers) (caller : Caller) : FieldList :=
  .ofList <| (identifyingPairs ids caller).map fun (field, value) => (field.wireName, value)

/-! ## Credentials -/

inductive Tender where
  | token (value : String)
  | cardNumber (value : String)
  | accountNumber (value : String)
  | nothing
  deriving DecidableEq, Repr

/-- The credential of a call: a token before a card number before a bank account number, each from the
overrides or else from the stored payment method. -/
def Tender.resolve (overrides : Overrides) (stored : Option PaymentMethod) :
    Tender :=
  match overrides.resolve .token (stored.bind (·.token)) with
  | some value => .token value
  | none =>
      match overrides.resolve .cardNumber (stored.bind (·.cardNumber)) with
      | some value => .cardNumber value
      | none =>
          match overrides.resolve .accountNumber (stored.bind (·.accountNumber)) with
          | some value => .accountNumber value
          | none => .nothing

/-! ## Funds requests -/

/-- Where the attributes of a funds request come from. -/
structure FundsSources where
  overrides : Overrides
  account : Option Account
  stored : Option PaymentMethod

namespace FundsSources

/-- An attribute kept with the payment method, unless overridden. -/
def ofMethod (s : FundsSources) (property : Property) (pick : PaymentMethod → Option String) :
    Option String :=
  s.overrides.resolve property (s.stored.bind pick)

/-- An attribute kept with the account, unless overridden. -/
def ofAccount (s : FundsSources) (property : Property) (pick : Account → Option String) :
    Option String :=
  s.overrides.resolve property (s.account.bind pick)

def payer (s : FundsSources) : Payer where
  firstName := s.ofAccount .firstName (·.firstName)
  lastName := s.ofAccount .lastName (·.lastName)
  streetLine1 := s.ofMethod .address (·.address)
  state := s.ofMethod .state (·.state)
  zip := s.ofMethod .zip (·.zip)
  phone := s.ofAccount .phone (·.phone)
  email := s.ofAccount .email (·.email)

/-- The holder of a card: first and last name, or the one that is known. -/
def holderName (s : FundsSources) : Option String :=
  match s.ofMethod .cardFirstName (·.cardFirstName), s.ofMethod .cardLastName (·.cardLastName) with
  | some first, some last => some (first ++ " " ++ last)
  | first, last => first.or last

def readOptional {α : Type} (read : String → Except ValidationFault α) :
    Option String → Except ValidationFault (Option α)
  | some text => (read text).map some
  | none => .ok none

def card (s : FundsSources) (number : String) : Except ValidationFault Card := do
  let network ← readOptional CardNetwork.read (s.ofMethod .cardType (·.cardType))
  pure {
    number
    holderName := s.holderName
    network
    expirationMonth := s.ofMethod .cardExpirationMonth (·.cardExpirationMonth)
    expirationYear := s.ofMethod .cardExpirationYear (·.cardExpirationYear) }

def bankAccount (s : FundsSources) (number : String) : Except ValidationFault BankAccount := do
  let kind ← readOptional AccountKind.read (s.ofMethod .accountType (·.accountType))
  pure {
    number
    routingNumber := s.ofMethod .routingNumber (·.routingNumber)
    kind }

/-- Whether a token stands for a card: the stored method has a card type or the caller gives one. -/
def tokenIsCard (s : FundsSources) : Bool :=
  (s.stored.bind (·.cardType)).isSome || (s.overrides.get? .cardType).isSome

/-- The request of a money movement, with the token that the overlay has to carry, if it is paid
with one. -/
def request (s : FundsSources) (kind : Movement) (amount : Decimal) :
    Except ValidationFault (Request × Option String) :=
  match Tender.resolve s.overrides s.stored with
  | .token token =>
      .ok (if s.tokenIsCard then .card kind amount s.payer none
        else .eft kind amount s.payer none, some token)
  | .cardNumber number =>
      (s.card number).map fun card => (.card kind amount s.payer (some card), none)
  | .accountNumber number =>
      (s.bankAccount number).map fun account => (.eft kind amount s.payer (some account), none)
  | .nothing => .error .noCredential

end FundsSources

/-! ## Modifications -/

/-- The request that modifies a recorded authorization, on the rail it was recorded with. -/
def AuthorizationReference.modification (prior : AuthorizationReference) (kind : Modification) :
    Request :=
  .modification kind ((prior.transactionType.map (·.rail)).getD .eft) prior.traceNumber
    prior.authorizationCode

/-! ## The fields of a call -/

/-- The overlay of a call, with the token that pays for it. -/
def Call.overlay (call : Call) (token : Option String) : FieldList :=
  (identifyingFields call.ids call.caller).setOption .paymentMethodId (token.map .text)

def Call.receipt (call : Call) (response : FieldList) (now : Timestamp) : Receipt where
  accountId := call.ids.account
  paymentId := call.ids.payment
  transactionId := call.ids.transaction
  kind := call.kind
  amount := call.amount
  currency := call.currency
  response := response
  createdAt := now
  tenantId := call.caller.tenant

end PaymentGateway
