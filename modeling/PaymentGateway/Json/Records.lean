import PaymentGateway.Account
import PaymentGateway.Json.Codec
import PaymentGateway.Outcome

/-! # Json.Records — receipts, payment methods and accounts as JSON

Each record is written as an object with its members in a fixed order. Identifiers, amounts, currencies
and times are texts in their own notations. -/

namespace PaymentGateway

open Json

/-! ## Values -/

def Uuid.toJson (u : Uuid) : Json := .ofText u.toText

def Uuid.ofJson? : Json → Option Uuid := ofNotation? Uuid.ofText?

/-- An amount as JSON: a text, so that it keeps its scale. -/
def Decimal.toJson (d : Decimal) : Json := .ofText d.toText

/-- The amount that a JSON value states, as a text or as a number. -/
def Decimal.ofJson? (value : Json) : Option Decimal :=
  let written := match value with
    | .number literal => literal.plainText?
    | value => value.text?
  written.bind fun text => (Decimal.read text).toOption

def Currency.toJson (c : Currency) : Json := .ofText c.code

def Currency.ofJson? : Json → Option Currency :=
  ofNotation? fun s => (Currency.read s).toOption

def Timestamp.toJson (t : Timestamp) : Json := .ofText t.toText

def Timestamp.ofJson? : Json → Option Timestamp := ofNotation? Timestamp.ofText?

/-- A field list as JSON: an object with its fields in order. -/
def FieldList.toJson (m : FieldList) : Json :=
  .ofMembers (m.entries.map fun (name, value) => (name, .ofText value))

/-- The field list that a JSON value states: an object of texts. -/
def FieldList.ofJson? : Json → Option FieldList
  | .object members => do
      let pairs ← members.mapM fun (name, value) => do
        let name ← name
        let value ← value.text?
        pure (name, value)
      pure (.ofList pairs)
  | _ => none

/-! ## Vocabularies -/

def CallKind.toJson (kind : CallKind) : Json := .ofText kind.word

def CallKind.ofJson? : Json → Option CallKind := ofVocabulary? all word

def OutcomeStatus.toJson (status : OutcomeStatus) : Json := .ofText status.label

def OutcomeStatus.ofJson? : Json → Option OutcomeStatus := ofVocabulary? all label

def TransactionType.toJson (t : TransactionType) : Json := .ofText t.label

def TransactionType.ofJson? : Json → Option TransactionType := ofVocabulary? all label

def CardNetwork.toJson (network : CardNetwork) : Json := .ofText network.label

def CardNetwork.ofJson? : Json → Option CardNetwork := ofVocabulary? all label

def AccountKind.toJson (kind : AccountKind) : Json := .ofText kind.label

def AccountKind.ofJson? : Json → Option AccountKind := ofVocabulary? all label

def Rail.toJson (rail : Rail) : Json := .ofText rail.label

def Rail.ofJson? : Json → Option Rail := ofVocabulary? all label

/-! ## Records -/

namespace Receipt

def memberNames : List String :=
  ["account_id", "payment_id", "transaction_id", "kind", "amount", "currency", "response",
    "created_at", "tenant_id"]

def toJson (r : Receipt) : Json :=
  .ofMembers <| memberNames.zip
    [r.accountId.toJson, r.paymentId.toJson, r.transactionId.toJson, r.kind.toJson,
      .ofOption Decimal.toJson r.amount, .ofOption Currency.toJson r.currency, r.response.toJson,
      r.createdAt.toJson, r.tenantId.toJson]

def ofJson? (value : Json) : Option Receipt := do
  let members ← members? memberNames value
  let accountId ← required Uuid.ofJson? members "account_id"
  let paymentId ← required Uuid.ofJson? members "payment_id"
  let transactionId ← required Uuid.ofJson? members "transaction_id"
  let kind ← required CallKind.ofJson? members "kind"
  let amount ← optional Decimal.ofJson? members "amount"
  let currency ← optional Currency.ofJson? members "currency"
  let response ← required FieldList.ofJson? members "response"
  let createdAt ← required Timestamp.ofJson? members "created_at"
  let tenantId ← required Uuid.ofJson? members "tenant_id"
  pure { accountId, paymentId, transactionId, kind, amount, currency, response, createdAt, tenantId }

end Receipt

namespace PaymentMethod

def memberNames : List String :=
  ["account_id", "payment_method_id", "token", "cc_first_name", "cc_last_name", "cc_type",
    "cc_exp_month", "cc_exp_year", "cc_number", "cc_last_4", "transit_routing_number",
    "account_number", "account_type", "address1", "state", "zip", "is_default", "created_at",
    "tenant_id"]

def toJson (p : PaymentMethod) : Json :=
  .ofMembers <| memberNames.zip
    [p.accountId.toJson, p.id.toJson, .ofOption .ofText p.token, .ofOption .ofText p.cardFirstName,
      .ofOption .ofText p.cardLastName, .ofOption .ofText p.cardType,
      .ofOption .ofText p.cardExpirationMonth, .ofOption .ofText p.cardExpirationYear,
      .ofOption .ofText p.cardNumber, .ofOption .ofText p.cardLastFour,
      .ofOption .ofText p.routingNumber, .ofOption .ofText p.accountNumber,
      .ofOption .ofText p.accountType, .ofOption .ofText p.address, .ofOption .ofText p.state,
      .ofOption .ofText p.zip, .bool p.isDefault, .ofOption Timestamp.toJson p.createdAt,
      p.tenantId.toJson]

def ofJson? (value : Json) : Option PaymentMethod := do
  let members ← members? memberNames value
  let accountId ← required Uuid.ofJson? members "account_id"
  let id ← required Uuid.ofJson? members "payment_method_id"
  let token ← optional text? members "token"
  let cardFirstName ← optional text? members "cc_first_name"
  let cardLastName ← optional text? members "cc_last_name"
  let cardType ← optional text? members "cc_type"
  let cardExpirationMonth ← optional text? members "cc_exp_month"
  let cardExpirationYear ← optional text? members "cc_exp_year"
  let cardNumber ← optional text? members "cc_number"
  let cardLastFour ← optional text? members "cc_last_4"
  let routingNumber ← optional text? members "transit_routing_number"
  let accountNumber ← optional text? members "account_number"
  let accountType ← optional text? members "account_type"
  let address ← optional text? members "address1"
  let state ← optional text? members "state"
  let zip ← optional text? members "zip"
  let isDefault ← required bool? members "is_default"
  let createdAt ← optional Timestamp.ofJson? members "created_at"
  let tenantId ← required Uuid.ofJson? members "tenant_id"
  pure {
    accountId, id, token, cardFirstName, cardLastName, cardType, cardExpirationMonth,
    cardExpirationYear, cardNumber, cardLastFour, routingNumber, accountNumber, accountType,
    address, state, zip, isDefault, createdAt, tenantId }

end PaymentMethod

namespace Account

def memberNames : List String :=
  ["account_id", "name", "first_name_length", "email", "phone"]

def toJson (a : Account) : Json :=
  .ofMembers <| memberNames.zip
    [a.id.toJson, .ofText a.name, .ofOption (.number ∘ .ofNat) a.firstNameLength,
      .ofOption .ofText a.email, .ofOption .ofText a.phone]

def ofJson? (value : Json) : Option Account := do
  let members ← members? memberNames value
  let id ← required Uuid.ofJson? members "account_id"
  let name ← required text? members "name"
  let firstNameLength ← optional natural? members "first_name_length"
  let email ← optional text? members "email"
  let phone ← optional text? members "phone"
  pure { id, name, firstNameLength, email, phone }

end Account

end PaymentGateway
