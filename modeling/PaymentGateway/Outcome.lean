import PaymentGateway.FieldList
import PaymentGateway.Instrument
import PaymentGateway.Timestamp
import PaymentGateway.TransactionType

/-! # Outcome — what became of one exchange with the gateway

A response is kept with what was asked for as a receipt. The outcome is read off it, and so is what a
later capture or void refers to. -/

namespace PaymentGateway

inductive OutcomeStatus where
  | approved
  -- Declined or rejected: the two are not told apart.
  | refused
  deriving DecidableEq, Repr

namespace OutcomeStatus

def all : List OutcomeStatus := [.approved, .refused]

def label : OutcomeStatus → String
  | .approved => "Processed"
  | .refused => "Error"

/-- The response type of an approval. -/
def approval : String := "A"

def ofResponseType (responseType : Option String) : OutcomeStatus :=
  if responseType = some approval then .approved else .refused

end OutcomeStatus

/-- One response of the gateway with what was asked for. -/
structure Receipt where
  accountId : Uuid
  paymentId : Uuid
  transactionId : Uuid
  kind : CallKind
  amount : Option Decimal
  currency : Option Currency
  response : FieldList
  createdAt : Timestamp
  tenantId : Uuid
  deriving DecidableEq

/-- The result of one exchange. -/
structure Outcome where
  paymentId : Uuid
  transactionId : Uuid
  kind : CallKind
  amount : Option Decimal
  currency : Option Currency
  status : OutcomeStatus
  responseType : Option String
  responseCode : Option String
  responseDescription : Option String
  traceNumber : Option String
  authorizationCode : Option String
  createdAt : Timestamp
  rawResponse : FieldList
  deriving DecidableEq

/-- What a capture or void refers to. -/
structure AuthorizationReference where
  traceNumber : String
  authorizationCode : Option String
  transactionType : Option TransactionType
  deriving DecidableEq

def Outcome.isApproved (o : Outcome) : Bool :=
  o.status == .approved

namespace Receipt

def outcome (r : Receipt) : Outcome where
  paymentId := r.paymentId
  transactionId := r.transactionId
  kind := r.kind
  amount := r.amount
  currency := r.currency
  status := .ofResponseType (r.response.field? .responseType)
  responseType := r.response.field? .responseType
  responseCode := r.response.field? .responseCode
  responseDescription := r.response.field? .responseDescription
  traceNumber := r.response.field? .traceNumber
  authorizationCode := r.response.field? .authorizationCode
  createdAt := r.createdAt
  rawResponse := r.response

/-- Whether a later capture or void can modify what a receipt tells of: an approved authorize or
purchase. -/
def isModifiable (r : Receipt) : Bool :=
  r.kind.isModifiable &&
    OutcomeStatus.ofResponseType (r.response.field? .responseType) == .approved

/-- The value of a field of the response, unless it is empty. -/
def nonEmpty? (r : Receipt) (field : Field) : Option String :=
  (r.response.field? field).filter (· != "")

/-- The reference that a receipt offers; one without a trace number offers none. -/
def reference? (r : Receipt) : Option AuthorizationReference :=
  (r.nonEmpty? .traceNumber).map fun traceNumber =>
    { traceNumber
      authorizationCode := r.nonEmpty? .authorizationCode
      transactionType := (r.response.field? .transactionType).bind TransactionType.ofCode? }

end Receipt

end PaymentGateway
