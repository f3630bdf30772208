import PaymentGateway.Batch.File

/-! # Batch.OutcomeTable — running the operations of a file, and the table of their outcomes

Operations run one after another, so that a capture sees the authorization of an earlier row. A row that
fails leaves a message and stops nothing. A table of outcomes has a header and a row per outcome;
without outcomes it is empty. -/

namespace PaymentGateway.Batch.OutcomeTable

def header : List String :=
  ["payment", "transaction", "type", "amount", "currency", "status", "response_type",
    "response_code", "response_description", "trace_number", "authorization_code", "created_at"]

def timelessCells (o : Outcome) : List String :=
  [o.paymentId.toText, o.transactionId.toText, o.kind.word, (o.amount.map Decimal.toText).getD "",
    (o.currency.map (·.code)).getD "", o.status.label, o.responseType.getD "",
    o.responseCode.getD "", o.responseDescription.getD "", o.traceNumber.getD "",
    o.authorizationCode.getD ""]

def row (o : Outcome) : List String :=
  timelessCells o ++ [o.createdAt.toText]

/-- Outcomes as comma-separated text, given how to write one of them. -/
def renderWith (row : Outcome → List String) (outcomes : List Outcome) : String :=
  if outcomes.isEmpty then "" else Csv.render (header :: outcomes.map row)

def render (outcomes : List Outcome) : String :=
  renderWith row outcomes

end PaymentGateway.Batch.OutcomeTable

namespace PaymentGateway.Batch

/-- What became of a row. -/
inductive RowResult where
  | outcome (outcome : Outcome)
  -- The row is no operation.
  | unreadable (error : Failure)
  | unprocessed (operation : Operation) (error : Failure)
  -- The gateway answered, but the record could not be written.
  | unrecorded (outcome : Outcome) (source : Failure)
  deriving DecidableEq

namespace RowResult

/-- The outcome to report, if the gateway answered. -/
def outcome? : RowResult → Option Outcome
  | .outcome o | .unrecorded o _ => some o
  | .unreadable _ | .unprocessed _ _ => none

def message? : RowResult → Option String
  | .outcome _ => none
  | .unreadable error => some ("Error reading operation: " ++ error.message)
  | .unprocessed operation error =>
      some ("Error processing " ++ operation.kind.title ++ " for payment " ++
        operation.ids.payment.toText ++ ": " ++ error.message)
  | .unrecorded o source =>
      some ("Error recording operation for payment " ++ o.paymentId.toText ++ ": " ++
        source.message)

end RowResult

variable {m : Type → Type} [Monad m]

def runRow (services : Services m) (credentials : Credentials) (caller : Caller) :
    Except Failure Operation → m RowResult
  | .error error => pure (.unreadable error)
  | .ok operation => do
      match ← (operation.execute services credentials caller).run with
      | .ok outcome => pure (.outcome outcome)
      | .error (.unrecorded outcome source) => pure (.unrecorded outcome source)
      | .error error => pure (.unprocessed operation error)

def run (services : Services m) (credentials : Credentials) (caller : Caller)
    (rows : List (Except Failure Operation)) : m (List RowResult) :=
  rows.mapM (runRow services credentials caller)

end PaymentGateway.Batch
