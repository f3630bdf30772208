import PaymentGateway.Client

/-! # Script — a rehearsed far end

A script lists what a far end does on its connections, one entry after the other; the last entry
repeats, and a script without entries approves everything. Replies may mention the transaction type of
the request and the number of the connection. -/

namespace PaymentGateway.Script

/-- One piece of a scripted reply. -/
inductive Piece where
  -- Text in which the marks for type and number are filled in.
  | template (text : String)
  | bytes (data : List UInt8)
  | pause (milliseconds : Nat)
  | failure (fault : TransportFault)
  | silence
  deriving DecidableEq, Repr

/-- A scripted connection: the pieces are its reply. -/
structure Entry where
  behaviour : Connection := {}
  pieces : List Piece := []
  deriving DecidableEq, Repr

/-- Fills in the transaction type and the number of the connection. -/
def fill (transactionType : String) (number : Nat) (text : String) : String :=
  (text.replace "\x7btype\x7d" transactionType).replace "\x7bn\x7d" (toString number)

def Piece.incoming (transactionType : String) (number : Nat) : Piece → Incoming
  | .template text => .bytes (Text.Utf8.encode (fill transactionType number text))
  | .bytes data => .bytes data
  | .pause milliseconds => .pause milliseconds
  | .failure fault => .failure fault
  | .silence => .silence

def approvalFields : List (String × String) :=
  [(Field.responseType.wireName, "A"), (Field.responseCode.wireName, "A01"),
    (Field.responseDescription.wireName, "APPROVED"),
    (Field.traceNumber.wireName, "TRACE-\x7btype\x7d"),
    (Field.authorizationCode.wireName, "AUTH01"),
    (Field.transactionType.wireName, "\x7btype\x7d")]

def approval : Entry :=
  let lines := approvalFields.map fun (name, value) => name ++ "=" ++ value ++ "\n"
  { pieces := [.template (String.join lines ++ Wire.endOfData ++ "\n")] }

/-- The entry for the connection with a given number, counted from one. -/
def entry (script : List Entry) (number : Nat) : Entry :=
  (script[number - 1]?.or script.getLast?).getD approval

def connection (script : List Entry) (number : Nat) (request : FieldList) : Connection :=
  let entry := entry script number
  let transactionType := (request.field? .transactionType).getD ""
  { entry.behaviour with incoming := entry.pieces.map (Piece.incoming transactionType number) }

/-! ## A line of connections -/

structure Log where
  -- The number of attempts to connect.
  attempts : Nat := 0
  -- The bytes taken on each opened connection.
  sent : List (List UInt8) := []
  deriving DecidableEq

def Log.add (log : Log) (events : List Client.Event) : Log :=
  events.foldl (fun log event =>
    match event with
    | .dial => { log with attempts := log.attempts + 1 }
    | .write bytes => { log with sent := log.sent ++ [bytes] }
    | .shutdown | .drop => log) log

/-- One exchange with a rehearsed far end. -/
def exchange (settings : Settings) (script : List Entry) (request : FieldList) (log : Log) :
    Client.Report × Log :=
  let report := Client.exchange settings (connection script (log.attempts + 1) request) request
  (report, log.add report.events)

/-! ## A far end without framing -/

/-- A scripted answer of a far end that takes and gives field lists. -/
inductive Answer where
  | fields (pairs : List (String × String))
  | failure (error : Failure)
  deriving DecidableEq

structure DirectLog where
  requests : List FieldList := []
  deriving DecidableEq

def Answer.result (transactionType : String) (number : Nat) : Answer →
    Except Failure FieldList
  | .fields pairs =>
      .ok <| .ofList <| pairs.map fun (name, value) => (name, fill transactionType number value)
  | .failure error => .error error

/-- One exchange with a far end that takes and gives field lists. -/
def answer (script : List Answer) (request : FieldList) (log : DirectLog) :
    Except Failure FieldList × DirectLog :=
  let number := log.requests.length + 1
  let transactionType := (request.field? .transactionType).getD ""
  let chosen := (script[number - 1]?.or script.getLast?).getD (.fields approvalFields)
  (chosen.result transactionType number, ⟨log.requests ++ [request]⟩)

end PaymentGateway.Script
