import PaymentGateway.Settings
import PaymentGateway.RequestCheck
import PaymentGateway.Wire

/-! # Client — one exchange over one connection

Every exchange checks the request, opens a connection of its own, writes the request, reads one
response and closes the connection. How the far end behaves is data: `Connection` says what it does
with a connection, and when. Times are in milliseconds. -/

namespace PaymentGateway

/-- How an attempt to connect ends. -/
inductive Opening where
  | opened
  | failed (fault : TransportFault)
  -- The attempt never ends.
  | stalled
  deriving DecidableEq, Repr

/-- What the far end sends next. -/
inductive Incoming where
  | bytes (data : List UInt8)
  -- Nothing for some time.
  | pause (milliseconds : Nat)
  | failure (fault : TransportFault)
  -- Nothing ever again.
  | silence
  deriving DecidableEq, Repr

/-- How a connection takes its end. -/
inductive Closing where
  | closed
  | failed (fault : TransportFault)
  -- The end is never acknowledged.
  | stalled
  deriving DecidableEq, Repr

/-- The behaviour of a far end on one connection. -/
structure Connection where
  -- The time before the attempt to connect ends.
  delay : Nat := 0
  opening : Opening := .opened
  -- The number of bytes that it takes before a write fails, and how it fails.
  writeLimit : Option (Nat × TransportFault) := none
  flushFailure : Option TransportFault := none
  -- What it sends, until it ends its side.
  incoming : List Incoming := []
  closing : Closing := .closed
  deriving DecidableEq, Repr

namespace Client

/-- A number of seconds as messages show it: none at all is counted in nanoseconds. -/
def secondsText (seconds : Nat) : String :=
  if seconds = 0 then "0ns" else toString seconds ++ "s"

/-- The failure of a phase that took too long. -/
def timedOut (phase : String) (seconds : Nat) : TransportFault :=
  ⟨.timedOut, "gateway " ++ phase ++ " timed out after " ++ secondsText seconds⟩

/-- A step of an exchange that the far end can see. -/
inductive Event where
  -- An attempt to connect.
  | dial
  -- Bytes that the far end took.
  | write (bytes : List UInt8)
  -- The attempt to end the connection.
  | shutdown
  -- The connection is gone.
  | drop
  deriving DecidableEq, Repr

structure Report where
  result : Except Failure FieldList
  events : List Event
  elapsed : Nat

/-- Whether what is received decides the result, whatever follows. -/
def isDecided (received : List UInt8) : Bool :=
  (Wire.verdict? .empty ((Wire.pieces received).filter Wire.isComplete)).isSome

/-- The time and the response, while reading what the far end sends within a limit of time. Complete
lines decide as soon as they are there, the last line only at the end of the stream. -/
def readResponse (limit seconds : Nat) (received : List UInt8) (elapsed : Nat) :
    List Incoming → Except Failure FieldList × Nat
  | [] =>
      match Wire.verdict? .empty (Wire.pieces received) with
      | some (.ok fields) => (.ok fields, elapsed)
      | some (.error fault) => (.error (.framing fault), elapsed)
      | none => (.error (.transport Wire.endedEarly), elapsed)
  | .bytes data :: rest =>
      let received := received ++ data
      match Wire.verdict? .empty ((Wire.pieces received).filter Wire.isComplete) with
      | some (.ok fields) => (.ok fields, elapsed)
      | some (.error fault) => (.error (.framing fault), elapsed)
      | none => readResponse limit seconds received elapsed rest
  | .pause time :: rest =>
      if elapsed + time ≤ limit then readResponse limit seconds received (elapsed + time) rest
      else (.error (.transport (timedOut "response" seconds)), limit)
  | .failure fault :: _ => (.error (.transport fault), elapsed)
  | .silence :: _ => (.error (.transport (timedOut "response" seconds)), limit)

/-- The bytes that a far end takes of a request, and the failure that stopped it. -/
def writeRequest (connection : Connection) (request : List UInt8) :
    List UInt8 × Option TransportFault :=
  match connection.writeLimit with
  | some (limit, fault) =>
      if limit < request.length then (request.take limit, some fault)
      else (request, connection.flushFailure)
  | none => (request, connection.flushFailure)

/-- Writes a request and reads its response on an open connection: the bytes taken, the result and the
time. -/
def converse (settings : Settings) (connection : Connection) (request : FieldList) :
    List UInt8 × Except Failure FieldList × Nat :=
  match writeRequest connection (Wire.encode request) with
  | (written, some fault) => (written, .error (.transport fault), 0)
  | (written, none) =>
      let seconds := settings.readTimeout
      (written, readResponse (seconds * 1000) seconds [] 0 connection.incoming)

/-- The time that ending a connection takes, at most the connect timeout. -/
def closingTime (settings : Settings) : Closing → Nat
  | .closed | .failed _ => 0
  | .stalled => settings.connectTimeout * 1000

/-- One exchange with a far end that behaves in a given way. How the connection ends changes nothing in
the result. -/
def exchange (settings : Settings) (connection : Connection) (request : FieldList) : Report :=
  match RequestCheck.check request with
  | .error fault => ⟨.error (.validation fault), [], 0⟩
  | .ok () =>
      let limit := settings.connectTimeout * 1000
      let late : Report :=
        ⟨.error (.transport (timedOut "connect" settings.connectTimeout)), [.dial], limit⟩
      if connection.delay > limit then late
      else
        match connection.opening with
        | .stalled => late
        | .failed fault => ⟨.error (.transport fault), [.dial], connection.delay⟩
        | .opened =>
            let (written, result, time) := converse settings connection request
            ⟨result, [.dial, .write written, .shutdown, .drop],
              connection.delay + time + closingTime settings connection.closing⟩

end Client

end PaymentGateway
