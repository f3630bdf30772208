import PaymentGateway.Proofs.Client.Reading
import PaymentGateway.Proofs.Payments.Performing

/-!
# An exchange, step by step

The operations of an exchange in the order and at the times in which a client makes them.  A phase
that runs into its limit fails there.  Whatever a conversation on an open connection ends with, the
connection is shut down and dropped behind it.
-/

namespace PaymentGateway.Client

open PaymentGateway.Action (perform)

/-! ## Sessions -/

inductive Operation where
  | dial
  -- The bytes that the far end takes.
  | write (bytes : List UInt8)
  | flush
  -- The bytes that arrive, none at the end of the stream.
  | read (bytes : List UInt8)
  | shutdown
  | drop
  deriving DecidableEq, Repr

/-- The time, and the operations so far, each with the time at which it began. -/
structure Session where
  clock : Nat
  trace : List (Nat × Operation)

def Session.fresh : Session := ⟨0, []⟩

abbrev Procedure := Action (StateM Session)

/-- The end of a phase, and how the failure to keep it is worded. -/
structure Limit where
  deadline : Nat
  phase : String
  seconds : Nat

def Limit.fault (limit : Limit) : TransportFault :=
  timedOut limit.phase limit.seconds

namespace Procedure

variable {α : Type}

def operate (operation : Operation) : Procedure Unit :=
  modify fun session => { session with trace := session.trace ++ [(session.clock, operation)] }

/-- Waits for what never comes. -/
def expire (limit : Limit) : Procedure α := do
  modify fun session => { session with clock := limit.deadline }
  throw (.transport limit.fault)

def wait (limit : Limit) (time : Nat) : Procedure Unit := do
  let session ← get
  if session.clock + time ≤ limit.deadline then
    set { session with clock := session.clock + time }
  else expire limit

def within (phase : String) (seconds : Nat) (action : Limit → Procedure α) : Procedure α := do
  let session ← get
  action ⟨session.clock + seconds * 1000, phase, seconds⟩

def attempt (action : Procedure α) : Procedure (Except Failure α) :=
  ExceptT.lift action.run

/-! ## The phases -/

def connect (connection : Connection) (limit : Limit) : Procedure Unit := do
  operate .dial
  wait limit connection.delay
  match connection.opening with
  | .opened => pure ()
  | .failed fault => throw (.transport fault)
  | .stalled => expire limit

def writeAll (connection : Connection) (bytes : List UInt8) : Procedure Unit := do
  match connection.writeLimit with
  | some (limit, fault) =>
      if limit < bytes.length then
        operate (.write (bytes.take limit))
        throw (.transport fault)
      else operate (.write bytes)
  | none => operate (.write bytes)

def flush (connection : Connection) : Procedure Unit := do
  operate .flush
  match connection.flushFailure with
  | some fault => throw (.transport fault)
  | none => pure ()

def receive (limit : Limit) (received : List UInt8) : List Incoming → Procedure FieldList
  | [] => do
      operate (.read [])
      ofExcept (resultOf (Wire.verdict? .empty (Wire.pieces received)))
  | .bytes data :: rest => do
      operate (.read data)
      match Wire.verdict? .empty ((Wire.pieces (received ++ data)).filter Wire.isComplete) with
      | some verdict => ofExcept (resultOf (some verdict))
      | none => receive limit (received ++ data) rest
  | .pause time :: rest => do
      wait limit time
      receive limit received rest
  | .failure fault :: _ => throw (.transport fault)
  | .silence :: _ => expire limit

def talk (connection : Connection) (request : FieldList) (limit : Limit) :
    Procedure FieldList := do
  writeAll connection (Wire.encode request)
  flush connection
  receive limit [] connection.incoming

def hangUp (connection : Connection) (limit : Limit) : Procedure Unit := do
  operate .shutdown
  match connection.closing with
  | .closed => pure ()
  | .failed fault => throw (.transport fault)
  | .stalled => expire limit

def exchange (settings : Settings) (connection : Connection) (request : FieldList) :
    Procedure FieldList := do
  match RequestCheck.check request with
  | .error fault => throw (.validation fault)
  | .ok () =>
      within "connect" settings.connectTimeout (connect connection)
      let result ← attempt (within "response" settings.readTimeout (talk connection request))
      -- neither a failure nor a timeout of the end is looked at
      let _ ← attempt (within "shutdown" settings.connectTimeout (hangUp connection))
      operate .drop
      ofExcept result

/-! ## What the steps do -/

theorem perform_operate (operation : Operation) (s : Session) :
    perform (operate operation) s = (.ok (), ⟨s.clock, s.trace ++ [(s.clock, operation)]⟩) := rfl

theorem perform_wait (limit : Limit) (time : Nat) (s : Session) :
    perform (wait limit time) s =
      if s.clock + time ≤ limit.deadline then (.ok (), ⟨s.clock + time, s.trace⟩)
      else (.error (.transport limit.fault), ⟨limit.deadline, s.trace⟩) := by
  have hget : perform (get : Procedure Session) s = (.ok s, s) := rfl
  rw [wait, Action.perform_bind_of_ok hget]
  split <;> rfl

theorem perform_within (phase : String) (seconds : Nat) (action : Limit → Procedure α)
    (s : Session) :
    perform (within phase seconds action) s =
      perform (action ⟨s.clock + seconds * 1000, phase, seconds⟩) s := rfl

theorem perform_attempt (action : Procedure α) (s : Session) :
    perform (attempt action) s = (.ok (perform action s).1, (perform action s).2) := rfl

theorem perform_ofExcept (result : Except Failure α) (s : Session) :
    perform (ofExcept result : Procedure α) s = (result, s) := by
  cases result <;> rfl

theorem perform_flush_of_some {connection : Connection} {fault : TransportFault}
    (h : connection.flushFailure = some fault) (s : Session) :
    perform (flush connection) s =
      (.error (.transport fault), ⟨s.clock, s.trace ++ [(s.clock, .flush)]⟩) := by
  rw [flush, Action.perform_bind_of_ok (perform_operate _ _), h]
  rfl

theorem perform_flush_of_none {connection : Connection} (h : connection.flushFailure = none)
    (s : Session) :
    perform (flush connection) s = (.ok (), ⟨s.clock, s.trace ++ [(s.clock, .flush)]⟩) := by
  rw [flush, Action.perform_bind_of_ok (perform_operate _ _), h]
  rfl

end Procedure

end PaymentGateway.Client
