import PaymentGateway.Client
import Std.Async.DNS
import Std.Async.TCP

/-! # CommandLine.Network — a gateway reached over the network

A connection is observed, and the exchange is what `Client.exchange` makes of the observation: this
module waits, reads and writes, and decides nothing. Connections are not encrypted. -/

namespace PaymentGateway.CommandLine.Network

open Std.Async Std.Net

inductive Waited (α : Type) where
  | done (value : α)
  | failed (fault : TransportFault)
  -- The time is over.
  | late

/-- The failure that the system reports. -/
def faultOf (error : IO.Error) : TransportFault :=
  let kind : TransportKind := match error with
    | .resourceVanished .. => .connectionReset
    | .timeExpired .. => .timedOut
    | .noSuchThing .. => .connectionRefused
    | _ => .other
  ⟨kind, toString error⟩

/-- Waits for a task up to a point in time. -/
partial def waitUntil {α : Type} (deadline : Nat) (task : AsyncTask α) : IO (Waited α) := do
  if ← IO.hasFinished task then
    match task.get with
    | .ok value => pure (.done value)
    | .error error => pure (.failed (faultOf error))
  else if deadline ≤ (← IO.monoMsNow) then pure .late
  else
    IO.sleep 2
    waitUntil deadline task

def runUntil {α : Type} (deadline : Nat) (action : Async α) : IO (Waited α) := do
  try
    waitUntil deadline (← action.toIO)
  catch error => pure (.failed (faultOf error))

/-- The point in time some seconds from now. -/
def deadlineAfter (seconds : Nat) : IO Nat := do
  pure ((← IO.monoMsNow) + seconds * 1000)

def resolve (host : String) : Async IPAddr := do
  match IPv4Addr.ofString host, IPv6Addr.ofString host with
  | some address, _ => pure (.v4 address)
  | none, some address => pure (.v6 address)
  | none, none =>
      match (← DNS.getAddrInfo host "")[0]? with
      | some address => pure address
      | none => throw (IO.userError s!"no address for {host}")

def endpoint (address : IPAddr) (port : Nat) : SocketAddress :=
  match address with
  | .v4 address => .v4 ⟨address, port.toUInt16⟩
  | .v6 address => .v6 ⟨address, port.toUInt16⟩

def dial (settings : Settings) : Async TCP.Socket.Client := do
  let socket ← TCP.Socket.Client.mk
  socket.connect (endpoint (← resolve settings.host) settings.port)
  pure socket

/-- The most bytes that one read takes. -/
def readSize : UInt64 := 4096

/-- Reads until the response is decided, the stream ends or fails, or the time is over. -/
partial def observe (socket : TCP.Socket.Client) (deadline : Nat) (received : List UInt8) :
    IO (List Incoming) := do
  match ← runUntil deadline (socket.recv? readSize) with
  | .late => pure [.silence]
  | .failed fault => pure [.failure fault]
  | .done none => pure []
  | .done (some data) =>
      let bytes := data.toList
      let received := received ++ bytes
      if Client.isDecided received then pure [.bytes bytes]
      else
        let rest ← observe socket deadline received
        pure (.bytes bytes :: rest)

def converse (settings : Settings) (socket : TCP.Socket.Client) (request : FieldList) :
    IO Connection := do
  let deadline ← deadlineAfter settings.readTimeout
  match ← runUntil deadline (socket.send (Wire.encode request).toByteArray) with
  | .late => pure { incoming := [.silence] }
  | .failed fault => pure { flushFailure := some fault }
  | .done () => pure { incoming := ← observe socket deadline [] }

def connection (settings : Settings) (request : FieldList) : IO Connection := do
  if settings.tls then
    pure { opening := .failed ⟨.other, "encrypted connections are not available"⟩ }
  else
    match ← runUntil (← deadlineAfter settings.connectTimeout) (dial settings) with
    | .late => pure { opening := .stalled }
    | .failed fault => pure { opening := .failed fault }
    | .done socket =>
        let observed ← converse settings socket request
        let _ ← runUntil (← deadlineAfter settings.connectTimeout) socket.shutdown
        pure observed

/-- One exchange with the gateway; no connection is opened for a request that is rejected. -/
def exchange (settings : Settings) (request : FieldList) : IO (Except Failure FieldList) := do
  match RequestCheck.check request with
  | .error fault => pure (.error (.validation fault))
  | .ok () => pure (Client.exchange settings (← connection settings request) request).result

end PaymentGateway.CommandLine.Network
