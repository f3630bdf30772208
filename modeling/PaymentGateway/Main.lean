import PaymentGateway.CommandLine.Network
import PaymentGateway.CommandLine.Session
import Std.Time

/-! # Main — the program

Gives a run of the program its files, its gateway, its clock and stores that live as long as the run. -/

namespace PaymentGateway.Main

/-- The bytes of the file at a path, or why there are none. -/
def fileAt (path : String) : IO (Except String (List UInt8)) := do
  try
    pure (.ok (← IO.FS.readBinFile path).toList)
  catch error =>
    match error with
    | .noFileOrDirectory .. => pure (.error "No such file or directory (os error 2)")
    | error => pure (.error (toString error))

def now : IO Timestamp := do
  let nanoseconds := (← Std.Time.Timestamp.now).toNanosecondsSinceUnixEpoch.val.toNat
  pure <| (Timestamp.ofSecondsAfterEpoch? (nanoseconds / 1000000000)
    (nanoseconds % 1000000000)).getD .epoch

/-- The services of a run, with stores in a cell of memory. -/
def services (stores : IO.Ref Stores) (settings : Settings) : Services IO where
  exchange request := ExceptT.mk (CommandLine.Network.exchange settings request)
  appendReceipt receipt := ExceptT.lift <|
    stores.modify fun s => { s with ledger := s.ledger.append receipt }
  lastAuthorization? payment tenant := ExceptT.lift do
    return (← stores.get).ledger.lastAuthorization? payment tenant
  receipts payment tenant := ExceptT.lift do
    return (← stores.get).ledger.ofPayment payment tenant
  findMethod? id tenant := ExceptT.lift do return (← stores.get).methods.find? id tenant
  putMethod record := ExceptT.lift <|
    stores.modify fun s => { s with methods := s.methods.put record }
  findAccount? id _ := ExceptT.lift do return (← stores.get).accounts.find? id
  now := now

end PaymentGateway.Main

open PaymentGateway in
def main (arguments : List String) : IO UInt32 := do
  let stores ← IO.mkRef Stores.empty
  let surroundings : CommandLine.Surroundings IO :=
    { fileAt := Main.fileAt, services := Main.services stores }
  let session ← CommandLine.run surroundings arguments
  for message in session.messages do
    IO.eprintln message
  IO.print session.output
  pure session.exitCode.toUInt32
