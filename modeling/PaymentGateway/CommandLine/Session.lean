import PaymentGateway.Batch.OutcomeTable
import PaymentGateway.CommandLine.Arguments
import PaymentGateway.Settings.File

/-! # CommandLine.Session — one run of the program

The program reads its settings, then the operations file, and runs the operations one after another. A
row that fails does not change the exit code; settings, a file or a header that cannot be read end the
run before the first row. -/

namespace PaymentGateway.CommandLine

/-- What the program needs of its surroundings. -/
structure Surroundings (m : Type → Type) where
  -- The bytes of the file at a path, or why there are none.
  fileAt : String → m (Except String (List UInt8))
  -- The services that settings lead to.
  services : Settings → Services m

inductive Ending where
  | refused (refusal : Refusal)
  | misconfigured (fault : SettingsFault)
  -- The operations file cannot be read.
  | noOperations (reason : String)
  -- The header of the operations file cannot be read.
  | badHeader (error : Failure)
  | finished (results : List Batch.RowResult)

/-- A run: whether a database was asked for in vain, and how it ended. -/
structure Session where
  databaseUnavailable : Bool := false
  ending : Ending

namespace Session

/-- The warning about a database that cannot be had. -/
def databaseWarning : String :=
  "WARNING: Persistent storage requested via --db-path, but 'storage-rocksdb' feature is not " ++
    "enabled. Falling back to In-Memory storage."

def helpText : String :=
  "Usage: forte-agi [OPTIONS] --config <CONFIG> <INPUT>\n\n" ++
  "Arguments:\n" ++
  "  <INPUT>  Input operations CSV file\n\n" ++
  "Options:\n" ++
  "      --config <CONFIG>    Gateway settings (TOML with a [gateway] table)\n" ++
  "      --db-path <DB_PATH>  Path to persistent database (optional). If provided, uses RocksDB\n" ++
  "      --tenant <TENANT>    Tenant the operations belong to " ++
  "[default: 00000000-0000-0000-0000-000000000000]\n" ++
  "      --user <USER>        Reported to the gateway as the user entering the transactions\n" ++
  "  -h, --help               Print help\n" ++
  "  -V, --version            Print version\n"

def versionText : String :=
  softwareName ++ " " ++ softwareVersion ++ "\n"

/-- The exit code: 2 for wrong arguments, 1 for a run that ends before the first row. -/
def exitCode (session : Session) : Nat :=
  match session.ending with
  | .refused (.fault _) => 2
  | .refused .help | .refused .version | .finished _ => 0
  | .misconfigured _ | .noOperations _ | .badHeader _ => 1

/-- What the program prints, given how to write the row of an outcome. -/
def outputWith (row : Outcome → List String) (session : Session) : String :=
  match session.ending with
  | .refused .help => helpText
  | .refused .version => versionText
  | .finished results =>
      Batch.OutcomeTable.renderWith row (results.filterMap (·.outcome?))
  | _ => ""

def output (session : Session) : String :=
  session.outputWith Batch.OutcomeTable.row

def messages (session : Session) : List String :=
  (if session.databaseUnavailable then [databaseWarning] else []) ++
    match session.ending with
    | .refused (.fault fault) => [fault.message]
    | .refused .help | .refused .version => []
    | .misconfigured fault => ["Error: " ++ (Failure.configuration fault).message]
    | .noOperations reason => ["Error: " ++ reason]
    | .badHeader error => ["Error: " ++ error.message]
    | .finished results => results.filterMap (·.message?)

end Session

variable {m : Type → Type} [Monad m]

def loadSettings (surroundings : Surroundings m) (path : String) :
    m (Except SettingsFault Settings) := do
  let content ← surroundings.fileAt path
  pure <| Settings.load path <| content.bind fun bytes =>
    (Text.Utf8.decode bytes).mapError fun _ => "stream did not contain valid UTF-8"

def runOperations (surroundings : Surroundings m) (settings : Settings) (arguments : Arguments) :
    m Ending := do
  match ← surroundings.fileAt arguments.input with
  | .error reason => pure (.noOperations reason)
  | .ok bytes =>
      match Batch.readRows bytes with
      | .error error => pure (.badHeader error)
      | .ok rows => do
          let caller : Caller := ⟨arguments.tenant, arguments.user⟩
          let results ← Batch.run (surroundings.services settings) settings.credentials caller rows
          pure (.finished results)

def run (surroundings : Surroundings m) (arguments : List String) : m Session :=
  match Arguments.read arguments with
  | .error refusal => pure { ending := .refused refusal }
  | .ok arguments => do
      match ← loadSettings surroundings arguments.config with
      | .error fault => pure { ending := .misconfigured fault }
      | .ok settings =>
          let ending ← runOperations surroundings settings arguments
          pure { databaseUnavailable := arguments.databasePath.isSome, ending }

end PaymentGateway.CommandLine
