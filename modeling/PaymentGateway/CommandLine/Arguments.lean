import PaymentGateway.Call

/-! # CommandLine.Arguments — the arguments of the program

An option stands before its value, or is joined to it by an equals sign; it may be given once. A value
that begins with a hyphen must be joined, unless it is the hyphen alone. Two hyphens end the options.
Arguments are read from left to right, and the first that is wrong, or that asks for help or the version,
decides. -/

namespace PaymentGateway.CommandLine

inductive CommandOption where
  | config
  | databasePath
  | tenant
  | user
  deriving DecidableEq, Repr

namespace CommandOption

def all : List CommandOption := [.config, .databasePath, .tenant, .user]

def name : CommandOption → String
  | .config => "config"
  | .databasePath => "db-path"
  | .tenant => "tenant"
  | .user => "user"

def typed (option : CommandOption) : String :=
  "--" ++ option.name

def ofName? (name : String) : Option CommandOption :=
  all.find? fun option => option.name == name

end CommandOption

structure Arguments where
  -- The path of the operations file.
  input : String
  -- The path of the settings.
  config : String
  -- The path of a database for the records.
  databasePath : Option String
  tenant : Uuid
  user : Option String
  deriving DecidableEq

inductive UsageFault where
  | unknown (argument : String)
  | missingValue (option : CommandOption)
  | repeated (option : CommandOption)
  | badTenant (text : String)
  | emptyPath
  | extraOperand (operand : String)
  | missingInput
  | missingConfig
  deriving DecidableEq, Repr

def UsageFault.message : UsageFault → String
  | .unknown argument => "error: unexpected argument '" ++ argument ++ "' found"
  | .missingValue option => "error: a value is required for '" ++ option.typed ++ "'"
  | .repeated option => "error: the argument '" ++ option.typed ++ "' cannot be used multiple times"
  | .badTenant text => "error: invalid value '" ++ text ++ "' for '--tenant'"
  | .emptyPath => "error: a path must not be empty"
  | .extraOperand operand => "error: unexpected argument '" ++ operand ++ "' found"
  | .missingInput => "error: the operations file is required"
  | .missingConfig => "error: the argument '--config' is required"

/-- Why the program does not run: for a wrong argument, or because it is asked for a text. -/
inductive Refusal where
  | fault (fault : UsageFault)
  | help
  | version
  deriving DecidableEq, Repr

/-- The arguments read so far. -/
structure Draft where
  input : Option String := none
  config : Option String := none
  databasePath : Option String := none
  tenant : Option Uuid := none
  user : Option String := none

namespace Draft

def path (text : String) : Except Refusal String :=
  if text = "" then .error (.fault .emptyPath) else .ok text

/-- Sets a value that may be set once. -/
def once {α : Type} (option : CommandOption) (present : Option α) (draft : Draft) :
    Except Refusal Draft :=
  if present.isSome then .error (.fault (.repeated option)) else .ok draft

def set (draft : Draft) (option : CommandOption) (text : String) : Except Refusal Draft :=
  match option with
  | .config => do
      let path ← path text
      once option draft.config { draft with config := some path }
  | .databasePath => do
      let path ← path text
      once option draft.databasePath { draft with databasePath := some path }
  | .tenant =>
      match Uuid.ofText? text with
      | some tenant => once option draft.tenant { draft with tenant := some tenant }
      | none => .error (.fault (.badTenant text))
  | .user => once option draft.user { draft with user := some text }

/-- Takes an operand: the path of the operations file. -/
def operand (draft : Draft) (text : String) : Except Refusal Draft :=
  match draft.input with
  | some _ => .error (.fault (.extraOperand text))
  | none => do
      let path ← path text
      pure { draft with input := some path }

/-- The complete arguments, unless one that must be given is missing. -/
def finish (draft : Draft) : Except Refusal Arguments :=
  match draft.config, draft.input with
  | none, _ => .error (.fault .missingConfig)
  | _, none => .error (.fault .missingInput)
  | some config, some input =>
      .ok {
        input
        config
        databasePath := draft.databasePath
        tenant := draft.tenant.getD .nil
        user := draft.user }

end Draft

inductive Word where
  -- The sign that ends the options.
  | endOfOptions
  -- A long option, with the value that is joined to it.
  | long (name : String) (joined : Option String)
  -- Letters behind a hyphen.
  | short (letters : List Char)
  | operand (text : String)
  deriving DecidableEq, Repr

def Word.ofText (text : String) : Word :=
  match text.toList with
  | ['-', '-'] => .endOfOptions
  | '-' :: '-' :: rest =>
      let joined := (rest.dropWhile (· != '=')).tail
      .long (String.ofList (rest.takeWhile (· != '=')))
        (if rest.contains '=' then some (String.ofList joined) else none)
  | '-' :: c :: rest => .short (c :: rest)
  | _ => .operand text

def readOperands (draft : Draft) : List String → Except Refusal Draft
  | [] => .ok draft
  | text :: rest => do
      let draft ← draft.operand text
      readOperands draft rest

def readFrom (draft : Draft) : List String → Except Refusal Draft
  | [] => .ok draft
  | text :: rest =>
      match Word.ofText text with
      | .endOfOptions => readOperands draft rest
      | .operand text => do
          let draft ← draft.operand text
          readFrom draft rest
      | .short ('h' :: _) => .error .help
      | .short ('V' :: _) => .error .version
      | .short _ => .error (.fault (.unknown text))
      | .long "help" none => .error .help
      | .long "version" none => .error .version
      | .long name joined =>
          match CommandOption.ofName? name, joined, rest with
          | none, _, _ => .error (.fault (.unknown text))
          | some option, some value, rest => do
              let draft ← draft.set option value
              readFrom draft rest
          | some option, none, [] => .error (.fault (.missingValue option))
          | some option, none, value :: rest =>
              match Word.ofText value with
              | .operand value => do
                  let draft ← draft.set option value
                  readFrom draft rest
              | _ => .error (.fault (.missingValue option))

def Arguments.read (arguments : List String) : Except Refusal Arguments := do
  let draft ← readFrom {} arguments
  draft.finish

end PaymentGateway.CommandLine
