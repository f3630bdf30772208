import PaymentGateway.Settings
import PaymentGateway.Toml.Document

/-! # Settings.File — connection settings from a file

The settings stand in the table `gateway`. Names that are no settings are passed over; a setting with a
default may be missing. The table may also be an array of the values in order. -/

namespace PaymentGateway.Settings

def tableName : String := "gateway"

def names : List String :=
  ["merchant_id", "password", "host", "port", "tls", "connect_timeout_secs", "read_timeout_secs"]

def named? : Toml → Option (List (String × Toml))
  | .table _ entries => some entries
  | .array items => some (names.zip items)
  | _ => none

def text? : Toml → Option String
  | .text value => some value
  | _ => none

def truth? : Toml → Option Bool
  | .bool value => some value
  | _ => none

/-- The natural number up to a limit that a value is. -/
def natural? (limit : Nat) : Toml → Option Nat
  | .integer n => if 0 ≤ n ∧ n ≤ limit then some n.toNat else none
  | _ => none

def required {α : Type} (read? : Toml → Option α) (settings : List (String × Toml)) (name : String) :
    Option α :=
  (settings.lookup name).bind read?

def defaulted {α : Type} (read? : Toml → Option α) (settings : List (String × Toml)) (name : String)
    (default : α) : Option α :=
  match settings.lookup name with
  | some value => read? value
  | none => some default

def ofEntries? (entries : List (String × Toml)) : Option Settings := do
  let settings ← (entries.lookup tableName).bind named?
  let merchantId ← required text? settings "merchant_id"
  let password ← required text? settings "password"
  let host ← required text? settings "host"
  let port ← defaulted (natural? 65535) settings "port" Settings.defaultPort
  let tls ← defaulted truth? settings "tls" Settings.defaultTls
  let connectTimeout ←
    defaulted (natural? (Nat.pow 2 64 - 1)) settings "connect_timeout_secs"
      Settings.defaultConnectTimeout
  let readTimeout ←
    defaulted (natural? (Nat.pow 2 64 - 1)) settings "read_timeout_secs" Settings.defaultReadTimeout
  pure { merchantId, password, host, port, tls, connectTimeout, readTimeout }

/-- The settings that a text states, if it states any and they pass the checks. -/
def read (text : String) : Except SettingsFault Settings :=
  match (Toml.read? text).bind ofEntries? with
  | none => .error .malformed
  | some settings => settings.check.map fun _ => settings

/-- Reads the settings at a path, given the content of the file there or why there is none. -/
def load (path : String) (content : Except String String) : Except SettingsFault Settings :=
  match content with
  | .ok text => read text
  | .error reason => .error (.unreadable path reason)

end PaymentGateway.Settings
