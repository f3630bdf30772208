import PaymentGateway.Failure
import PaymentGateway.Request
import PaymentGateway.Text.Characters

/-! # Settings — how to reach the gateway -/

namespace PaymentGateway

/-- The connection settings of a merchant. -/
structure Settings where
  merchantId : String
  password : String
  host : String
  port : Nat
  tls : Bool
  connectTimeout : Nat
  readTimeout : Nat
  deriving DecidableEq

namespace Settings

def defaultPort : Nat := 6050

/-- Encryption is on, unless the settings turn it off. -/
def defaultTls : Bool := true

def defaultConnectTimeout : Nat := 10

def defaultReadTimeout : Nat := 60

/-- The texts that may not be blank, by the names of their settings. -/
def texts (c : Settings) : List (String × String) :=
  [("merchant_id", c.merchantId), ("password", c.password), ("host", c.host)]

def timeouts (c : Settings) : List (String × Nat) :=
  [("connect_timeout_secs", c.connectTimeout), ("read_timeout_secs", c.readTimeout)]

/-- Fails at the first blank text, then at the first timeout outside 1 to 300 seconds. -/
def check (c : Settings) : Except SettingsFault Unit :=
  match c.texts.find? fun (_, text) => Text.isBlankText text with
  | some (name, _) => .error (.missing name)
  | none =>
      match c.timeouts.find? fun (_, seconds) => seconds == 0 || seconds > 300 with
      | some (name, _) => .error (.outOfBounds name)
      | none => .ok ()

def credentials (c : Settings) : Credentials :=
  ⟨c.merchantId, c.password⟩

/-- Settings as messages show them: the password does not appear. -/
def shown (c : Settings) : String :=
  s!"GatewayConfig \x7b merchant_id: {Text.quoted c.merchantId}, host: {Text.quoted c.host}, " ++
    s!"port: {c.port}, tls: {c.tls}, connect_timeout_secs: {c.connectTimeout}, " ++
    s!"read_timeout_secs: {c.readTimeout}, .. \x7d"

end Settings

end PaymentGateway
