import PaymentGateway.Decimal.Reading
import PaymentGateway.Field
import PaymentGateway.CallKind
import PaymentGateway.Text.Quoted
import PaymentGateway.Text.Utf8

/-! # Fault — the causes behind payment errors

Each kind of error lists its causes, and one function per kind words them. -/

namespace PaymentGateway

/-- Why a call was rejected before any connection was opened. -/
inductive ValidationFault where
  -- A required field is absent or empty.
  | missingField (field : Field)
  -- A field name cannot be framed.
  | badFieldName (name : String)
  -- The value under a name holds a line break.
  | lineBreak (name : String)
  | unknownCardType (text : String)
  | unknownAccountType (text : String)
  | badCurrency (text : String)
  | badAmount (text : String) (fault : Decimal.Fault)
  | amountRequired (kind : CallKind)
  | currencyRequired (kind : CallKind)
  | propertyRequired (name : String)
  | noCredential
  -- A cause in the caller's own words.
  | other (text : String)
  deriving DecidableEq, Repr

def ValidationFault.message : ValidationFault → String
  | .missingField field => s!"{field.wireName} must be specified"
  | .badFieldName name => s!"invalid field name {Text.quoted name}"
  | .lineBreak name => s!"{name} contains a line break"
  | .unknownCardType text => s!"Unknown card type: {text}"
  | .unknownAccountType text => s!"Unknown account type: {text}"
  | .badCurrency text => s!"Invalid currency code: {text}"
  | .badAmount text fault => s!"invalid amount {Text.quoted text}: {fault.message}"
  | .amountRequired kind => s!"{kind.title} requires an amount"
  | .currencyRequired kind => s!"{kind.title} requires a currency"
  | .propertyRequired name => s!"{name} must be specified"
  | .noCredential => "no token, card number or bank account number supplied"
  | .other text => text

inductive TransportKind where
  | connectionRefused
  | connectionReset
  | connectionAborted
  | brokenPipe
  | timedOut
  | unexpectedEof
  | writeZero
  | other
  deriving DecidableEq, Repr

/-- A failure of the connection, with the words of whoever reported it. -/
structure TransportFault where
  kind : TransportKind
  text : String
  deriving DecidableEq, Repr

/-- Why an answer of the gateway is no response. -/
inductive FramingFault where
  -- A line without the sign that ends its name.
  | noSeparator (line : String)
  -- A line that is no text.
  | notText (fault : Text.Utf8.Fault)
  -- A cause in the reporter's own words.
  | other (text : String)
  deriving DecidableEq, Repr

def FramingFault.message : FramingFault → String
  | .noSeparator line => s!"response line without '=': {Text.quoted line}"
  | .notText fault => s!"response line is not UTF-8: {fault.message}"
  | .other text => text

inductive SettingsFault where
  -- The file at a path cannot be read.
  | unreadable (path reason : String)
  -- The text is not a configuration at all.
  | malformed
  -- A setting is blank.
  | missing (name : String)
  -- A timeout lies outside its bounds.
  | outOfBounds (name : String)
  -- A cause in the reporter's own words.
  | other (text : String)
  deriving DecidableEq, Repr

def SettingsFault.message : SettingsFault → String
  | .unreadable path reason => s!"cannot read {path}: {reason}"
  | .malformed => "malformed settings"
  | .missing name => s!"gateway.{name} must be specified"
  | .outOfBounds name => s!"gateway.{name} must be between 1 and 300"
  | .other text => text

/-- Why a row of an operations file is no operation. -/
inductive RowFault where
  | notText
  | unknownVariant (text : String)
  | missingColumn (name : String)
  | repeatedColumn (name : String)
  | badIdentifier
  -- A cell that its type rejects.
  | badCell (fault : ValidationFault)
  deriving DecidableEq, Repr

end PaymentGateway
