import PaymentGateway.Fault
import PaymentGateway.Outcome

/-! # Failure — why a payment call fails

A decline is no error: it is an outcome whose status is not processed. -/

namespace PaymentGateway

inductive Failure where
  -- A required field is missing or malformed; no connection was opened.
  | validation (fault : ValidationFault)
  -- The connection, a timeout or the stream failed.
  | transport (fault : TransportFault)
  -- The gateway answered with something that is no response.
  | framing (fault : FramingFault)
  | configuration (fault : SettingsFault)
  -- A capture or void of a payment without a recorded authorization.
  | missingAuthorization (payment : Uuid)
  -- The gateway answered, but the record could not be written.
  | unrecorded (outcome : Outcome) (source : Failure)
  | unsupported (operation : String)
  | storage (text : String)
  | row (fault : RowFault)
  | internal (text : String)
  deriving DecidableEq

/-- The severity of an error, where it has one. -/
inductive Severity where
  | error
  deriving DecidableEq, Repr

namespace Failure

def rowReason : RowFault → String
  | .notText => "not UTF-8"
  | .unknownVariant text => s!"unknown variant `{text}`"
  | .missingColumn name => s!"missing field `{name}`"
  | .repeatedColumn name => s!"duplicate field `{name}`"
  | .badIdentifier => "bad UUID"
  | .badCell fault => "Validation error: " ++ fault.message

def message : Failure → String
  | .validation fault => "Validation error: " ++ fault.message
  | .transport fault => "Transport error: " ++ fault.text
  | .framing fault => "Protocol framing error: " ++ fault.message
  | .configuration fault => "Configuration error: " ++ fault.message
  | .missingAuthorization payment =>
      "No successful authorization recorded for payment " ++ payment.toText
  | .unrecorded outcome _ =>
      "Payment went through at the gateway, but the local record failed. Payment details: " ++
        outcome.rawResponse.shown
  | .unsupported operation => operation ++ ": unsupported operation"
  | .storage text => "Storage error: " ++ text
  | .row fault => "CSV error: " ++ rowReason fault
  | .internal text => "Internal error: " ++ text

/-- The stable code of a kind of error. -/
def code : Failure → String
  | .validation _ => "forte_agi::validation"
  | .transport _ => "forte_agi::transport"
  | .framing _ => "forte_agi::framing"
  | .configuration _ => "forte_agi::config"
  | .missingAuthorization _ => "forte_agi::missing_authorization"
  | .unrecorded _ _ => "forte_agi::persistence_after_gateway"
  | .unsupported _ => "forte_agi::unsupported"
  | .storage _ => "forte_agi::storage"
  | .row _ => "forte_agi::csv"
  | .internal _ => "forte_agi::internal"

/-- Advice for the operator, where there is any. -/
def help? : Failure → Option String
  | .missingAuthorization _ =>
      some "capture and void need an approved authorize or purchase for the same payment"
  | .unrecorded _ _ =>
      some "the transaction was accepted by the gateway; record it manually"
  | _ => none

def severity? : Failure → Option Severity
  | .unrecorded _ _ => some .error
  | _ => none

def sourceMessage? : Failure → Option String
  | .transport fault => some fault.text
  | .unrecorded _ source => some source.message
  | .row fault => some (rowReason fault)
  | _ => none

/-- Whether the gateway accepted the request although the call failed. -/
def wasAccepted : Failure → Bool
  | .unrecorded _ _ => true
  | _ => false

end Failure

end PaymentGateway
