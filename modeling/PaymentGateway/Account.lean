import PaymentGateway.Text.Characters
import PaymentGateway.Timestamp
import PaymentGateway.Uuid

/-! # Account — what the platform knows of a payer

An account has one name; how many of its characters are the first name may be known. A stored payment
method holds a gateway token and the attributes that go with it. -/

namespace PaymentGateway

structure Account where
  id : Uuid
  name : String
  firstNameLength : Option Nat
  email : Option String
  phone : Option String
  deriving DecidableEq

namespace Account

/-- A text without white space at its ends, if anything is left of it. -/
def visible? (cs : List Char) : Option String :=
  let trimmed := Text.trimChars cs
  if trimmed.isEmpty then none else some (String.ofList trimmed)

/-- The first name: the characters up to the known length. -/
def firstName (a : Account) : Option String :=
  match a.firstNameLength with
  | some length => visible? (a.name.toList.take length)
  | none => none

/-- The last name: what follows the first name, or the whole name if no length is known. -/
def lastName (a : Account) : Option String :=
  visible? (a.name.toList.drop (a.firstNameLength.getD 0))

end Account

structure PaymentMethod where
  accountId : Uuid := .nil
  id : Uuid := .nil
  token : Option String := none
  cardFirstName : Option String := none
  cardLastName : Option String := none
  cardType : Option String := none
  cardExpirationMonth : Option String := none
  cardExpirationYear : Option String := none
  cardNumber : Option String := none
  cardLastFour : Option String := none
  routingNumber : Option String := none
  accountNumber : Option String := none
  accountType : Option String := none
  address : Option String := none
  state : Option String := none
  zip : Option String := none
  isDefault : Bool := false
  createdAt : Option Timestamp := none
  tenantId : Uuid := .nil
  deriving DecidableEq

end PaymentGateway
