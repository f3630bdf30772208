import PaymentGateway.FieldList
import PaymentGateway.Text.Characters

/-! # Overrides — what a caller attaches to one payment call

A property holds a text under a name. Blank values count as absent, so an override can only replace a
stored value by something visible. -/

namespace PaymentGateway

/-- The properties that payment calls look at. -/
inductive Property where
  | firstName
  | lastName
  | cardNumber
  | cardType
  | cardExpirationMonth
  | cardExpirationYear
  | cardFirstName
  | cardLastName
  | routingNumber
  | accountNumber
  | accountType
  | token
  | address
  | state
  | zip
  | phone
  | email
  deriving DecidableEq, Repr

namespace Property

def all : List Property :=
  [.accountNumber, .accountType, .address, .cardExpirationMonth, .cardExpirationYear,
    .cardFirstName, .cardLastName, .cardNumber, .cardType, .email, .firstName, .lastName, .phone,
    .state, .token, .routingNumber, .zip]

/-- The name under which callers supply a property. -/
def name : Property → String
  | .firstName => "firstName"
  | .lastName => "lastName"
  | .cardNumber => "ccNumber"
  | .cardType => "ccType"
  | .cardExpirationMonth => "ccExpirationMonth"
  | .cardExpirationYear => "ccExpirationYear"
  | .cardFirstName => "ccFirstName"
  | .cardLastName => "ccLastName"
  | .routingNumber => "trn"
  | .accountNumber => "accountNumber"
  | .accountType => "accountType"
  | .token => "token"
  | .address => "address1"
  | .state => "state"
  | .zip => "zip"
  | .phone => "phone"
  | .email => "email"

end Property

structure Overrides where
  values : FieldList
  deriving DecidableEq

namespace Overrides

def empty : Overrides := ⟨FieldList.empty⟩

instance : Inhabited Overrides := ⟨empty⟩

def set (p : Overrides) (name value : String) : Overrides :=
  ⟨p.values.insert name value⟩

def ofList (pairs : List (String × String)) : Overrides :=
  ⟨FieldList.ofList pairs⟩

/-- The override under a name, unless it is blank. -/
def named? (p : Overrides) (name : String) : Option String :=
  match p.values.get? name with
  | some value => if Text.isBlankText value then none else some value
  | none => none

def get? (p : Overrides) (property : Property) : Option String :=
  p.named? property.name

/-- The override under a name, else the stored value. -/
def resolveNamed (p : Overrides) (name : String) (stored : Option String) : Option String :=
  (p.named? name).or stored

def resolve (p : Overrides) (property : Property) (stored : Option String) : Option String :=
  p.resolveNamed property.name stored

end Overrides

end PaymentGateway
