import PaymentGateway.Fault
import PaymentGateway.FieldList

/-! # RequestCheck — what a request must hold before a connection is opened

The shape of a request is recognised by the credential it carries, and each shape requires fields of
its own. No name and no value may disturb the framing by lines. -/

namespace PaymentGateway.RequestCheck

def alwaysRequired : List Field := [.merchantId, .password, .transactionType]

def cardRequired : List Field :=
  [.totalAmount, .billToFirstName, .billToLastName, .cardType, .cardName, .cardExpMonth,
    .cardExpYear]

def accountRequired : List Field :=
  [.totalAmount, .billToFirstName, .billToLastName, .checkTrn, .checkAccountType]

def tokenRequired : List Field := [.totalAmount]

/-- The fields that a request without any credential holds besides. -/
def modificationRequired : List Field := [.originalTraceNumber]

/-- The fields required by the credential that a request carries. -/
def shapeRequired (m : FieldList) : List Field :=
  if m.contains .cardNumber then cardRequired
  else if m.contains .checkAccount then accountRequired
  else if m.contains .paymentMethodId then tokenRequired
  else modificationRequired

/-- Whether a field is there and not empty. -/
def isPresent (m : FieldList) (field : Field) : Bool :=
  match m.field? field with
  | some value => value != ""
  | none => false

/-- Fails at the first of some fields that is absent or empty. -/
def require (m : FieldList) (fields : List Field) : Except ValidationFault Unit :=
  match fields.find? fun field => !isPresent m field with
  | some field => .error (.missingField field)
  | none => .ok ()

def isLineBreak (c : Char) : Bool :=
  c == '\r' || c == '\n'

/-- Whether a name can stand before the sign that ends it. -/
def isFramedName (name : String) : Bool :=
  !name.toList.isEmpty && !name.toList.any fun c => c == '=' || isLineBreak c

/-- Fails at the first field whose name or value disturbs the framing. -/
def checkFraming : List (String × String) → Except ValidationFault Unit
  | [] => .ok ()
  | (name, value) :: rest =>
      if !isFramedName name then .error (.badFieldName name)
      else if value.toList.any isLineBreak then .error (.lineBreak name)
      else checkFraming rest

def check (m : FieldList) : Except ValidationFault Unit := do
  require m alwaysRequired
  require m (shapeRequired m)
  checkFraming m.entries

end PaymentGateway.RequestCheck
