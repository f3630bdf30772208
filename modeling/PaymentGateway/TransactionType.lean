/-! # TransactionType — what a request asks the gateway to do

A transaction type is a rail, card or bank transfer, and an action on it; its code has a digit for
each. Requests that move money and requests that modify an earlier one use different actions. -/

namespace PaymentGateway

/-- The rails that a payment travels on: the card networks or a transfer between bank accounts. -/
inductive Rail where
  | card
  | eft
  deriving DecidableEq, Repr

inductive TransactionAction where
  | sale
  | auth
  | capture
  | credit
  | void
  deriving DecidableEq, Repr

/-- The actions that move money and carry payment credentials. -/
inductive Movement where
  | sale
  | auth
  | credit
  deriving DecidableEq, Repr

/-- The actions that modify an earlier authorization. -/
inductive Modification where
  | capture
  | void
  deriving DecidableEq, Repr

structure TransactionType where
  rail : Rail
  action : TransactionAction
  deriving DecidableEq, Repr

namespace Rail

def all : List Rail := [.card, .eft]

def label : Rail → String
  | .card => "Card"
  | .eft => "Eft"

def digit : Rail → Char
  | .card => '1'
  | .eft => '2'

end Rail

namespace TransactionAction

def all : List TransactionAction := [.sale, .auth, .capture, .credit, .void]

def label : TransactionAction → String
  | .sale => "Sale"
  | .auth => "Auth"
  | .capture => "Capture"
  | .credit => "Credit"
  | .void => "Void"

def digit : TransactionAction → Char
  | .sale => '0'
  | .auth => '1'
  | .capture => '2'
  | .credit => '3'
  | .void => '4'

end TransactionAction

def Movement.action : Movement → TransactionAction
  | .sale => .sale
  | .auth => .auth
  | .credit => .credit

def Modification.action : Modification → TransactionAction
  | .capture => .capture
  | .void => .void

namespace TransactionType

def all : List TransactionType :=
  Rail.all.flatMap fun rail => TransactionAction.all.map fun action => ⟨rail, action⟩

def code (t : TransactionType) : String :=
  String.ofList [t.rail.digit, t.action.digit]

def ofCode? (code : String) : Option TransactionType :=
  all.find? fun t => t.code == code

/-- Whether a transaction type travels on the card networks. -/
def isCard (t : TransactionType) : Bool :=
  t.rail == .card

def label (t : TransactionType) : String :=
  (match t.rail with
    | .card => "CreditCard"
    | .eft => "Eft") ++ t.action.label

end TransactionType

end PaymentGateway
