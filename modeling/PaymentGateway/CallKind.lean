/-! # CallKind — what the billing platform asks for -/

namespace PaymentGateway

inductive CallKind where
  | authorize
  | capture
  | purchase
  | void
  | credit
  | refund
  deriving DecidableEq, Repr

namespace CallKind

def all : List CallKind :=
  [.authorize, .capture, .purchase, .void, .credit, .refund]

/-- The word for a kind in files. -/
def word : CallKind → String
  | .authorize => "authorize"
  | .capture => "capture"
  | .purchase => "purchase"
  | .void => "void"
  | .credit => "credit"
  | .refund => "refund"

/-- The word for a kind in messages. -/
def title : CallKind → String
  | .authorize => "AUTHORIZE"
  | .capture => "CAPTURE"
  | .purchase => "PURCHASE"
  | .void => "VOID"
  | .credit => "CREDIT"
  | .refund => "REFUND"

def ofWord? (word : String) : Option CallKind :=
  all.find? fun kind => kind.word == word

/-- Whether an approved operation of this kind can be captured or voided later. -/
def isModifiable : CallKind → Bool
  | .authorize | .purchase => true
  | .capture | .void | .credit | .refund => false

end CallKind

end PaymentGateway
