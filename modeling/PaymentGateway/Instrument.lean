import PaymentGateway.Fault
import PaymentGateway.Text.Characters

/-! # Instrument — card networks, bank account kinds and currencies

The small vocabularies that describe what a payment is made with, each with the spellings that are
accepted for it. -/

namespace PaymentGateway

/-! ## Card networks -/

inductive CardNetwork where
  | visa
  | masterCard
  | amex
  | discover
  | diners
  | jcb
  deriving DecidableEq, Repr

namespace CardNetwork

def all : List CardNetwork := [.visa, .masterCard, .amex, .discover, .diners, .jcb]

def code : CardNetwork → String
  | .visa => "VISA"
  | .masterCard => "MAST"
  | .amex => "AMER"
  | .discover => "DISC"
  | .diners => "DINE"
  | .jcb => "JCB"

def label : CardNetwork → String
  | .visa => "Visa"
  | .masterCard => "MasterCard"
  | .amex => "Amex"
  | .discover => "Discover"
  | .diners => "Diners"
  | .jcb => "Jcb"

/-- The spellings of a network, in lower case and without separators. -/
def spellings : CardNetwork → List String
  | .visa => ["visa"]
  | .masterCard => ["mast", "master", "mastercard"]
  | .amex => ["amer", "amex", "americanexpress"]
  | .discover => ["disc", "discover"]
  | .diners => ["dine", "diners", "dinersclub"]
  | .jcb => ["jcb"]

/-- A spelling without white space at its ends, without case, blanks, hyphens and underscores. -/
def normalize (text : String) : String :=
  String.ofList <| ((Text.trimChars text.toList).map Char.toLower).filter fun c =>
    !(c == ' ' || c == '-' || c == '_')

def read (text : String) : Except ValidationFault CardNetwork :=
  match all.find? fun network => network.spellings.contains (normalize text) with
  | some network => .ok network
  | none => .error (.unknownCardType text)

end CardNetwork

/-! ## Bank account kinds -/

inductive AccountKind where
  | checking
  | savings
  deriving DecidableEq, Repr

namespace AccountKind

def all : List AccountKind := [.checking, .savings]

def code : AccountKind → String
  | .checking => "C"
  | .savings => "S"

def label : AccountKind → String
  | .checking => "Checking"
  | .savings => "Savings"

def spellings : AccountKind → List String
  | .checking => ["c", "checking"]
  | .savings => ["s", "savings"]

def read (text : String) : Except ValidationFault AccountKind :=
  let normal := String.ofList ((Text.trimChars text.toList).map Char.toLower)
  match all.find? fun kind => kind.spellings.contains normal with
  | some kind => .ok kind
  | none => .error (.unknownAccountType text)

end AccountKind

/-! ## Currencies -/

/-- Whether some characters are three capital letters. -/
def isCurrencyCode (code : String) : Bool :=
  code.toList.length == 3 && code.toList.all Char.isUpper

/-- A currency by its code of three capital letters. -/
structure Currency where
  code : String
  isCurrencyCode_code : isCurrencyCode code = true
  deriving DecidableEq

namespace Currency

def usd : Currency := ⟨"USD", by decide⟩

/-- The currency that a text spells, in any case and between white space. -/
def read (text : String) : Except ValidationFault Currency :=
  let code := String.ofList ((Text.trimChars text.toList).map Char.toUpper)
  if h : isCurrencyCode code = true then .ok ⟨code, h⟩ else .error (.badCurrency text)

end Currency

end PaymentGateway
