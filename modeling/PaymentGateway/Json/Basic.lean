import PaymentGateway.Text.Characters

/-! # Json.Basic — JSON values and their text

A value keeps what its text says: numbers keep their digits, and the members of an object keep their
order and their repetitions. A text whose escapes name no characters is kept as nothing, for it does
no harm where nobody looks at it. A value is written without blanks; in texts only the quote, the
backslash and the control characters are escaped. -/

namespace PaymentGateway

/-- A number as it is written. -/
structure NumberLiteral where
  negative : Bool
  -- The digits before the point.
  whole : List Char
  -- The digits behind the point, none without a point.
  fraction : List Char
  -- The sign and the digits of the exponent, if there is one.
  exponent : Option (Bool × List Char)
  deriving DecidableEq, Repr

inductive Json where
  | null
  | bool (value : Bool)
  | number (literal : NumberLiteral)
  | text (value : Option String)
  | array (items : List Json)
  | object (members : List (Option String × Json))

namespace NumberLiteral

def ofNat (n : Nat) : NumberLiteral :=
  ⟨false, Text.decimalDigits n, [], none⟩

/-- Whether a literal has neither a fraction nor an exponent. -/
def isWhole (n : NumberLiteral) : Bool :=
  n.fraction.isEmpty && n.exponent.isNone

end NumberLiteral

namespace Json

def ofText (s : String) : Json :=
  .text (some s)

def ofOption {α : Type} (encode : α → Json) : Option α → Json
  | some value => encode value
  | none => .null

def ofMembers (members : List (String × Json)) : Json :=
  .object (members.map fun (name, value) => (some name, value))

def text? : Json → Option String
  | .text value => value
  | _ => none

def bool? : Json → Option Bool
  | .bool value => some value
  | _ => none

end Json

end PaymentGateway

namespace PaymentGateway.Json

/-- The two hexadecimal digits of a number below 256. -/
def hexPair (n : Nat) : List Char :=
  [Text.hexChar ⟨n / 16 % 16, by omega⟩, Text.hexChar ⟨n % 16, by omega⟩]

def escapedChar (c : Char) : List Char :=
  match c with
  | '"' => ['\\', '"']
  | '\\' => ['\\', '\\']
  | '\x08' => ['\\', 'b']
  | '\x0c' => ['\\', 'f']
  | '\n' => ['\\', 'n']
  | '\r' => ['\\', 'r']
  | '\t' => ['\\', 't']
  | c => if c.toNat < 0x20 then ['\\', 'u', '0', '0'] ++ hexPair c.toNat else [c]

def textChars (s : String) : List Char :=
  '"' :: s.toList.flatMap escapedChar ++ ['"']

/-- A number with the digits that it keeps. -/
def numberChars (n : NumberLiteral) : List Char :=
  (if n.negative then ['-'] else []) ++ n.whole ++
    (if n.fraction.isEmpty then [] else '.' :: n.fraction) ++
    match n.exponent with
    | some (negative, digits) => 'e' :: (if negative then ['-'] else []) ++ digits
    | none => []

mutual

def toChars : Json → List Char
  | .null => "null".toList
  | .bool value => (if value then "true" else "false").toList
  | .number literal => numberChars literal
  | .text value => textChars (value.getD "")
  | .array items => '[' :: itemChars items ++ [']']
  | .object members => '\x7b' :: memberChars members ++ ['\x7d']

def itemChars : List Json → List Char
  | [] => []
  | [item] => toChars item
  | item :: rest => toChars item ++ ',' :: itemChars rest

def memberChars : List (Option String × Json) → List Char
  | [] => []
  | [(name, value)] => textChars (name.getD "") ++ ':' :: toChars value
  | (name, value) :: rest =>
      textChars (name.getD "") ++ ':' :: toChars value ++ ',' :: memberChars rest

end

def toText (value : Json) : String :=
  String.ofList value.toChars

end PaymentGateway.Json
