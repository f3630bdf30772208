import PaymentGateway.Decimal.Double
import PaymentGateway.Json.Basic

/-! # Json.Codec — reading numbers, records and words from JSON values

A whole number that fits 64 bits is taken as it is. Every other number is taken in double precision:
its first digits, as many as fit 64 bits, times a power of ten. A record is an object with each of its
names at most once; names that it does not know are passed over. It may also be an array of all its
values in order. A word of a vocabulary is a text, or an object that holds it as its only name over
nothing. -/

namespace PaymentGateway.NumberLiteral

def digitValues (digits : List Char) : List Nat :=
  digits.filterMap Text.digitValue?

/-- Appends digits to a number as long as it fits 64 bits, and counts the digits left over. -/
def appendWhole (n : Nat) : List Nat → Nat × Nat
  | [] => (n, 0)
  | d :: rest =>
      if n * 10 + d < Nat.pow 2 64 then appendWhole (n * 10 + d) rest else (n, rest.length + 1)

/-- Appends digits to a number as long as it fits 64 bits, and counts the digits appended. -/
def appendFraction (n : Nat) : List Nat → Nat × Nat
  | [] => (n, 0)
  | d :: rest =>
      if n * 10 + d < Nat.pow 2 64 then
        let (n, places) := appendFraction (n * 10 + d) rest
        (n, places + 1)
      else (n, 0)

def exponentValue (n : NumberLiteral) : Int :=
  match n.exponent with
  | some (negative, digits) =>
      let magnitude : Int := (Text.readNat? digits).getD 0
      if negative then -magnitude else magnitude
  | none => 0

/-- The magnitude of a number in double precision, unless it is too large. -/
def double? (n : NumberLiteral) : Option Double :=
  let (whole, left) := appendWhole 0 (digitValues n.whole)
  let (significand, places) := appendFraction whole (digitValues n.fraction)
  (Double.ofNat? significand).bind (·.timesTen? (left - places + n.exponentValue))

/-- Whether a number is whole and fits 64 bits, with its sign if it is negative. -/
def isExact (n : NumberLiteral) : Bool :=
  n.isWhole &&
    match Text.readNat? n.whole with
    | some magnitude =>
        if n.negative then 1 ≤ magnitude && magnitude ≤ Nat.pow 2 63
        else magnitude < Nat.pow 2 64
    | none => false

/-- The text of a number without an exponent, unless it is too large. -/
def plainText? (n : NumberLiteral) : Option String :=
  let magnitude := if n.isExact then some n.whole else n.double?.map Double.toChars
  magnitude.map fun chars => String.ofList ((if n.negative then ['-'] else []) ++ chars)

end PaymentGateway.NumberLiteral

namespace PaymentGateway.Json

/-- The members that a record with the given names consists of. -/
def members? (names : List String) : Json → Option (List (String × Json))
  | .array items => if items.length = names.length then some (names.zip items) else none
  | .object members => do
      let members ← members.mapM fun (name, value) => name.map fun name => (name, value)
      let known := members.filter fun (name, _) => names.contains name
      if (known.map Prod.fst).Nodup then some known else none
  | _ => none

def required {α : Type} (read? : Json → Option α) (members : List (String × Json)) (name : String) :
    Option α :=
  (members.lookup name).bind read?

/-- Reads a member that may be missing or null. -/
def optional {α : Type} (read? : Json → Option α) (members : List (String × Json)) (name : String) :
    Option (Option α) :=
  match members.lookup name with
  | none | some .null => some none
  | some value => (read? value).map some

/-- Reads a text by a notation of its own. -/
def ofNotation? {α : Type} (read? : String → Option α) (value : Json) : Option α :=
  value.text?.bind read?

/-- Reads a word of a vocabulary. -/
def ofVocabulary? {α : Type} (all : List α) (word : α → String) (value : Json) : Option α :=
  let written := match value with
    | .object [(name, .null)] => name
    | value => value.text?
  written.bind fun written => all.find? fun a => word a == written

/-- A natural number of at most 64 bits, written without sign, fraction and exponent. -/
def natural? : Json → Option Nat
  | .number literal =>
      if literal.isWhole && !literal.negative then
        (Text.readNat? literal.whole).filter (· < Nat.pow 2 64)
      else none
  | _ => none

end PaymentGateway.Json
