/-! # Csv.Records — comma-separated text

A record ends with a line feed or a carriage return, and empty lines are no records. A field that
begins with a quote runs to the closing quote, in which a doubled quote stands for one; text behind the
closing quote belongs to the field, and a quote elsewhere is text. The rules are the same for bytes and
for characters. A field is written in quotes if it holds a comma, a quote or a line break, and every
record that is written ends with a line feed. -/

namespace PaymentGateway.Csv

/-! ## Cutting a text into records and fields -/

/-- The signs that structure comma-separated text. -/
structure Marks (α : Type) where
  comma : α
  quote : α
  carriageReturn : α
  lineFeed : α

def Marks.characters : Marks Char := ⟨',', '"', '\r', '\n'⟩

def Marks.bytes : Marks UInt8 := ⟨44, 34, 13, 10⟩

inductive Place where
  -- Before a record.
  | betweenRecords
  -- Before the first sign of a field.
  | fieldStart
  -- In a field, outside quotes.
  | plain
  -- In a field, inside quotes.
  | quoted
  -- Behind a quote that was met inside quotes.
  | afterQuote
  deriving DecidableEq, Repr

/-- A record under construction; the field and the fields before it are kept backwards. -/
structure Scan (α : Type) where
  place : Place := .betweenRecords
  field : List α := []
  fields : List (List α) := []

namespace Scan

variable {α : Type}

def copy (s : Scan α) (a : α) (place : Place) : Scan α :=
  { s with place, field := a :: s.field }

def endField (s : Scan α) : Scan α :=
  { place := .fieldStart, field := [], fields := s.field.reverse :: s.fields }

/-- The record that ends where the scan stands. -/
def record (s : Scan α) : List (List α) :=
  (s.field.reverse :: s.fields).reverse

end Scan

variable {α : Type} [DecidableEq α]

def Marks.endsRecord (marks : Marks α) (a : α) : Bool :=
  decide (a = marks.carriageReturn ∨ a = marks.lineFeed)

/-- The records that follow from where a scan stands. -/
def scanRecords (marks : Marks α) (s : Scan α) : List α → List (List (List α))
  | [] => if s.place = .betweenRecords then [] else [s.record]
  | a :: rest =>
      match s.place with
      | .quoted =>
          if a = marks.quote then scanRecords marks { s with place := .afterQuote } rest
          else scanRecords marks (s.copy a .quoted) rest
      | place =>
          if marks.endsRecord a then
            if place = .betweenRecords then scanRecords marks s rest
            else s.record :: scanRecords marks {} rest
          else if a = marks.comma then scanRecords marks s.endField rest
          else if a = marks.quote ∧ place = .afterQuote then
            scanRecords marks (s.copy a .quoted) rest
          else if a = marks.quote ∧ place ≠ .plain then
            scanRecords marks { s with place := .quoted } rest
          else scanRecords marks (s.copy a .plain) rest

def records (marks : Marks α) (text : List α) : List (List (List α)) :=
  scanRecords marks {} text

/-! ## Writing records -/

/-- Whether a character makes quotes necessary. -/
def needsQuotes (c : Char) : Bool :=
  c == ',' || c == '"' || c == '\r' || c == '\n'

def quotedCharacter (c : Char) : List Char :=
  if c = '"' then ['"', '"'] else [c]

def fieldChars (field : List Char) : List Char :=
  if field.any needsQuotes then '"' :: field.flatMap quotedCharacter ++ ['"'] else field

def recordChars (fields : List (List Char)) : List Char :=
  List.intercalate [','] (fields.map fieldChars) ++ ['\n']

def render (records : List (List String)) : String :=
  String.ofList (records.flatMap fun fields => recordChars (fields.map String.toList))

end PaymentGateway.Csv
