import PaymentGateway.Fault
import PaymentGateway.FieldList
import PaymentGateway.Text.Utf8

/-! # Wire — messages as lines of bytes

A message is a line `name=value` per field and a last line that ends it. The reader takes lines until
the last one, whatever follows it. -/

namespace PaymentGateway.Wire

def endOfData : String := "endofdata"

/-! ## Writing -/

def fieldLine (entry : String × String) : List Char :=
  entry.1.toList ++ '=' :: entry.2.toList

def encodeChars (m : FieldList) : List Char :=
  List.intercalate ['\n'] (m.entries.map fieldLine) ++ '\n' :: endOfData.toList ++ ['\n']

def encodeText (m : FieldList) : String :=
  String.ofList (encodeChars m)

def encode (m : FieldList) : List UInt8 :=
  Text.Utf8.encodeChars (encodeChars m)

/-! ## Reading -/

def lineFeed : UInt8 := 10

def carriageReturn : UInt8 := 13

/-- Cuts bytes behind each line feed; what follows the last one is a piece of its own. -/
def pieces : List UInt8 → List (List UInt8)
  | [] => []
  | b :: bs =>
      if b = lineFeed then [b] :: pieces bs
      else
        match pieces bs with
        | [] => [[b]]
        | piece :: rest => (b :: piece) :: rest

def isComplete (piece : List UInt8) : Bool :=
  piece.getLast? == some lineFeed

def dropLastByte (byte : UInt8) (bytes : List UInt8) : List UInt8 :=
  if bytes.getLast? = some byte then bytes.dropLast else bytes

/-- A piece without its line end: one line feed, then one carriage return. -/
def lineContent (piece : List UInt8) : List UInt8 :=
  dropLastByte carriageReturn (dropLastByte lineFeed piece)

def splitAtEquals? : List Char → Option (List Char × List Char)
  | [] => none
  | c :: cs =>
      if c = '=' then some ([], cs)
      else (splitAtEquals? cs).map fun (name, value) => (c :: name, value)

def readField (line : String) : Except FramingFault (String × String) :=
  match splitAtEquals? line.toList with
  | some (name, value) => .ok (String.ofList name, String.ofList value)
  | none => .error (.noSeparator line)

/-- What one line of a response says. -/
inductive Line where
  -- The response is complete.
  | last
  | field (name value : String)
  | broken (fault : FramingFault)

def readLine (content : List UInt8) : Line :=
  match Text.Utf8.decode content with
  | .error fault => .broken (.notText fault)
  | .ok text =>
      if text = endOfData then .last
      else
        match readField text with
        | .ok (name, value) => .field name value
        | .error fault => .broken fault

/-- The response that some pieces amount to, continuing the fields already read; nothing if they
decide nothing yet. -/
def verdict? (fields : FieldList) : List (List UInt8) → Option (Except FramingFault FieldList)
  | [] => none
  | piece :: rest =>
      match readLine (lineContent piece) with
      | .last => some (.ok fields)
      | .broken fault => some (.error fault)
      | .field name value => verdict? (fields.insert name value) rest

/-- The failure of a stream that ends before its response does. -/
def endedEarly : TransportFault :=
  ⟨.unexpectedEof, "gateway closed the connection before endofdata"⟩

end PaymentGateway.Wire
