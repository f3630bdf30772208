/-! # Text.Utf8 — bytes of a text, and where bytes stop being a text

`encode` writes a text as bytes and `decode` reads it back; where the bytes are no text, `decode`
names the first sequence that is broken. -/

namespace PaymentGateway.Text.Utf8

def encodeChars (cs : List Char) : List UInt8 :=
  cs.flatMap String.utf8EncodeChar

def encode (s : String) : List UInt8 :=
  encodeChars s.toList

/-- The first place where bytes are no text. -/
inductive Fault where
  -- The `length` bytes from `index` begin no character.
  | invalid (index length : Nat)
  -- The bytes end inside the character that begins at `index`.
  | incomplete (index : Nat)
  deriving DecidableEq, Repr

def Fault.message : Fault → String
  | .invalid index length =>
      s!"invalid utf-8 sequence of {length} bytes from index {index}"
  | .incomplete index => s!"incomplete utf-8 byte sequence from index {index}"

/-- Where a scan for the first fault stands between two bytes. -/
inductive Scan where
  -- Between characters.
  | start
  -- Inside the character that began at `first`: `seen` bytes of it are read, `owed` remain, and
  -- the next one lies between `low` and `high`.
  | within (first seen owed : Nat) (low high : UInt8)

/-- The scan after a byte that opens a character, or nothing if no character begins with it. -/
def Scan.open? (index : Nat) (b : UInt8) : Option Scan :=
  if b < 0x80 then some .start
  else if b < 0xC2 then none
  else if b ≤ 0xDF then some (.within index 1 1 0x80 0xBF)
  else if b == 0xE0 then some (.within index 1 2 0xA0 0xBF)
  else if b == 0xED then some (.within index 1 2 0x80 0x9F)
  else if b ≤ 0xEF then some (.within index 1 2 0x80 0xBF)
  else if b == 0xF0 then some (.within index 1 3 0x90 0xBF)
  else if b ≤ 0xF3 then some (.within index 1 3 0x80 0xBF)
  else if b == 0xF4 then some (.within index 1 3 0x80 0x8F)
  else none

/-- The first fault in the bytes that remain, the next of which has the given index. -/
def faultFrom? (index : Nat) : Scan → List UInt8 → Option Fault
  | .start, [] => none
  | .within first _ _ _ _, [] => some (.incomplete first)
  | .start, b :: bs =>
      match Scan.open? index b with
      | none => some (.invalid index 1)
      | some scan => faultFrom? (index + 1) scan bs
  | .within first seen owed low high, b :: bs =>
      if low ≤ b && b ≤ high then
        let scan := if owed ≤ 1 then .start else .within first (seen + 1) (owed - 1) 0x80 0xBF
        faultFrom? (index + 1) scan bs
      else
        some (.invalid first seen)

/-- The text that some bytes are, or their first fault. -/
def decode (bytes : List UInt8) : Except Fault String :=
  match String.fromUTF8? bytes.toByteArray with
  | some s => .ok s
  | none => .error ((faultFrom? 0 .start bytes).getD (.incomplete 0))

end PaymentGateway.Text.Utf8
