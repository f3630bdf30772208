/-! # Text.Characters — white space and digits

White space is the Unicode property `White_Space`; trimming drops it at both ends and nowhere else.
Natural numbers are printed and read digit by digit. -/

namespace PaymentGateway.Text

/-! ## White space -/

/-- The characters with the Unicode property `White_Space`. -/
def isBlank (c : Char) : Bool :=
  let n := c.toNat
  (0x9 ≤ n && n ≤ 0xD) || n == 0x20 || n == 0x85 || n == 0xA0 || n == 0x1680 ||
    (0x2000 ≤ n && n ≤ 0x200A) || n == 0x2028 || n == 0x2029 || n == 0x202F || n == 0x205F ||
    n == 0x3000

def trimStart (cs : List Char) : List Char :=
  cs.dropWhile isBlank

def trimEnd (cs : List Char) : List Char :=
  (cs.reverse.dropWhile isBlank).reverse

def trimChars (cs : List Char) : List Char :=
  trimEnd (trimStart cs)

def trim (s : String) : String :=
  String.ofList (trimChars s.toList)

/-- Whether a text is empty or holds white space alone. -/
def isBlankText (s : String) : Bool :=
  s.toList.all isBlank

/-! ## Decimal and hexadecimal digits -/

def digitChar (n : Nat) : Char :=
  Char.ofNat ('0'.toNat + n % 10)

def digitValue? (c : Char) : Option Nat :=
  if '0' ≤ c && c ≤ '9' then some (c.toNat - '0'.toNat) else none

/-- The decimal digits of a number, without leading zeros. -/
def decimalDigits (n : Nat) : List Char :=
  Nat.toDigits 10 n

/-- The last `width` decimal digits of a number, leading zeros included. -/
def fixedDigits : (width : Nat) → Nat → List Char
  | 0, _ => []
  | width + 1, n => fixedDigits width (n / 10) ++ [digitChar n]

def paddedDigits (width n : Nat) : List Char :=
  let digits := decimalDigits n
  List.replicate (width - digits.length) '0' ++ digits

/-- The number that some decimal digits spell, continuing one already read. -/
def readDigits? : (read : Nat) → List Char → Option Nat
  | read, [] => some read
  | read, c :: cs =>
      match digitValue? c with
      | some d => readDigits? (read * 10 + d) cs
      | none => none

/-- The number that a non-empty list of decimal digits spells. -/
def readNat? (cs : List Char) : Option Nat :=
  if cs.isEmpty then none else readDigits? 0 cs

/-- The value of a hexadecimal digit in either case. -/
def hexValue? (c : Char) : Option (Fin 16) :=
  let n := c.toNat
  if '0' ≤ c && c ≤ '9' then some (Fin.ofNat 16 (n - '0'.toNat))
  else if 'a' ≤ c && c ≤ 'f' then some (Fin.ofNat 16 (n - 'a'.toNat + 10))
  else if 'A' ≤ c && c ≤ 'F' then some (Fin.ofNat 16 (n - 'A'.toNat + 10))
  else none

/-- A hexadecimal digit in lower case. -/
def hexChar (d : Fin 16) : Char :=
  if d.val < 10 then Char.ofNat ('0'.toNat + d.val) else Char.ofNat ('a'.toNat + (d.val - 10))

/-- The number that hexadecimal digits spell, the most significant first. -/
def hexNumber (digits : List (Fin 16)) : Nat :=
  digits.foldl (fun n d => n * 16 + d.val) 0

end PaymentGateway.Text
