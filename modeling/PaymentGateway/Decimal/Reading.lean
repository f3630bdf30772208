import PaymentGateway.Decimal.Basic

/-! # Decimal.Reading — decimals from text

A number is an optional sign, digits and at most one point; an underscore may stand after the first
digit. Fraction digits beyond the range are rounded away by the first of them, for which a short number
also takes an underscore. A text that is no such number may still be one in scientific notation. -/

namespace PaymentGateway.Decimal

inductive Fault where
  | empty
  | noDigits
  | twoPoints
  | leadingSeparator
  | unknownCharacter
  | tooManyDigits
  | roundedTooLarge
  | malformedExponent
  | exponentTooLarge (exponent : Nat)
  | valueTooLarge
  deriving DecidableEq, Repr

def Fault.message : Fault → String
  | .empty => "Invalid decimal: empty"
  | .noDigits => "Invalid decimal: no digits found"
  | .twoPoints => "Invalid decimal: two decimal points"
  | .leadingSeparator => "Invalid decimal: must start lead with a number"
  | .unknownCharacter => "Invalid decimal: unknown character"
  | .tooManyDigits => "Invalid decimal: overflow from too many digits"
  | .roundedTooLarge => "Invalid decimal: overflow from mantissa after rounding"
  | .malformedExponent => "Failed to parse"
  | .exponentTooLarge n => s!"Scale exceeds the maximum precision allowed: {n} > 28"
  | .valueTooLarge => "Number exceeds maximum value that can be represented."

/-- The part of a number read so far. -/
structure Progress where
  magnitude : Nat := 0
  scale : Nat := 0
  pointSeen : Bool := false
  digitSeen : Bool := false

/-- The fault of a character that continues no number. -/
def strayFault : Char → Fault
  | '.' => .twoPoints
  | '_' => .leadingSeparator
  | _ => .unknownCharacter

/-- Looks for a stray character behind the digits that count. -/
def checkRest : List Char → Except Fault Unit
  | [] => .ok ()
  | c :: cs => if c == '_' || (Text.digitValue? c).isSome then checkRest cs else .error (strayFault c)

/-- Ends a number whose next fraction digit no longer fits: that digit rounds it, and of those
behind it none counts. An underscore here is a zero. -/
def roundOff (p : Progress) : List Char → Except Fault (Nat × Nat)
  | [] => .ok (p.magnitude, p.scale)
  | next :: rest =>
      match if next == '_' then some 0 else Text.digitValue? next with
      | none => .error (strayFault next)
      | some digit =>
          let rounded := if digit ≥ 5 then p.magnitude + 1 else p.magnitude
          if rounded < Nat.pow 2 96 then
            (checkRest rest).map fun _ => (rounded, p.scale)
          else if p.scale = 0 then .error .roundedTooLarge
          else (checkRest rest).map fun _ => ((rounded + 4) / 10, p.scale - 1)

/-- The magnitude from which on a number is long. -/
def longBound : Nat := (Nat.pow 2 64 - 1) / 10 - 255

/-- Rounds a number with all its fraction digits. Behind a number that was long before its last digit
the underscores are passed over. -/
def roundLast (p : Progress) (rest : List Char) : Except Fault (Nat × Nat) :=
  roundOff p (if p.magnitude / 10 < longBound then rest else rest.dropWhile (· == '_'))

def readMagnitude (p : Progress) : List Char → Except Fault (Nat × Nat)
  | [] => if p.digitSeen then .ok (p.magnitude, p.scale) else .error .noDigits
  | c :: cs =>
      if p.scale ≥ 28 then roundLast p (c :: cs)
      else
        match Text.digitValue? c with
        | some digit =>
            let magnitude := p.magnitude * 10 + digit
            if magnitude < Nat.pow 2 96 then
              readMagnitude
                { p with
                  magnitude
                  scale := if p.pointSeen then p.scale + 1 else 0
                  digitSeen := true } cs
            else if p.pointSeen then roundOff p (c :: cs)
            else .error .tooManyDigits
        | none =>
            if c == '.' && !p.pointSeen then readMagnitude { p with pointSeen := true } cs
            else if c == '_' && p.digitSeen then readMagnitude p cs
            else .error (strayFault c)

def ofMagnitude (negative : Bool) (magnitude : Nat × Nat) : Except Fault Decimal :=
  match ofParts? negative magnitude.1 magnitude.2 with
  | some d => .ok d.dropZeroSign
  | none => .error .valueTooLarge

def readPlain : List Char → Except Fault Decimal
  | [] => .error .empty
  | '-' :: cs => readMagnitude {} cs >>= ofMagnitude true
  | '+' :: cs => readMagnitude {} cs >>= ofMagnitude false
  | cs => readMagnitude {} cs >>= ofMagnitude false

/-- Reads the digits of an exponent, which may have a plus sign and must fit 32 bits. -/
def readExponent (cs : List Char) : Except Fault Nat :=
  let digits := match cs with
    | '+' :: rest => rest
    | _ => cs
  match Text.readNat? digits with
  | some n => if n < Nat.pow 2 32 then .ok n else .error .malformedExponent
  | none => .error .malformedExponent

/-- Divides by a power of ten, by raising the scale; a base with too many fraction digits is
rounded first. -/
def scaleDown (base : Decimal) (exponent : Nat) : Except Fault Decimal :=
  if exponent > 28 then .error (.exponentTooLarge exponent)
  else
    let fitted := base.roundTo (28 - exponent)
    match ofParts? fitted.negative fitted.magnitude (fitted.scale + exponent) with
    | some d => .ok d
    | none => .error .valueTooLarge

/-- Multiplies by a power of ten, by lowering the scale as far as that goes. -/
def scaleUp (base : Decimal) (exponent : Nat) : Except Fault Decimal :=
  if exponent ≤ base.scale then
    match ofParts? base.negative base.magnitude (base.scale - exponent) with
    | some d => .ok d
    | none => .error .valueTooLarge
  else if exponent > 28 then .error (.exponentTooLarge exponent)
  else
    match ofParts? base.negative (base.magnitude * Nat.pow 10 (exponent - base.scale)) 0 with
    | some d => .ok d
    | none => .error .valueTooLarge

def isExponentMark (c : Char) : Bool :=
  c == 'e' || c == 'E'

def readScientific (cs : List Char) : Except Fault Decimal := do
  let base ← readPlain (cs.takeWhile (!isExponentMark ·))
  match (cs.dropWhile (!isExponentMark ·)).drop 1 with
  | '-' :: digits => readExponent digits >>= scaleDown base
  | digits => readExponent digits >>= scaleUp base

def readChars (cs : List Char) : Except Fault Decimal :=
  match readPlain cs with
  | .ok d => .ok d
  | .error fault => if cs.any isExponentMark then readScientific cs else .error fault

def read (s : String) : Except Fault Decimal :=
  readChars s.toList

end PaymentGateway.Decimal
