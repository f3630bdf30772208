import PaymentGateway.Text.Characters

/-! # Decimal — scaled decimal numbers

A decimal is a sign and a magnitude of at most 96 bits, divided by a power of ten with at most 28
digits. The scale is part of the number: `10.0` and `10.00` are two decimals of one value. So is the
sign of a zero: a number below zero that is rounded to nothing keeps it. -/

namespace PaymentGateway

/-- `magnitude / 10 ^ scale` with a sign. -/
structure Decimal where
  negative : Bool
  magnitude : Nat
  scale : Nat
  magnitude_lt : magnitude < Nat.pow 2 96
  scale_le : scale ≤ 28
  deriving DecidableEq

namespace Decimal

def ofParts? (negative : Bool) (magnitude scale : Nat) : Option Decimal :=
  if h : magnitude < Nat.pow 2 96 ∧ scale ≤ 28 then some ⟨negative, magnitude, scale, h.1, h.2⟩ else none

def zero : Decimal := ⟨false, 0, 0, by decide, by decide⟩

instance : Inhabited Decimal := ⟨zero⟩

/-- The same number, a zero without a sign. -/
def dropZeroSign (d : Decimal) : Decimal :=
  { d with negative := d.negative && d.magnitude != 0 }

/-- The characters of a decimal: as many fraction digits as its scale, at least one digit before
the point. -/
def toChars (d : Decimal) : List Char :=
  let sign := if d.negative then ['-'] else []
  let fraction := if d.scale = 0 then [] else '.' :: Text.fixedDigits d.scale d.magnitude
  sign ++ Text.decimalDigits (d.magnitude / Nat.pow 10 d.scale) ++ fraction

def toText (d : Decimal) : String :=
  String.ofList d.toChars

/-- A natural quotient rounded to the nearest whole number, a half upwards. -/
def roundHalfUp (numerator divisor : Nat) : Nat :=
  (2 * numerator + divisor) / (2 * divisor)

theorem roundHalfUp_le (numerator : Nat) {divisor : Nat} (h : 0 < divisor) :
    roundHalfUp numerator divisor ≤ numerator := by
  unfold roundHalfUp
  rw [Nat.div_le_iff_le_mul_add_pred (by omega)]
  have : 2 * numerator ≤ 2 * divisor * numerator :=
    Nat.mul_le_mul_right numerator (by omega)
  omega

/-- The decimal with at most `places` fraction digits that is nearest, a half away from zero; its
sign stays. -/
def roundTo (places : Nat) (d : Decimal) : Decimal :=
  if h : d.scale ≤ places then d
  else
    { negative := d.negative
      magnitude := roundHalfUp d.magnitude (Nat.pow 10 (d.scale - places))
      scale := places
      magnitude_lt :=
        Nat.lt_of_le_of_lt (roundHalfUp_le _ (Nat.pow_pos (by decide))) d.magnitude_lt
      scale_le := by have := d.scale_le; omega }

/-- Appends up to `count` zeros to the fraction, as many as the magnitude has room for. -/
def padBy : (count : Nat) → Decimal → Decimal
  | 0, d => d
  | count + 1, d =>
      if h : d.magnitude * 10 < Nat.pow 2 96 ∧ d.scale + 1 ≤ 28 then
        padBy count ⟨d.negative, d.magnitude * 10, d.scale + 1, h.1, h.2⟩
      else d

/-- An amount rounded to two fraction digits, a half away from zero. An amount that is rounded to
nothing loses its sign; a zero keeps it. -/
def roundMoney (d : Decimal) : Decimal :=
  if d.magnitude = 0 then d.roundTo 2 else (d.roundTo 2).dropZeroSign

/-- An amount of money as the gateway reads it: rounded, and written with two fraction digits or as
many as the magnitude has room for. -/
def moneyText (d : Decimal) : String :=
  let rounded := d.roundMoney
  (rounded.padBy (2 - rounded.scale)).toText

end Decimal

end PaymentGateway
