import PaymentGateway.Text.Characters

/-! # Decimal.Double — numbers in double precision, and their shortest text

A finite number of double precision is a mantissa of at most 53 bits times a power of two. Products and
quotients are rounded to the nearest such number, a tie to the even mantissa. The shortest text of a
number has the fewest digits that read back as it, and of those the nearest. -/

namespace PaymentGateway

/-- `mantissa * 2 ^ exponent`. -/
structure Double where
  mantissa : Nat
  exponent : Int
  deriving DecidableEq, Repr

namespace Double

def zero : Double := ⟨0, 0⟩

def leastExponent : Int := -1074

def greatestExponent : Int := 971

/-- A quotient rounded to the nearest whole number, a tie to the even one. -/
def roundHalfEven (numerator divisor : Nat) : Nat :=
  let quotient := numerator / divisor
  let twice := 2 * (numerator % divisor)
  if divisor < twice || (divisor == twice && quotient % 2 == 1) then quotient + 1 else quotient

/-- The number nearest to a quotient of positive numbers times a power of two, unless it is too
large. -/
def nearest? (numerator divisor : Nat) (power : Int) : Option Double :=
  let numerator := numerator * Nat.pow 2 power.toNat
  let divisor := divisor * Nat.pow 2 (-power).toNat
  let guess : Int := (Nat.log2 numerator : Int) - Nat.log2 divisor
  let isBelow := numerator * Nat.pow 2 (-guess).toNat < divisor * Nat.pow 2 guess.toNat
  let exponent := max leastExponent ((if isBelow then guess - 1 else guess) - 52)
  let mantissa :=
    roundHalfEven (numerator * Nat.pow 2 (-exponent).toNat) (divisor * Nat.pow 2 exponent.toNat)
  let rounded : Double :=
    if mantissa == Nat.pow 2 53 then ⟨Nat.pow 2 52, exponent + 1⟩ else ⟨mantissa, exponent⟩
  if greatestExponent < rounded.exponent then none else some rounded

def ofNat? (n : Nat) : Option Double :=
  if n == 0 then some zero else nearest? n 1 0

def mul? (a b : Double) : Option Double :=
  if a.mantissa == 0 || b.mantissa == 0 then some zero
  else nearest? (a.mantissa * b.mantissa) 1 (a.exponent + b.exponent)

def div? (a b : Double) : Option Double :=
  if a.mantissa == 0 then some zero
  else nearest? a.mantissa b.mantissa (a.exponent - b.exponent)

/-- The largest power of ten that is a number of double precision. -/
def greatestTen : Nat := 308

/-- A number times a power of ten, rounded once for every power of ten within the range that it takes;
three of them leave nothing. -/
def timesTen? (a : Double) (power : Int) : Option Double :=
  let divideBy (a : Double) (power : Nat) := (ofNat? (Nat.pow 10 power)).bind a.div?
  if a.mantissa == 0 then some zero
  else if greatestTen < power then none
  else if 0 ≤ power then (ofNat? (Nat.pow 10 power.toNat)).bind a.mul?
  else
    let down := (-power).toNat
    if down ≤ greatestTen then divideBy a down
    else if down ≤ 2 * greatestTen then (divideBy a greatestTen).bind (divideBy · (down - greatestTen))
    else some zero

/-! ## Shortest text -/

/-- The numbers between which everything reads as a given one, in quarters of its last bit: they are
half the distance to its neighbours. -/
def bounds (a : Double) : Nat × Nat :=
  let isPowerOfTwo := a.mantissa == Nat.pow 2 52 && leastExponent < a.exponent
  (4 * a.mantissa - (if isPowerOfTwo then 1 else 2), 4 * a.mantissa + 2)

/-- A multiple of a power of ten that reads as a given number, if one of its two neighbours among the
multiples does: the nearer one, in a tie the greater. -/
def onGrid? (a : Double) (step : Int) : Option Nat :=
  let power := a.exponent - 2
  -- both sides of a comparison with `c * 10 ^ step` are made whole
  let left := Nat.pow 2 power.toNat * Nat.pow 10 (-step).toNat
  let right := Nat.pow 2 (-power).toNat * Nat.pow 10 step.toNat
  let (low, high) := a.bounds
  let reads (c : Nat) : Bool :=
    if a.mantissa % 2 == 0 then low * left ≤ c * right && c * right ≤ high * left
    else low * left < c * right && c * right < high * left
  let below := 4 * a.mantissa * left / right
  let isNearer := 2 * (4 * a.mantissa * left) < (2 * below + 1) * right
  if reads below && (isNearer || !reads (below + 1)) then some below
  else if reads (below + 1) then some (below + 1)
  else none

/-- The coarsest multiple of a power of ten that reads as a given number, from a grid on. -/
def coarsest (a : Double) (step : Int) : (grids : Nat) → Nat × Int
  | 0 => (0, step)
  | grids + 1 =>
      match a.onGrid? step with
      | some c => (c, step)
      | none => coarsest a (step - 1) grids

/-- The coefficient and the power of ten of the shortest text of a number. -/
def shortest (a : Double) : Nat × Int :=
  if a.mantissa == 0 then (0, 0)
  else
    let bits : Int := Nat.log2 a.mantissa + a.exponent
    -- the number lies below ten to this power
    let size := (bits + 1) * 30103 / 100000 + 1
    coarsest a size 20

def positionalChars (coefficient : Nat) (power : Int) : List Char :=
  let digits := Text.decimalDigits coefficient
  if 0 ≤ power then digits ++ (if coefficient == 0 then [] else List.replicate power.toNat '0')
  else
    let places := (-power).toNat
    let padded := List.replicate (places + 1 - digits.length) '0' ++ digits
    padded.take (padded.length - places) ++ '.' :: padded.drop (padded.length - places)

def toChars (a : Double) : List Char :=
  let (coefficient, power) := a.shortest
  positionalChars coefficient power

end Double

end PaymentGateway
