import PaymentGateway.Decimal.Reading
import PaymentGateway.Proofs.Text.Digits

/-!
# Reading decimals back

A decimal that was written is read back with its scale, whatever its magnitude.  Nothing is rounded,
for no fraction is longer than the scale allows and no part of a magnitude exceeds the whole.
-/

namespace PaymentGateway.Decimal

open PaymentGateway.Text

/-! ## Digits -/

theorem le_ofDigitChars (digits : List Char) (n : Nat) : n ≤ Nat.ofDigitChars 10 digits n := by
  induction digits generalizing n with
  | nil => exact Nat.le_refl n
  | cons c digits ih =>
    rw [Nat.ofDigitChars_cons]
    have hrest := ih (10 * n + (c.toNat - '0'.toNat))
    omega

/-- A digit counts as long as neither the magnitude nor the scale is used up. -/
theorem readMagnitude_digit {p : Progress} {c : Char} (hdigit : c.isDigit = true)
    (hscale : p.scale < 28) (hmagnitude : 10 * p.magnitude + (c.toNat - '0'.toNat) < Nat.pow 2 96)
    (rest : List Char) :
    readMagnitude p (c :: rest) =
      readMagnitude
        { p with
          magnitude := 10 * p.magnitude + (c.toNat - '0'.toNat)
          scale := if p.pointSeen then p.scale + 1 else 0
          digitSeen := true } rest := by
  rw [readMagnitude, if_neg (by omega), digitValue?_of_isDigit hdigit]
  dsimp only
  rw [Nat.mul_comm p.magnitude 10, if_pos hmagnitude]

theorem readMagnitude_whole {digits : List Char} (hdigits : ∀ c ∈ digits, c.isDigit = true)
    {n : Nat} (hmagnitude : Nat.ofDigitChars 10 digits n < Nat.pow 2 96) (rest : List Char) :
    readMagnitude ⟨n, 0, false, true⟩ (digits ++ rest) =
      readMagnitude ⟨Nat.ofDigitChars 10 digits n, 0, false, true⟩ rest := by
  induction digits generalizing n with
  | nil => rfl
  | cons c digits ih =>
    rw [Nat.ofDigitChars_cons] at hmagnitude
    have hstep : 10 * n + (c.toNat - '0'.toNat) < Nat.pow 2 96 :=
      Nat.lt_of_le_of_lt (le_ofDigitChars digits _) hmagnitude
    have hroom : 0 < 28 := by decide
    rw [List.cons_append, readMagnitude_digit (hdigits c List.mem_cons_self) hroom hstep,
      Nat.ofDigitChars_cons]
    exact ih (fun d hd => hdigits d (List.mem_cons_of_mem c hd)) hmagnitude

/-- The digits that a number begins with. -/
theorem readMagnitude_start {digits : List Char} (hne : digits ≠ [])
    (hdigits : ∀ c ∈ digits, c.isDigit = true)
    (hmagnitude : Nat.ofDigitChars 10 digits 0 < Nat.pow 2 96) (rest : List Char) :
    readMagnitude {} (digits ++ rest) =
      readMagnitude ⟨Nat.ofDigitChars 10 digits 0, 0, false, true⟩ rest := by
  cases digits with
  | nil => exact absurd rfl hne
  | cons c digits =>
    rw [Nat.ofDigitChars_cons] at hmagnitude
    have hstep : 10 * 0 + (c.toNat - '0'.toNat) < Nat.pow 2 96 :=
      Nat.lt_of_le_of_lt (le_ofDigitChars digits _) hmagnitude
    have hroom : 0 < 28 := by decide
    rw [List.cons_append, readMagnitude_digit (hdigits c List.mem_cons_self) hroom hstep,
      Nat.ofDigitChars_cons]
    exact readMagnitude_whole (fun d hd => hdigits d (List.mem_cons_of_mem c hd)) hmagnitude rest

theorem readMagnitude_fraction {digits : List Char} (hdigits : ∀ c ∈ digits, c.isDigit = true)
    {n scale : Nat} (hmagnitude : Nat.ofDigitChars 10 digits n < Nat.pow 2 96)
    (hscale : scale + digits.length ≤ 28) (rest : List Char) :
    readMagnitude ⟨n, scale, true, true⟩ (digits ++ rest) =
      readMagnitude ⟨Nat.ofDigitChars 10 digits n, scale + digits.length, true, true⟩ rest := by
  induction digits generalizing n scale with
  | nil => rfl
  | cons c digits ih =>
    rw [Nat.ofDigitChars_cons] at hmagnitude
    rw [List.length_cons] at hscale
    have hroom : scale < 28 := by omega
    have hstep : 10 * n + (c.toNat - '0'.toNat) < Nat.pow 2 96 :=
      Nat.lt_of_le_of_lt (le_ofDigitChars digits _) hmagnitude
    rw [List.cons_append, readMagnitude_digit (hdigits c List.mem_cons_self) hroom hstep,
      Nat.ofDigitChars_cons, List.length_cons, Nat.add_comm digits.length, ← Nat.add_assoc]
    show readMagnitude ⟨_, scale + 1, true, true⟩ _ = _
    exact ih (fun d hd => hdigits d (List.mem_cons_of_mem c hd)) hmagnitude (by omega)

/-! ## Magnitudes -/

def magnitudeChars (d : Decimal) : List Char :=
  decimalDigits (d.magnitude / Nat.pow 10 d.scale) ++
    if d.scale = 0 then [] else '.' :: fixedDigits d.scale d.magnitude

theorem toChars_eq (d : Decimal) :
    d.toChars = (if d.negative then ['-'] else []) ++ d.magnitudeChars :=
  List.append_assoc _ _ _

theorem exists_magnitudeChars (d : Decimal) :
    ∃ c rest, d.magnitudeChars = c :: rest ∧ c.isDigit = true := by
  unfold magnitudeChars
  cases hwhole : decimalDigits (d.magnitude / Nat.pow 10 d.scale) with
  | nil => exact absurd hwhole (decimalDigits_ne_nil _)
  | cons c whole =>
    have hmem : c ∈ decimalDigits (d.magnitude / Nat.pow 10 d.scale) := by
      rw [hwhole]
      exact List.mem_cons_self
    exact ⟨c, _, rfl, isDigit_of_mem_decimalDigits hmem⟩

theorem readMagnitude_magnitudeChars (d : Decimal) :
    readMagnitude {} d.magnitudeChars = .ok (d.magnitude, d.scale) := by
  let whole := d.magnitude / Nat.pow 10 d.scale
  have hvalue : Nat.ofDigitChars 10 (decimalDigits whole) 0 = whole :=
    Nat.ofDigitChars_ten_toDigits
  have hwhole : whole < Nat.pow 2 96 := Nat.lt_of_le_of_lt (Nat.div_le_self _ _) d.magnitude_lt
  show readMagnitude {} (decimalDigits whole ++ _) = _
  rw [readMagnitude_start (decimalDigits_ne_nil whole) (fun c hc => isDigit_of_mem_decimalDigits hc)
    (by rw [hvalue]; exact hwhole), hvalue]
  -- Without a scale there is no point; otherwise the digits behind it continue the number.
  by_cases hscale : d.scale = 0
  · rw [if_pos hscale]
    have hall : whole = d.magnitude := by
      show d.magnitude / Nat.pow 10 d.scale = d.magnitude
      rw [hscale]
      exact Nat.div_one _
    rw [hall, hscale]
    rfl
  · rw [if_neg hscale]
    have hfraction : Nat.ofDigitChars 10 (fixedDigits d.scale d.magnitude) whole = d.magnitude := by
      rw [ofDigitChars_fixedDigits, Nat.mul_comm]
      exact Nat.div_add_mod _ _
    have hdigits : ∀ c ∈ fixedDigits d.scale d.magnitude, c.isDigit = true :=
      fun c hc => isDigit_of_mem_fixedDigits hc
    have hroom : 0 + (fixedDigits d.scale d.magnitude).length ≤ 28 := by
      rw [length_fixedDigits, Nat.zero_add]
      exact d.scale_le
    have hread := readMagnitude_fraction hdigits (by rw [hfraction]; exact d.magnitude_lt) hroom []
    rw [List.append_nil, hfraction, length_fixedDigits, Nat.zero_add] at hread
    exact hread

/-- A number that begins with a digit has no sign. -/
theorem readPlain_of_isDigit {c : Char} (h : c.isDigit = true) (rest : List Char) :
    readPlain (c :: rest) = readMagnitude {} (c :: rest) >>= ofMagnitude false := by
  have hminus : c ≠ '-' := by
    rintro rfl
    exact absurd h (by decide)
  have hplus : c ≠ '+' := by
    rintro rfl
    exact absurd h (by decide)
  simp [readPlain, hminus, hplus]

/-- How many units of its last place a decimal counts. -/
def units (d : Decimal) : Int :=
  if d.negative then -d.magnitude else d.magnitude

/-- Decimals of one value and one scale: they tell apart at most the sign of a zero. -/
structure Same (d e : Decimal) : Prop where
  scale_eq : d.scale = e.scale
  units_eq : d.units = e.units

theorem same_dropZeroSign (d : Decimal) : d.dropZeroSign.Same d := by
  refine ⟨rfl, ?_⟩
  unfold units dropZeroSign
  by_cases hzero : d.magnitude = 0
  · simp [hzero]
  · simp [hzero]

/-- A decimal is read back, a zero without its sign. -/
theorem read_toText (d : Decimal) : read d.toText = .ok d.dropZeroSign := by
  have hmagnitude := d.readMagnitude_magnitudeChars
  have hparts (negative : Bool) (hnegative : negative = d.negative) :
      (readMagnitude {} d.magnitudeChars >>= ofMagnitude negative) = .ok d.dropZeroSign := by
    rw [hmagnitude]
    show ofMagnitude negative (d.magnitude, d.scale) = _
    unfold ofMagnitude ofParts?
    rw [dif_pos ⟨d.magnitude_lt, d.scale_le⟩, hnegative]
  -- A sign is written for a negative decimal only; otherwise the text begins with a digit.
  have hplain : readPlain d.toChars = .ok d.dropZeroSign := by
    rw [toChars_eq]
    cases hnegative : d.negative with
    | true => exact hparts true hnegative.symm
    | false =>
      obtain ⟨c, rest, hchars, hdigit⟩ := d.exists_magnitudeChars
      have hunsigned := hparts false hnegative.symm
      show readPlain d.magnitudeChars = _
      rw [hchars] at hunsigned ⊢
      rw [readPlain_of_isDigit hdigit, hunsigned]
  unfold read toText
  rw [String.toList_ofList, readChars, hplain]

end PaymentGateway.Decimal
