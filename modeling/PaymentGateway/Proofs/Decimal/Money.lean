import Mathlib.Data.Rat.Floor
import Mathlib.Order.Bounds.Defs
import Mathlib.Tactic.FieldSimp
import Mathlib.Tactic.Linarith
import Mathlib.Tactic.Positivity
import PaymentGateway.Proofs.Decimal.Numeral

/-!
# Amounts of money as they are written

An amount is written as the multiple of a hundredth that is nearest to it, a half away from zero, and
never as another number: where a magnitude of 96 bits has no room for two fraction digits, there are
fewer.  Larger amounts are never written as smaller ones.
-/

namespace PaymentGateway

/-- The nearest number with a given count of fraction digits; of two that are equally near, the one
that is farther from zero. -/
def roundHalfAway (places : ℕ) (q : ℚ) : ℚ :=
  if 0 ≤ q then ⌊q * 10 ^ places + 1 / 2⌋ / 10 ^ places
  else -(⌊-q * 10 ^ places + 1 / 2⌋ / 10 ^ places)

theorem roundHalfAway_of_nonneg {q : ℚ} (h : 0 ≤ q) (places : ℕ) :
    roundHalfAway places q = ⌊q * 10 ^ places + 1 / 2⌋ / 10 ^ places :=
  if_pos h

theorem roundHalfAway_neg (places : ℕ) (q : ℚ) :
    roundHalfAway places (-q) = -roundHalfAway places q := by
  have hzero : ⌊(1 / 2 : ℚ)⌋ = 0 := by norm_num
  unfold roundHalfAway
  rcases lt_trichotomy q 0 with hneg | rfl | hpos
  · rw [if_pos (by linarith), if_neg (by linarith), neg_neg]
  · rw [neg_zero, if_pos le_rfl, zero_mul, zero_add, hzero]
    simp
  · rw [if_neg (by linarith), if_pos hpos.le, neg_neg]

theorem roundHalfAway_nonneg {q : ℚ} (h : 0 ≤ q) (places : ℕ) : 0 ≤ roundHalfAway places q := by
  rw [roundHalfAway_of_nonneg h]
  have hfloor : 0 ≤ ⌊q * 10 ^ places + 1 / 2⌋ := Int.floor_nonneg.mpr (by positivity)
  positivity

theorem roundHalfAway_mono (places : ℕ) {q r : ℚ} (h : q ≤ r) :
    roundHalfAway places q ≤ roundHalfAway places r := by
  have hnonneg {a b : ℚ} (ha : 0 ≤ a) (hab : a ≤ b) :
      roundHalfAway places a ≤ roundHalfAway places b := by
    rw [roundHalfAway_of_nonneg ha, roundHalfAway_of_nonneg (ha.trans hab)]
    gcongr
  rcases le_total 0 q with hq | hq
  · exact hnonneg hq h
  rcases le_total 0 r with hr | hr
  · have hminus := roundHalfAway_nonneg (neg_nonneg.mpr hq) places
    rw [roundHalfAway_neg] at hminus
    linarith [roundHalfAway_nonneg hr places]
  · have hflip := hnonneg (neg_nonneg.mpr hr) (neg_le_neg h)
    rw [roundHalfAway_neg, roundHalfAway_neg] at hflip
    exact neg_le_neg_iff.mp hflip

/-- A number with so many fraction digits is left as it is. -/
theorem roundHalfAway_of_mul_eq {places n : ℕ} {q : ℚ} (h : q * 10 ^ places = n) :
    roundHalfAway places q = q := by
  have hpos : (0 : ℚ) < 10 ^ places := by positivity
  have hq : q = n / 10 ^ places := by rw [← h]; field_simp
  have hfloor : ⌊(n : ℚ) + 1 / 2⌋ = n := by
    rw [Int.floor_natCast_add]
    norm_num
  rw [roundHalfAway_of_nonneg (by rw [hq]; positivity), h, hfloor, hq]
  norm_num

namespace Decimal

/-! ## Rounding -/

theorem abs_value (d : Decimal) : |d.value| = d.magnitude / 10 ^ d.scale := by
  have hnonneg : (0 : ℚ) ≤ d.magnitude / 10 ^ d.scale := by positivity
  rw [value_eq]
  split
  · rw [abs_neg, abs_of_nonneg hnonneg]
  · exact abs_of_nonneg hnonneg

theorem value_neg_iff (d : Decimal) : d.value < 0 ↔ d.negative = true ∧ d.magnitude ≠ 0 := by
  have hnonneg : (0 : ℚ) ≤ d.magnitude / 10 ^ d.scale := by positivity
  rw [value_eq]
  cases d.negative with
  | true => simp [Nat.pos_iff_ne_zero]
  | false => simpa using hnonneg

theorem Same.value_eq {d e : Decimal} (h : d.Same e) : d.value = e.value := by
  rw [value, value, h.units_eq, h.scale_eq]

theorem floor_add_half (n : ℕ) {divisor : ℕ} (h : 0 < divisor) :
    ⌊(n / divisor + 1 / 2 : ℚ)⌋ = roundHalfUp n divisor := by
  have hfraction : (n / divisor + 1 / 2 : ℚ) = ((2 * n + divisor : ℕ) : ℚ) / (2 * divisor : ℕ) := by
    push_cast
    field_simp
  rw [hfraction, Rat.floor_natCast_div_natCast]
  rfl

/-- A magnitude is rounded to the nearest, a half upwards. -/
theorem magnitude_roundTo (places : ℕ) (d : Decimal) :
    ((d.roundTo places).magnitude / 10 ^ (d.roundTo places).scale : ℚ) =
      roundHalfAway places (d.magnitude / 10 ^ d.scale) := by
  unfold roundTo
  by_cases h : d.scale ≤ places
  · obtain ⟨more, rfl⟩ := Nat.exists_eq_add_of_le h
    rw [dif_pos h]
    refine (roundHalfAway_of_mul_eq (n := d.magnitude * 10 ^ more) ?_).symm
    push_cast
    rw [pow_add]
    field_simp
  · obtain ⟨more, hmore⟩ := Nat.exists_eq_add_of_le (Nat.le_of_not_le h)
    -- What is dropped are the digits below the last place that stays.
    have hscaled : (d.magnitude / 10 ^ d.scale * 10 ^ places : ℚ) =
        d.magnitude / (10 ^ more : ℕ) := by
      push_cast
      rw [hmore, pow_add]
      field_simp
    have hdropped : d.scale - places = more := by omega
    rw [dif_neg h, roundHalfAway_of_nonneg (by positivity), hscaled,
      floor_add_half _ (Nat.pow_pos (by decide)), ← hdropped]
    rfl

theorem negative_roundTo (places : ℕ) (d : Decimal) :
    (d.roundTo places).negative = d.negative := by
  unfold roundTo
  split <;> rfl

theorem value_roundTo (places : ℕ) (d : Decimal) :
    (d.roundTo places).value = roundHalfAway places d.value := by
  rw [value_eq, value_eq, negative_roundTo, magnitude_roundTo]
  split
  · rw [roundHalfAway_neg]
  · rfl

theorem scale_roundTo_le (places : ℕ) (d : Decimal) : (d.roundTo places).scale ≤ places := by
  unfold roundTo
  split
  · assumption
  · exact Nat.le_refl places

theorem value_roundMoney (d : Decimal) : d.roundMoney.value = roundHalfAway 2 d.value := by
  unfold roundMoney
  split
  · exact value_roundTo 2 d
  · rw [(same_dropZeroSign _).value_eq, value_roundTo]

theorem scale_roundMoney_le (d : Decimal) : d.roundMoney.scale ≤ 2 := by
  unfold roundMoney
  split <;> exact scale_roundTo_le 2 d

/-! ## Padding -/

/-- A decimal with zeros behind it, as many as there is room for up to a count. -/
structure Padded (count : ℕ) (d e : Decimal) : Prop where
  negative : e.negative = d.negative
  value : e.value = d.value
  scale_le : e.scale ≤ d.scale + count
  full : e.scale < d.scale + count → 2 ^ 96 ≤ e.magnitude * 10 ∨ 28 ≤ e.scale

theorem padded_padBy (count : ℕ) (d : Decimal) : Padded count d (d.padBy count) := by
  induction count generalizing d with
  | zero => exact ⟨rfl, rfl, Nat.le_refl _, fun h => absurd h (Nat.lt_irrefl _)⟩
  | succ count ih =>
    unfold padBy
    -- Each zero multiplies the magnitude by ten and leaves the value as it is, while there is room.
    by_cases h : d.magnitude * 10 < Nat.pow 2 96 ∧ d.scale + 1 ≤ 28
    · rw [dif_pos h]
      obtain ⟨negative, value, scale_le, full⟩ :=
        ih ⟨d.negative, d.magnitude * 10, d.scale + 1, h.1, h.2⟩
      dsimp only at scale_le full
      have hvalue : (⟨d.negative, d.magnitude * 10, d.scale + 1, h.1, h.2⟩ : Decimal).value =
          d.value := by
        rw [value_eq, value_eq]
        push_cast
        rw [pow_succ, mul_div_mul_right _ _ (by norm_num)]
      exact ⟨negative, value.trans hvalue, by omega, fun hlt => full (by omega)⟩
    · rw [dif_neg h]
      refine ⟨rfl, rfl, Nat.le_add_right _ _, fun _ => ?_⟩
      rw [not_and_or, Nat.not_lt, Nat.not_le] at h
      exact h.imp id Nat.le_of_lt_succ

/-! ## The written amount -/

/-- A numeral that tells an amount of money: it has two fraction digits, or as many as there is room
for, and a minus sign only if something is left below zero or there was a zero with a sign. -/
structure TellsMoney (d : Decimal) (n : Numeral) : Prop where
  value : n.value = roundHalfAway 2 d.value
  places : IsGreatest {places | places ≤ 2 ∧ |roundHalfAway 2 d.value| * 10 ^ places < 2 ^ 96}
    n.fraction.length
  minus : n.chars.head? = some '-' ↔
    roundHalfAway 2 d.value < 0 ∨ d.magnitude = 0 ∧ d.negative = true

/-- An amount loses its sign if it is rounded to nothing, but keeps it if it is nothing. -/
theorem negative_roundMoney_iff (d : Decimal) :
    d.roundMoney.negative = true ↔
      d.roundMoney.value < 0 ∨ d.magnitude = 0 ∧ d.negative = true := by
  rw [value_neg_iff]
  unfold roundMoney
  by_cases hzero : d.magnitude = 0
  · rw [if_pos hzero, negative_roundTo]
    exact ⟨fun h => .inr ⟨hzero, h⟩, fun h => h.elim And.left And.right⟩
  · rw [if_neg hzero]
    simp [dropZeroSign, hzero]

/-- The decimal that an amount is written as. -/
theorem tellsMoney_numeral (d : Decimal) :
    d.TellsMoney (d.roundMoney.padBy (2 - d.roundMoney.scale)).numeral := by
  obtain ⟨negative, value, scale_le, full⟩ := padded_padBy (2 - d.roundMoney.scale) d.roundMoney
  generalize d.roundMoney.padBy (2 - d.roundMoney.scale) = e at *
  have hscale := d.scale_roundMoney_le
  have hsum : d.roundMoney.scale + (2 - d.roundMoney.scale) = 2 := by omega
  rw [hsum] at scale_le full
  have hrounded : roundHalfAway 2 d.value = e.value := by rw [value, value_roundMoney]
  have habs : |e.value| * 10 ^ e.scale = e.magnitude := by
    rw [abs_value]
    field_simp
  have hbound : (e.magnitude : ℚ) < 2 ^ 96 := by exact_mod_cast e.magnitude_lt
  refine ⟨by rw [value_numeral, hrounded], ?_, ?_⟩
  · rw [length_fraction, hrounded]
    refine ⟨⟨scale_le, by rw [habs]; exact hbound⟩, ?_⟩
    rintro places ⟨hplaces, hroom⟩
    by_contra hmore
    -- With fewer places than that, the padding stopped because another zero would not have fitted.
    have hfull : 2 ^ 96 ≤ e.magnitude * 10 := by
      rcases full (by omega) with hfull | hscale
      · exact hfull
      · omega
    have hnext : |e.value| * 10 ^ (e.scale + 1) ≤ |e.value| * 10 ^ places := by
      gcongr
      · norm_num
      · omega
    have hlarge : (2 ^ 96 : ℚ) ≤ e.magnitude * 10 := by exact_mod_cast hfull
    rw [pow_succ, ← mul_assoc, habs] at hnext
    linarith
  · rw [Numeral.head?_chars, hrounded, value, ← negative_roundMoney_iff, ← negative]
    rfl

theorem moneyText_eq_chars (d : Decimal) :
    d.moneyText.toList = (d.roundMoney.padBy (2 - d.roundMoney.scale)).numeral.chars :=
  (chars_numeral _).symm

/-- Every amount is written as a numeral that tells it, and in the order of the amounts. -/
theorem tellsMoney_moneyText :
    (∀ d : Decimal, ∃ n : Numeral, d.moneyText.toList = n.chars ∧ d.TellsMoney n) ∧
    ∀ (d e : Decimal) (n m : Numeral), d.moneyText.toList = n.chars →
      e.moneyText.toList = m.chars → d.value ≤ e.value → n.value ≤ m.value := by
  have htells : ∀ (d : Decimal) (n : Numeral), d.moneyText.toList = n.chars → d.TellsMoney n := by
    intro d n hchars
    rw [moneyText_eq_chars, Numeral.chars_inj] at hchars
    exact hchars ▸ d.tellsMoney_numeral
  refine ⟨fun d => ⟨_, d.moneyText_eq_chars, d.tellsMoney_numeral⟩, ?_⟩
  intro d e n m hd he hle
  rw [(htells d n hd).value, (htells e m he).value]
  exact roundHalfAway_mono 2 hle

/-- The largest magnitude leaves no room for a fraction. -/
theorem tellsMoney_moneyText_largest : ∃ (largest : Decimal) (n m : Numeral),
    read "79228162514264337593543950335" = .ok largest ∧
    largest.moneyText = "79228162514264337593543950335" ∧
    Decimal.zero.moneyText.toList = n.chars ∧ largest.moneyText.toList = m.chars ∧
    m.value = 79228162514264337593543950335 ∧ n.value ≤ m.value := by
  let largest : Decimal := ⟨false, 79228162514264337593543950335, 0, by decide, by decide⟩
  obtain ⟨n, hzero, -⟩ := tellsMoney_moneyText.1 Decimal.zero
  obtain ⟨m, hchars, tells⟩ := tellsMoney_moneyText.1 largest
  have htext : largest.moneyText = "79228162514264337593543950335" := by decide +kernel
  have hvalue : largest.value = 79228162514264337593543950335 := by
    norm_num [value, units, largest]
  have hwhole : largest.value * 10 ^ 2 = (7922816251426433759354395033500 : ℕ) := by
    rw [hvalue]
    norm_num
  have hle : Decimal.zero.value ≤ largest.value := by
    rw [hvalue]
    norm_num [value, units, Decimal.zero]
  refine ⟨largest, n, m, by decide +kernel, htext, hzero, hchars, ?_,
    tellsMoney_moneyText.2 Decimal.zero largest n m hzero hchars hle⟩
  rw [tells.value, roundHalfAway_of_mul_eq hwhole, hvalue]

/-- An amount may be written with a minus sign although nothing of it is below zero: what is read of
a number that is too small to be kept is a zero with the sign of the number. -/
theorem minus_of_signedZero : ∃ signedZero : Decimal,
    read "-0.4e-28" = .ok signedZero ∧ signedZero.moneyText = "-0.00" ∧
      signedZero.moneyText.toList.head? = some '-' ∧ ¬ roundHalfAway 2 signedZero.value < 0 := by
  let signedZero : Decimal := ⟨true, 0, 28, by decide, by decide⟩
  have hzero : signedZero.value = 0 := by norm_num [value, units, signedZero]
  have hwhole : signedZero.value * 10 ^ 2 = (0 : ℕ) := by
    rw [hzero]
    norm_num
  refine ⟨signedZero, by decide +kernel, by decide +kernel, by decide +kernel, ?_⟩
  rw [roundHalfAway_of_mul_eq hwhole, hzero]
  exact lt_irrefl 0

end Decimal

end PaymentGateway
