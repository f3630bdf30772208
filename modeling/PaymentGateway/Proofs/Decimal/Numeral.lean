import Mathlib.Algebra.Order.Field.Rat
import PaymentGateway.Proofs.Decimal.RoundTrip

/-!
# Numerals and their values

A numeral is a sign, digits before the point and digits behind it.  Its characters tell all of it
again, so a text is that of one numeral at most and has one value at most.  A decimal is written as a
numeral of its value with as many fraction digits as it counts.
-/

namespace PaymentGateway

structure Numeral where
  negative : Bool
  whole : List Char
  fraction : List Char
  whole_ne_nil : whole ≠ []
  isDigit_of_mem : ∀ c ∈ whole ++ fraction, c.isDigit = true

namespace Numeral

/-- A numeral as it is written: without a fraction there is no point. -/
def chars (n : Numeral) : List Char :=
  (if n.negative then ['-'] else []) ++
    (n.whole ++ if n.fraction = [] then [] else '.' :: n.fraction)

def magnitude (n : Numeral) : ℚ :=
  Nat.ofDigitChars 10 (n.whole ++ n.fraction) 0 / 10 ^ n.fraction.length

def value (n : Numeral) : ℚ :=
  if n.negative then -n.magnitude else n.magnitude

theorem exists_chars (n : Numeral) :
    ∃ c rest, n.whole = c :: rest ∧ c.isDigit = true := by
  cases hwhole : n.whole with
  | nil => exact absurd hwhole n.whole_ne_nil
  | cons c rest =>
    refine ⟨c, rest, rfl, n.isDigit_of_mem c ?_⟩
    rw [hwhole]
    exact List.mem_cons_self

theorem head?_chars (n : Numeral) : n.chars.head? = some '-' ↔ n.negative = true := by
  unfold chars
  obtain ⟨c, rest, hwhole, hdigit⟩ := n.exists_chars
  have hne : c ≠ '-' := by
    rintro rfl
    exact absurd hdigit (by decide)
  cases hnegative : n.negative with
  | true => exact ⟨fun _ => rfl, fun _ => rfl⟩
  | false => simp [hwhole, hne]

/-- The digits that a text begins with end where it is no longer a digit. -/
theorem eq_of_append_eq {digits others rest more : List Char}
    (hdigits : ∀ c ∈ digits, c.isDigit = true) (hothers : ∀ c ∈ others, c.isDigit = true)
    (hrest : rest.takeWhile Char.isDigit = []) (hmore : more.takeWhile Char.isDigit = [])
    (h : digits ++ rest = others ++ more) : digits = others ∧ rest = more := by
  have hsame : digits = others := by
    have htaken := congrArg (List.takeWhile Char.isDigit) h
    rwa [List.takeWhile_append_of_pos hdigits, List.takeWhile_append_of_pos hothers, hrest, hmore,
      List.append_nil, List.append_nil] at htaken
  subst hsame
  exact ⟨rfl, List.append_cancel_left h⟩

theorem chars_inj {n m : Numeral} : n.chars = m.chars ↔ n = m := by
  refine ⟨fun h => ?_, congrArg chars⟩
  have hsign : n.negative = m.negative := by
    rw [Bool.eq_iff_iff, ← head?_chars, ← head?_chars, h]
  have hmagnitude : n.whole ++ (if n.fraction = [] then [] else '.' :: n.fraction) =
      m.whole ++ (if m.fraction = [] then [] else '.' :: m.fraction) := by
    unfold chars at h
    rw [hsign] at h
    exact List.append_cancel_left h
  have hpoint (fraction : List Char) :
      (if fraction = [] then [] else '.' :: fraction).takeWhile Char.isDigit = [] := by
    split <;> rfl
  -- The digits before the point are all that a scan for digits takes from the left.
  obtain ⟨hwhole, hfraction⟩ := eq_of_append_eq
    (fun c hc => n.isDigit_of_mem c (List.mem_append_left _ hc))
    (fun c hc => m.isDigit_of_mem c (List.mem_append_left _ hc)) (hpoint _) (hpoint _) hmagnitude
  have hfractions : n.fraction = m.fraction := by
    by_cases hn : n.fraction = [] <;> by_cases hm : m.fraction = []
    · rw [hn, hm]
    · simp [hn, hm] at hfraction
    · simp [hn, hm] at hfraction
    · simpa [hn, hm] using hfraction
  cases n
  cases m
  cases hsign
  cases hwhole
  cases hfractions
  rfl

end Numeral

namespace Decimal

open PaymentGateway.Text

def value (d : Decimal) : ℚ :=
  d.units / 10 ^ d.scale

def numeral (d : Decimal) : Numeral where
  negative := d.negative
  whole := decimalDigits (d.magnitude / 10 ^ d.scale)
  fraction := fixedDigits d.scale d.magnitude
  whole_ne_nil := decimalDigits_ne_nil _
  isDigit_of_mem c hc := by
    rcases List.mem_append.mp hc with hwhole | hfraction
    · exact isDigit_of_mem_decimalDigits hwhole
    · exact isDigit_of_mem_fixedDigits hfraction

theorem length_fraction (d : Decimal) : d.numeral.fraction.length = d.scale :=
  length_fixedDigits d.scale d.magnitude

theorem chars_numeral (d : Decimal) : d.numeral.chars = d.toText.toList := by
  have hfraction : d.numeral.fraction = [] ↔ d.scale = 0 := by
    rw [← List.length_eq_zero_iff, length_fraction]
  rw [toText, String.toList_ofList, toChars_eq, Numeral.chars]
  simp only [hfraction]
  rfl

theorem magnitude_numeral (d : Decimal) :
    d.numeral.magnitude = d.magnitude / 10 ^ d.scale := by
  have hdigits : Nat.ofDigitChars 10 (d.numeral.whole ++ d.numeral.fraction) 0 = d.magnitude := by
    show Nat.ofDigitChars 10 (decimalDigits _ ++ fixedDigits _ _) 0 = _
    rw [Nat.ofDigitChars_append, ofDigitChars_fixedDigits, decimalDigits,
      Nat.ofDigitChars_ten_toDigits, Nat.mul_comm]
    exact Nat.div_add_mod _ _
  rw [Numeral.magnitude, hdigits, length_fraction]

theorem value_eq (d : Decimal) :
    d.value = if d.negative then -(d.magnitude / 10 ^ d.scale : ℚ) else d.magnitude / 10 ^ d.scale := by
  rw [value, units]
  cases d.negative with
  | true => simp [neg_div]
  | false => simp

theorem value_numeral (d : Decimal) : d.numeral.value = d.value := by
  rw [Numeral.value, magnitude_numeral, value_eq]
  rfl

end Decimal

end PaymentGateway
