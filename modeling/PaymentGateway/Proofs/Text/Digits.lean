import Mathlib.Data.Nat.Digits.Defs
import PaymentGateway.Proofs.Text.SingleLine

/-!
# Reading digits back

What decimal digits spell is a fold over them, whoever wrote them.  A number that was written with a
fixed width is read back up to that width, one that was written without leading zeros as it is.
-/

namespace PaymentGateway.Text

/-! ## Decimal digits -/

theorem digitValue?_of_isDigit {c : Char} (h : c.isDigit = true) :
    digitValue? c = some (c.toNat - '0'.toNat) := by
  unfold digitValue?
  rw [if_pos]
  rw [Char.isDigit, Bool.and_eq_true, decide_eq_true_eq, decide_eq_true_eq] at h
  rw [Bool.and_eq_true, decide_eq_true_eq, decide_eq_true_eq]
  exact h

theorem isSome_digitValue?_of_isDigit {c : Char} (h : c.isDigit = true) :
    (digitValue? c).isSome = true := by
  rw [digitValue?_of_isDigit h]
  rfl

theorem readDigits?_eq {cs : List Char} (h : ∀ c ∈ cs, c.isDigit = true) (read : Nat) :
    readDigits? read cs = some (Nat.ofDigitChars 10 cs read) := by
  induction cs generalizing read with
  | nil => rfl
  | cons c cs ih =>
    rw [readDigits?, digitValue?_of_isDigit (h c List.mem_cons_self)]
    dsimp only
    rw [ih (fun d hd => h d (List.mem_cons_of_mem c hd)), Nat.ofDigitChars_cons, Nat.mul_comm]

theorem readNat?_eq {cs : List Char} (hne : cs ≠ []) (h : ∀ c ∈ cs, c.isDigit = true) :
    readNat? cs = some (Nat.ofDigitChars 10 cs 0) := by
  unfold readNat?
  rw [if_neg (by simpa using hne), readDigits?_eq h]

/-! ## Digits of a fixed width -/

theorem length_fixedDigits (width n : Nat) : (fixedDigits width n).length = width := by
  induction width generalizing n with
  | zero => rfl
  | succ width ih => rw [fixedDigits, List.length_append, ih, List.length_singleton]

theorem toNat_digitChar (n : Nat) : (digitChar n).toNat - '0'.toNat = n % 10 := by
  have hall : ∀ digit : Fin 10,
      (Char.ofNat ('0'.toNat + digit.val)).toNat - '0'.toNat = digit.val := by decide
  exact hall ⟨n % 10, Nat.mod_lt n (by decide)⟩

theorem ofDigitChars_fixedDigits (width n read : Nat) :
    Nat.ofDigitChars 10 (fixedDigits width n) read = read * 10 ^ width + n % 10 ^ width := by
  induction width generalizing n with
  | zero => simp [fixedDigits, Nat.mod_one]
  | succ width ih =>
    rw [fixedDigits, Nat.ofDigitChars_append, ih, Nat.ofDigitChars_cons, Nat.ofDigitChars_nil,
      toNat_digitChar]
    have hsplit : n % 10 ^ (width + 1) = 10 * (n / 10 % 10 ^ width) + n % 10 := by
      rw [Nat.pow_succ', Nat.mod_mul, Nat.add_comm]
    rw [hsplit, Nat.pow_succ']
    ring

theorem ofDigitChars_fixedDigits_of_lt {width n : Nat} (h : n < 10 ^ width) :
    Nat.ofDigitChars 10 (fixedDigits width n) 0 = n := by
  rw [ofDigitChars_fixedDigits, Nat.zero_mul, Nat.zero_add, Nat.mod_eq_of_lt h]

theorem fixedDigits_ne_nil {width : Nat} (h : 0 < width) (n : Nat) : fixedDigits width n ≠ [] := by
  intro hnil
  have hlength := length_fixedDigits width n
  rw [hnil] at hlength
  exact absurd hlength (Nat.ne_of_lt h)

/-! ## Padded digits -/

theorem decimalDigits_ne_nil (n : Nat) : decimalDigits n ≠ [] :=
  Nat.toDigits_ne_nil

theorem isDigit_of_mem_decimalDigits {n : Nat} {c : Char} (h : c ∈ decimalDigits n) :
    c.isDigit = true :=
  Nat.isDigit_of_mem_toDigits (by decide) (by decide) h

theorem isDigit_of_mem_paddedDigits {width n : Nat} {c : Char} (h : c ∈ paddedDigits width n) :
    c.isDigit = true := by
  unfold paddedDigits at h
  rw [List.mem_append] at h
  rcases h with hzero | hdigit
  · rw [List.eq_of_mem_replicate hzero]
    decide
  · exact isDigit_of_mem_decimalDigits hdigit

theorem length_paddedDigits {width n : Nat} (hwidth : 0 < width) (h : n < 10 ^ width) :
    (paddedDigits width n).length = width := by
  have hlength : (decimalDigits n).length ≤ width :=
    (Nat.length_toDigits_le_iff (by decide) hwidth).mpr h
  unfold paddedDigits
  rw [List.length_append, List.length_replicate]
  omega

theorem ofDigitChars_paddedDigits (width n : Nat) :
    Nat.ofDigitChars 10 (paddedDigits width n) 0 = n := by
  unfold paddedDigits decimalDigits
  rw [Nat.ofDigitChars_append, Nat.ofDigitChars_replicate_zero]
  simp [Nat.ofDigitChars_ten_toDigits]

/-! ## Hexadecimal digits -/

theorem hexValue?_hexChar (digit : Fin 16) : hexValue? (hexChar digit) = some digit := by
  revert digit
  decide

/-- A list whose elements are read back one by one is read back. -/
theorem mapM_map_some {α β γ : Type} {f : β → Option γ} {g : α → β} {k : α → γ}
    (h : ∀ a, f (g a) = some (k a)) (as : List α) : (as.map g).mapM f = some (as.map k) := by
  induction as with
  | nil => rfl
  | cons a as ih =>
    rw [List.map_cons, List.mapM_cons, h, ih]
    rfl

theorem mapM_hexValue? (digits : List (Fin 16)) :
    (digits.map hexChar).mapM hexValue? = some digits := by
  rw [mapM_map_some (k := id) hexValue?_hexChar, List.map_id]

end PaymentGateway.Text
