import Mathlib.Data.Nat.Digits.Defs
import PaymentGateway.Call
import PaymentGateway.RequestCheck

/-!
# Texts of one line

Amounts, identifiers and the codes of closed vocabularies never hold a line break, and an amount is
never written as nothing.
-/

namespace PaymentGateway

def SingleLine (text : String) : Prop :=
  ∀ c ∈ text.toList, c ≠ '\r' ∧ c ≠ '\n'

theorem singleLine_ofList {cs : List Char} (h : ∀ c ∈ cs, c ≠ '\r' ∧ c ≠ '\n') :
    SingleLine (String.ofList cs) := by
  rw [SingleLine, String.toList_ofList]
  exact h

theorem any_isLineBreak_eq_false_iff (text : String) :
    text.toList.any RequestCheck.isLineBreak = false ↔ SingleLine text := by
  simp [SingleLine, RequestCheck.isLineBreak]

instance (text : String) : Decidable (SingleLine text) :=
  decidable_of_decidable_of_iff (any_isLineBreak_eq_false_iff text)

/-! ## Amounts -/

theorem ne_lineBreak_of_isDigit {c : Char} (h : c.isDigit = true) : c ≠ '\r' ∧ c ≠ '\n' := by
  constructor <;> (rintro rfl; revert h; decide)

theorem Text.isDigit_digitChar (n : Nat) : (digitChar n).isDigit = true := by
  have hall : ∀ digit : Fin 10, (Char.ofNat ('0'.toNat + digit.val)).isDigit = true := by decide
  exact hall ⟨n % 10, Nat.mod_lt n (by decide)⟩

theorem Text.isDigit_of_mem_fixedDigits {width n : Nat} {c : Char} (h : c ∈ fixedDigits width n) :
    c.isDigit = true := by
  induction width generalizing n with
  | zero => cases h
  | succ width ih =>
    rw [fixedDigits, List.mem_append, List.mem_singleton] at h
    rcases h with h | rfl
    · exact ih h
    · exact isDigit_digitChar n

theorem Decimal.singleLine_toText (d : Decimal) : SingleLine d.toText := by
  apply singleLine_ofList
  intro c hc
  simp only [toChars, List.mem_append] at hc
  rcases hc with (hsign | hwhole) | hfraction
  · split at hsign
    · rw [List.mem_singleton.mp hsign]
      decide
    · cases hsign
  · exact ne_lineBreak_of_isDigit (Nat.isDigit_of_mem_toDigits (by decide) (by decide) hwhole)
  · split at hfraction
    · cases hfraction
    · rw [List.mem_cons] at hfraction
      rcases hfraction with rfl | hdigit
      · decide
      · exact ne_lineBreak_of_isDigit (Text.isDigit_of_mem_fixedDigits hdigit)

theorem Decimal.toText_ne_empty (d : Decimal) : d.toText ≠ "" := by
  intro h
  have hchars : d.toChars = [] := by
    rw [← String.toList_ofList (l := d.toChars)]
    exact congrArg String.toList h
  simp only [toChars, List.append_eq_nil_iff, Text.decimalDigits] at hchars
  exact Nat.toDigits_ne_nil hchars.1.2

theorem Decimal.singleLine_moneyText (d : Decimal) : SingleLine d.moneyText :=
  singleLine_toText _

theorem Decimal.moneyText_ne_empty (d : Decimal) : d.moneyText ≠ "" :=
  toText_ne_empty _

/-! ## Identifiers and codes -/

theorem Uuid.singleLine_toText (u : Uuid) : SingleLine u.toText := by
  have hhex : ∀ digit, Text.hexChar digit ≠ '\r' ∧ Text.hexChar digit ≠ '\n' := by decide
  apply singleLine_ofList
  intro c hc
  -- every character is a digit or a hyphen
  have hcases : c ∈ u.digits.map Text.hexChar ∨ c = '-' := by
    simp only [toChars, List.mem_append, List.mem_cons] at hc
    grind [List.mem_of_mem_take, List.mem_of_mem_drop]
  rcases hcases with hmem | rfl
  · obtain ⟨digit, -, rfl⟩ := List.mem_map.mp hmem
    exact hhex digit
  · decide

theorem TransactionType.singleLine_code (t : TransactionType) : SingleLine t.code := by
  obtain ⟨rail, action⟩ := t
  cases rail <;> cases action <;> decide

theorem TransactionType.code_ne_empty (t : TransactionType) : t.code ≠ "" := by
  obtain ⟨rail, action⟩ := t
  cases rail <;> cases action <;> decide

theorem CardNetwork.singleLine_code (network : CardNetwork) : SingleLine network.code := by
  cases network <;> decide

theorem CardNetwork.code_ne_empty (network : CardNetwork) : network.code ≠ "" := by
  cases network <;> decide

theorem AccountKind.singleLine_code (kind : AccountKind) : SingleLine kind.code := by
  cases kind <;> decide

theorem AccountKind.code_ne_empty (kind : AccountKind) : kind.code ≠ "" := by
  cases kind <;> decide

end PaymentGateway
