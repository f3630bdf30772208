import PaymentGateway.Json.Reader
import PaymentGateway.Json.Basic
import PaymentGateway.Proofs.Text.Digits

/-!
# Reading JSON texts back

Each character of a text is written on its own: as it is, behind a backslash, or as the number of a
control character.  So a text is read back character by character, whatever stands behind it.
-/

namespace PaymentGateway.Json

open PaymentGateway.Text

/-! ## One character -/

theorem readUnits?_short {letter c : Char} (h : shortEscape? letter = some c) (rest : List Char) :
    readUnits? ('\\' :: letter :: rest) =
      (readUnits? rest).map fun read => (.char c :: read.1, read.2) := by
  have hletter : letter ≠ 'u' := by
    rintro rfl
    cases h
  rw [readUnits?, h]
  · cases readUnits? rest <;> rfl
  · exact fun _ _ _ _ _ hu _ => hletter hu

theorem readUnits?_code {a b c d : Char} {digits : List (Fin 16)}
    (h : [a, b, c, d].mapM hexValue? = some digits) (rest : List Char) :
    readUnits? ('\\' :: 'u' :: a :: b :: c :: d :: rest) =
      (readUnits? rest).map fun read => (.code (hexNumber digits) :: read.1, read.2) := by
  rw [readUnits?, h]
  cases readUnits? rest <;> rfl

theorem readUnits?_plain {c : Char} (hquote : c ≠ '"') (hslash : c ≠ '\\')
    (hplain : ¬ c.toNat < 0x20) (rest : List Char) :
    readUnits? (c :: rest) =
      (readUnits? rest).map fun read => (.char c :: read.1, read.2) := by
  rw [readUnits?.eq_def]
  split <;> simp_all

inductive Shows : TextUnit → Char → Prop
  | char (c : Char) : Shows (.char c) c
  | code {c : Char} (h : c.toNat < 0x20) : Shows (.code c.toNat) c

/-- The digits of a control character are those of its number. -/
theorem exists_digits_hexPair {n : Nat} (h : n < 0x20) :
    ∃ digits, ('0' :: '0' :: hexPair n).mapM hexValue? = some digits ∧ hexNumber digits = n := by
  refine ⟨_, mapM_hexValue? [0, 0, ⟨n / 16 % 16, by omega⟩, ⟨n % 16, by omega⟩], ?_⟩
  show ((0 * 16 + 0) * 16 + n / 16 % 16) * 16 + n % 16 = n
  omega

theorem readUnits?_control {c : Char} (h : c.toNat < 0x20) (rest : List Char) :
    readUnits? ('\\' :: 'u' :: '0' :: '0' :: hexPair c.toNat ++ rest) =
      (readUnits? rest).map fun read => (.code c.toNat :: read.1, read.2) := by
  obtain ⟨digits, hdigits, hnumber⟩ := exists_digits_hexPair h
  have hcode := readUnits?_code hdigits rest
  rw [hnumber] at hcode
  exact hcode

/-- A character that was written is read back, and what follows it is read on. -/
theorem exists_unit (c : Char) : ∃ unit, Shows unit c ∧ ∀ rest,
    readUnits? (escapedChar c ++ rest) =
      (readUnits? rest).map fun read => (unit :: read.1, read.2) := by
  unfold escapedChar
  split
  case h_8 =>
    split
    · rename_i hcontrol
      exact ⟨_, .code hcontrol, readUnits?_control hcontrol⟩
    · rename_i hquote hslash _ _ _ _ _ hplain
      exact ⟨_, .char c, readUnits?_plain hquote hslash hplain⟩
  all_goals exact ⟨_, .char _, readUnits?_short rfl⟩

theorem joinUnits?_code {n : Nat} (h : n < 0x20) (units : List TextUnit) :
    joinUnits? (.code n :: units) = (joinUnits? units).map (Char.ofNat n :: ·) := by
  have hhigh : isHighSurrogate n = false := by
    simp only [isHighSurrogate, Bool.and_eq_false_iff, decide_eq_false_iff_not]
    omega
  have hlow : isLowSurrogate n = false := by
    simp only [isLowSurrogate, Bool.and_eq_false_iff, decide_eq_false_iff_not]
    omega
  rw [joinUnits?.eq_def]
  split <;> simp_all

theorem Shows.joinUnits?_cons {unit : TextUnit} {c : Char} (h : Shows unit c)
    (units : List TextUnit) : joinUnits? (unit :: units) = (joinUnits? units).map (c :: ·) := by
  cases h with
  | char => rw [joinUnits?]
  | code h => rw [joinUnits?_code h, Char.ofNat_toNat]

/-! ## Whole texts -/

/-- A text that was written is read back, and what follows it is left. -/
theorem readText?_escaped (cs rest : List Char) :
    readText? (cs.flatMap escapedChar ++ '"' :: rest) = some (some (String.ofList cs), rest) := by
  -- The text is read unit by unit; two units of a pair are joined only at the end.
  have hunits : ∃ units, readUnits? (cs.flatMap escapedChar ++ '"' :: rest) = some (units, rest) ∧
      joinUnits? units = some cs := by
    induction cs with
    | nil => exact ⟨[], by rw [List.flatMap_nil, List.nil_append, readUnits?], rfl⟩
    | cons c cs ih =>
      obtain ⟨units, hread, hjoin⟩ := ih
      obtain ⟨unit, hshows, hunit⟩ := exists_unit c
      refine ⟨unit :: units, ?_, ?_⟩
      · rw [List.flatMap_cons, List.append_assoc, hunit, hread]
        rfl
      · rw [hshows.joinUnits?_cons, hjoin]
        rfl
  obtain ⟨units, hread, hjoin⟩ := hunits
  rw [readText?, hread]
  show some ((joinUnits? units).map String.ofList, rest) = _
  rw [hjoin]
  rfl

end PaymentGateway.Json
