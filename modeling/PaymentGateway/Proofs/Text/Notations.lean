import PaymentGateway.CallKind
import PaymentGateway.Instrument
import PaymentGateway.Proofs.Text.Digits
import PaymentGateway.Proofs.Text.Trimming
import PaymentGateway.Uuid

/-!
# Reading identifiers and codes back

An identifier is written in groups and read back from them.  The code of a currency is left as it is
by its reader, which accepts other spellings as well.
-/

namespace PaymentGateway

open PaymentGateway.Text

/-! ## Identifiers -/

namespace Uuid

theorem length_toChars (u : Uuid) : u.toChars.length = 36 := by
  have hlength : (u.digits.map hexChar).length = 32 := by rw [List.length_map, u.length_digits]
  simp [toChars, hlength]

theorem ofHex?_map_hexChar (u : Uuid) : ofHex? (u.digits.map hexChar) = some u := by
  rw [ofHex?, mapM_hexValue?]
  dsimp only
  rw [dif_pos u.length_digits]

/-- The hyphens of an identifier. -/
theorem getElem?_toChars (u : Uuid) : u.toChars[8]? = some '-' ∧ u.toChars[13]? = some '-' ∧
    u.toChars[18]? = some '-' ∧ u.toChars[23]? = some '-' := by
  have hlength : (u.digits.map hexChar).length = 32 := by rw [List.length_map, u.length_digits]
  simp [toChars, hlength]

theorem take_append_drop_add (count start : Nat) (cs : List Char) :
    (cs.drop start).take count ++ cs.drop (start + count) = cs.drop start := by
  rw [← List.drop_drop, List.take_append_drop]

/-- The groups of an identifier, put together, are its digits. -/
theorem ofGroups?_toChars (u : Uuid) : ofGroups? u.toChars = some u := by
  have hlength : (u.digits.map hexChar).length = 32 := by rw [List.length_map, u.length_digits]
  -- Without the four hyphens the groups are the digits again.
  have hgroups : u.toChars.take 8 ++ (u.toChars.drop 9).take 4 ++ (u.toChars.drop 14).take 4 ++
      (u.toChars.drop 19).take 4 ++ u.toChars.drop 24 = u.digits.map hexChar := by
    unfold toChars
    generalize u.digits.map hexChar = hex at hlength
    have hlast := take_append_drop_add 4 16 hex
    have hthird := take_append_drop_add 4 12 hex
    have hsecond := take_append_drop_add 4 8 hex
    calc _ = hex.take 8 ++ ((hex.drop 8).take 4 ++ ((hex.drop 12).take 4 ++
          ((hex.drop 16).take 4 ++ hex.drop 20))) := by
            simp [List.drop_append, List.drop_take, hlength]
      _ = hex.take 8 ++ hex.drop 8 := by rw [hlast, hthird, hsecond]
      _ = hex := List.take_append_drop 8 hex
  rw [ofGroups?, if_pos ⟨u.length_toChars, u.getElem?_toChars⟩, hgroups, ofHex?_map_hexChar]

theorem ofText?_toText (u : Uuid) : ofText? u.toText = some u := by
  unfold ofText? toText
  rw [String.toList_ofList, ofChars?, if_neg (by rw [length_toChars]; decide),
    if_pos u.length_toChars, ofGroups?_toChars]

end Uuid

/-! ## Codes -/

/-- The characters of ASCII that leave a mark are no blanks. -/
theorem Text.isBlank_of_ascii {c : Char} (hlow : 0x21 ≤ c.toNat) (hhigh : c.toNat ≤ 0x7E) :
    isBlank c = false := by
  simp only [isBlank, Bool.or_eq_false_iff, Bool.and_eq_false_iff, decide_eq_false_iff_not,
    beq_eq_false_iff_ne]
  omega

theorem Currency.isBlank_of_isUpper {c : Char} (h : c.isUpper = true) : isBlank c = false := by
  have hlow : 65 ≤ c.toNat := (of_decide_eq_true h).1
  have hhigh : c.toNat ≤ 90 := (of_decide_eq_true h).2
  apply Text.isBlank_of_ascii <;> omega

theorem Currency.toUpper_of_isUpper {c : Char} (h : c.isUpper = true) : c.toUpper = c := by
  have hhigh : c.toNat ≤ 90 := (of_decide_eq_true h).2
  unfold Char.toUpper
  rw [dif_neg]
  intro hlower
  have hlow : 97 ≤ c.toNat := hlower.1
  omega

theorem Currency.read_code (c : Currency) : read c.code = .ok c := by
  have hletters : ∀ letter ∈ c.code.toList, letter.isUpper = true := by
    have hcode := c.isCurrencyCode_code
    rw [isCurrencyCode, Bool.and_eq_true, List.all_eq_true] at hcode
    exact hcode.2
  have htrim : trimChars c.code.toList = c.code.toList :=
    Text.trimChars_of_forall fun letter hletter => isBlank_of_isUpper (hletters letter hletter)
  have hupper : c.code.toList.map Char.toUpper = c.code.toList.map id :=
    List.map_congr_left fun letter hletter => toUpper_of_isUpper (hletters letter hletter)
  unfold read
  rw [htrim, hupper, List.map_id, String.ofList_toList]
  exact dif_pos c.isCurrencyCode_code

theorem CallKind.find?_word (kind : CallKind) :
    all.find? (fun other => other.word == kind.word) = some kind := by
  cases kind <;> rfl

end PaymentGateway
