import PaymentGateway.Text.Utf8

/-!
# The bytes of a text

A byte below 128 stands only for the ASCII character with its code, never inside another character;
so a line feed or a carriage return can be sought among the bytes of a text as well as among its
characters.  `decode` reads back exactly what `encodeChars` writes.
-/

namespace PaymentGateway.Text.Utf8

@[simp] theorem encodeChars_nil : encodeChars [] = [] := rfl

@[simp] theorem encodeChars_cons (c : Char) (cs : List Char) :
    encodeChars (c :: cs) = String.utf8EncodeChar c ++ encodeChars cs := List.flatMap_cons

@[simp] theorem encodeChars_append (cs ds : List Char) :
    encodeChars (cs ++ ds) = encodeChars cs ++ encodeChars ds := List.flatMap_append

theorem utf8EncodeChar_of_ascii {a : Char} (ha : a.toNat < 0x80) :
    String.utf8EncodeChar a = [UInt8.ofNat a.toNat] := by
  have h : a.val.toNat ≤ 0x7f := Nat.le_of_lt_succ ha
  rw [String.utf8EncodeChar, if_pos h]
  rfl

/-- A byte below 128 stands only for the character with its code. -/
theorem toNat_eq_of_mem_utf8EncodeChar {c : Char} {b : UInt8}
    (hb : b ∈ String.utf8EncodeChar c) (low : b.toNat < 0x80) : c.toNat = b.toNat := by
  simp only [String.utf8EncodeChar] at hb
  have hc : c.val.toNat = c.toNat := rfl
  split at hb
  · next h =>
    rw [List.mem_singleton] at hb
    rw [hb, UInt8.toNat_ofNat', ← hc]
    omega
  · -- All bytes of a longer encoding are above the ASCII range.
    exfalso
    split at hb
    · simp only [List.mem_cons, List.not_mem_nil, or_false] at hb
      rcases hb with rfl | rfl <;> simp only [UInt8.toNat_ofNat'] at low <;> omega
    · split at hb
      · simp only [List.mem_cons, List.not_mem_nil, or_false] at hb
        rcases hb with rfl | rfl | rfl <;> simp only [UInt8.toNat_ofNat'] at low <;> omega
      · simp only [List.mem_cons, List.not_mem_nil, or_false] at hb
        rcases hb with rfl | rfl | rfl | rfl <;> simp only [UInt8.toNat_ofNat'] at low <;> omega

theorem toNat_ofNat_ascii {a : Char} (ha : a.toNat < 0x80) :
    (UInt8.ofNat a.toNat).toNat = a.toNat := by
  rw [UInt8.toNat_ofNat']
  omega

theorem eq_of_mem_utf8EncodeChar {a c : Char} (ha : a.toNat < 0x80)
    (h : UInt8.ofNat a.toNat ∈ String.utf8EncodeChar c) : c = a := by
  have hn := toNat_ofNat_ascii ha
  have hc := toNat_eq_of_mem_utf8EncodeChar h (by omega)
  exact Char.ext (UInt32.toNat_inj.mp (hc.trans hn))

/-- The byte of an ASCII character occurs only where the character does. -/
theorem mem_encodeChars_iff {a : Char} (ha : a.toNat < 0x80) (cs : List Char) :
    UInt8.ofNat a.toNat ∈ encodeChars cs ↔ a ∈ cs := by
  constructor
  · intro h
    obtain ⟨c, hc, hb⟩ := List.mem_flatMap.mp h
    exact eq_of_mem_utf8EncodeChar ha hb ▸ hc
  · intro h
    refine List.mem_flatMap.mpr ⟨a, h, ?_⟩
    rw [utf8EncodeChar_of_ascii ha]
    exact List.mem_singleton_self _

/-- Bytes end with that of an ASCII character only if the text ends with the character. -/
theorem getLast?_encodeChars_iff {a : Char} (ha : a.toNat < 0x80) (cs : List Char) :
    (encodeChars cs).getLast? = some (UInt8.ofNat a.toNat) ↔ cs.getLast? = some a := by
  rcases List.eq_nil_or_concat cs with rfl | ⟨init, c, rfl⟩
  · simp
  · rw [List.concat_eq_append, encodeChars_append, List.getLast?_concat, Option.some_inj]
    simp only [encodeChars_cons, encodeChars_nil, List.append_nil]
    rw [List.getLast?_append, Option.or_of_isSome (by simp)]
    constructor
    · intro h
      exact eq_of_mem_utf8EncodeChar ha (List.mem_of_getLast? h)
    · rintro rfl
      rw [utf8EncodeChar_of_ascii ha]
      rfl

/-- The bytes of characters are read back as these characters. -/
theorem decode_encodeChars (cs : List Char) : decode (encodeChars cs) = .ok (String.ofList cs) := by
  have valid : (encodeChars cs).toByteArray.IsValidUTF8 := ⟨cs, rfl⟩
  rw [decode, String.fromUTF8?, dif_pos valid]
  rfl

/-- What is read from bytes has these bytes. -/
theorem encodeChars_toList_of_decode {bytes : List UInt8} {text : String}
    (h : decode bytes = .ok text) : encodeChars text.toList = bytes := by
  rw [decode, String.fromUTF8?] at h
  split at h
  · next valid s hs =>
    injection h with h
    subst h
    split at hs
    · injection hs with hs
      subst hs
      have hb := String.utf8Encode_toList (b := String.fromUTF8 bytes.toByteArray ‹_›)
      have hd := congrArg (fun b : ByteArray => b.data.toList) hb
      simpa [encodeChars, List.utf8Encode, String.fromUTF8] using hd
    · cases hs
  · cases h

end PaymentGateway.Text.Utf8
