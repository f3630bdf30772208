import PaymentGateway.Proofs.Text.Utf8
import PaymentGateway.Wire

/-!
# Lines of a message

A line states a field exactly if it is a name without equals sign, the sign and a value.  The reader
drops one carriage return at the end of a line, so a value that ends with one comes out shorter.
-/

namespace PaymentGateway.Wire

theorem splitAtEquals?_eq_some_iff {cs name value : List Char} :
    splitAtEquals? cs = some (name, value) ↔ cs = name ++ '=' :: value ∧ '=' ∉ name := by
  induction cs generalizing name with
  | nil => simp [splitAtEquals?]
  | cons c cs ih =>
    rw [splitAtEquals?]
    -- The name ends at the first equals sign, however many the value has.
    by_cases hc : c = '='
    · subst hc
      rw [if_pos rfl]
      cases name with
      | nil => simp [eq_comm]
      | cons d name => simp; intro h _ ; simp [h.symm]
    · rw [if_neg hc]
      cases name with
      | nil => simp [hc]
      | cons d name =>
        simp only [Option.map_eq_some_iff, Prod.exists, Prod.mk.injEq, List.cons.injEq,
          List.cons_append, List.mem_cons, not_or]
        constructor
        · rintro ⟨n, v, h, ⟨rfl, rfl⟩, rfl⟩
          obtain ⟨rfl, hn⟩ := ih.mp h
          exact ⟨⟨rfl, rfl⟩, fun e => hc e.symm, hn⟩
        · rintro ⟨⟨rfl, rfl⟩, -, hn⟩
          exact ⟨name, value, ih.mpr ⟨rfl, hn⟩, ⟨rfl, rfl⟩, rfl⟩

/-- A line states a field exactly if it is a name without equals sign, the sign and a value. -/
theorem readLine_eq_field_iff {content : List UInt8} {name value : String} :
    readLine content = .field name value ↔
      content = Text.Utf8.encodeChars (fieldLine (name, value)) ∧ '=' ∉ name.toList := by
  constructor
  · intro h
    unfold readLine at h
    split at h
    · cases h
    · next text hdecoded =>
      split at h
      · cases h
      · unfold readField at h
        split at h
        · next n v hread =>
          split at hread
          · next n' v' hsplit =>
            cases hread
            cases h
            obtain ⟨htext, hname⟩ := splitAtEquals?_eq_some_iff.mp hsplit
            refine ⟨?_, by rwa [String.toList_ofList]⟩
            rw [← Text.Utf8.encodeChars_toList_of_decode hdecoded, htext, fieldLine,
              String.toList_ofList, String.toList_ofList]
          · cases hread
        · cases h
  · rintro ⟨rfl, hname⟩
    -- The last line has no equals sign, so no field is taken for it.
    have hother : String.ofList (fieldLine (name, value)) ≠ endOfData := by
      intro h
      have hequals : '=' ∈ endOfData.toList := by
        rw [← h, String.toList_ofList, fieldLine]
        simp
      exact absurd hequals (by decide)
    have hsplit : splitAtEquals? (fieldLine (name, value)) = some (name.toList, value.toList) :=
      splitAtEquals?_eq_some_iff.mpr ⟨rfl, hname⟩
    rw [readLine, Text.Utf8.decode_encodeChars]
    simp only [if_neg hother, readField, String.toList_ofList, hsplit, String.ofList_toList]

theorem readLine_endOfData : readLine (Text.Utf8.encodeChars endOfData.toList) = .last := by
  rw [readLine, Text.Utf8.decode_encodeChars, String.ofList_toList]
  rfl

/-- The value that a reader sees of a line that ends with this one. -/
def withoutReturn (value : List Char) : List Char :=
  if value.getLast? = some '\r' then value.dropLast else value

theorem dropLastByte_encodeChars (cs : List Char) :
    dropLastByte carriageReturn (Text.Utf8.encodeChars cs) =
      Text.Utf8.encodeChars (withoutReturn cs) := by
  have hlast : (Text.Utf8.encodeChars cs).getLast? = some carriageReturn ↔
      cs.getLast? = some '\r' := Text.Utf8.getLast?_encodeChars_iff (a := '\r') (by decide) cs
  rw [dropLastByte, withoutReturn]
  by_cases h : cs.getLast? = some '\r'
  · rw [if_pos (hlast.mpr h), if_pos h]
    obtain ⟨init, rfl⟩ := List.getLast?_eq_some_iff.mp h
    rw [Text.Utf8.encodeChars_append, List.dropLast_concat]
    exact List.dropLast_concat
  · rw [if_neg (fun hb => h (hlast.mp hb)), if_neg h]

theorem withoutReturn_append {tail : List Char} (h : tail ≠ []) (init : List Char) :
    withoutReturn (init ++ tail) = init ++ withoutReturn tail := by
  have hlast : (init ++ tail).getLast? = tail.getLast? := by
    rw [List.getLast?_append, Option.or_of_isSome (by simpa using h)]
  rw [withoutReturn, withoutReturn, hlast, List.dropLast_append_of_ne_nil h]
  split <;> rfl

theorem withoutReturn_cons {c : Char} (hc : c ≠ '\r') (value : List Char) :
    withoutReturn (c :: value) = c :: withoutReturn value := by
  by_cases h : value = []
  · subst h
    simp [withoutReturn, hc]
  · exact withoutReturn_append h [c]

theorem withoutReturn_fieldLine (name value : String) :
    withoutReturn (fieldLine (name, value)) =
      fieldLine (name, String.ofList (withoutReturn value.toList)) := by
  rw [fieldLine, fieldLine, String.toList_ofList, withoutReturn_append (List.cons_ne_nil _ _),
    withoutReturn_cons (by decide)]
end PaymentGateway.Wire
