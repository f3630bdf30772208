import PaymentGateway.Proofs.Text.Notations
import PaymentGateway.Timestamp

/-!
# Reading instants back

An instant between the years 0 and 9999 is written with fields of a fixed width and with as many
fraction digits as its nanoseconds need.  So it is read back as it was, unless it lies in a leap
second.
-/

namespace PaymentGateway

open PaymentGateway.Text

namespace Timestamp

/-! ## Fields -/

theorem isBlank_of_isDigit {c : Char} (h : c.isDigit = true) : isBlank c = false := by
  rw [Char.isDigit, Bool.and_eq_true, decide_eq_true_eq, decide_eq_true_eq] at h
  have hlow : 48 ≤ c.toNat := h.1
  have hhigh : c.toNat ≤ 57 := h.2
  apply isBlank_of_ascii <;> omega

theorem trimStart_digits {digits : List Char} (hne : digits ≠ [])
    (hdigits : ∀ c ∈ digits, c.isDigit = true) (rest : List Char) :
    trimStart (digits ++ rest) = digits ++ rest := by
  cases digits with
  | nil => exact absurd rfl hne
  | cons c digits =>
    exact trimStart_of_visible (isBlank_of_isDigit (hdigits c List.mem_cons_self)) _

theorem takeWhile_digits {digits rest : List Char} (hdigits : ∀ c ∈ digits, c.isDigit = true)
    (hrest : rest.takeWhile (fun c => (digitValue? c).isSome) = []) :
    (digits ++ rest).takeWhile (fun c => (digitValue? c).isSome) = digits := by
  rw [List.takeWhile_append_of_pos fun c hc => isSome_digitValue?_of_isDigit (hdigits c hc), hrest,
    List.append_nil]

theorem takeNumber?_digits {digits : List Char} (hne : digits ≠ [])
    (hdigits : ∀ c ∈ digits, c.isDigit = true) (rest : List Char) :
    takeNumber? digits.length (digits ++ rest) = some (Nat.ofDigitChars 10 digits 0, rest) := by
  have hall : (digits ++ []).takeWhile (fun c => (digitValue? c).isSome) = digits :=
    takeWhile_digits hdigits rfl
  rw [List.append_nil] at hall
  unfold takeNumber?
  rw [List.take_left, hall]
  dsimp only
  rw [readNat?_eq hne hdigits, List.drop_left]
  rfl

theorem takeField?_fixedDigits {low high n : Nat} (hlow : low ≤ n) (hhigh : n ≤ high)
    (hwidth : n < 10 ^ 2) (rest : List Char) :
    takeField? 2 low high (fixedDigits 2 n ++ rest) = some (n, rest) := by
  have hdigits : ∀ c ∈ fixedDigits 2 n, c.isDigit = true := fun c hc => isDigit_of_mem_fixedDigits hc
  have hne := fixedDigits_ne_nil (by decide : 0 < 2) n
  have hnumber := takeNumber?_digits hne hdigits rest
  rw [length_fixedDigits, ofDigitChars_fixedDigits_of_lt hwidth] at hnumber
  unfold takeField?
  rw [trimStart_digits hne hdigits, hnumber]
  exact if_pos ⟨hlow, hhigh⟩

theorem takeMark?_cons {mark : Char} (h : isBlank mark = false) (rest : List Char) :
    takeMark? mark (mark :: rest) = some rest := by
  unfold takeMark?
  rw [trimStart_of_visible h]
  exact if_pos rfl

/-! ## Days -/

theorem takeYear?_paddedDigits {year : Nat} (h : year < 10 ^ 4) (rest : List Char) :
    takeYear? (paddedDigits 4 year ++ rest) = some ((year : Int), rest) := by
  have hdigits : ∀ c ∈ paddedDigits 4 year, c.isDigit = true :=
    fun c hc => isDigit_of_mem_paddedDigits hc
  have hlength := length_paddedDigits (by decide : 0 < 4) h
  have hvalue := ofDigitChars_paddedDigits 4 year
  cases hchars : paddedDigits 4 year with
  | nil =>
    rw [hchars] at hlength
    cases hlength
  | cons c digits =>
    rw [hchars] at hdigits hlength hvalue
    have hdigit := hdigits c List.mem_cons_self
    have hnumber := takeNumber?_digits (List.cons_ne_nil c digits) hdigits rest
    rw [hlength, hvalue] at hnumber
    -- A year may begin with a sign; this one begins with a digit.
    have hminus : c ≠ '-' := by
      rintro rfl
      exact absurd hdigit (by decide)
    have hplus : c ≠ '+' := by
      rintro rfl
      exact absurd hdigit (by decide)
    unfold takeYear?
    rw [trimStart_digits (List.cons_ne_nil c digits) hdigits]
    split
    · rename_i hhead
      exact absurd (List.cons.inj hhead).1 hminus
    · rename_i hhead
      exact absurd (List.cons.inj hhead).1 hplus
    · rw [hnumber]
      rfl

/-- A month with a day in it is one of twelve, and has at most 31 days. -/
theorem daysInMonth_bounds {year : Int} {month : Nat} (h : 1 ≤ daysInMonth year month) :
    1 ≤ month ∧ month ≤ 12 ∧ daysInMonth year month ≤ 31 := by
  unfold daysInMonth at h ⊢
  split at h
  case h_1 => split <;> omega
  all_goals omega

theorem ofYmd?_eq (d : Date) : Date.ofYmd? d.year d.month d.day = some d :=
  dif_pos ⟨d.isCalendarYear_year, d.one_le_day, d.day_le⟩

theorem takeDate?_toChars {d : Date} (hlow : 0 ≤ d.year) (hhigh : d.year ≤ 9999)
    (rest : List Char) : takeDate? (d.toChars ++ rest) = some (d, rest) := by
  obtain ⟨hmonth, hmonths, hdays⟩ := daysInMonth_bounds (Nat.le_trans d.one_le_day d.day_le)
  have hdayMax := Nat.le_trans d.day_le hdays
  have hyear (rest : List Char) :
      takeYear? (paddedDigits 4 d.year.natAbs ++ rest) = some (d.year, rest) := by
    rw [takeYear?_paddedDigits (by omega), Int.natAbs_of_nonneg hlow]
  have hday := takeField?_fixedDigits d.one_le_day hdayMax (by omega) rest
  have hmark (rest : List Char) : takeMark? '-' ('-' :: rest) = some rest :=
    takeMark?_cons (by decide) rest
  have hchars : d.toChars ++ rest = paddedDigits 4 d.year.natAbs ++
      '-' :: (fixedDigits 2 d.month ++ '-' :: (fixedDigits 2 d.day ++ rest)) := by
    rw [Date.toChars, Date.yearChars, if_pos ⟨hlow, hhigh⟩]
    simp
  rw [hchars, takeDate?, hyear]
  simp only [Option.bind_eq_bind, Option.bind_some, hmark,
    takeField?_fixedDigits hmonth hmonths (by omega), hday, ofYmd?_eq]
  rfl

/-! ## Times of day -/

/-- A fraction of at most nine digits is read back in nanoseconds. -/
theorem takeFraction?_fixedDigits {width n : Nat} (hwidth : 0 < width) (hnine : width ≤ 9)
    (h : n < 10 ^ width) :
    takeFraction? ('.' :: (fixedDigits width n ++ ['Z'])) =
      some (n * Nat.pow 10 (9 - width), ['Z']) := by
  have hdigits : ∀ c ∈ fixedDigits width n, c.isDigit = true :=
    fun c hc => isDigit_of_mem_fixedDigits hc
  have hall : (fixedDigits width n ++ ['Z']).takeWhile (fun c => (digitValue? c).isSome) =
      fixedDigits width n := takeWhile_digits hdigits rfl
  have hkept : (fixedDigits width n).take 9 = fixedDigits width n := by
    rw [List.take_of_length_le]
    rw [length_fixedDigits]
    exact hnine
  rw [takeFraction?, hall, hkept, readNat?_eq (fixedDigits_ne_nil hwidth n) hdigits,
    ofDigitChars_fixedDigits_of_lt h, length_fixedDigits, List.drop_left' (length_fixedDigits _ _)]
  rfl

/-- Nanoseconds are read back, however many of their digits were written. -/
theorem takeFraction?_fractionChars {nanosecond : Nat} (h : nanosecond < 1000000000) :
    takeFraction? (fractionChars nanosecond ++ ['Z']) = some (nanosecond, ['Z']) := by
  unfold fractionChars
  -- The fraction has no digits, or those of milliseconds, microseconds or nanoseconds.
  by_cases hnone : nanosecond = 0
  · rw [if_pos hnone, hnone]
    rfl
  rw [if_neg hnone]
  by_cases hmilli : nanosecond % 1000000 = 0
  · rw [if_pos hmilli]
    refine (takeFraction?_fixedDigits (by decide) (by decide) (by omega)).trans ?_
    show some (nanosecond / 1000000 * 1000000, _) = _
    rw [Nat.div_mul_cancel (Nat.dvd_of_mod_eq_zero hmilli)]
  rw [if_neg hmilli]
  by_cases hmicro : nanosecond % 1000 = 0
  · rw [if_pos hmicro]
    refine (takeFraction?_fixedDigits (by decide) (by decide) (by omega)).trans ?_
    show some (nanosecond / 1000 * 1000, _) = _
    rw [Nat.div_mul_cancel (Nat.dvd_of_mod_eq_zero hmicro)]
  rw [if_neg hmicro]
  refine (takeFraction?_fixedDigits (by decide) (by decide) (by omega)).trans ?_
  show some (nanosecond * 1, _) = _
  rw [Nat.mul_one]

theorem takeTime?_chars {second nanosecond : Nat} (hsecond : second < 86400)
    (hnanosecond : nanosecond < 1000000000) :
    takeTime? (fixedDigits 2 (second / 3600) ++ ':' :: (fixedDigits 2 (second / 60 % 60) ++
      ':' :: (fixedDigits 2 (second % 60) ++ (fractionChars nanosecond ++ ['Z'])))) =
        some (second, nanosecond, ['Z']) := by
  have hmark (rest : List Char) : takeMark? ':' (':' :: rest) = some rest :=
    takeMark?_cons (by decide) rest
  have hhour (rest : List Char) :
      takeField? 2 0 23 (fixedDigits 2 (second / 3600) ++ rest) = some (second / 3600, rest) :=
    takeField?_fixedDigits (Nat.zero_le _) (by omega) (by omega) rest
  have hminute (rest : List Char) :
      takeField? 2 0 59 (fixedDigits 2 (second / 60 % 60) ++ rest) =
        some (second / 60 % 60, rest) :=
    takeField?_fixedDigits (Nat.zero_le _) (by omega) (by omega) rest
  have hlast (rest : List Char) :
      takeField? 2 0 60 (fixedDigits 2 (second % 60) ++ rest) = some (second % 60, rest) :=
    takeField?_fixedDigits (Nat.zero_le _) (by omega) (by omega) rest
  -- No time is written as a leap second.
  have hleap : second % 60 ≠ 60 := by omega
  have hsum : second / 3600 * 3600 + second / 60 % 60 * 60 + second % 60 = second := by omega
  unfold takeTime?
  simp only [Option.bind_eq_bind, Option.bind_some, hmark, hhour, hminute, hlast,
    takeFraction?_fractionChars hnanosecond, if_neg hleap]
  show some (second / 3600 * 3600 + second / 60 % 60 * 60 + second % 60, nanosecond, _) = _
  rw [hsum]

/-! ## Instants -/

theorem ofLocal?_zero (t : Timestamp) :
    ofLocal? t.date t.secondOfDay t.nanosecond 0 = some t := by
  have hsecond := t.secondOfDay_lt
  unfold ofLocal?
  rw [Int.sub_zero, if_neg (by omega), if_pos (by omega), Int.toNat_natCast]
  exact dif_pos ⟨t.secondOfDay_lt, t.nanosecond_lt⟩

/-- The characters of an instant outside leap seconds. -/
theorem toChars_eq {t : Timestamp} (h : t.nanosecond < 1000000000) :
    t.toChars = t.date.toChars ++ 'T' :: (fixedDigits 2 (t.secondOfDay / 3600) ++
      ':' :: (fixedDigits 2 (t.secondOfDay / 60 % 60) ++
        ':' :: (fixedDigits 2 (t.secondOfDay % 60) ++ (fractionChars t.nanosecond ++ ['Z'])))) := by
  unfold toChars
  rw [Nat.div_eq_of_lt h, Nat.mod_eq_of_lt h]
  simp

/-- A time of day in universal time ends an instant. -/
theorem ofChars?_eq {t : Timestamp} {cs time : List Char}
    (hdate : takeDate? cs = some (t.date, 'T' :: time))
    (htime : takeTime? time = some (t.secondOfDay, t.nanosecond, ['Z'])) :
    ofChars? cs = some t := by
  have hoffset : takeOffset? (trimStart ['Z']) = some (0, []) := by decide
  have hend : (trimStart []).isEmpty = true := rfl
  -- Rewritten step by step: the kernel unfolds the offsets when it is given all steps at once.
  rw [ofChars?, hdate, Option.bind_eq_bind, Option.bind_some]
  dsimp only
  rw [if_pos (Or.inl rfl), htime, Option.bind_eq_bind, Option.bind_some]
  dsimp only
  rw [hoffset, Option.bind_eq_bind, Option.bind_some]
  dsimp only
  rw [if_pos hend, ofLocal?_zero]

/-- An instant that was written is read back. -/
theorem ofText?_toText {t : Timestamp} (hlow : 0 ≤ t.date.year) (hhigh : t.date.year ≤ 9999)
    (hnanosecond : t.nanosecond < 1000000000) : ofText? t.toText = some t := by
  unfold ofText? toText
  rw [String.toList_ofList, toChars_eq hnanosecond]
  exact ofChars?_eq (takeDate?_toChars hlow hhigh _) (takeTime?_chars t.secondOfDay_lt hnanosecond)

end Timestamp

end PaymentGateway
