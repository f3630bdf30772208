import PaymentGateway.Csv.Records
import PaymentGateway.Proofs.Csv.Grammar

/-!
# Reading by the grammar

The scan of a text accepts more than the grammar.  Of a text of the grammar it finds the records,
but for empty lines: the grammar has a record of one empty field there and the scan has none.
-/

namespace PaymentGateway.Csv

/-! ## Steps of the scan -/

def Place.BeginsField (place : Place) : Prop :=
  place = .fieldStart ∨ place = .betweenRecords

theorem Place.BeginsField.ne_quoted {place : Place} (h : place.BeginsField) :
    place ≠ .quoted := by
  rcases h with rfl | rfl <;> decide

section Steps

variable {place : Place} {c : Char}

theorem scanRecords_quoted_of_ne (hc : c ≠ '"') (kept : List Char) (fields : List (List Char))
    (rest : List Char) :
    scanRecords .characters ⟨.quoted, kept, fields⟩ (c :: rest) =
      scanRecords .characters ⟨.quoted, c :: kept, fields⟩ rest :=
  if_neg hc

theorem scanRecords_opening (hplace : place.BeginsField) (fields : List (List Char))
    (rest : List Char) :
    scanRecords .characters ⟨place, [], fields⟩ ('"' :: rest) =
      scanRecords .characters ⟨.quoted, [], fields⟩ rest := by
  rcases hplace with rfl | rfl <;> rfl

theorem scanRecords_textData (hc : IsTextData c) (hplace : place ≠ .quoted) (kept : List Char)
    (fields : List (List Char)) (rest : List Char) :
    scanRecords .characters ⟨place, kept, fields⟩ (c :: rest) =
      scanRecords .characters ⟨.plain, c :: kept, fields⟩ rest := by
  have hend : Marks.characters.endsRecord c = false :=
    decide_eq_false fun h => h.elim hc.ne_carriageReturn hc.ne_lineFeed
  have hcomma : ¬ c = Marks.characters.comma := hc.ne_comma
  have hquote (p : Prop) : ¬ (c = Marks.characters.quote ∧ p) := fun h => hc.ne_quote h.1
  cases place with
  | quoted => exact absurd rfl hplace
  | betweenRecords | fieldStart | plain | afterQuote =>
    rw [scanRecords]
    dsimp only
    rw [if_neg (Bool.eq_false_iff.mp hend), if_neg hcomma, if_neg (hquote _), if_neg (hquote _)]
    rfl

theorem scanRecords_comma (hplace : place ≠ .quoted) (kept : List Char)
    (fields : List (List Char)) (rest : List Char) :
    scanRecords .characters ⟨place, kept, fields⟩ (',' :: rest) =
      scanRecords .characters ⟨.fieldStart, [], kept.reverse :: fields⟩ rest := by
  cases place with
  | quoted => exact absurd rfl hplace
  | betweenRecords | fieldStart | plain | afterQuote => rfl

end Steps

/-! ## Fields -/

/-- Text without signs is copied. -/
theorem scanRecords_plain {field : List Char} (h : ∀ c ∈ field, IsTextData c) (kept : List Char)
    (fields : List (List Char)) (rest : List Char) :
    scanRecords .characters ⟨.plain, kept, fields⟩ (field ++ rest) =
      scanRecords .characters ⟨.plain, field.reverse ++ kept, fields⟩ rest := by
  induction field generalizing kept with
  | nil => rfl
  | cons c field ih =>
    rw [List.forall_mem_cons] at h
    have hunquoted : Place.plain ≠ .quoted := nofun
    rw [List.cons_append, scanRecords_textData h.1 hunquoted, ih h.2]
    simp

/-- Text between quotes is copied without the doubling. -/
theorem scanRecords_doubled {field text : List Char} (h : Doubled field text) (kept : List Char)
    (fields : List (List Char)) (rest : List Char) :
    scanRecords .characters ⟨.quoted, kept, fields⟩ (text ++ '"' :: rest) =
      scanRecords .characters ⟨.afterQuote, field.reverse ++ kept, fields⟩ rest := by
  induction h generalizing kept with
  | nil => rfl
  | @quote field text _ ih =>
    -- The first of the two quotes leads out of the quoted text and the second one back into it.
    show scanRecords .characters ⟨.quoted, '"' :: kept, fields⟩ (text ++ '"' :: rest) = _
    rw [ih]
    simp
  | other hc _ ih =>
    rw [List.cons_append, scanRecords_quoted_of_ne hc, ih]
    simp

/-- Behind the text of a field, the field is kept.  Only an empty one can leave the scan where it
was. -/
theorem exists_place_of_isField {field text : List Char} (h : IsField field text) {place : Place}
    (hplace : place.BeginsField) (fields : List (List Char)) (rest : List Char) :
    ∃ last : Place, last ≠ .quoted ∧
      (last = .betweenRecords → place = .betweenRecords ∧ field = []) ∧
      scanRecords .characters ⟨place, [], fields⟩ (text ++ rest) =
        scanRecords .characters ⟨last, field.reverse, fields⟩ rest := by
  cases h with
  | plain h =>
    cases field with
    | nil =>
      -- Nothing is scanned.  Between records this is not yet a field.
      exact ⟨place, hplace.ne_quoted, fun hbetween => ⟨hbetween, rfl⟩, rfl⟩
    | cons c field =>
      rw [List.forall_mem_cons] at h
      refine ⟨.plain, nofun, nofun, ?_⟩
      rw [List.cons_append, scanRecords_textData h.1 hplace.ne_quoted, scanRecords_plain h.2,
        List.reverse_cons]
  | @quoted text h =>
    refine ⟨.afterQuote, nofun, nofun, ?_⟩
    rw [List.cons_append, List.append_assoc, scanRecords_opening hplace]
    show scanRecords .characters ⟨.quoted, [], fields⟩ (text ++ '"' :: rest) = _
    rw [scanRecords_doubled h, List.append_nil]

/-! ## Records -/

/-- A scan that stands behind a record, unless more follows. -/
structure Scan.Holds (s : Scan Char) (record : List (List Char)) : Prop where
  place_ne_quoted : s.place ≠ .quoted
  place_ne_betweenRecords : s.place ≠ .betweenRecords
  record_eq : s.record = record

theorem Scan.Holds.scanRecords_nil {s : Scan Char} {record : List (List Char)}
    (h : s.Holds record) : scanRecords .characters s [] = [record] := by
  rw [scanRecords, if_neg h.place_ne_betweenRecords, h.record_eq]

theorem Scan.Holds.scanRecords_lineEnd {s : Scan Char} {record : List (List Char)}
    (h : s.Holds record) {lineEnd : List Char} (hend : IsLineEnd lineEnd) (rest : List Char) :
    scanRecords .characters s (lineEnd ++ rest) = record :: scanRecords .characters {} rest := by
  obtain ⟨place, field, fields⟩ := s
  rw [← h.record_eq]
  cases place with
  | quoted => exact absurd rfl h.place_ne_quoted
  | betweenRecords => exact absurd rfl h.place_ne_betweenRecords
  | fieldStart | plain | afterQuote => cases hend <;> rfl

/-- Behind the text of a record, the record is kept, unless it is an empty line. -/
theorem exists_holds_of_isRecord {fields : List (List Char)} {text : List Char}
    (h : IsRecord fields text) {place : Place} (hplace : place.BeginsField)
    (hvisible : place = .betweenRecords → fields ≠ [[]]) (before : List (List Char))
    (rest : List Char) :
    ∃ s : Scan Char, s.Holds (before.reverse ++ fields) ∧
      scanRecords .characters ⟨place, [], before⟩ (text ++ rest) =
        scanRecords .characters s rest := by
  -- Only the first field can be scanned from between records: all others follow a comma.
  induction h generalizing place before with
  | @last field text hfield =>
    obtain ⟨last, hquoted, hbetween, hscan⟩ :=
      exists_place_of_isField hfield hplace before rest
    refine ⟨⟨last, field.reverse, before⟩, ⟨hquoted, ?_, by simp [Scan.record]⟩, hscan⟩
    intro hlast
    obtain ⟨hstart, hempty⟩ := hbetween hlast
    exact hvisible hstart (congrArg ([·]) hempty)
  | @more field text fields following hfield _ ih =>
    obtain ⟨last, hquoted, -, hscan⟩ :=
      exists_place_of_isField hfield hplace before (',' :: (following ++ rest))
    obtain ⟨s, hholds, hfollowing⟩ := ih (.inl rfl) nofun (field :: before)
    refine ⟨s, ?_, ?_⟩
    · rwa [List.reverse_cons, List.append_assoc] at hholds
    · rw [List.append_assoc, List.cons_append, hscan, scanRecords_comma hquoted,
        List.reverse_reverse, hfollowing]

/-- Of a text of records the scan finds these records, if none is a single empty field. -/
theorem records_of_isFile {list : List (List (List Char))} {text : List Char}
    (h : IsFile list text) (hvisible : ∀ fields ∈ list, fields ≠ [[]]) :
    records .characters text = list := by
  have hstart : Place.BeginsField .betweenRecords := .inr rfl
  -- Every record leaves the scan where it began, so the rest is scanned like a file.
  induction h with
  | empty => rfl
  | @unended fields text hrecord _ =>
    obtain ⟨s, hholds, hscan⟩ := exists_holds_of_isRecord hrecord hstart
      (fun _ => hvisible fields List.mem_cons_self) [] []
    rw [List.append_nil] at hscan
    exact hscan.trans hholds.scanRecords_nil
  | @ended fields text lineEnd list rest hrecord hend _ ih =>
    rw [List.forall_mem_cons] at hvisible
    obtain ⟨s, hholds, hscan⟩ := exists_holds_of_isRecord hrecord hstart
      (fun _ => hvisible.1) [] (lineEnd ++ rest)
    calc records .characters (text ++ (lineEnd ++ rest))
        = scanRecords .characters s (lineEnd ++ rest) := hscan
      _ = fields :: records .characters rest := hholds.scanRecords_lineEnd hend rest
      _ = fields :: list := by rw [ih hvisible.2]

end PaymentGateway.Csv
