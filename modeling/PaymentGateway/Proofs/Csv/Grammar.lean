import PaymentGateway.Csv.Records

/-!
# The grammar of comma-separated text

A field is plain text, or stands between quotes with every quote in it doubled; white space belongs
to a field.  Commas separate fields and line ends separate records.  No text is the text of two
lists of records, and what is written for records is a text of these.
-/

namespace PaymentGateway.Csv

/-! ## Grammar -/

structure IsTextData (c : Char) : Prop where
  ne_comma : c ≠ ','
  ne_quote : c ≠ '"'
  ne_carriageReturn : c ≠ '\r'
  ne_lineFeed : c ≠ '\n'

/-- What a text between quotes stands for. -/
inductive Doubled : List Char → List Char → Prop
  | nil : Doubled [] []
  | quote {field text : List Char} (h : Doubled field text) :
      Doubled ('"' :: field) ('"' :: '"' :: text)
  | other {c : Char} {field text : List Char} (hc : c ≠ '"') (h : Doubled field text) :
      Doubled (c :: field) (c :: text)

inductive IsField : List Char → List Char → Prop
  | plain {field : List Char} (h : ∀ c ∈ field, IsTextData c) : IsField field field
  | quoted {field text : List Char} (h : Doubled field text) :
      IsField field ('"' :: (text ++ ['"']))

/-- The text of a record, which has a field at least. -/
inductive IsRecord : List (List Char) → List Char → Prop
  | last {field text : List Char} (h : IsField field text) : IsRecord [field] text
  | more {field text : List Char} {fields : List (List Char)} {rest : List Char}
      (h : IsField field text) (hrest : IsRecord fields rest) :
      IsRecord (field :: fields) (text ++ ',' :: rest)

inductive IsLineEnd : List Char → Prop
  | lineFeed : IsLineEnd ['\n']
  | carriageReturn : IsLineEnd ['\r', '\n']

/-- The text of a list of records.  The last one needs no line end, unless nothing else would show
that it is there. -/
inductive IsFile : List (List (List Char)) → List Char → Prop
  | empty : IsFile [] []
  | unended {fields : List (List Char)} {text : List Char} (h : IsRecord fields text)
      (hne : text ≠ []) : IsFile [fields] text
  | ended {fields : List (List Char)} {text lineEnd : List Char}
      {records : List (List (List Char))} {rest : List Char} (h : IsRecord fields text)
      (hend : IsLineEnd lineEnd) (hrest : IsFile records rest) :
      IsFile (fields :: records) (text ++ (lineEnd ++ rest))

/-! ## No text has two meanings

Two readings of a text are compared piece by piece.  So every statement has a rest behind each
piece, which must not be able to belong to it. -/

/-- Whether a rest can follow a record: it is nothing, or begins with a line end. -/
def EndsRecord (rest : List Char) : Prop :=
  ∀ c ∈ rest.head?, c = '\r' ∨ c = '\n'

def EndsField (rest : List Char) : Prop :=
  ∀ c ∈ rest.head?, c = ',' ∨ c = '\r' ∨ c = '\n'

theorem EndsRecord.endsField {rest : List Char} (h : EndsRecord rest) : EndsField rest :=
  fun c hc => .inr (h c hc)

theorem endsField_comma (rest : List Char) : EndsField (',' :: rest) := by
  intro c hc
  cases hc
  exact .inl rfl

theorem endsRecord_nil : EndsRecord [] :=
  nofun

theorem IsLineEnd.endsRecord {lineEnd : List Char} (h : IsLineEnd lineEnd) (rest : List Char) :
    EndsRecord (lineEnd ++ rest) := by
  intro c hc
  cases h with
  | lineFeed =>
    cases hc
    exact .inr rfl
  | carriageReturn =>
    cases hc
    exact .inl rfl

theorem IsLineEnd.append_ne_nil {lineEnd : List Char} (h : IsLineEnd lineEnd) (rest : List Char) :
    lineEnd ++ rest ≠ [] := by
  cases h <;> exact nofun

theorem EndsField.not_isTextData {c : Char} {rest : List Char} (h : EndsField (c :: rest)) :
    ¬ IsTextData c := by
  intro hc
  rcases h c rfl with rfl | rfl | rfl
  · exact hc.ne_comma rfl
  · exact hc.ne_carriageReturn rfl
  · exact hc.ne_lineFeed rfl

theorem EndsField.head_ne_quote {rest tail : List Char} (h : EndsField rest) :
    rest ≠ '"' :: tail := by
  rintro rfl
  rcases h '"' rfl with hc | hc | hc <;> cases hc

/-- Plain text goes as far as it can. -/
theorem length_le_of_plain {a b x y : List Char} (ha : ∀ c ∈ a, IsTextData c) (hy : EndsField y)
    (heq : a ++ x = b ++ y) : a.length ≤ b.length := by
  rcases List.append_eq_append_iff.mp heq with ⟨more, rfl, -⟩ | ⟨more, rfl, hrest⟩
  · simp
  · cases more with
    | nil => simp
    | cons c more =>
      rw [List.cons_append] at hrest
      subst hrest
      exact absurd (ha c (List.mem_append_right b List.mem_cons_self)) hy.not_isTextData

/-- A text between quotes ends at the first quote that is not doubled. -/
theorem Doubled.unique {a b s t x y : List Char} (ha : Doubled a s) (hb : Doubled b t)
    (hx : EndsField x) (hy : EndsField y) (heq : s ++ '"' :: x = t ++ '"' :: y) :
    a = b ∧ x = y := by
  -- If a quote closed one text and was doubled in the other, a rest would begin with a quote.
  induction ha generalizing b t with
  | nil =>
    cases hb with
    | nil => exact ⟨rfl, (List.cons.inj heq).2⟩
    | quote hb => exact absurd (List.cons.inj heq).2 hx.head_ne_quote
    | other hc hb => exact absurd (List.cons.inj heq).1.symm hc
  | quote ha ih =>
    cases hb with
    | nil => exact absurd (List.cons.inj heq).2.symm hy.head_ne_quote
    | quote hb =>
      obtain ⟨hfield, hrest⟩ := ih hb (List.cons.inj (List.cons.inj heq).2).2
      exact ⟨congrArg ('"' :: ·) hfield, hrest⟩
    | other hc hb => exact absurd (List.cons.inj heq).1.symm hc
  | other hc ha ih =>
    cases hb with
    | nil => exact absurd (List.cons.inj heq).1 hc
    | quote hb => exact absurd (List.cons.inj heq).1 hc
    | other hd hb =>
      obtain ⟨hfirst, htail⟩ := List.cons.inj heq
      obtain ⟨hfield, hrest⟩ := ih hb htail
      exact ⟨hfirst ▸ congrArg (_ :: ·) hfield, hrest⟩

/-- Plain text does not begin like a text between quotes. -/
theorem plain_ne_quoted {a x tail : List Char} (ha : ∀ c ∈ a, IsTextData c) (hx : EndsField x) :
    a ++ x ≠ '"' :: tail := by
  intro heq
  cases a with
  | nil => exact hx.head_ne_quote heq
  | cons c a => exact (ha c List.mem_cons_self).ne_quote (List.cons.inj heq).1

theorem IsField.unique {a b s t x y : List Char} (ha : IsField a s) (hb : IsField b t)
    (hx : EndsField x) (hy : EndsField y) (heq : s ++ x = t ++ y) : a = b ∧ x = y := by
  cases ha with
  | plain ha =>
    cases hb with
    | plain hb =>
      -- Neither of the two can go further than the other.
      have hlength : a.length = b.length :=
        Nat.le_antisymm (length_le_of_plain ha hy heq) (length_le_of_plain hb hx heq.symm)
      exact List.append_inj heq hlength
    | quoted hb => exact absurd heq (plain_ne_quoted ha hx)
  | quoted ha =>
    cases hb with
    | plain hb => exact absurd heq.symm (plain_ne_quoted hb hy)
    | quoted hb =>
      rw [List.cons_append, List.cons_append, List.append_assoc, List.append_assoc] at heq
      exact ha.unique hb hx hy (List.cons.inj heq).2

theorem EndsRecord.ne_comma {rest tail : List Char} (h : EndsRecord rest) : rest ≠ ',' :: tail := by
  rintro rfl
  rcases h ',' rfl with hc | hc <;> cases hc

theorem IsRecord.unique {fields others : List (List Char)} {s t x y : List Char}
    (hfields : IsRecord fields s) (hothers : IsRecord others t) (hx : EndsRecord x)
    (hy : EndsRecord y) (heq : s ++ x = t ++ y) : fields = others ∧ x = y := by
  -- A comma behind a field goes on with the record, which no rest of a record begins with.
  induction hfields generalizing others t with
  | last hfield =>
    cases hothers with
    | last hother =>
      obtain ⟨rfl, hrest⟩ := hfield.unique hother hx.endsField hy.endsField heq
      exact ⟨rfl, hrest⟩
    | more hother hrest =>
      rw [List.append_assoc] at heq
      exact absurd (hfield.unique hother hx.endsField (endsField_comma _) heq).2 hx.ne_comma
  | more hfield hrest ih =>
    rw [List.append_assoc] at heq
    cases hothers with
    | last hother =>
      exact absurd (hfield.unique hother (endsField_comma _) hy.endsField heq).2.symm hy.ne_comma
    | more hother hothers =>
      rw [List.append_assoc] at heq
      obtain ⟨rfl, htail⟩ :=
        hfield.unique hother (endsField_comma _) (endsField_comma _) heq
      obtain ⟨rfl, hend⟩ := ih hothers (List.cons.inj htail).2
      exact ⟨rfl, hend⟩

theorem IsLineEnd.unique {lineEnd other x y : List Char} (h : IsLineEnd lineEnd)
    (hother : IsLineEnd other) (heq : lineEnd ++ x = other ++ y) : x = y := by
  cases h with
  | lineFeed =>
    cases hother with
    | lineFeed => exact (List.cons.inj heq).2
    | carriageReturn => cases (List.cons.inj heq).1
  | carriageReturn =>
    cases hother with
    | lineFeed => cases (List.cons.inj heq).1
    | carriageReturn => exact (List.cons.inj (List.cons.inj heq).2).2

theorem IsFile.eq_nil {records : List (List (List Char))} (h : IsFile records []) :
    records = [] := by
  generalize hnil : ([] : List Char) = text at h
  cases h with
  | empty => rfl
  | unended _ hne => exact absurd hnil.symm hne
  | ended _ hend _ => exact absurd (List.append_eq_nil_iff.mp hnil.symm).2 (hend.append_ne_nil _)

/-- A file that begins with the text of a record has this record first.  Behind it is nothing, or a
line end and all other records. -/
theorem IsFile.exists_eq_cons {records : List (List (List Char))} {fields : List (List Char)}
    {text rest : List Char} (h : IsFile records (text ++ rest)) (hrecord : IsRecord fields text)
    (hends : EndsRecord rest) (hne : text ++ rest ≠ []) :
    ∃ others, records = fields :: others ∧
      (rest = [] ∧ others = [] ∨
        ∃ lineEnd following, IsLineEnd lineEnd ∧ rest = lineEnd ++ following ∧
          IsFile others following) := by
  generalize hwhole : text ++ rest = whole at h hne
  cases h with
  | empty => exact absurd rfl hne
  | unended hother _ =>
    obtain ⟨rfl, hnil⟩ :=
      hrecord.unique hother hends endsRecord_nil (hwhole.trans (List.append_nil _).symm)
    exact ⟨[], rfl, .inl ⟨hnil, rfl⟩⟩
  | ended hother hend hothers =>
    obtain ⟨rfl, hlines⟩ := hrecord.unique hother hends (hend.endsRecord _) hwhole
    exact ⟨_, rfl, .inr ⟨_, _, hend, hlines, hothers⟩⟩

/-- A text is the text of one list of records. -/
theorem IsFile.unique {records others : List (List (List Char))} {text : List Char}
    (h : IsFile records text) (hothers : IsFile others text) : records = others := by
  -- By the records of the first reading: the second one has to begin with the same record and the
  -- same line end.
  induction h generalizing others with
  | empty => rw [hothers.eq_nil]
  | @unended fields text hrecord hne =>
    rw [← List.append_nil text] at hothers hne
    obtain ⟨following, rfl, hrest⟩ := hothers.exists_eq_cons hrecord endsRecord_nil hne
    rcases hrest with ⟨-, rfl⟩ | ⟨_, _, hend, hlines, -⟩
    · rfl
    · exact absurd hlines.symm (hend.append_ne_nil _)
  | @ended fields text lineEnd records rest hrecord hend hrest ih =>
    have hne : text ++ (lineEnd ++ rest) ≠ [] := fun hnil =>
      hend.append_ne_nil rest (List.append_eq_nil_iff.mp hnil).2
    obtain ⟨following, rfl, hfollowing⟩ :=
      hothers.exists_eq_cons hrecord (hend.endsRecord rest) hne
    rcases hfollowing with ⟨hnil, -⟩ | ⟨_, _, hotherEnd, hlines, hothers⟩
    · exact absurd hnil (hend.append_ne_nil rest)
    · have hsame := hend.unique hotherEnd hlines
      subst hsame
      rw [ih hothers]

/-! ## What is written -/

theorem needsQuotes_eq_false_iff {c : Char} : needsQuotes c = false ↔ IsTextData c := by
  simp only [needsQuotes, Bool.or_eq_false_iff, beq_eq_false_iff_ne]
  constructor
  · rintro ⟨⟨⟨hcomma, hquote⟩, hreturn⟩, hfeed⟩
    exact ⟨hcomma, hquote, hreturn, hfeed⟩
  · intro h
    exact ⟨⟨⟨h.ne_comma, h.ne_quote⟩, h.ne_carriageReturn⟩, h.ne_lineFeed⟩

theorem doubled_quotedCharacter (field : List Char) :
    Doubled field (field.flatMap quotedCharacter) := by
  induction field with
  | nil => exact .nil
  | cons c field ih =>
    rw [List.flatMap_cons, quotedCharacter]
    by_cases hc : c = '"'
    · subst hc
      exact .quote ih
    · rw [if_neg hc]
      exact .other hc ih

theorem isField_fieldChars (field : List Char) : IsField field (fieldChars field) := by
  unfold fieldChars
  split
  · exact .quoted (doubled_quotedCharacter field)
  · rename_i hnone
    rw [Bool.not_eq_true, List.any_eq_false] at hnone
    exact .plain fun c hc => needsQuotes_eq_false_iff.mp (Bool.not_eq_true _ ▸ hnone c hc)

theorem isRecord_intercalate {fields : List (List Char)} (h : fields ≠ []) :
    IsRecord fields (List.intercalate [','] (fields.map fieldChars)) := by
  induction fields with
  | nil => exact absurd rfl h
  | cons field fields ih =>
    cases fields with
    | nil =>
      rw [List.map_singleton, List.intercalate_singleton]
      exact .last (isField_fieldChars field)
    | cons next fields =>
      rw [List.map_cons, List.map_cons, List.intercalate_cons_cons, List.append_assoc]
      exact .more (isField_fieldChars field) (ih nofun)

/-- What is written for records is a text of them. -/
theorem isFile_render {records : List (List String)} (h : ∀ fields ∈ records, fields ≠ []) :
    IsFile (records.map (·.map String.toList)) (render records).toList := by
  unfold render
  rw [String.toList_ofList]
  induction records with
  | nil => exact .empty
  | cons fields records ih =>
    rw [List.forall_mem_cons] at h
    rw [List.map_cons, List.flatMap_cons, recordChars, List.append_assoc]
    exact .ended (isRecord_intercalate fun hnil => h.1 (List.map_eq_nil_iff.mp hnil)) .lineFeed
      (ih h.2)

/-- What is written for records is a text of them and of no others. -/
theorem isFile_render_iff {records : List (List String)} (h : ∀ fields ∈ records, fields ≠ [])
    {others : List (List (List Char))} :
    IsFile others (render records).toList ↔ others = records.map (·.map String.toList) := by
  constructor
  · intro hothers
    exact hothers.unique (isFile_render h)
  · rintro rfl
    exact isFile_render h

end PaymentGateway.Csv
