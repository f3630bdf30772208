import PaymentGateway.Proofs.FieldList.Insertion
import PaymentGateway.Proofs.Wire.Lines
import PaymentGateway.Proofs.Wire.Pieces

/-!
# Reading back what was written

A message is read back as it was written exactly if its field list is `Framed`.  What follows the
message changes nothing, for the pieces of the message decide before any other piece is seen.
-/

namespace PaymentGateway.Wire

/-- A field list that survives its own writing: its lines state its fields and nothing else. -/
structure Framed (m : FieldList) : Prop where
  nonempty : m.entries ≠ []
  equals_not_mem_name : ∀ entry ∈ m.entries, '=' ∉ entry.1.toList
  lineFeed_not_mem_name : ∀ entry ∈ m.entries, '\n' ∉ entry.1.toList
  lineFeed_not_mem_value : ∀ entry ∈ m.entries, '\n' ∉ entry.2.toList
  value_not_ended : ∀ entry ∈ m.entries, entry.2.toList.getLast? ≠ some '\r'

/-! ## The lines of a message -/

def fieldLines (entries : List (String × String)) : List (List UInt8) :=
  entries.map fun entry => Text.Utf8.encodeChars (fieldLine entry)

def lastLine : List UInt8 := Text.Utf8.encodeChars endOfData.toList

theorem intercalate_lineFeed {lines : List (List Char)} (h : lines ≠ []) :
    List.intercalate ['\n'] lines ++ ['\n'] = lines.flatMap (· ++ ['\n']) := by
  induction lines with
  | nil => exact absurd rfl h
  | cons line lines ih =>
    cases lines with
    | nil => simp
    | cons next lines =>
      rw [List.intercalate_cons_cons, List.flatMap_cons, ← ih (List.cons_ne_nil _ _)]
      simp

theorem encodeChars_lines (lines : List (List Char)) :
    Text.Utf8.encodeChars (lines.flatMap (· ++ ['\n'])) = ended (lines.map Text.Utf8.encodeChars) := by
  induction lines with
  | nil => rfl
  | cons line lines ih =>
    rw [List.flatMap_cons, Text.Utf8.encodeChars_append, ih, List.map_cons, ended_cons,
      Text.Utf8.encodeChars_append]
    rfl

theorem encode_eq_ended {m : FieldList} (h : m.entries ≠ []) :
    encode m = ended (fieldLines m.entries ++ [lastLine]) := by
  have hlines : m.entries.map fieldLine ≠ [] := by simpa using h
  have hchars : encodeChars m =
      (m.entries.map fieldLine ++ [endOfData.toList]).flatMap (· ++ ['\n']) := by
    rw [encodeChars, List.flatMap_append, ← intercalate_lineFeed hlines]
    simp
  rw [encode, hchars, encodeChars_lines, List.map_append, List.map_map]
  rfl

/-- The byte of an ASCII character is in the line of a field only if the character is. -/
theorem ascii_not_mem_fieldLine {a : Char} (ha : a.toNat < 0x80) (hequals : a ≠ '=')
    {entry : String × String} (hname : a ∉ entry.1.toList) (hvalue : a ∉ entry.2.toList) :
    UInt8.ofNat a.toNat ∉ Text.Utf8.encodeChars (fieldLine entry) := by
  rw [Text.Utf8.mem_encodeChars_iff ha, fieldLine, List.mem_append, List.mem_cons]
  rintro (hmem | hmem | hmem)
  · exact hname hmem
  · exact hequals hmem
  · exact hvalue hmem

theorem lineFeed_not_mem_fieldLine {entry : String × String} (hname : '\n' ∉ entry.1.toList)
    (hvalue : '\n' ∉ entry.2.toList) :
    lineFeed ∉ Text.Utf8.encodeChars (fieldLine entry) :=
  ascii_not_mem_fieldLine (a := '\n') (by decide) (by decide) hname hvalue

theorem lineFeed_not_mem_lastLine : lineFeed ∉ lastLine := by
  intro h
  have hmem : '\n' ∈ endOfData.toList :=
    (Text.Utf8.mem_encodeChars_iff (a := '\n') (by decide) _).mp h
  exact absurd hmem (by decide)

theorem lineFeed_not_mem_lines {entries : List (String × String)}
    (hnames : ∀ entry ∈ entries, '\n' ∉ entry.1.toList)
    (hvalues : ∀ entry ∈ entries, '\n' ∉ entry.2.toList) :
    ∀ line ∈ fieldLines entries ++ [lastLine], lineFeed ∉ line := by
  intro line hline
  rw [List.mem_append, List.mem_singleton] at hline
  rcases hline with hline | rfl
  · obtain ⟨entry, hentry, rfl⟩ := List.mem_map.mp hline
    exact lineFeed_not_mem_fieldLine (hnames entry hentry) (hvalues entry hentry)
  · exact lineFeed_not_mem_lastLine

/-! ## What the reader makes of them -/

def seen (entry : String × String) : String × String :=
  (entry.1, String.ofList (withoutReturn entry.2.toList))

theorem lineContent_ended (line : List UInt8) :
    lineContent (line ++ [lineFeed]) = dropLastByte carriageReturn line := by
  have hend : dropLastByte lineFeed (line ++ [lineFeed]) = line := by
    rw [dropLastByte, if_pos List.getLast?_concat, List.dropLast_concat]
  rw [lineContent, hend]

theorem readLine_fieldLine {entry : String × String} (h : '=' ∉ entry.1.toList) :
    readLine (lineContent (Text.Utf8.encodeChars (fieldLine entry) ++ [lineFeed])) =
      .field entry.1 (seen entry).2 := by
  rw [lineContent_ended, dropLastByte_encodeChars, withoutReturn_fieldLine]
  exact readLine_eq_field_iff.mpr ⟨rfl, h⟩

theorem readLine_lastLine : readLine (lineContent (lastLine ++ [lineFeed])) = .last := by
  rw [lineContent_ended, lastLine, dropLastByte_encodeChars]
  exact readLine_endOfData

/-- The lines of fields leave these fields read, as a reader sees them. -/
theorem verdict?_fieldLines {entries : List (String × String)}
    (h : ∀ entry ∈ entries, '=' ∉ entry.1.toList) (fields : FieldList)
    (rest : List (List UInt8)) :
    verdict? fields ((fieldLines entries).map (· ++ [lineFeed]) ++ rest) =
      verdict? (fields.insertAll (entries.map seen)) rest := by
  induction entries generalizing fields with
  | nil => rfl
  | cons entry entries ih =>
    rw [List.forall_mem_cons] at h
    rw [fieldLines, List.map_cons, List.map_cons, List.cons_append, verdict?,
      readLine_fieldLine h.1]
    exact ih h.2 _

theorem verdict?_lastLine (fields : FieldList) (rest : List (List UInt8)) :
    verdict? fields ((lastLine ++ [lineFeed]) :: rest) = some (.ok fields) := by
  rw [verdict?, readLine_lastLine]

/-- A message of at least one field whose names and values keep to their lines is read as its
fields, each as a reader sees it. -/
theorem verdict?_encode {m : FieldList} (hm : m.entries ≠ [])
    (hequals : ∀ entry ∈ m.entries, '=' ∉ entry.1.toList)
    (hnames : ∀ entry ∈ m.entries, '\n' ∉ entry.1.toList)
    (hvalues : ∀ entry ∈ m.entries, '\n' ∉ entry.2.toList) (rest : List UInt8) :
    verdict? .empty (pieces (encode m ++ rest)) = some (.ok (.ofList (m.entries.map seen))) := by
  rw [encode_eq_ended hm, pieces_ended_append (lineFeed_not_mem_lines hnames hvalues),
    List.map_append, List.append_assoc, verdict?_fieldLines hequals]
  exact verdict?_lastLine _ _

/-- Without fields, the first line of a message is empty and states nothing. -/
theorem verdict?_encode_empty (rest : List UInt8) :
    verdict? .empty (pieces (encode .empty ++ rest)) = some (.error (.noSeparator "")) := by
  have hpieces : pieces (encode .empty ++ rest) =
      [lineFeed] :: pieces (lastLine ++ [lineFeed] ++ rest) := rfl
  rw [hpieces, verdict?]
  rfl

/-! ## What a reader can see at all -/

structure Legible (entry : String × String) : Prop where
  equals_not_mem_name : '=' ∉ entry.1.toList
  lineFeed_not_mem_name : '\n' ∉ entry.1.toList
  lineFeed_not_mem_value : '\n' ∉ entry.2.toList

theorem legible_of_readLine {content : List UInt8} {name value : String}
    (hcontent : lineFeed ∉ content) (h : readLine content = .field name value) :
    Legible (name, value) := by
  obtain ⟨rfl, hequals⟩ := readLine_eq_field_iff.mp h
  have hline : '\n' ∉ fieldLine (name, value) := fun hmem =>
    hcontent ((Text.Utf8.mem_encodeChars_iff (a := '\n') (by decide) _).mpr hmem)
  rw [fieldLine, List.mem_append, List.mem_cons, not_or, not_or] at hline
  exact ⟨hequals, hline.1, hline.2.2⟩

theorem lineFeed_not_mem_lineContent {bytes piece : List UInt8} (h : piece ∈ pieces bytes) :
    lineFeed ∉ lineContent piece := by
  have drop {line : List UInt8} (hline : lineFeed ∉ line) (byte : UInt8) :
      lineFeed ∉ dropLastByte byte line := by
    unfold dropLastByte
    split
    · exact fun hmem => hline (List.dropLast_subset _ hmem)
    · exact hline
  obtain ⟨lines, last, hlines, hlast, rfl⟩ := exists_ended_append bytes
  rw [pieces_ended_append hlines, List.mem_append] at h
  rcases h with h | h
  · obtain ⟨line, hline, rfl⟩ := List.mem_map.mp h
    rw [lineContent_ended]
    exact drop (hlines line hline) _
  · rw [pieces_of_not_mem hlast] at h
    split at h
    · cases h
    · rw [List.mem_singleton] at h
      subst h
      exact drop (drop hlast _) _

/-- Every field that is read is legible. -/
theorem legible_of_verdict? {received : List (List UInt8)}
    (hreceived : ∀ piece ∈ received, lineFeed ∉ lineContent piece) {fields : FieldList}
    (hfields : ∀ entry ∈ fields.entries, Legible entry) {m : FieldList}
    (h : verdict? fields received = some (.ok m)) : ∀ entry ∈ m.entries, Legible entry := by
  -- The fields read so far are the invariant: each line adds one that a line can state.
  induction received generalizing fields with
  | nil => cases h
  | cons piece rest ih =>
    rw [List.forall_mem_cons] at hreceived
    rw [verdict?] at h
    split at h
    · injection h with h
      injection h with h
      exact h ▸ hfields
    · cases h
    · next name value hline =>
      refine ih hreceived.2 ?_ h
      intro entry hentry
      rcases Entries.mem_put hentry with rfl | hold
      · exact legible_of_readLine hreceived.1 hline
      · exact hfields entry hold

/-! ## The round trip -/

theorem seen_eq_self_iff (entry : String × String) :
    seen entry = entry ↔ entry.2.toList.getLast? ≠ some '\r' := by
  obtain ⟨name, value⟩ := entry
  rw [seen, Prod.mk.injEq, withoutReturn]
  constructor
  · rintro ⟨-, h⟩ hlast
    rw [if_pos hlast] at h
    have hlength := congrArg (fun s => s.toList.length) h
    obtain ⟨init, hinit⟩ := List.getLast?_eq_some_iff.mp hlast
    simp [hinit] at hlength
  · intro hlast
    rw [if_neg hlast, String.ofList_toList]
    exact ⟨rfl, rfl⟩

theorem map_seen_eq_self_iff (entries : List (String × String)) :
    entries.map seen = entries ↔ ∀ entry ∈ entries, entry.2.toList.getLast? ≠ some '\r' := by
  calc entries.map seen = entries
      ↔ entries.map seen = entries.map id := by rw [List.map_id]
    _ ↔ ∀ entry ∈ entries, seen entry = entry := List.map_inj_left
    _ ↔ _ := forall₂_congr fun entry _ => seen_eq_self_iff entry

/-- A message is read back as it was written exactly if it is framed. -/
theorem verdict?_encode_eq_self_iff (m : FieldList) (rest : List UInt8) :
    verdict? .empty (pieces (encode m ++ rest)) = some (.ok m) ↔ Framed m := by
  -- Without fields the first line is empty and fails, so such a list is never framed.
  by_cases hm : m.entries = []
  · have hempty : m = .empty := FieldList.ext_entries hm
    constructor
    · intro h
      rw [hempty, verdict?_encode_empty] at h
      cases h
    · intro h
      exact absurd hm h.nonempty
  · have hnames : Entries.names (m.entries.map seen) = Entries.names m.entries := by
      rw [Entries.names, Entries.names, List.map_map]
      rfl
    have hentries := FieldList.entries_ofList (hnames ▸ m.nodup_names)
    constructor
    · intro h
      have hlegible := legible_of_verdict? (fun _ => lineFeed_not_mem_lineContent)
        (fun _ hentry => absurd hentry List.not_mem_nil) h
      have hequals := fun e he => (hlegible e he).equals_not_mem_name
      have hname := fun e he => (hlegible e he).lineFeed_not_mem_name
      have hvalue := fun e he => (hlegible e he).lineFeed_not_mem_value
      rw [verdict?_encode hm hequals hname hvalue, Option.some_inj, Except.ok.injEq] at h
      have hsame : m.entries.map seen = m.entries := by rw [← hentries, h]
      exact ⟨hm, hequals, hname, hvalue, (map_seen_eq_self_iff _).mp hsame⟩
    · intro h
      have hsame := (map_seen_eq_self_iff _).mpr h.value_not_ended
      rw [verdict?_encode h.nonempty h.equals_not_mem_name h.lineFeed_not_mem_name
        h.lineFeed_not_mem_value, hsame, FieldList.ofList_entries]

end PaymentGateway.Wire
