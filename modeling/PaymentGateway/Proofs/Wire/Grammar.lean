import Mathlib.Data.List.Forall2
import PaymentGateway.Proofs.Wire.RoundTrip

/-!
# The grammar of a response

A stream is a list of lines.  A line states a field, or is the last line, or breaks the format, and
the first line that states no field decides what the stream is.
-/

namespace PaymentGateway.Wire

/-! ## The lines of a stream -/

/-- What stands between the line feeds of a stream, without the carriage return that may end it.
Behind the last line feed is a line only if anything follows. -/
def linesOf (stream : List UInt8) : List (List UInt8) :=
  let lines := stream.splitOn lineFeed
  (if lines.getLast? = some [] then lines.dropLast else lines).map (dropLastByte carriageReturn)

section Ended

variable {lines : List (List UInt8)} {last : List UInt8}

theorem splitOn_ended_append (hlines : ∀ line ∈ lines, lineFeed ∉ line) (hlast : lineFeed ∉ last) :
    (ended lines ++ last).splitOn lineFeed = lines ++ [last] := by
  induction lines with
  | nil => exact List.splitOn_eq_singleton hlast
  | cons line lines ih =>
    rw [List.forall_mem_cons] at hlines
    have hcut : ended (line :: lines) ++ last = line ++ lineFeed :: (ended lines ++ last) := by
      simp
    rw [hcut, List.splitOn_append_cons_self_of_not_mem hlines.1, ih hlines.2]
    rfl

theorem linesOf_ended_append (hlines : ∀ line ∈ lines, lineFeed ∉ line)
    (hlast : lineFeed ∉ last) :
    linesOf (ended lines ++ last) =
      (lines ++ if last = [] then [] else [last]).map (dropLastByte carriageReturn) := by
  unfold linesOf
  dsimp only
  rw [splitOn_ended_append hlines hlast, List.getLast?_concat]
  by_cases h : last = []
  · rw [if_pos (congrArg some h), if_pos h, List.dropLast_concat, List.append_nil]
  · rw [if_neg (fun e => h (Option.some.inj e)), if_neg h]

end Ended

theorem lineContent_of_not_mem {line : List UInt8} (h : lineFeed ∉ line) :
    lineContent line = dropLastByte carriageReturn line := by
  have hopen : dropLastByte lineFeed line = line := by
    rw [dropLastByte, if_neg]
    exact fun hlast => h (List.mem_of_getLast? hlast)
  rw [lineContent, hopen]

/-- The pieces of a stream hold its lines. -/
theorem map_lineContent_pieces (stream : List UInt8) :
    (pieces stream).map lineContent = linesOf stream := by
  obtain ⟨lines, last, hlines, hlast, rfl⟩ := exists_ended_append stream
  rw [linesOf_ended_append hlines hlast, pieces_ended_append hlines, pieces_of_not_mem hlast,
    List.map_append, List.map_append, List.map_map]
  congr 1
  · exact List.map_congr_left fun line _ => lineContent_ended line
  · split
    · rfl
    · rw [List.map_singleton, List.map_singleton, lineContent_of_not_mem hlast]

/-! ## What a line can be -/

/-- A line that states a field: the name, the first equals sign and the value behind it. -/
structure States (line : List UInt8) (entry : String × String) : Prop where
  eq_encode : line = Text.Utf8.encodeChars (entry.1.toList ++ '=' :: entry.2.toList)
  equals_not_mem_name : '=' ∉ entry.1.toList

inductive Breaks (line : List UInt8) : FramingFault → Prop
  -- The line is no text.
  | notText {fault : Text.Utf8.Fault} (h : ∀ text, line ≠ Text.Utf8.encode text)
      (hfault : Text.Utf8.decode line = .error fault) : Breaks line (.notText fault)
  -- The line is a text without an equals sign.
  | noSeparator {text : String} (htext : line = Text.Utf8.encode text)
      (hequals : '=' ∉ text.toList) (hother : text ≠ endOfData) : Breaks line (.noSeparator text)

theorem readLine_eq_field_iff_states {line : List UInt8} {name value : String} :
    readLine line = .field name value ↔ States line (name, value) := by
  rw [readLine_eq_field_iff]
  exact ⟨fun h => ⟨h.1, h.2⟩, fun h => ⟨h.eq_encode, h.equals_not_mem_name⟩⟩

theorem splitAtEquals?_eq_none_iff {cs : List Char} : splitAtEquals? cs = none ↔ '=' ∉ cs := by
  induction cs with
  | nil => simp [splitAtEquals?]
  | cons c cs ih =>
    rw [splitAtEquals?, List.mem_cons, not_or]
    by_cases hc : c = '='
    · simp [hc]
    · simp [hc, ih, Ne.symm hc]

theorem readLine_encode (text : String) :
    readLine (Text.Utf8.encode text) =
      if text = endOfData then .last
      else
        match readField text with
        | .ok (name, value) => .field name value
        | .error fault => .broken fault := by
  have hdecode : Text.Utf8.decode (Text.Utf8.encode text) = .ok text := by
    rw [Text.Utf8.encode, Text.Utf8.decode_encodeChars, String.ofList_toList]
  unfold readLine
  split
  · next hfault =>
    rw [hdecode] at hfault
    cases hfault
  · next htext =>
    rw [hdecode] at htext
    cases htext
    rfl

theorem readLine_of_breaks {line : List UInt8} {fault : FramingFault} (h : Breaks line fault) :
    readLine line = .broken fault := by
  cases h with
  | notText h hfault => rw [readLine, hfault]
  | noSeparator htext hequals hother =>
    rw [htext, readLine_encode, if_neg hother, readField, splitAtEquals?_eq_none_iff.mpr hequals]

/-- A line that states no field is the last line or breaks the format. -/
theorem last_or_breaks (line : List UInt8) :
    (∃ entry, States line entry) ∨ line = lastLine ∨ ∃ fault, Breaks line fault := by
  -- In the order of the reader: bytes that are no text, the last line, an equals sign or none.
  cases hdecoded : Text.Utf8.decode line with
  | error fault =>
    refine .inr (.inr ⟨.notText fault, .notText ?_ hdecoded⟩)
    rintro text rfl
    rw [Text.Utf8.encode, Text.Utf8.decode_encodeChars] at hdecoded
    cases hdecoded
  | ok text =>
    have htext : line = Text.Utf8.encode text :=
      (Text.Utf8.encodeChars_toList_of_decode hdecoded).symm
    by_cases hlast : text = endOfData
    · exact .inr (.inl (htext.trans (congrArg Text.Utf8.encode hlast)))
    · cases hsplit : splitAtEquals? text.toList with
      | none =>
        exact .inr (.inr ⟨_, .noSeparator htext (splitAtEquals?_eq_none_iff.mp hsplit) hlast⟩)
      | some parts =>
        obtain ⟨name, value⟩ := parts
        obtain ⟨hcut, hname⟩ := splitAtEquals?_eq_some_iff.mp hsplit
        refine .inl ⟨(String.ofList name, String.ofList value), ?_, ?_⟩
        · rw [htext, Text.Utf8.encode, hcut, String.toList_ofList, String.toList_ofList]
        · rwa [String.toList_ofList]

theorem readLine_eq_last_iff {line : List UInt8} : readLine line = .last ↔ line = lastLine := by
  constructor
  · intro h
    rcases last_or_breaks line with ⟨entry, hline⟩ | rfl | ⟨fault, hline⟩
    · rw [readLine_eq_field_iff_states.mpr hline] at h
      cases h
    · rfl
    · rw [readLine_of_breaks hline] at h
      cases h
  · rintro rfl
    exact readLine_endOfData

theorem readLine_eq_broken_iff_breaks {line : List UInt8} {fault : FramingFault} :
    readLine line = .broken fault ↔ Breaks line fault := by
  constructor
  · intro h
    rcases last_or_breaks line with ⟨entry, hline⟩ | rfl | ⟨other, hline⟩
    · rw [readLine_eq_field_iff_states.mpr hline] at h
      cases h
    · rw [readLine_eq_last_iff.mpr rfl] at h
      cases h
    · rw [readLine_of_breaks hline] at h
      cases h
      exact hline
  · exact readLine_of_breaks

/-! ## What the lines decide -/

/-- Lines that state fields leave these fields read. -/
theorem verdict?_of_states {before : List (List UInt8)} {entries : List (String × String)}
    (h : List.Forall₂ States (before.map lineContent) entries) (fields : FieldList)
    (rest : List (List UInt8)) :
    verdict? fields (before ++ rest) = verdict? (fields.insertAll entries) rest := by
  induction before generalizing fields entries with
  | nil =>
    cases h
    rfl
  | cons piece before ih =>
    rw [List.map_cons] at h
    obtain _ | ⟨hline, hbefore⟩ := h
    rw [List.cons_append, verdict?, readLine_eq_field_iff_states.mpr hline]
    exact ih hbefore _

/-- The first line that states no field, if there is one. -/
theorem exists_decision (lines : List (List UInt8)) :
    ∃ before entries rest, lines = before ++ rest ∧ List.Forall₂ States before entries ∧
      (rest = [] ∨ (∃ after, rest = lastLine :: after) ∨
        ∃ line fault after, rest = line :: after ∧ Breaks line fault) := by
  induction lines with
  | nil => exact ⟨[], [], [], rfl, .nil, .inl rfl⟩
  | cons line lines ih =>
    rcases last_or_breaks line with ⟨entry, hline⟩ | rfl | ⟨fault, hline⟩
    · obtain ⟨before, entries, rest, rfl, hbefore, hrest⟩ := ih
      exact ⟨line :: before, entry :: entries, rest, rfl, .cons hline hbefore, hrest⟩
    · exact ⟨[], [], _, rfl, .nil, .inr (.inl ⟨lines, rfl⟩)⟩
    · exact ⟨[], [], _, rfl, .nil, .inr (.inr ⟨line, fault, lines, rfl, hline⟩)⟩

section Decided

variable {stream : List UInt8} {before after : List (List UInt8)}
  {entries : List (String × String)}

theorem verdict?_of_last (hlines : linesOf stream = before ++ lastLine :: after)
    (hbefore : List.Forall₂ States before entries) :
    verdict? .empty (pieces stream) = some (.ok (.ofList entries)) := by
  rw [← map_lineContent_pieces, List.map_eq_append_iff] at hlines
  obtain ⟨front, back, hpieces, rfl, hback⟩ := hlines
  obtain ⟨piece, rest, rfl, hpiece, -⟩ := List.map_eq_cons_iff.mp hback
  rw [hpieces, verdict?_of_states hbefore, verdict?, hpiece, lastLine, readLine_endOfData]
  rfl

theorem verdict?_of_breaks {line : List UInt8} {fault : FramingFault}
    (hlines : linesOf stream = before ++ line :: after)
    (hbefore : List.Forall₂ States before entries) (hline : Breaks line fault) :
    verdict? .empty (pieces stream) = some (.error fault) := by
  rw [← map_lineContent_pieces, List.map_eq_append_iff] at hlines
  obtain ⟨front, back, hpieces, rfl, hback⟩ := hlines
  obtain ⟨piece, rest, rfl, hpiece, -⟩ := List.map_eq_cons_iff.mp hback
  rw [hpieces, verdict?_of_states hbefore, verdict?, hpiece, readLine_of_breaks hline]

theorem verdict?_eq_none_of_states (h : List.Forall₂ States (linesOf stream) entries) :
    verdict? .empty (pieces stream) = none := by
  rw [← map_lineContent_pieces] at h
  have hread := verdict?_of_states h .empty []
  rwa [List.append_nil] at hread

end Decided

end PaymentGateway.Wire
