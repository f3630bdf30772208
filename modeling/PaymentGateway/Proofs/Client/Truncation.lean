import PaymentGateway.Proofs.Client.Grammar
import PaymentGateway.Proofs.Client.RoundTrip

/-!
# Messages that are cut off

A message that is cut off ends behind some of its lines and somewhere inside the next one.  What is
left of that line is read like a line of its own, and it alone decides what the reader ends with: it
ends early only if nothing is left of the line, or enough to state a field.
-/

namespace PaymentGateway

namespace Wire

/-- The first part of ended lines is some of the lines and what is left of the next one. -/
theorem exists_of_append_eq_ended {lines : List (List UInt8)} {received rest : List UInt8}
    (h : received ++ rest = ended lines) (hrest : rest ≠ []) :
    ∃ done line later tail, lines = done ++ line :: later ∧ received = ended done ++ tail ∧
      ∃ missing, line = tail ++ missing ∧ rest = missing ++ lineFeed :: ended later := by
  induction lines generalizing received with
  | nil => exact absurd (List.append_eq_nil_iff.mp h).2 hrest
  | cons line lines ih =>
    rw [ended_cons, List.append_eq_append_iff] at h
    rcases h with ⟨missing, hline, rfl⟩ | ⟨more, rfl, hmore⟩
    · rcases List.eq_nil_or_concat missing with rfl | ⟨missing, last, rfl⟩
      · -- the cut falls right behind the line
        rw [List.append_nil] at hline
        have hbehind : [] ++ ended lines = ended lines := List.nil_append _
        obtain ⟨done, next, later, tail, rfl, htail, hnext⟩ := ih hbehind
        refine ⟨line :: done, next, later, tail, rfl, ?_, hnext⟩
        rw [ended_cons, List.append_assoc, ← htail, List.append_nil, hline]
      · -- The cut falls inside the line, or right before the byte that ends it.
        rw [List.concat_eq_append, ← List.append_assoc] at hline
        obtain ⟨hline, hlast⟩ := List.append_inj' hline rfl
        refine ⟨[], line, lines, received, rfl, rfl, missing, hline, ?_⟩
        rw [List.concat_eq_append, ← hlast, List.append_assoc]
        rfl
    · obtain ⟨done, next, later, tail, rfl, htail, hnext⟩ := ih hmore.symm
      refine ⟨line :: done, next, later, tail, rfl, ?_, hnext⟩
      rw [htail, ended_cons]
      exact (List.append_assoc _ _ _).symm

/-- A message that is cut off: the fields whose lines are there, and what is left of the next
line. -/
structure CutOff (m : FieldList) (received : List UInt8) (done : List (String × String))
    (tail : List UInt8) : Prop where
  received_eq : received = ended (fieldLines done) ++ tail
  inside : (∃ next later, m.entries = done ++ next :: later ∧
      tail <+: Text.Utf8.encodeChars (fieldLine next)) ∨
    (m.entries = done ∧ tail <+: lastLine ∧ tail ≠ lastLine)

/-- Whatever is missing behind the last letter of the last line, a part of a line is missing. -/
theorem exists_cutOff {m : FieldList} (hm : m.entries ≠ []) {received rest : List UInt8}
    (h : received ++ rest = encode m) (hrest : 1 < rest.length) :
    ∃ done tail, CutOff m received done tail := by
  have hsome : rest ≠ [] := List.ne_nil_of_length_pos (by omega)
  rw [encode_eq_ended hm] at h
  obtain ⟨lines, line, later, tail, hlines, rfl, missing, rfl, rfl⟩ :=
    exists_of_append_eq_ended h hsome
  rcases List.eq_nil_or_concat later with rfl | ⟨later, last, rfl⟩
  · obtain ⟨hfields, hlast⟩ := List.append_inj' hlines rfl
    rw [List.singleton_inj] at hlast
    refine ⟨m.entries, tail, hfields ▸ rfl, .inr ⟨rfl, ⟨missing, hlast.symm⟩, ?_⟩⟩
    rintro rfl
    -- only the line feed would be missing
    rw [List.self_eq_append_right] at hlast
    subst hlast
    simp at hrest
  · rw [List.concat_eq_append, ← List.cons_append, ← List.append_assoc] at hlines
    obtain ⟨hfields, -⟩ := List.append_inj' hlines rfl
    obtain ⟨done, todo, hentries, rfl, htodo⟩ := List.map_eq_append_iff.mp hfields
    obtain ⟨next, todo, rfl, hnext, -⟩ := List.map_eq_cons_iff.mp htodo
    exact ⟨done, tail, rfl, .inl ⟨next, todo, hentries, ⟨missing, hnext.symm⟩⟩⟩

namespace CutOff

variable {m : FieldList} {received : List UInt8} {done : List (String × String)}
  {tail : List UInt8}

theorem exists_entries_eq (h : CutOff m received done tail) :
    ∃ later, m.entries = done ++ later := by
  rcases h.inside with ⟨next, later, hentries, -⟩ | ⟨hentries, -, -⟩
  · exact ⟨_, hentries⟩
  · exact ⟨[], by rw [hentries, List.append_nil]⟩

theorem subset (h : CutOff m received done tail) : done ⊆ m.entries := by
  obtain ⟨later, hlater⟩ := h.exists_entries_eq
  rw [hlater]
  exact List.subset_append_left _ _

theorem entries_ofList (h : CutOff m received done tail) :
    (FieldList.ofList done).entries = done := by
  obtain ⟨later, hlater⟩ := h.exists_entries_eq
  have hnames := m.nodup_names
  rw [hlater, Entries.names, List.map_append] at hnames
  exact FieldList.entries_ofList (List.nodup_append.mp hnames).1

/-- A byte that no line of the message has is not in what is left of one. -/
theorem not_mem_tail (h : CutOff m received done tail) {byte : UInt8}
    (hfields : ∀ entry ∈ m.entries, byte ∉ Text.Utf8.encodeChars (fieldLine entry))
    (hlast : byte ∉ lastLine) : byte ∉ tail := by
  intro hmem
  rcases h.inside with ⟨next, later, hentries, htail⟩ | ⟨-, htail, -⟩
  · refine hfields next ?_ (htail.subset hmem)
    rw [hentries]
    exact List.mem_append_right _ List.mem_cons_self
  · exact hlast (htail.subset hmem)

theorem lineFeed_not_mem_tail (h : CutOff m received done tail) (hm : Framed m) :
    lineFeed ∉ tail :=
  h.not_mem_tail (fun entry hentry => lineFeed_not_mem_fieldLine
    (hm.lineFeed_not_mem_name entry hentry) (hm.lineFeed_not_mem_value entry hentry))
    lineFeed_not_mem_lastLine

theorem lineContent_tail (h : CutOff m received done tail)
    (accepted : RequestCheck.check m = .ok ()) : lineContent tail = tail := by
  have hreturn : carriageReturn ∉ tail := by
    refine h.not_mem_tail (fun entry hentry => ?_) (by decide)
    have hkeeps := RequestCheck.keepsLine_of_check accepted hentry
    exact ascii_not_mem_fieldLine (a := '\r') (by decide) (by decide)
      (hkeeps.not_mem_name (.inr (by decide))) (hkeeps.not_mem_value (by decide))
  rw [lineContent_of_not_mem (h.lineFeed_not_mem_tail (RequestCheck.framed_of_check accepted)),
    dropLastByte, if_neg]
  exact fun hlast => hreturn (List.mem_of_getLast? hlast)

/-- The lines that are there leave their fields read; what is left of the next line decides. -/
theorem verdict?_eq (h : CutOff m received done tail) (accepted : RequestCheck.check m = .ok ()) :
    verdict? .empty (pieces received) =
      if tail = [] then none
      else
        match readLine tail with
        | .last => some (.ok (.ofList done))
        | .broken fault => some (.error fault)
        | .field _ _ => none := by
  have hframed := RequestCheck.framed_of_check accepted
  have hfeed : ∀ line ∈ fieldLines done, lineFeed ∉ line := fun line hline =>
    lineFeed_not_mem_lines (fun entry hentry => hframed.lineFeed_not_mem_name _ (h.subset hentry))
      (fun entry hentry => hframed.lineFeed_not_mem_value _ (h.subset hentry)) line
      (List.mem_append_left _ hline)
  have hseen : done.map seen = done := (map_seen_eq_self_iff done).mpr fun entry hentry =>
    hframed.value_not_ended _ (h.subset hentry)
  -- The lines that are there are read as their fields, and then what is left of the next one.
  rw [h.received_eq, pieces_ended_append hfeed,
    verdict?_fieldLines fun entry hentry => hframed.equals_not_mem_name _ (h.subset hentry), hseen,
    pieces_of_not_mem (h.lineFeed_not_mem_tail hframed)]
  by_cases htail : tail = []
  · rw [if_pos htail, if_pos htail]
    rfl
  · rw [if_neg htail, if_neg htail, verdict?, h.lineContent_tail accepted]
    rfl

end CutOff

end Wire

namespace Client

/-- An accepted message of which more is missing than its last line feed.  The reader ends early
only if it is cut off between two lines or inside a value.  What is left of a name breaks the
format, and a name that begins with the text of the last line, cut off behind it, completes the
response. -/
theorem readResponse_of_cutOff {m : FieldList} (accepted : RequestCheck.check m = .ok ())
    {received rest : List UInt8} (h : received ++ rest = Wire.encode m) (hrest : 1 < rest.length) :
    ∃ done tail, Wire.CutOff m received done tail ∧
      ∀ (limit seconds elapsed : Nat) (parts : List (List UInt8)), parts.flatten = received →
        ((readResponse limit seconds [] elapsed (parts.map .bytes)).1 =
            .error (.transport Wire.endedEarly) ↔ tail = [] ∨ ∃ entry, Wire.States tail entry) ∧
        (∀ fields, (readResponse limit seconds [] elapsed (parts.map .bytes)).1 = .ok fields ↔
          tail = Wire.lastLine ∧ fields.entries = done) ∧
        ∀ fault, (readResponse limit seconds [] elapsed (parts.map .bytes)).1 =
          .error (.framing fault) ↔ tail ≠ [] ∧ Wire.Breaks tail fault := by
  have hframed := RequestCheck.framed_of_check accepted
  obtain ⟨done, tail, hcut⟩ := Wire.exists_cutOff hframed.nonempty h hrest
  refine ⟨done, tail, hcut, fun limit seconds elapsed parts hparts => ?_⟩
  have hfields (fields : FieldList) : fields.entries = done ↔ .ofList done = fields := by
    constructor
    · exact fun e => (FieldList.ext_entries (e.trans hcut.entries_ofList.symm)).symm
    · exact fun e => e ▸ hcut.entries_ofList
  rw [readResponse_map_bytes, List.nil_append, hparts, hcut.verdict?_eq accepted]
  -- Whole lines decide nothing without the last line; a part of a line is read as one.
  by_cases htail : tail = []
  · have hlast : [] ≠ Wire.lastLine := by decide
    subst htail
    simp [resultOf, hlast]
  · simp only [htail, if_false, false_or, ne_eq, not_false_eq_true, true_and, hfields,
      ← Wire.readLine_eq_broken_iff_breaks, ← Wire.readLine_eq_last_iff, Prod.exists,
      ← Wire.readLine_eq_field_iff_states]
    cases Wire.readLine tail with
    | last => simp [resultOf]
    | field name value => simp [resultOf]
    | broken fault => simp [resultOf]

/-- An accepted message with a name that begins with the text of the last line. -/
def endedByName : FieldList :=
  .ofList [("pg_merchant_id", "m"), ("pg_password", "p"), ("pg_transaction_type", "22"),
    ("pg_original_trace_number", "t"), ("endofdata_at", "noon")]

-- The first four fields are taken for the whole response.
theorem readResponse_of_cutOff_endedByName :
    let received := (Wire.encode endedByName).take 90
    let rest := (Wire.encode endedByName).drop 90
    RequestCheck.check endedByName = .ok () ∧ received ++ rest = Wire.encode endedByName ∧
      1 < rest.length ∧ ∃ done, Wire.CutOff endedByName received done Wire.lastLine ∧
        (readResponse 5 1 [] 0 ([received].map .bytes)).1 = .ok (.ofList done) ∧
        done = endedByName.entries.take 4 := by
  intro received rest
  have accepted : RequestCheck.check endedByName = .ok () := rfl
  have hcut : received ++ rest = Wire.encode endedByName := List.take_append_drop ..
  have hrest : 1 < rest.length := by decide
  have hread : (readResponse 5 1 [] 0 ([received].map .bytes)).1 =
      .ok (.ofList (endedByName.entries.take 4)) := rfl
  obtain ⟨done, tail, hoff, hall⟩ := readResponse_of_cutOff accepted hcut hrest
  obtain ⟨-, hok, -⟩ := hall 5 1 0 [received] (List.append_nil _)
  obtain ⟨rfl, rfl⟩ := (hok _).mp hread
  exact ⟨accepted, hcut, hrest, _, hoff, hread, rfl⟩

/-- Not every message that is cut off ends early: inside a name, the cut breaks the format. -/
theorem not_endedEarly_of_cut_inside_name :
    ¬ ∀ (m : FieldList) (received rest : List UInt8), RequestCheck.check m = .ok () →
      received ++ rest = Wire.encode m → 1 < rest.length →
        (readResponse 5 1 [] 0 [.bytes received]).1 = .error (.transport Wire.endedEarly) := by
  intro h
  have hearly := h endedByName ((Wire.encode endedByName).take 5)
    ((Wire.encode endedByName).drop 5) rfl (List.take_append_drop ..) (by decide)
  have hread : (readResponse 5 1 [] 0 [.bytes ((Wire.encode endedByName).take 5)]).1 =
      .error (.framing (.noSeparator "pg_me")) := rfl
  rw [hread] at hearly
  cases hearly

end Client

end PaymentGateway
