import PaymentGateway.Wire

/-!
# Pieces of a stream

All bytes are lines that end with a line feed and a last line that does not.  The pieces of a
stream are these lines; the complete ones stay what they are when more bytes arrive, and so does
what they decide.
-/

namespace PaymentGateway.Wire

def ended (lines : List (List UInt8)) : List UInt8 :=
  lines.flatMap fun line => line ++ [lineFeed]

@[simp] theorem ended_nil : ended [] = [] := rfl

@[simp] theorem ended_cons (line : List UInt8) (lines : List (List UInt8)) :
    ended (line :: lines) = line ++ [lineFeed] ++ ended lines := List.flatMap_cons

theorem pieces_line_append {line : List UInt8} (h : lineFeed ∉ line) (rest : List UInt8) :
    pieces (line ++ [lineFeed] ++ rest) = (line ++ [lineFeed]) :: pieces rest := by
  induction line with
  | nil => simp [pieces]
  | cons b bs ih =>
    rw [List.mem_cons, not_or] at h
    have hb : ¬ b = lineFeed := fun e => h.1 e.symm
    rw [List.cons_append, List.cons_append, pieces, if_neg hb, ih h.2]

/-- Ended lines are pieces of their own, whatever follows them. -/
theorem pieces_ended_append {lines : List (List UInt8)} (h : ∀ line ∈ lines, lineFeed ∉ line)
    (rest : List UInt8) :
    pieces (ended lines ++ rest) = lines.map (· ++ [lineFeed]) ++ pieces rest := by
  induction lines with
  | nil => rfl
  | cons line lines ih =>
    rw [List.forall_mem_cons] at h
    rw [ended_cons, List.append_assoc, pieces_line_append h.1, ih h.2]
    rfl

/-- Bytes without a line feed are one piece, if there are any. -/
theorem pieces_of_not_mem {last : List UInt8} (h : lineFeed ∉ last) :
    pieces last = if last = [] then [] else [last] := by
  induction last with
  | nil => rfl
  | cons b bs ih =>
    rw [List.mem_cons, not_or] at h
    have hb : ¬ b = lineFeed := fun e => h.1 e.symm
    rw [pieces, if_neg hb, ih h.2]
    by_cases hbs : bs = []
    · simp [hbs]
    · simp [hbs]

/-- All bytes are ended lines and what follows the last of them. -/
theorem exists_ended_append (bytes : List UInt8) :
    ∃ lines last, (∀ line ∈ lines, lineFeed ∉ line) ∧ lineFeed ∉ last ∧
      bytes = ended lines ++ last := by
  induction bytes with
  | nil => exact ⟨[], [], by simp, by simp, rfl⟩
  | cons b bs ih =>
    obtain ⟨lines, last, hlines, hlast, rfl⟩ := ih
    -- A line feed ends an empty line of its own; any other byte is the first one of the next line.
    by_cases hb : b = lineFeed
    · subst hb
      exact ⟨[] :: lines, last, by simpa using hlines, hlast, rfl⟩
    · have hb' : ¬ lineFeed = b := fun e => hb e.symm
      cases lines with
      | nil => exact ⟨[], b :: last, by simp, by simp [hb', hlast], rfl⟩
      | cons line lines =>
        rw [List.forall_mem_cons] at hlines
        refine ⟨(b :: line) :: lines, last, ?_, hlast, rfl⟩
        rw [List.forall_mem_cons]
        exact ⟨by simp [hb', hlines.1], hlines.2⟩

/-- The complete pieces are the ended lines. -/
theorem complete_pieces {lines : List (List UInt8)} {last : List UInt8}
    (hlines : ∀ line ∈ lines, lineFeed ∉ line) (hlast : lineFeed ∉ last) :
    (pieces (ended lines ++ last)).filter isComplete = lines.map (· ++ [lineFeed]) := by
  have hdone : (lines.map (· ++ [lineFeed])).filter isComplete = lines.map (· ++ [lineFeed]) := by
    rw [List.filter_eq_self]
    simp [isComplete]
  have hopen : (pieces last).filter isComplete = [] := by
    rw [pieces_of_not_mem hlast]
    split
    · rfl
    · have hn : ¬ isComplete last = true := by
        intro hc
        exact hlast (List.mem_of_getLast? (beq_iff_eq.mp hc))
      rw [List.filter_cons_of_neg hn]
      rfl
  rw [pieces_ended_append hlines, List.filter_append, hdone, hopen, List.append_nil]

/-- Pieces that are complete stay the first pieces when more bytes arrive. -/
theorem exists_pieces_append (received more : List UInt8) :
    ∃ tail, pieces (received ++ more) = (pieces received).filter isComplete ++ tail := by
  obtain ⟨lines, last, hlines, hlast, rfl⟩ := exists_ended_append received
  refine ⟨pieces (last ++ more), ?_⟩
  rw [complete_pieces hlines hlast, List.append_assoc, pieces_ended_append hlines]

theorem exists_complete_append (received more : List UInt8) :
    ∃ tail, (pieces (received ++ more)).filter isComplete =
      (pieces received).filter isComplete ++ tail := by
  obtain ⟨tail, h⟩ := exists_pieces_append received more
  refine ⟨tail.filter isComplete, ?_⟩
  rw [h, List.filter_append, List.filter_filter]
  simp only [Bool.and_self]

/-- What some pieces decide stays decided when more pieces arrive. -/
theorem verdict?_append {fields : FieldList} {received : List (List UInt8)}
    {verdict : Except FramingFault FieldList} (h : verdict? fields received = some verdict)
    (more : List (List UInt8)) : verdict? fields (received ++ more) = some verdict := by
  induction received generalizing fields with
  | nil => cases h
  | cons piece rest ih =>
    rw [List.cons_append]
    rw [verdict?] at h ⊢
    split <;> simp_all

end PaymentGateway.Wire
