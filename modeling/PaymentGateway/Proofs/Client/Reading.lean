import PaymentGateway.Client
import PaymentGateway.Proofs.Wire.Pieces

/-!
# Reading a response that arrives in parts

However a stream is cut into parts, its reader ends with what all of its bytes decide.  Complete
lines that decide are enough: what comes after them, bytes or failures, is never looked at.
-/

namespace PaymentGateway.Client

open Wire (verdict? pieces isComplete)

def resultOf : Option (Except FramingFault FieldList) → Except Failure FieldList
  | some (.ok fields) => .ok fields
  | some (.error fault) => .error (.framing fault)
  | none => .error (.transport Wire.endedEarly)

theorem readResponse_nil (limit seconds : Nat) (received : List UInt8) (elapsed : Nat) :
    readResponse limit seconds received elapsed [] =
      (resultOf (verdict? .empty (pieces received)), elapsed) := by
  rw [readResponse]
  split <;> simp_all only [resultOf]

theorem readResponse_bytes_of_some {received data : List UInt8}
    {verdict : Except FramingFault FieldList}
    (h : verdict? .empty ((pieces (received ++ data)).filter isComplete) = some verdict)
    (limit seconds elapsed : Nat) (rest : List Incoming) :
    readResponse limit seconds received elapsed (.bytes data :: rest) =
      (resultOf (some verdict), elapsed) := by
  rw [readResponse]
  simp only [h]
  split <;> simp_all only [resultOf, Option.some.injEq, reduceCtorEq]

theorem readResponse_bytes_of_none {received data : List UInt8}
    (h : verdict? .empty ((pieces (received ++ data)).filter isComplete) = none)
    (limit seconds elapsed : Nat) (rest : List Incoming) :
    readResponse limit seconds received elapsed (.bytes data :: rest) =
      readResponse limit seconds (received ++ data) elapsed rest := by
  rw [readResponse]
  simp only [h]

/-- A stream of bytes gives what all its bytes decide, however it is cut into parts. -/
theorem readResponse_map_bytes (limit seconds : Nat) (received : List UInt8) (elapsed : Nat)
    (parts : List (List UInt8)) :
    readResponse limit seconds received elapsed (parts.map .bytes) =
      (resultOf (verdict? .empty (pieces (received ++ parts.flatten))), elapsed) := by
  induction parts generalizing received with
  | nil =>
    rw [List.flatten_nil, List.append_nil]
    exact readResponse_nil ..
  | cons data parts ih =>
    rw [List.map_cons, List.flatten_cons, ← List.append_assoc]
    cases h : verdict? .empty ((pieces (received ++ data)).filter isComplete) with
    | some verdict =>
      obtain ⟨tail, htail⟩ := Wire.exists_pieces_append (received ++ data) parts.flatten
      rw [readResponse_bytes_of_some h, htail, Wire.verdict?_append h]
    | none => rw [readResponse_bytes_of_none h, ih]

/-- Once complete lines decide, nothing that comes after them is looked at. -/
theorem readResponse_map_bytes_append {parts : List (List UInt8)} {received : List UInt8}
    {verdict : Except FramingFault FieldList}
    (undecided : verdict? .empty ((pieces received).filter isComplete) = none)
    (decided : verdict? .empty ((pieces (received ++ parts.flatten)).filter isComplete) =
      some verdict)
    (limit seconds elapsed : Nat) (more : List Incoming) :
    readResponse limit seconds received elapsed (parts.map .bytes ++ more) =
      (resultOf (some verdict), elapsed) := by
  induction parts generalizing received with
  | nil =>
    rw [List.flatten_nil, List.append_nil, undecided] at decided
    cases decided
  | cons data parts ih =>
    rw [List.flatten_cons, ← List.append_assoc] at decided
    rw [List.map_cons, List.cons_append]
    cases h : verdict? .empty ((pieces (received ++ data)).filter isComplete) with
    | some early =>
      obtain ⟨tail, htail⟩ := Wire.exists_complete_append (received ++ data) parts.flatten
      rw [htail, Wire.verdict?_append h] at decided
      rw [readResponse_bytes_of_some h, decided]
    | none => rw [readResponse_bytes_of_none h, ih h decided]

end PaymentGateway.Client
