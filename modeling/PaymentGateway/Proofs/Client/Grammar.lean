import PaymentGateway.Proofs.Client.Reading
import PaymentGateway.Proofs.FieldList.Order
import PaymentGateway.Proofs.Wire.Grammar

/-!
# What a reader makes of a stream

Every stream of bytes is a response, breaks the format or is cut off, and its lines say which.  The
reader ends with that, in no time, however the stream is cut into parts.
-/

namespace PaymentGateway.Client

/-- What lines are, as a response.  The lines before the first one that states no field count, and
none of those behind it. -/
inductive Response (lines : List (List UInt8)) : Except Failure FieldList → Prop
  -- The last line is there, behind lines that state the fields.
  | complete {before after : List (List UInt8)} {entries : List (String × String)} {m : FieldList}
      (hlines : lines = before ++ Wire.lastLine :: after)
      (hbefore : List.Forall₂ Wire.States before entries) (hm : m.Gathers entries) :
      Response lines (.ok m)
  -- A line is no field and not the last line.
  | broken {before after : List (List UInt8)} {line : List UInt8}
      {entries : List (String × String)} {fault : FramingFault}
      (hlines : lines = before ++ line :: after)
      (hbefore : List.Forall₂ Wire.States before entries) (hline : Wire.Breaks line fault) :
      Response lines (.error (.framing fault))
  -- All lines state fields.
  | cut {entries : List (String × String)} (hlines : List.Forall₂ Wire.States lines entries) :
      Response lines
        (.error (.transport ⟨.unexpectedEof, "gateway closed the connection before endofdata"⟩))

theorem exists_response (lines : List (List UInt8)) : ∃ result, Response lines result := by
  obtain ⟨before, entries, rest, rfl, hbefore, hrest⟩ := Wire.exists_decision lines
  rcases hrest with rfl | ⟨after, rfl⟩ | ⟨line, fault, after, rfl, hline⟩
  · rw [List.append_nil]
    exact ⟨_, .cut hbefore⟩
  · exact ⟨_, .complete rfl hbefore (FieldList.gathers_ofList entries)⟩
  · exact ⟨_, .broken rfl hbefore hline⟩

/-- What the lines are is what they decide. -/
theorem resultOf_of_response {stream : List UInt8} {result : Except Failure FieldList}
    (h : Response (Wire.linesOf stream) result) :
    resultOf (Wire.verdict? .empty (Wire.pieces stream)) = result := by
  cases h with
  | complete hlines hbefore hm =>
    rw [Wire.verdict?_of_last hlines hbefore, FieldList.gathers_iff.mp hm, resultOf]
  | broken hlines hbefore hline =>
    rw [Wire.verdict?_of_breaks hlines hbefore hline, resultOf]
  | cut hlines =>
    rw [Wire.verdict?_eq_none_of_states hlines, resultOf, Wire.endedEarly]

/-- The reader ends on every stream, without waiting, and its result is what the lines of the stream
are: of every kind of stream, these and no others. -/
theorem readResponse_eq_iff_response (limit seconds elapsed : Nat) (parts : List (List UInt8)) :
    (∃ result, readResponse limit seconds [] elapsed (parts.map .bytes) = (result, elapsed)) ∧
      ∀ result, (readResponse limit seconds [] elapsed (parts.map .bytes)).1 = result ↔
        Response (Wire.linesOf parts.flatten) result := by
  have hread := readResponse_map_bytes limit seconds [] elapsed parts
  rw [List.nil_append] at hread
  refine ⟨⟨_, hread⟩, fun result => ?_⟩
  rw [hread]
  dsimp only
  constructor
  · rintro rfl
    obtain ⟨result, hresult⟩ := exists_response (Wire.linesOf parts.flatten)
    rwa [resultOf_of_response hresult]
  · exact resultOf_of_response

-- A repeated name, an empty name, a doubled carriage return and a last line without its end.
example :
    readResponse 5 1 [] 0
      [.bytes (Text.Utf8.encode "a=1\n=x=y\r\r\na=2\r\nendof"), .bytes (Text.Utf8.encode "data")] =
        (.ok (.ofList [("a", "2"), ("", "x=y\r")]), 0) := by
  rfl

end PaymentGateway.Client
