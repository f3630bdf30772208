import PaymentGateway.Proofs.Client.Reading
import PaymentGateway.Proofs.RequestCheck.Accepted
import PaymentGateway.Proofs.Wire.RoundTrip

/-!
# Requests are read back as they were written

The reader takes a written field list for what it is exactly if it is framed, and every accepted
request is framed.  Of an accepted request the reader sees all fields and nothing else, whatever
arrives after its last line.
-/

namespace PaymentGateway

theorem RequestCheck.framed_of_check {m : FieldList} (h : check m = .ok ()) : Wire.Framed m := by
  refine ⟨?_, ?_, ?_, ?_, ?_⟩
  · -- a field that is there makes the list nonempty
    intro hempty
    have halways := ((check_eq_ok_iff m).mp h).1
    have hmerchant := (require_eq_ok_iff m alwaysRequired).mp halways .merchantId (by decide)
    rw [isPresent, FieldList.field?, FieldList.get?, hempty] at hmerchant
    cases hmerchant
  · exact fun entry hentry => (keepsLine_of_check h hentry).not_mem_name (.inl rfl)
  · exact fun entry hentry => (keepsLine_of_check h hentry).not_mem_name (.inr (by decide))
  · exact fun entry hentry => (keepsLine_of_check h hentry).not_mem_value (by decide)
  · intro entry hentry hlast
    have hreturn := (keepsLine_of_check h hentry).not_mem_value (c := '\r') (by decide)
    exact hreturn (List.mem_of_getLast? hlast)

namespace Wire

/-- Every piece of a message is complete. -/
theorem complete_pieces_encode {m : FieldList} (h : Framed m) :
    (pieces (encode m)).filter isComplete = pieces (encode m) := by
  have hlines := lineFeed_not_mem_lines h.lineFeed_not_mem_name h.lineFeed_not_mem_value
  have hnil : lineFeed ∉ ([] : List UInt8) := List.not_mem_nil
  have hcomplete := complete_pieces hlines hnil
  have hpieces := pieces_ended_append hlines []
  rw [List.append_nil, ← encode_eq_ended h.nonempty] at hcomplete hpieces
  rw [hcomplete, hpieces, pieces, List.append_nil]

theorem verdict?_complete_encode {m : FieldList} (h : Framed m) (rest : List UInt8) :
    verdict? .empty ((pieces (encode m ++ rest)).filter isComplete) = some (.ok m) := by
  have hself := (verdict?_encode_eq_self_iff m []).mpr h
  rw [List.append_nil, ← complete_pieces_encode h] at hself
  obtain ⟨tail, htail⟩ := exists_complete_append (encode m) rest
  rw [htail, verdict?_append hself]

end Wire

namespace Client

/-- A written field list is read back, with the same names, values and order, exactly if it is
framed, however the stream is cut into parts and whatever follows.  An accepted request is framed,
and once its last line is there nothing more is waited for or looked at. -/
theorem readResponse_encode (m : FieldList) :
    (∀ (limit seconds elapsed : Nat) (rest : List UInt8) (parts : List (List UInt8)),
      parts.flatten = Wire.encode m ++ rest →
        ((readResponse limit seconds [] elapsed (parts.map .bytes)).1 = .ok m ↔ Wire.Framed m)) ∧
    (RequestCheck.check m = .ok () → Wire.Framed m ∧
      ∀ (limit seconds elapsed : Nat) (rest : List UInt8) (parts : List (List UInt8))
        (more : List Incoming), parts.flatten = Wire.encode m ++ rest →
          readResponse limit seconds [] elapsed (parts.map .bytes ++ more) = (.ok m, elapsed)) := by
  constructor
  · intro limit seconds elapsed rest parts hparts
    rw [readResponse_map_bytes, List.nil_append, hparts, ← Wire.verdict?_encode_eq_self_iff m rest]
    constructor
    · intro h
      cases hverdict : Wire.verdict? .empty (Wire.pieces (Wire.encode m ++ rest)) with
      | none => simp [hverdict, resultOf] at h
      | some verdict =>
        cases verdict with
        | error fault => simp [hverdict, resultOf] at h
        | ok fields =>
          rw [hverdict, resultOf, Except.ok.injEq] at h
          rw [h]
    · intro h
      rw [h]
      rfl
  · intro accepted
    have hframed := RequestCheck.framed_of_check accepted
    refine ⟨hframed, ?_⟩
    intro limit seconds elapsed rest parts more hparts
    -- Before the first part nothing is decided, and once all parts are there everything is.
    have undecided : Wire.verdict? .empty ((Wire.pieces []).filter Wire.isComplete) = none := rfl
    have decided := Wire.verdict?_complete_encode hframed rest
    rw [← hparts, ← List.nil_append parts.flatten] at decided
    exact readResponse_map_bytes_append undecided decided limit seconds elapsed more

/-- An accepted request whose values look like the framing. -/
def lookalike : FieldList :=
  .ofList [("pg_merchant_id", "endofdata"), ("pg_password", "=a=b="),
    ("pg_transaction_type", "22"), ("pg_original_trace_number", "endofdata")]

theorem readResponse_encode_lookalike :
    let stream := Wire.encode lookalike ++ Wire.encode lookalike
    RequestCheck.check lookalike = .ok () ∧
      [stream.take 40, stream.drop 40].flatten = Wire.encode lookalike ++ Wire.encode lookalike ∧
      (readResponse 5 1 [] 0 ([stream.take 40, stream.drop 40].map .bytes)).1 = .ok lookalike ∧
      readResponse 5 1 [] 0 ([stream.take 40, stream.drop 40].map .bytes ++ [.silence]) =
        (.ok lookalike, 0) := by
  intro stream
  have accepted : RequestCheck.check lookalike = .ok () := rfl
  have hparts : [stream.take 40, stream.drop 40].flatten =
      Wire.encode lookalike ++ Wire.encode lookalike := by
    simp [stream]
  obtain ⟨hiff, hread⟩ := readResponse_encode lookalike
  obtain ⟨hframed, hstream⟩ := hread accepted
  exact ⟨accepted, hparts, (hiff 5 1 0 _ _ hparts).mpr hframed, hstream 5 1 0 _ _ _ hparts⟩

end Client

end PaymentGateway
