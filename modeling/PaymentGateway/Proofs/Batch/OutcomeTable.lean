import PaymentGateway.Batch.OutcomeTable
import PaymentGateway.Proofs.Batch.Columns
import PaymentGateway.Proofs.Csv.Reading
import PaymentGateway.Proofs.Decimal.RoundTrip
import PaymentGateway.Proofs.Text.Instants
import PaymentGateway.Proofs.Text.Notations

/-!
# Tables of outcomes

A table of outcomes says its header and a row for each outcome and nothing else, whatever the
gateway put into its texts.  A row has each part of an outcome under a name of its own, in a form
from which the part can be read.
-/

namespace PaymentGateway

/-! ## Text forms -/

theorem CallKind.isLower_of_mem_word {kind : CallKind} {c : Char} (h : c ∈ kind.word.toList) :
    c.isLower = true := by
  have hword : kind.word.toList.all Char.isLower = true := by cases kind <;> rfl
  exact List.all_eq_true.mp hword c h

theorem OutcomeStatus.label_inj {status other : OutcomeStatus} :
    status.label = other.label ↔ status = other := by
  cases status <;> cases other <;> decide

/-- An instant is written in universal time. -/
theorem Timestamp.exists_toChars_eq (t : Timestamp) : ∃ time, t.toChars = time ++ ['Z'] :=
  ⟨_, rfl⟩

namespace Batch.OutcomeTable

structure Legible (outcome : Outcome) : Prop where
  payment : Uuid.ofText? outcome.paymentId.toText = some outcome.paymentId
  transaction : Uuid.ofText? outcome.transactionId.toText = some outcome.transactionId
  kind : CallKind.ofWord? outcome.kind.word = some outcome.kind ∧
    ∀ c ∈ outcome.kind.word.toList, c.isLower = true
  -- The scale of an amount is read back with it; only the sign of a zero is not.
  amount : ∀ amount ∈ outcome.amount,
    amount.toText ≠ "" ∧ Decimal.read amount.toText = .ok amount.dropZeroSign
  currency : ∀ currency ∈ outcome.currency, Currency.read currency.code = .ok currency
  status : ∀ status : OutcomeStatus, outcome.status.label = status.label ↔ outcome.status = status
  createdAt : (∃ time, outcome.createdAt.toText.toList = time ++ ['Z']) ∧
    (0 ≤ outcome.createdAt.date.year → outcome.createdAt.date.year ≤ 9999 →
      outcome.createdAt.nanosecond < 1000000000 →
        Timestamp.ofText? outcome.createdAt.toText = some outcome.createdAt)

theorem legible (outcome : Outcome) : Legible outcome where
  payment := Uuid.ofText?_toText _
  transaction := Uuid.ofText?_toText _
  kind := ⟨outcome.kind.find?_word, fun _ => CallKind.isLower_of_mem_word⟩
  amount := fun amount _ => ⟨amount.toText_ne_empty, amount.read_toText⟩
  currency := fun currency _ => currency.read_code
  status := fun _ => OutcomeStatus.label_inj
  createdAt := by
    refine ⟨?_, fun hlow hhigh hnanosecond => Timestamp.ofText?_toText hlow hhigh hnanosecond⟩
    rw [Timestamp.toText, String.toList_ofList]
    exact outcome.createdAt.exists_toChars_eq

/-! ## Rows -/

/-- A row has the parts of an outcome under their names, each in its text form.  One that is absent
is the empty cell. -/
structure States (outcome : Outcome) (row : List String) : Prop where
  length_eq : row.length = 12
  payment : cellUnder? header row "payment" = some outcome.paymentId.toText
  transaction : cellUnder? header row "transaction" = some outcome.transactionId.toText
  kind : cellUnder? header row "type" = some outcome.kind.word
  amount : cellUnder? header row "amount" = some ((outcome.amount.map Decimal.toText).getD "")
  currency : cellUnder? header row "currency" = some ((outcome.currency.map Currency.code).getD "")
  status : cellUnder? header row "status" = some outcome.status.label
  responseType : cellUnder? header row "response_type" = some (outcome.responseType.getD "")
  responseCode : cellUnder? header row "response_code" = some (outcome.responseCode.getD "")
  responseDescription :
    cellUnder? header row "response_description" = some (outcome.responseDescription.getD "")
  traceNumber : cellUnder? header row "trace_number" = some (outcome.traceNumber.getD "")
  authorizationCode :
    cellUnder? header row "authorization_code" = some (outcome.authorizationCode.getD "")
  createdAt : cellUnder? header row "created_at" = some outcome.createdAt.toText

theorem states_row (outcome : Outcome) : States outcome (row outcome) := by
  constructor <;> rfl

/-! ## Tables -/

/-- What a text says of some outcomes, and that it says nothing else. -/
structure Tells (outcomes : List Outcome) (text : String) : Prop where
  length_header : header.length = 12
  nodup_header : header.Nodup
  states : ∀ outcome ∈ outcomes, States outcome (row outcome)
  legible : ∀ outcome ∈ outcomes, Legible outcome
  isFile_iff : ∀ records, Csv.IsFile records text.toList ↔
    records = (header :: outcomes.map row).map (·.map String.toList)
  records_eq :
    Csv.records .characters text.toList = (header :: outcomes.map row).map (·.map String.toList)

theorem two_le_length_of_mem {outcomes : List Outcome} {fields : List String}
    (h : fields ∈ header :: outcomes.map row) : 2 ≤ fields.length := by
  rw [List.mem_cons, List.mem_map] at h
  rcases h with rfl | ⟨outcome, -, rfl⟩
  · decide
  · rw [(states_row outcome).length_eq]
    omega

/-- The text of a header and a row for each outcome tells these outcomes. -/
theorem tells_header_rows (outcomes : List Outcome) :
    Tells outcomes (Csv.render (header :: outcomes.map row)) := by
  have hfields : ∀ fields ∈ header :: outcomes.map row, fields ≠ [] := by
    rintro fields hmem rfl
    exact absurd (two_le_length_of_mem hmem) (by decide)
  -- Every record has more than one field, so none of them is an empty line.
  have hvisible : ∀ fields ∈ (header :: outcomes.map row).map (·.map String.toList),
      fields ≠ [[]] := by
    intro fields hmem hempty
    obtain ⟨cells, hcells, rfl⟩ := List.mem_map.mp hmem
    have hlength : cells.length = 1 := by
      rw [← List.length_map (f := String.toList), hempty]
      rfl
    have htwo := two_le_length_of_mem hcells
    omega
  constructor
  · rfl
  · decide
  · exact fun outcome _ => states_row outcome
  · exact fun outcome _ => legible outcome
  · exact fun records => Csv.isFile_render_iff hfields
  · exact Csv.records_of_isFile (Csv.isFile_render hfields) hvisible

theorem render_eq_of_ne_nil {outcomes : List Outcome} (h : outcomes ≠ []) :
    render outcomes = Csv.render (header :: outcomes.map row) := by
  rw [render, renderWith, if_neg]
  rwa [List.isEmpty_iff]

/-- Whatever texts the outcomes hold, their table is read as its header and a row for each. -/
theorem tells_render {outcomes : List Outcome} (h : outcomes ≠ []) :
    Tells outcomes (render outcomes) := by
  rw [render_eq_of_ne_nil h]
  exact tells_header_rows outcomes

structure Prints (outcomes : List Outcome) (text : String) : Prop where
  nothing : outcomes = [] → text = ""
  table : outcomes ≠ [] → Tells outcomes text

theorem prints_render (outcomes : List Outcome) : Prints outcomes (render outcomes) where
  nothing := by
    rintro rfl
    rfl
  table := by
    intro h
    rw [render_eq_of_ne_nil h]
    exact tells_header_rows outcomes

def forged : Outcome where
  paymentId := .nil
  transactionId := .nil
  kind := .void
  amount := none
  currency := none
  status := .refused
  responseType := some "D\",\"A\r\n"
  responseCode := some ",,"
  responseDescription := some "\"\npayment,transaction\n"
  traceNumber := some " "
  authorizationCode := none
  createdAt := .epoch
  rawResponse := .empty

theorem tells_render_forged :
    [forged, forged] ≠ [] ∧ (Csv.records .characters (render [forged, forged]).toList).length = 3 ∧
      ∀ records, Csv.IsFile records (render [forged, forged]).toList → records.length = 3 := by
  have hne : [forged, forged] ≠ [] := nofun
  have htells := tells_render hne
  refine ⟨hne, ?_, ?_⟩
  · rw [htells.records_eq]
    rfl
  · intro records hrecords
    rw [(htells.isFile_iff records).mp hrecords]
    rfl

end Batch.OutcomeTable

end PaymentGateway
