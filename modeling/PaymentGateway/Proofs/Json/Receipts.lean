import PaymentGateway.Json.Records
import PaymentGateway.Proofs.Decimal.RoundTrip
import PaymentGateway.Proofs.FieldList.Insertion
import PaymentGateway.Proofs.Json.Documents
import PaymentGateway.Proofs.Text.Instants

/-!
# Receipts are kept without loss

A receipt is kept as the text of an object with a member for each of its parts.  The text is read
back member by member: the fields of the response in their order, the instant with its nanoseconds,
and the amount with its scale.  Only a zero amount loses its sign, and it stays the same number.
-/

namespace PaymentGateway

open PaymentGateway.Json

/-! ## Values -/

theorem Json.ofNotation?_ofText {α : Type} (read? : String → Option α) (s : String) :
    ofNotation? read? (.ofText s) = read? s := rfl

theorem Json.required_of_lookup {α : Type} {read? : Json → Option α} {value : Json} {a : α}
    (hread : read? value = some a) {members : List (String × Json)} {name : String}
    (h : members.lookup name = some value) : required read? members name = some a := by
  rw [required, h, Option.bind_some, hread]

/-- A member that may be missing is read back when it is a text in a notation of its own. -/
theorem Json.optional_of_lookup {α : Type} {text : α → String} {read? : Json → Option α}
    {keep : α → α} (hread : ∀ a, read? (.ofText (text a)) = some (keep a))
    {members : List (String × Json)} {name : String} {value : Option α}
    (h : members.lookup name = some (.ofOption (fun a => .ofText (text a)) value)) :
    optional read? members name = some (value.map keep) := by
  unfold optional
  rw [h]
  cases value with
  | none => rfl
  | some a => exact congrArg (Option.map some) (hread a)

theorem FieldList.ofJson?_toJson (m : FieldList) : ofJson? m.toJson = some m := by
  show Option.bind (List.mapM _ (List.map _ (List.map _ m.entries))) _ = _
  rw [List.map_map, Text.mapM_map_some (k := id)]
  · rw [List.map_id]
    exact congrArg some m.ofList_entries
  · exact fun _ => rfl

theorem Decimal.ofJson?_toJson (d : Decimal) : ofJson? d.toJson = some d.dropZeroSign := by
  show (Decimal.read d.toText).toOption = _
  rw [Decimal.read_toText]
  rfl

theorem Currency.ofJson?_toJson (c : Currency) : ofJson? c.toJson = some c := by
  unfold ofJson? toJson
  rw [ofNotation?_ofText, Currency.read_code]
  rfl

theorem Uuid.ofJson?_toJson (u : Uuid) : ofJson? u.toJson = some u := by
  unfold ofJson? toJson
  rw [ofNotation?_ofText, ofText?_toText]

theorem Timestamp.ofJson?_toJson {t : Timestamp} (hlow : 0 ≤ t.date.year)
    (hhigh : t.date.year ≤ 9999) (hnanosecond : t.nanosecond < 1000000000) :
    ofJson? t.toJson = some t := by
  unfold ofJson? toJson
  rw [ofNotation?_ofText, ofText?_toText hlow hhigh hnanosecond]

theorem CallKind.ofJson?_toJson (kind : CallKind) : ofJson? kind.toJson = some kind :=
  kind.find?_word

/-! ## Parts of a receipt -/

theorem Json.document_ofOption {α : Type} {encode : α → Json} (h : ∀ a, Document (encode a))
    (value : Option α) : Document (.ofOption encode value) := by
  cases value with
  | none => exact .null
  | some a => exact h a

theorem FieldList.document_toJson (m : FieldList) : Document m.toJson := by
  apply Document.object
  intro member hmember
  obtain ⟨entry, -, rfl⟩ := List.mem_map.mp hmember
  exact .text entry.2

namespace Receipt

def values (r : Receipt) : List Json :=
  [r.accountId.toJson, r.paymentId.toJson, r.transactionId.toJson, r.kind.toJson,
    .ofOption Decimal.toJson r.amount, .ofOption Currency.toJson r.currency, r.response.toJson,
    r.createdAt.toJson, r.tenantId.toJson]

def members (r : Receipt) : List (String × Json) :=
  memberNames.zip r.values

theorem members?_toJson (r : Receipt) : members? memberNames r.toJson = some r.members := rfl

/-- What is written of a receipt is a document. -/
theorem document_toJson (r : Receipt) : Document r.toJson := by
  have hvalues : ∀ value ∈ r.values, Document value := by
    simp only [values, List.forall_mem_cons]
    exact ⟨.text _, .text _, .text _, .text _, document_ofOption (fun _ => .text _) _,
      document_ofOption (fun _ => .text _) _, r.response.document_toJson, .text _, .text _,
      List.forall_mem_nil _⟩
  exact Document.object fun member hmember => hvalues _ (List.of_mem_zip hmember).2

/-- A receipt is read back from its members. -/
theorem ofJson?_toJson {r : Receipt} (hlow : 0 ≤ r.createdAt.date.year)
    (hhigh : r.createdAt.date.year ≤ 9999) (hnanosecond : r.createdAt.nanosecond < 1000000000) :
    ofJson? r.toJson = some { r with amount := r.amount.map Decimal.dropZeroSign } := by
  -- Every member is found under its own name.
  have haccount : required Uuid.ofJson? r.members "account_id" = some r.accountId :=
    required_of_lookup r.accountId.ofJson?_toJson rfl
  have hpayment : required Uuid.ofJson? r.members "payment_id" = some r.paymentId :=
    required_of_lookup r.paymentId.ofJson?_toJson rfl
  have htransaction : required Uuid.ofJson? r.members "transaction_id" = some r.transactionId :=
    required_of_lookup r.transactionId.ofJson?_toJson rfl
  have hkind : required CallKind.ofJson? r.members "kind" = some r.kind :=
    required_of_lookup r.kind.ofJson?_toJson rfl
  have hamount : optional Decimal.ofJson? r.members "amount" =
      some (r.amount.map Decimal.dropZeroSign) :=
    optional_of_lookup Decimal.ofJson?_toJson rfl
  have hcurrency : optional Currency.ofJson? r.members "currency" = some (r.currency.map id) :=
    optional_of_lookup Currency.ofJson?_toJson rfl
  have hresponse : required FieldList.ofJson? r.members "response" = some r.response :=
    required_of_lookup r.response.ofJson?_toJson rfl
  have htime : required Timestamp.ofJson? r.members "created_at" = some r.createdAt :=
    required_of_lookup (Timestamp.ofJson?_toJson hlow hhigh hnanosecond) rfl
  have htenant : required Uuid.ofJson? r.members "tenant_id" = some r.tenantId :=
    required_of_lookup r.tenantId.ofJson?_toJson rfl
  rw [Option.map_id] at hcurrency
  rw [ofJson?, members?_toJson]
  simp only [Option.bind_eq_bind, Option.bind_some, haccount, hpayment, htransaction, hkind,
    hamount, hcurrency, hresponse, htime, htenant]
  rfl

/-! ## Receipts -/

/-- Receipts that are equal but for the sign of a zero amount. -/
structure Same (r s : Receipt) : Prop where
  amount : Option.Rel Decimal.Same r.amount s.amount
  rest : { r with amount := s.amount } = s

theorem Same.isModifiable_eq {r s : Receipt} (h : r.Same s) : r.isModifiable = s.isModifiable := by
  rw [← h.rest]
  rfl

theorem Same.reference?_eq {r s : Receipt} (h : r.Same s) : r.reference? = s.reference? := by
  rw [← h.rest]
  rfl

/-- The text of a receipt is read back to the same receipt, which offers the same reference, can be
modified if the one written could, and tells of the same outcome. -/
theorem exists_read?_toText {r : Receipt} (hlow : 0 ≤ r.createdAt.date.year)
    (hhigh : r.createdAt.date.year ≤ 9999) (hnanosecond : r.createdAt.nanosecond < 1000000000) :
    ∃ stored, (Json.read? r.toJson.toText).bind ofJson? = some stored ∧ stored.Same r ∧
      stored.isModifiable = r.isModifiable ∧ stored.reference? = r.reference? ∧
      Option.Rel Decimal.Same stored.outcome.amount r.outcome.amount ∧
      { stored.outcome with amount := r.outcome.amount } = r.outcome := by
  have hread : (Json.read? r.toJson.toText).bind ofJson? =
      some { r with amount := r.amount.map Decimal.dropZeroSign } := by
    rw [r.document_toJson.read?_toText, Option.bind_some, ofJson?_toJson hlow hhigh hnanosecond]
  have hamount : Option.Rel Decimal.Same (r.amount.map Decimal.dropZeroSign) r.amount := by
    cases r.amount with
    | none => exact .none
    | some amount => exact .some amount.same_dropZeroSign
  have hsame : Same { r with amount := r.amount.map Decimal.dropZeroSign } r := ⟨hamount, rfl⟩
  exact ⟨_, hread, hsame, hsame.isModifiable_eq, hsame.reference?_eq, hamount, rfl⟩

/-- A receipt of the last nanosecond of year 9999: its amount has all the digits there are, and its
response has control characters, quotes, letters beyond ASCII and an empty name. -/
def lastOfAll : Receipt where
  accountId := .nil
  paymentId := ⟨List.finRange 16 ++ List.finRange 16, by decide⟩
  transactionId := ⟨List.replicate 32 ⟨15, by decide⟩, by decide⟩
  kind := .authorize
  amount := some ⟨true, Nat.pow 2 96 - 1, 28, by decide, by decide⟩
  currency := some ⟨"JPY", by decide⟩
  response := .ofList [("pg_response_type", "A"), ("\u0000\"\\/\t\n", "\u007f é 😀"), ("", ""),
    ("pg_trace_number", "T-1")]
  createdAt := ⟨⟨9999, 12, 31, by decide, by decide, by decide⟩, 86399, 999999999, by decide, by decide⟩
  tenantId := .nil

theorem exists_read?_toText_lastOfAll :
    0 ≤ lastOfAll.createdAt.date.year ∧ lastOfAll.createdAt.date.year ≤ 9999 ∧
      lastOfAll.createdAt.nanosecond < 1000000000 ∧
      ∃ stored, (Json.read? lastOfAll.toJson.toText).bind ofJson? = some stored ∧
        stored.Same lastOfAll ∧ stored.isModifiable = true ∧ stored.reference? ≠ none := by
  have hlow : 0 ≤ lastOfAll.createdAt.date.year := by decide
  have hhigh : lastOfAll.createdAt.date.year ≤ 9999 := by decide
  have hnanosecond : lastOfAll.createdAt.nanosecond < 1000000000 := by decide
  obtain ⟨stored, hread, hsame, hmodifiable, hreference, -, -⟩ :=
    exists_read?_toText hlow hhigh hnanosecond
  refine ⟨hlow, hhigh, hnanosecond, stored, hread, hsame, ?_, ?_⟩
  · rw [hmodifiable]
    decide
  · rw [hreference]
    decide

end Receipt

end PaymentGateway
