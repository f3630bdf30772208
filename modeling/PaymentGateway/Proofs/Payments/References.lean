import PaymentGateway.Payments
import PaymentGateway.Proofs.FieldList.Lookup

/-!
# What captures and voids refer to

The request of a capture or void repeats what the approving response said of itself: its trace
number, its authorization code and, by its own transaction code, its rail.
-/

namespace PaymentGateway

/-! ## The request of a modification -/

def CallKind.modification? : CallKind → Option Modification
  | .capture => some .capture
  | .void => some .void
  | .authorize | .purchase | .credit | .refund => none

theorem prepare_eq_modification {m : Type → Type} [Monad m] {call : Call} {kind : Modification}
    (h : call.kind.modification? = some kind) (services : Services m) :
    Payments.prepare services call = Payments.modification services kind call := by
  unfold Payments.prepare
  cases hkind : call.kind <;> rw [hkind] at h <;> cases h <;> rfl

def isCardResponse (response : FieldList) : Bool :=
  match response.get? "pg_transaction_type" with
  | some code => ["10", "11", "12", "13", "14"].contains code
  | none => false

def modificationCode (kind : Modification) (response : FieldList) : String :=
  match kind, isCardResponse response with
  | .capture, true => "12"
  | .void, true => "14"
  | .capture, false => "22"
  | .void, false => "24"

/-- A request that modifies what a response approved. -/
structure RefersTo (request : FieldList) (kind : Modification) (response : FieldList) : Prop where
  traceNumber : ∃ trace, trace ≠ "" ∧ response.get? "pg_trace_number" = some trace ∧
    request.get? "pg_original_trace_number" = some trace
  authorizationCode : request.get? "pg_original_authorization_code" =
    (response.get? "pg_authorization_code").filter (· != "")
  transactionType : request.get? "pg_transaction_type" = some (modificationCode kind response)

/-! ## References of receipts -/

theorem Receipt.reference?_of_traceNumber {receipt : Receipt} {trace : String}
    (htrace : receipt.response.get? "pg_trace_number" = some trace) (hne : trace ≠ "") :
    receipt.reference? = some
      { traceNumber := trace
        authorizationCode := (receipt.response.get? "pg_authorization_code").filter (· != "")
        transactionType :=
          (receipt.response.get? "pg_transaction_type").bind TransactionType.ofCode? } := by
  have hpresent : receipt.nonEmpty? .traceNumber = some trace := by
    rw [nonEmpty?, FieldList.field?]
    show (receipt.response.get? "pg_trace_number").filter _ = _
    rw [htrace, Option.filter_some, if_pos (bne_iff_ne.mpr hne)]
  rw [reference?, hpresent]
  rfl

theorem Receipt.reference?_eq_none {receipt : Receipt}
    (h : ∀ trace, receipt.response.get? "pg_trace_number" = some trace → trace = "") :
    receipt.reference? = none := by
  have habsent : receipt.nonEmpty? .traceNumber = none := by
    rw [nonEmpty?, FieldList.field?]
    show (receipt.response.get? "pg_trace_number").filter _ = _
    cases htrace : receipt.response.get? "pg_trace_number" with
    | none => rfl
    | some trace =>
      rw [h trace htrace]
      rfl
  rw [reference?, habsent]
  rfl

theorem Receipt.exists_traceNumber {receipt : Receipt} {prior : AuthorizationReference}
    (h : receipt.reference? = some prior) :
    ∃ trace, receipt.response.get? "pg_trace_number" = some trace ∧ trace ≠ "" := by
  apply Classical.byContradiction
  intro habsent
  have hnone : receipt.reference? = none := by
    apply reference?_eq_none
    intro trace htrace
    by_cases hne : trace = ""
    · exact hne
    · exact absurd ⟨trace, htrace, hne⟩ habsent
  rw [hnone] at h
  cases h

/-! ## Rails -/

theorem TransactionType.code_of_ofCode? {code : String} {t : TransactionType}
    (h : ofCode? code = some t) : t.code = code := by
  unfold ofCode? at h
  exact eq_of_beq (List.find?_some (p := fun t : TransactionType => t.code == code) h)

/-- A code stands for a card transaction exactly if it is one of five. -/
theorem TransactionType.rail_ofCode? (code : String) :
    ((ofCode? code).map (·.rail)).getD .eft =
      if ["10", "11", "12", "13", "14"].contains code then .card else .eft := by
  cases h : ofCode? code with
  | some t =>
    obtain ⟨rail, action⟩ := t
    rw [← code_of_ofCode? h]
    cases rail <;> cases action <;> rfl
  | none =>
    -- each of the five is known
    have hunknown : code ∉ ["10", "11", "12", "13", "14"] := by
      intro hmem
      simp only [List.mem_cons, List.not_mem_nil, or_false] at hmem
      rcases hmem with rfl | rfl | rfl | rfl | rfl <;> cases h
    rw [if_neg (fun hcontains => hunknown (List.contains_iff_mem.mp hcontains))]
    rfl

theorem rail_of_response (response : FieldList) :
    ((((response.get? "pg_transaction_type").bind TransactionType.ofCode?).map (·.rail)).getD
      .eft) = if isCardResponse response then .card else .eft := by
  unfold isCardResponse
  cases response.get? "pg_transaction_type" with
  | none => rfl
  | some code => exact TransactionType.rail_ofCode? code

/-! ## The fields of a modification -/

theorem names_overlay (call : Call) :
    (call.overlay none).names =
      ["pg_consumer_id", "ecom_consumerorderid", "ecom_walletid", "pg_entered_by",
        "pg_software_name", "pg_software_version"] := by
  show Entries.names (identifyingFields call.ids call.caller).entries = _
  rw [identifyingFields, FieldList.entries_ofList]
  · rfl
  · show List.Nodup ["pg_consumer_id", "ecom_consumerorderid", "ecom_walletid",
      "pg_entered_by", "pg_software_name", "pg_software_version"]
    decide

/-- The fields of a modification that the overlay does not name. -/
theorem get?_modification (prior : AuthorizationReference) (kind : Modification)
    (credentials : Credentials) (call : Call) {name : String}
    (absent : name ∉ (call.overlay none).names) :
    ((prior.modification kind).fields credentials (call.overlay none)).get? name =
      Entries.get? name (("pg_merchant_id", credentials.merchantId) ::
        ("pg_password", credentials.password) ::
        ("pg_transaction_type", (prior.modification kind).transactionType.code) ::
        ("pg_original_trace_number", prior.traceNumber) ::
        (prior.authorizationCode.map fun code => ("pg_original_authorization_code", code)).toList) := by
  unfold Request.fields
  dsimp only
  rw [FieldList.get?_merge_of_not_mem absent]
  obtain ⟨trace, authorization, type⟩ := prior
  cases authorization with
  | none =>
    apply FieldList.get?_ofList
    show List.Nodup ["pg_merchant_id", "pg_password", "pg_transaction_type",
      "pg_original_trace_number"]
    decide
  | some code =>
    apply FieldList.get?_ofList
    show List.Nodup ["pg_merchant_id", "pg_password", "pg_transaction_type",
      "pg_original_trace_number", "pg_original_authorization_code"]
    decide

/-- The modification of what a receipt offers refers to the response of the receipt. -/
theorem refersTo_modification {receipt : Receipt} {prior : AuthorizationReference}
    (hprior : receipt.reference? = some prior) (kind : Modification) (credentials : Credentials)
    (call : Call) :
    RefersTo ((prior.modification kind).fields credentials (call.overlay none)) kind
      receipt.response := by
  obtain ⟨trace, htrace, hne⟩ := Receipt.exists_traceNumber hprior
  rw [Receipt.reference?_of_traceNumber htrace hne, Option.some.injEq] at hprior
  subst hprior
  refine ⟨⟨trace, hne, htrace, ?_⟩, ?_, ?_⟩
  · rw [get?_modification _ _ _ _ (by rw [names_overlay]; decide)]
    rfl
  · rw [get?_modification _ _ _ _ (by rw [names_overlay]; decide)]
    cases (receipt.response.get? "pg_authorization_code").filter (· != "") <;> rfl
  · rw [get?_modification _ _ _ _ (by rw [names_overlay]; decide)]
    show some (TransactionType.code ⟨_, kind.action⟩) = _
    rw [rail_of_response]
    unfold modificationCode
    cases kind <;> cases isCardResponse receipt.response <;> rfl

end PaymentGateway
