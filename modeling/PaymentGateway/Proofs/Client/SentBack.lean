import PaymentGateway.Proofs.Client.Line
import PaymentGateway.Proofs.Client.Reading
import PaymentGateway.Proofs.Payments.References
import PaymentGateway.Proofs.RequestCheck.Logins
import PaymentGateway.Proofs.Wire.RoundTrip

/-!
# What the gateway said is sent back to it

A capture or void repeats texts of a response.  The reader of responses drops one carriage return
at the end of a line and keeps all others, and the check of requests accepts none.  So a reference
can be sent back exactly if no carriage return is left in it.
-/

namespace PaymentGateway

/-! ## What was read -/

namespace Client

/-- Whatever the far end does, a response that is read is what the bytes of some stream decide. -/
theorem exists_stream_of_readResponse {limit seconds elapsed : Nat} {received : List UInt8}
    {incoming : List Incoming} {response : FieldList}
    (h : (readResponse limit seconds received elapsed incoming).1 = .ok response) :
    ∃ stream, Wire.verdict? .empty (Wire.pieces stream) = some (.ok response) := by
  induction incoming generalizing received elapsed with
  | nil =>
    rw [readResponse_nil] at h
    refine ⟨received, ?_⟩
    cases hverdict : Wire.verdict? .empty (Wire.pieces received) with
    | none =>
      rw [hverdict] at h
      cases h
    | some verdict =>
      rw [hverdict] at h
      cases verdict <;> cases h
      rfl
  | cons next rest ih =>
    cases next with
    | bytes data =>
      cases hverdict :
          Wire.verdict? .empty ((Wire.pieces (received ++ data)).filter Wire.isComplete) with
      | some verdict =>
        -- what complete lines decide, all bytes received decide
        obtain ⟨tail, htail⟩ := Wire.exists_pieces_append (received ++ data) []
        rw [readResponse_bytes_of_some hverdict] at h
        refine ⟨received ++ data ++ [], ?_⟩
        rw [htail, Wire.verdict?_append hverdict]
        cases verdict <;> cases h
        rfl
      | none =>
        rw [readResponse_bytes_of_none hverdict] at h
        exact ih h
    | pause time =>
      rw [readResponse] at h
      split at h
      · exact ih h
      · cases h
    | failure fault => cases h
    | silence => cases h

/-- Every field of a response that is read is legible. -/
theorem legible_of_readResponse {limit seconds elapsed : Nat} {received : List UInt8}
    {incoming : List Incoming} {response : FieldList}
    (h : (readResponse limit seconds received elapsed incoming).1 = .ok response) :
    ∀ entry ∈ response.entries, Wire.Legible entry := by
  obtain ⟨stream, hverdict⟩ := exists_stream_of_readResponse h
  exact Wire.legible_of_verdict? (fun _ => Wire.lineFeed_not_mem_lineContent)
    (fun _ hentry => absurd hentry List.not_mem_nil) hverdict

end Client

/-! ## Why a request is refused -/

namespace RequestCheck

theorem exists_of_checkFraming_eq_error {pairs : List (Field × String)} {fault : ValidationFault}
    (h : checkFraming (pairs.map Field.entry) = .error fault) :
    ∃ pair ∈ pairs, ¬ SingleLine pair.2 ∧ fault = .lineBreak pair.1.wireName := by
  induction pairs with
  | nil => cases h
  | cons pair pairs ih =>
    rw [List.map_cons, checkFraming_entry_cons] at h
    by_cases hline : SingleLine pair.2
    · rw [if_pos hline] at h
      obtain ⟨broken, hmem, hbroken⟩ := ih h
      exact ⟨broken, List.mem_cons_of_mem _ hmem, hbroken⟩
    · rw [if_neg hline, Except.error.injEq] at h
      exact ⟨pair, List.mem_cons_self, hline, h.symm⟩

/-- A complete request with a login is refused for a line break in a value only. -/
theorem exists_of_check_eq_error {credentials : Credentials} {request : Request} {call : Call}
    {token : Option String} {fault : ValidationFault}
    (htoken : token.isSome = request.isPaidByToken) (hcomplete : request.IsComplete)
    (hmerchant : credentials.merchantId ≠ "") (hpassword : credentials.password ≠ "")
    (h : check (request.fields credentials (call.overlay token)) = .error fault) :
    ∃ pair ∈ request.sentFields credentials call.ids call.caller token,
      ¬ SingleLine pair.2 ∧ fault = .lineBreak pair.1.wireName := by
  have halways := (require_alwaysRequired_iff credentials request call token).mpr
    ⟨hmerchant, hpassword⟩
  have hshape : require (request.fields credentials (call.overlay token)) request.shapeRules =
      .ok () := (require_shapeRules_iff credentials call).mpr hcomplete
  rw [← shapeRequired_fields credentials call htoken] at hshape
  rw [check, halways, hshape, Request.entries_fields] at h
  exact exists_of_checkFraming_eq_error h

end RequestCheck

/-! ## References -/

theorem Wire.Legible.singleLine_iff {entry : String × String} (h : Wire.Legible entry) :
    SingleLine entry.2 ↔ '\r' ∉ entry.2.toList := by
  constructor
  · intro hline hmem
    exact (hline _ hmem).1 rfl
  · intro hreturn c hc
    refine ⟨?_, ?_⟩ <;> rintro rfl
    · exact hreturn hc
    · exact h.lineFeed_not_mem_value hc

/-- A reference that no carriage return is left in. -/
structure AuthorizationReference.Returnable (prior : AuthorizationReference) : Prop where
  traceNumber : '\r' ∉ prior.traceNumber.toList
  authorizationCode : ∀ code, prior.authorizationCode = some code → '\r' ∉ code.toList

theorem AuthorizationReference.mem_shapeFields_modification {prior : AuthorizationReference}
    {kind : Modification} {pair : Field × String} :
    pair ∈ (prior.modification kind).shapeFields ↔
      pair = (.originalTraceNumber, prior.traceNumber) ∨
        ∃ code, prior.authorizationCode = some code ∧
          pair = (.originalAuthorizationCode, code) := by
  simp [modification, Request.shapeFields, Request.present, eq_comm]

theorem AuthorizationReference.returnable_iff (prior : AuthorizationReference)
    (kind : Modification) :
    prior.Returnable ↔
      ∀ pair ∈ (prior.modification kind).shapeFields, '\r' ∉ pair.2.toList := by
  constructor
  · intro h pair hpair
    rcases mem_shapeFields_modification.mp hpair with rfl | ⟨code, hcode, rfl⟩
    · exact h.traceNumber
    · exact h.authorizationCode code hcode
  · intro h
    exact ⟨h _ (mem_shapeFields_modification.mpr (.inl rfl)),
      fun code hcode => h _ (mem_shapeFields_modification.mpr (.inr ⟨code, hcode, rfl⟩))⟩

theorem Receipt.traceNumber_ne_empty {receipt : Receipt} {prior : AuthorizationReference}
    (h : receipt.reference? = some prior) : prior.traceNumber ≠ "" := by
  obtain ⟨trace, htrace, hne⟩ := exists_traceNumber h
  rw [reference?_of_traceNumber htrace hne, Option.some.injEq] at h
  rwa [← h]

/-- What a modification sends of a reference are values of the response that it refers to. -/
theorem Receipt.exists_get?_of_mem_shapeFields {receipt : Receipt} {prior : AuthorizationReference}
    (h : receipt.reference? = some prior) {kind : Modification} {pair : Field × String}
    (hpair : pair ∈ (prior.modification kind).shapeFields) :
    ∃ name, receipt.response.get? name = some pair.2 := by
  obtain ⟨trace, htrace, hne⟩ := exists_traceNumber h
  rw [reference?_of_traceNumber htrace hne, Option.some.injEq] at h
  subst h
  rcases AuthorizationReference.mem_shapeFields_modification.mp hpair with rfl | ⟨code, hcode, rfl⟩
  · exact ⟨_, htrace⟩
  · exact ⟨_, (Option.filter_eq_some_iff.mp hcode).1⟩

/-! ## Sending back -/

/-- Of a modification with a sendable login and user, only what it refers to can break a line. -/
theorem Request.mem_shapeFields_of_broken {credentials : Credentials}
    (hlogin : credentials.Sendable) {ids : Identifiers} {caller : Caller}
    (huser : ∀ user, caller.user = some user → SingleLine user) {request : Request}
    {pair : Field × String} (hpair : pair ∈ request.sentFields credentials ids caller none)
    (hbroken : ¬ SingleLine pair.2) : pair ∈ request.shapeFields := by
  rw [sentFields, computedFields, List.mem_append, List.mem_append, List.mem_append] at hpair
  -- By where the field stands; all that does not come from the shape keeps to one line.
  rcases hpair with ((hlogged | hshape) | hcall) | htoken
  · simp only [List.mem_cons, List.not_mem_nil, or_false] at hlogged
    rcases hlogged with rfl | rfl | rfl
    · exact absurd hlogin.merchantId_singleLine hbroken
    · exact absurd hlogin.password_singleLine hbroken
    · exact absurd (TransactionType.singleLine_code _) hbroken
  · exact hshape
  · refine absurd ?_ hbroken
    simp only [identifyingPairs, List.mem_cons, List.not_mem_nil, or_false] at hcall
    rcases hcall with rfl | rfl | rfl | rfl | rfl | rfl
    · exact Uuid.singleLine_toText _
    · exact Uuid.singleLine_toText _
    · exact Uuid.singleLine_toText _
    · exact (singleLine_user_iff caller.user).mpr huser
    · decide
    · decide
  · cases htoken

namespace Client

/-- A capture or void that refers to a response read from the gateway is accepted, and leads to an
attempt to connect, exactly if no carriage return is left in the trace number and the authorization
code.  Otherwise it is refused for the field that holds one.  Line feeds are never read. -/
theorem check_modification_of_readResponse {limit seconds elapsed : Nat}
    {incoming : List Incoming} {response : FieldList}
    (hread : (readResponse limit seconds [] elapsed incoming).1 = .ok response)
    {paid : Call} {now : Timestamp} {prior : AuthorizationReference}
    (hprior : (paid.receipt response now).reference? = some prior) {credentials : Credentials}
    (hlogin : credentials.Sendable) {call : Call}
    (huser : ∀ user, call.caller.user = some user → SingleLine user) (kind : Modification) :
    let request := (prior.modification kind).fields credentials (call.overlay none)
    (RequestCheck.check request = .ok () ↔ prior.Returnable) ∧
      (¬ prior.Returnable → ∃ pair ∈ (prior.modification kind).shapeFields,
        '\r' ∈ pair.2.toList ∧ RequestCheck.check request = .error (.lineBreak pair.1.wireName)) ∧
      ∀ settings connection,
        .dial ∈ (exchange settings connection request).events ↔ prior.Returnable := by
  intro request
  -- What was read from the wire holds no line feed, so that a line break is a carriage return.
  have hlegible := legible_of_readResponse hread
  have hline : ∀ pair ∈ (prior.modification kind).shapeFields,
      (SingleLine pair.2 ↔ '\r' ∉ pair.2.toList) := by
    intro pair hpair
    obtain ⟨name, hget⟩ := Receipt.exists_get?_of_mem_shapeFields hprior hpair
    exact (hlegible _ (Entries.mem_of_get? hget)).singleLine_iff
  have hcomplete : (prior.modification kind).IsComplete :=
    Receipt.traceNumber_ne_empty hprior
  rw [prior.returnable_iff kind]
  cases hcheck : RequestCheck.check request with
  | ok =>
    have hreturnable : ∀ pair ∈ (prior.modification kind).shapeFields, '\r' ∉ pair.2.toList := by
      intro pair hpair
      have hsent : pair ∈
          (prior.modification kind).sentFields credentials call.ids call.caller none :=
        List.mem_append_left _ (List.mem_append_left _ (List.mem_append_right _ hpair))
      have hentry : Field.entry pair ∈ request.entries := by
        rw [Request.entries_fields]
        exact List.mem_map_of_mem hsent
      exact (hline pair hpair).mp
        ((keepsLine_entry_iff pair).mp (RequestCheck.keepsLine_of_check hcheck hentry))
    refine ⟨iff_of_true rfl hreturnable, fun h => absurd hreturnable h, ?_⟩
    intro settings connection
    exact iff_of_true (dial_mem_of_accepted hcheck settings connection) hreturnable
  | error fault =>
    -- The login and the user keep to their lines, so the field at fault came out of the response.
    obtain ⟨pair, hmem, hbroken, rfl⟩ := RequestCheck.exists_of_check_eq_error (by rfl) hcomplete
      hlogin.merchantId_ne_empty hlogin.password_ne_empty hcheck
    have hpair := Request.mem_shapeFields_of_broken hlogin huser hmem hbroken
    have hreturn : '\r' ∈ pair.2.toList := by
      rwa [hline pair hpair, not_not] at hbroken
    have hunreturnable : ¬ ∀ pair ∈ (prior.modification kind).shapeFields, '\r' ∉ pair.2.toList :=
      fun h => h pair hpair hreturn
    refine ⟨iff_of_false nofun hunreturnable, fun _ => ⟨pair, hpair, hreturn, rfl⟩, ?_⟩
    intro settings connection
    rw [exchange_of_rejected hcheck]
    exact iff_of_false List.not_mem_nil hunreturnable

def approvalLines (trace : String) : List Incoming :=
  [.bytes (Text.Utf8.encode ("pg_response_type=A\r\npg_trace_number=" ++ trace ++
    "\r\nendofdata\r\n"))]

theorem check_modification_of_readResponse_approvalLines :
    ∃ response prior, (readResponse 5 1 [] 0 (approvalLines "T-1")).1 = .ok response ∧
      ((Memory.bareCall .authorize).receipt response .epoch).reference? = some prior ∧
      RequestCheck.check ((prior.modification .capture).fields ⟨"merchant", "secret"⟩
        ((Memory.bareCall .capture).overlay none)) = .ok () := by
  have hread : (readResponse 5 1 [] 0 (approvalLines "T-1")).1 =
      .ok (.ofList [("pg_response_type", "A"), ("pg_trace_number", "T-1")]) := rfl
  have hprior : ((Memory.bareCall .authorize).receipt
      (.ofList [("pg_response_type", "A"), ("pg_trace_number", "T-1")]) .epoch).reference? =
      some ⟨"T-1", none, none⟩ := rfl
  have hlogin : Credentials.Sendable ⟨"merchant", "secret"⟩ :=
    ⟨by decide, by decide, by decide, by decide⟩
  have huser : ∀ user, (Memory.bareCall .capture).caller.user = some user → SingleLine user := nofun
  obtain ⟨haccepted, -⟩ := check_modification_of_readResponse hread hprior hlogin huser .capture
  exact ⟨_, _, hread, hprior, haccepted.mpr ⟨by decide, nofun⟩⟩

/-- Not every approval that is read can be captured: a carriage return inside a line stays. -/
theorem not_accepted_of_approvalLines :
    ∃ response prior, (readResponse 5 1 [] 0 (approvalLines "T\r1")).1 = .ok response ∧
      ((Memory.bareCall .authorize).receipt response .epoch).isModifiable = true ∧
      ((Memory.bareCall .authorize).receipt response .epoch).reference? = some prior ∧
      ∀ settings connection, exchange settings connection
          ((prior.modification .capture).fields ⟨"merchant", "secret"⟩
            ((Memory.bareCall .capture).overlay none)) =
        ⟨.error (.validation (.lineBreak "pg_original_trace_number")), [], 0⟩ :=
  ⟨.ofList [("pg_response_type", "A"), ("pg_trace_number", "T\r1")], ⟨"T\r1", none, none⟩, rfl, rfl,
    rfl, fun _ _ => rfl⟩

end Client

end PaymentGateway
