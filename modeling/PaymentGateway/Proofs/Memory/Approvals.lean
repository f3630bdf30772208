import PaymentGateway.Proofs.Memory.Runs
import PaymentGateway.Proofs.Payments.References

/-!
# What captures and voids refer to, over whole runs

A capture or void refers to the last response of the run so far that approved an authorize or a
purchase of its payment.  It is sent exactly if there is one and it has a trace number.
-/

namespace PaymentGateway.Memory

open PaymentGateway.Action (perform)

variable {γ : Type}

/-! ## Approvals in a record -/

/-- The response of a turn that approved an authorize or a purchase of a payment. -/
def Entry.approval? (payment tenant : Uuid) (entry : Entry γ) : Option FieldList :=
  match entry.job with
  | .pay call =>
      if call.ids.payment = payment ∧ call.caller.tenant = tenant ∧
          (call.kind = .authorize ∨ call.kind = .purchase) then
        entry.response?.filter fun response => response.get? "pg_response_type" = some "A"
      else none
  | _ => none

def lastApproval? (payment tenant : Uuid) (entries : List (Entry γ)) : Option FieldList :=
  entries.reverse.findSome? (Entry.approval? payment tenant)

def approves (payment tenant : Uuid) (receipt : Receipt) : Bool :=
  (receipt.paymentId == payment && receipt.tenantId == tenant) && receipt.isModifiable

theorem isModifiable_eq_true_iff (receipt : Receipt) :
    receipt.isModifiable = true ↔
      (receipt.kind = .authorize ∨ receipt.kind = .purchase) ∧
        receipt.response.get? "pg_response_type" = some "A" := by
  have hkind : receipt.kind.isModifiable = true ↔
      receipt.kind = .authorize ∨ receipt.kind = .purchase := by
    cases receipt.kind <;> decide
  have hstatus : (OutcomeStatus.ofResponseType (receipt.response.field? .responseType) ==
      .approved) = true ↔ receipt.response.get? "pg_response_type" = some "A" := by
    show (OutcomeStatus.ofResponseType (receipt.response.get? "pg_response_type") ==
      .approved) = true ↔ _
    rw [OutcomeStatus.ofResponseType, OutcomeStatus.approval]
    split <;> simp_all
  rw [Receipt.isModifiable, Bool.and_eq_true, hkind, hstatus]

theorem approves_eq_true_iff {receipt : Receipt} {call : Call} {response : FieldList}
    (hkeeps : receipt.Keeps call response) (payment tenant : Uuid) :
    approves payment tenant receipt = true ↔
      (call.ids.payment = payment ∧ call.caller.tenant = tenant ∧
        (call.kind = .authorize ∨ call.kind = .purchase)) ∧
        response.get? "pg_response_type" = some "A" := by
  rw [approves, Bool.and_eq_true, Bool.and_eq_true, beq_iff_eq, beq_iff_eq,
    isModifiable_eq_true_iff, hkeeps.paymentId, hkeeps.tenantId, hkeeps.kind, hkeeps.response]
  simp only [and_assoc]

/-- A turn approves exactly if what it wrote does. -/
theorem Entry.Booked.approval?_eq {entry : Entry γ} (booked : entry.Booked)
    (payment tenant : Uuid) :
    entry.approval? payment tenant =
      (entry.receipt?.filter (approves payment tenant)).map (·.response) := by
  -- A booked turn wrote a receipt exactly if it paid and got a response.
  cases hreceipt : entry.receipt? with
  | some receipt =>
    obtain ⟨call, response, hjob, hresponse, hkeeps⟩ := booked.response receipt hreceipt
    have happroves := approves_eq_true_iff hkeeps payment tenant
    rw [approval?, hjob]
    dsimp only
    rw [hresponse, Option.filter_some, Option.filter_some]
    by_cases h : approves payment tenant receipt = true
    · obtain ⟨hcall, htype⟩ := happroves.mp h
      rw [if_pos hcall, if_pos h, if_pos (by simpa using htype), Option.map_some, hkeeps.response]
    · rw [if_neg h, Option.map_none]
      split
      · rename_i hcall
        have htype : ¬ response.get? "pg_response_type" = some "A" := by
          intro htype
          exact h (happroves.mpr ⟨hcall, htype⟩)
        rw [if_neg (by simpa using htype)]
      · rfl
  | none =>
    rw [Option.filter_none, Option.map_none, approval?]
    cases hjob : entry.job with
    | pay call =>
      have hresponse : entry.response? = none := by
        cases hresponse : entry.response? with
        | none => rfl
        | some response =>
          obtain ⟨receipt, hsome, -⟩ := booked.receipt call hjob response hresponse
          rw [hreceipt] at hsome
          cases hsome
      dsimp only
      rw [hresponse, Option.filter_none, ite_self]
    | _ => rfl

/-- Among what some entries wrote, the first that approves is what the first approving entry wrote. -/
theorem findSome?_approval? {entries : List (Entry γ)} (hbooked : ∀ e ∈ entries, e.Booked)
    (payment tenant : Uuid) :
    entries.findSome? (Entry.approval? payment tenant) =
      ((entries.filterMap Entry.receipt?).find? (approves payment tenant)).map (·.response) := by
  induction entries with
  | nil => rfl
  | cons entry entries ih =>
    rw [List.findSome?_cons, (hbooked entry List.mem_cons_self).approval?_eq, List.filterMap_cons,
      ih (fun e he => hbooked e (List.mem_cons_of_mem _ he))]
    cases entry.receipt? with
    | none => rfl
    | some receipt =>
      rw [List.find?_cons, Option.filter_some]
      cases approves payment tenant receipt <;> rfl

/-- The newest receipt of a payment that can be modified is the newest that approves it. -/
theorem find?_isModifiable_ofPayment (ledger : Ledger) (payment tenant : Uuid) :
    (ledger.ofPayment payment tenant).reverse.find? (·.isModifiable) =
      ledger.receipts.reverse.find? (approves payment tenant) := by
  have hpoint : approves payment tenant = fun receipt : Receipt =>
      decide ((receipt.paymentId == payment && receipt.tenantId == tenant) = true ∧
        receipt.isModifiable = true) := by
    funext receipt
    rw [approves, Bool.decide_and, Bool.decide_eq_true, Bool.decide_eq_true]
  rw [Ledger.ofPayment, ← List.filter_reverse, List.find?_filter, hpoint]

/-- The ledger finds the last approval of the record. -/
theorem lastApproval?_eq {entries : List (Entry γ)} (hbooked : ∀ e ∈ entries, e.Booked)
    {ledger : Ledger} (hledger : ledger.receipts = entries.filterMap Entry.receipt?)
    (payment tenant : Uuid) :
    lastApproval? payment tenant entries =
      ((ledger.ofPayment payment tenant).reverse.find? (·.isModifiable)).map (·.response) := by
  have hreverse : ∀ e ∈ entries.reverse, e.Booked :=
    fun e he => hbooked e (List.mem_reverse.mp he)
  rw [lastApproval?, findSome?_approval? hreverse, find?_isModifiable_ofPayment, hledger,
    List.filterMap_reverse]

/-! ## Captures and voids -/

/-- The last approval of a payment so far, if it has a trace number to refer to. -/
structure Referable (payment tenant : Uuid) (earlier : List (Entry γ)) (response : FieldList)
    (trace : String) : Prop where
  last : lastApproval? payment tenant earlier = some response
  traceNumber : response.get? "pg_trace_number" = some trace
  nonempty : trace ≠ ""

section References

variable {earlier : List (Entry γ)} {ledger : Ledger} {payment tenant : Uuid}

theorem Referable.exists_reference {response : FieldList} {trace : String}
    (h : Referable payment tenant earlier response trace)
    (hlast : lastApproval? payment tenant earlier =
      ((ledger.ofPayment payment tenant).reverse.find? (·.isModifiable)).map (·.response)) :
    ∃ receipt : Receipt, ∃ prior, receipt.response = response ∧
      receipt.reference? = some prior ∧
      ledger.lastAuthorization? payment tenant = some prior := by
  rw [h.last] at hlast
  obtain ⟨receipt, hfound, hresponse⟩ := Option.map_eq_some_iff.mp hlast.symm
  have htrace : receipt.response.get? "pg_trace_number" = some trace :=
    hresponse ▸ h.traceNumber
  have hprior := Receipt.reference?_of_traceNumber htrace h.nonempty
  refine ⟨receipt, _, hresponse, hprior, ?_⟩
  rw [Ledger.lastAuthorization?, hfound, Option.bind_some, hprior]

theorem lastAuthorization?_eq_none
    (h : ¬ ∃ response trace, Referable payment tenant earlier response trace)
    (hlast : lastApproval? payment tenant earlier =
      ((ledger.ofPayment payment tenant).reverse.find? (·.isModifiable)).map (·.response)) :
    ledger.lastAuthorization? payment tenant = none := by
  unfold Ledger.lastAuthorization?
  cases hfound : (ledger.ofPayment payment tenant).reverse.find? (·.isModifiable) with
  | none => rfl
  | some receipt =>
    rw [hfound, Option.map_some] at hlast
    apply Receipt.reference?_eq_none
    intro trace htrace
    by_cases hne : trace = ""
    · exact hne
    · exact absurd ⟨receipt.response, trace, hlast, htrace, hne⟩ h

end References

/-- A capture or void takes its course from what the ledger that it meets offers. -/
theorem course_of_modification (gateway : Gateway γ) (credentials : Credentials) (met : World γ)
    {turn : Turn} {call : Call} {kind : Modification} (hjob : turn.job = .pay call)
    (hkind : call.kind.modification? = some kind) :
    let entry := Entry.ofTurn gateway credentials met turn
    ∃ result,
      perform (Payments.prepare (services gateway) call) entry.before =
        (match met.stores.ledger.lastAuthorization? call.ids.payment call.caller.tenant with
        | some prior => (.ok (prior.modification kind, none), entry.before)
        | none => (.error (.missingAuthorization call.ids.payment), entry.before)) ∧
      entry.result = result.map .outcome ∧
      Payments.Course (services gateway) credentials call entry.before result entry.effects
        entry.after := by
  intro entry
  obtain ⟨result, hresult, course⟩ := course_ofTurn gateway credentials met turn hjob
  refine ⟨result, ?_, hresult, course⟩
  rw [prepare_eq_modification hkind]
  exact perform_modification gateway kind call entry.before

/-- What a capture or void meets in a run from an empty ledger: the ledger knows the last approval
so far, and the call takes a course from what the ledger offers. -/
theorem exists_course_of_record {gateway : Gateway γ} {credentials : Credentials}
    {world : World γ} {turns : List Turn} {earlier later : List (Entry γ)} {entry : Entry γ}
    {call : Call} {kind : Modification} (hempty : world.stores.ledger = .empty)
    (hrecord : record gateway credentials world turns = earlier ++ entry :: later)
    (hjob : entry.job = .pay call) (hkind : call.kind.modification? = some kind) :
    ∃ ledger : Ledger, ∃ result,
      (∀ payment tenant, lastApproval? payment tenant earlier =
        ((ledger.ofPayment payment tenant).reverse.find? (·.isModifiable)).map (·.response)) ∧
      perform (Payments.prepare (services gateway) call) entry.before =
        (match ledger.lastAuthorization? call.ids.payment call.caller.tenant with
        | some prior => (.ok (prior.modification kind, none), entry.before)
        | none => (.error (.missingAuthorization call.ids.payment), entry.before)) ∧
      entry.result = result.map .outcome ∧
      Payments.Course (services gateway) credentials call entry.before result entry.effects
        entry.after := by
  obtain ⟨met, turn, rfl, hledger, hbooked⟩ := exists_turn_of_record hrecord
  rw [hempty, Ledger.empty, List.nil_append] at hledger
  obtain ⟨result, hprepare, hresult, course⟩ :=
    course_of_modification gateway credentials met hjob hkind
  exact ⟨met.stores.ledger, result, lastApproval?_eq hbooked hledger, hprepare, hresult, course⟩

/-- At any point of a run from an empty ledger, a capture or void is sent exactly if the last
approval of its payment so far has a trace number, and then refers to that approval.  Otherwise it
fails without an exchange and changes nothing. -/
theorem exchanged_iff_referable {gateway : Gateway γ} {credentials : Credentials}
    {world : World γ} {turns : List Turn} {earlier later : List (Entry γ)} {entry : Entry γ}
    {call : Call} {kind : Modification} (hempty : world.stores.ledger = .empty)
    (hrecord : record gateway credentials world turns = earlier ++ entry :: later)
    (hjob : entry.job = .pay call) (hkind : call.kind.modification? = some kind) :
    ((∃ request reply, .exchanged request reply ∈ entry.effects) ↔
      ∃ response trace,
        Referable call.ids.payment call.caller.tenant earlier response trace) ∧
    (∀ response trace, Referable call.ids.payment call.caller.tenant earlier response trace →
      ∃ request reply, entry.effects.filter Effect.isExchange = [.exchanged request reply] ∧
        RefersTo request kind response) ∧
    ((¬ ∃ response trace,
        Referable call.ids.payment call.caller.tenant earlier response trace) →
      entry.result = .error (.missingAuthorization call.ids.payment) ∧ entry.effects = [] ∧
        entry.after = entry.before) := by
  -- What the ledger finds last is what the turns before approved last, as the ledger began empty.
  obtain ⟨ledger, result, hlast, hprepare, hresult, course⟩ :=
    exists_course_of_record hempty hrecord hjob hkind
  have hsent : ∀ response trace,
      Referable call.ids.payment call.caller.tenant earlier response trace →
      ∃ request reply, entry.effects.filter Effect.isExchange = [.exchanged request reply] ∧
        RefersTo request kind response := by
    intro response trace h
    obtain ⟨receipt, prior, rfl, hprior, hauthorization⟩ := h.exists_reference (hlast _ _)
    rw [hauthorization] at hprepare
    obtain ⟨reply, hexchanges⟩ := course.exchanges_of_ok hprepare
    exact ⟨_, reply, hexchanges, refersTo_modification hprior kind credentials call⟩
  have hunsent : (¬ ∃ response trace,
      Referable call.ids.payment call.caller.tenant earlier response trace) →
      entry.result = .error (.missingAuthorization call.ids.payment) ∧ entry.effects = [] ∧
        entry.after = entry.before := by
    intro h
    rw [lastAuthorization?_eq_none h (hlast _ _)] at hprepare
    obtain ⟨rfl, heffects, hafter⟩ := course.eq_of_error hprepare
    exact ⟨hresult, heffects, hafter⟩
  refine ⟨⟨?_, ?_⟩, hsent, hunsent⟩
  · rintro ⟨request, reply, hmem⟩
    apply Classical.byContradiction
    intro h
    rw [(hunsent h).2.1] at hmem
    cases hmem
  · rintro ⟨response, trace, h⟩
    obtain ⟨request, reply, hexchanges, -⟩ := hsent response trace h
    have hmem : .exchanged request reply ∈ entry.effects.filter Effect.isExchange := by
      rw [hexchanges]
      exact List.mem_cons_self
    exact ⟨request, reply, (List.mem_filter.mp hmem).1⟩

def authorizeThenCapture : List Turn :=
  [⟨.epoch, .empty, .pay (tokenCall .authorize)⟩, ⟨.epoch, .empty, .pay (bareCall .capture)⟩]

theorem exchanged_iff_referable_capture :
    let authorized := Entry.ofTurn approving ⟨"merchant", "secret"⟩ emptyWorld
      ⟨.epoch, .empty, .pay (tokenCall .authorize)⟩
    let captured := Entry.ofTurn approving ⟨"merchant", "secret"⟩ authorized.after
      ⟨.epoch, .empty, .pay (bareCall .capture)⟩
    record approving ⟨"merchant", "secret"⟩ emptyWorld authorizeThenCapture =
        [authorized] ++ captured :: [] ∧
      ∃ request reply, captured.effects.filter Effect.isExchange = [.exchanged request reply] ∧
        RefersTo request .capture approval := by
  intro authorized captured
  have hrecord : record approving ⟨"merchant", "secret"⟩ emptyWorld authorizeThenCapture =
      [authorized] ++ captured :: [] := rfl
  have hempty : emptyWorld.stores.ledger = .empty := rfl
  obtain ⟨-, hsent, -⟩ := exchanged_iff_referable hempty hrecord rfl rfl
  exact ⟨hrecord, hsent approval "T-1" ⟨rfl, rfl, by decide⟩⟩

end PaymentGateway.Memory
