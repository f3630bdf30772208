import PaymentGateway.Proofs.Memory.Approvals

/-!
# Approvals that hide others

A capture or void asks for the newest approval of its payment.  One without a trace number can not
be referred to, and hides a usable one behind it.  No other receipt does.
-/

namespace PaymentGateway

structure Receipt.Approves (payment tenant : Uuid) (receipt : Receipt) : Prop where
  paymentId : receipt.paymentId = payment
  tenantId : receipt.tenantId = tenant
  kind : receipt.kind = .authorize ∨ receipt.kind = .purchase
  responseType : receipt.response.get? "pg_response_type" = some "A"

structure Receipt.Usable (payment tenant : Uuid) (receipt : Receipt) : Prop
    extends Receipt.Approves payment tenant receipt where
  traceNumber : ∃ trace, receipt.response.get? "pg_trace_number" = some trace ∧ trace ≠ ""

structure Ledger.LastApproval (payment tenant : Uuid) (ledger : Ledger) (newest : Receipt) :
    Prop where
  approves : newest.Approves payment tenant
  split : ∃ before after, ledger.receipts = before ++ newest :: after ∧
    ∀ receipt ∈ after, ¬ receipt.Approves payment tenant

/-- Behind every usable approval of a payment stands one without a trace number. -/
def Ledger.Hides (payment tenant : Uuid) (ledger : Ledger) : Prop :=
  ∃ before barren after, ledger.receipts = before ++ barren :: after ∧
    barren.Approves payment tenant ∧ ¬ barren.Usable payment tenant ∧
    ∀ receipt ∈ after, ¬ receipt.Usable payment tenant

variable {payment tenant : Uuid} {ledger : Ledger} {newest : Receipt}

namespace Memory

theorem approves_iff (payment tenant : Uuid) (receipt : Receipt) :
    approves payment tenant receipt = true ↔ receipt.Approves payment tenant := by
  rw [approves, Bool.and_eq_true, Bool.and_eq_true, beq_iff_eq, beq_iff_eq,
    isModifiable_eq_true_iff]
  constructor
  · rintro ⟨⟨hpayment, htenant⟩, hkind, htype⟩
    exact ⟨hpayment, htenant, hkind, htype⟩
  · rintro ⟨hpayment, htenant, hkind, htype⟩
    exact ⟨⟨hpayment, htenant⟩, hkind, htype⟩

end Memory

namespace Ledger

theorem lastApproval_iff :
    ledger.LastApproval payment tenant newest ↔
      ledger.receipts.reverse.find? (Memory.approves payment tenant) = some newest := by
  rw [List.find?_eq_some_iff_append, Memory.approves_iff]
  -- The newest is the first one from the end, and nothing of its kind stands behind it.
  constructor
  · rintro ⟨happroves, before, after, hsplit, hafter⟩
    refine ⟨happroves, after.reverse, before.reverse, ?_, ?_⟩
    · rw [hsplit, List.reverse_append, List.reverse_cons, List.append_assoc,
        List.singleton_append]
    · intro receipt hmem
      have hnot := hafter receipt (List.mem_reverse.mp hmem)
      rw [← Memory.approves_iff, Bool.not_eq_true] at hnot
      rw [hnot, Bool.not_false]
  · rintro ⟨happroves, after, before, hsplit, hafter⟩
    refine ⟨happroves, before.reverse, after.reverse, ?_, ?_⟩
    · rw [← List.reverse_reverse ledger.receipts, hsplit, List.reverse_append,
        List.reverse_cons, List.append_assoc, List.singleton_append]
    · intro receipt hmem happrove
      have hnot := hafter receipt (List.mem_reverse.mp hmem)
      rw [(Memory.approves_iff payment tenant receipt).mpr happrove] at hnot
      cases hnot

/-- A ledger with an approval has a newest one. -/
theorem exists_lastApproval
    (h : ∃ receipt ∈ ledger.receipts, receipt.Approves payment tenant) :
    ∃ newest, ledger.LastApproval payment tenant newest := by
  obtain ⟨receipt, hmem, happroves⟩ := h
  have hfound : (ledger.receipts.reverse.find? (Memory.approves payment tenant)).isSome := by
    rw [List.find?_isSome]
    exact ⟨receipt, List.mem_reverse.mpr hmem, (Memory.approves_iff _ _ _).mpr happroves⟩
  obtain ⟨newest, hnewest⟩ := Option.isSome_iff_exists.mp hfound
  exact ⟨newest, lastApproval_iff.mpr hnewest⟩

/-- The newest approval is the one that is offered, if it offers anything. -/
theorem LastApproval.lastAuthorization?_eq (h : ledger.LastApproval payment tenant newest) :
    ledger.lastAuthorization? payment tenant = newest.reference? := by
  rw [lastAuthorization?, Memory.find?_isModifiable_ofPayment, lastApproval_iff.mp h,
    Option.bind_some]

/-- A ledger hides the usable approvals of a payment exactly if the newest is not usable. -/
theorem LastApproval.hides_iff (h : ledger.LastApproval payment tenant newest) :
    ledger.Hides payment tenant ↔ ¬ newest.Usable payment tenant := by
  obtain ⟨happroves, before, after, hsplit, hafter⟩ := h
  constructor
  · rintro ⟨before', barren, after', hsplit', hbarren, hunusable, hafter'⟩ husable
    -- the one without a trace number is neither the newest nor before it, and approves
    rw [hsplit, List.append_eq_append_iff] at hsplit'
    rcases hsplit' with ⟨between, -, hrest⟩ | ⟨between, -, hrest⟩ <;>
      rcases List.cons_eq_append_iff.mp hrest with ⟨-, hsame⟩ | ⟨rest, -, rfl⟩
    · cases hsame
      exact hunusable husable
    · exact hafter barren (List.mem_append_right _ List.mem_cons_self) hbarren
    · cases hsame
      exact hunusable husable
    · exact hafter' newest (List.mem_append_right _ List.mem_cons_self) husable
  · intro hunusable
    refine ⟨before, newest, after, hsplit, happroves, hunusable, ?_⟩
    intro receipt hmem husable
    exact hafter receipt hmem husable.toApproves

end Ledger

/-- A usable approval offers a reference. -/
theorem Receipt.Usable.exists_reference {receipt : Receipt}
    (h : receipt.Usable payment tenant) : ∃ prior, receipt.reference? = some prior := by
  obtain ⟨trace, htrace, hne⟩ := h.traceNumber
  exact ⟨_, Receipt.reference?_of_traceNumber htrace hne⟩

/-- An approval that is not usable offers none. -/
theorem Receipt.Approves.reference?_eq_none {receipt : Receipt}
    (h : receipt.Approves payment tenant) (hunusable : ¬ receipt.Usable payment tenant) :
    receipt.reference? = none := by
  apply Receipt.reference?_eq_none
  intro trace htrace
  by_cases hne : trace = ""
  · exact hne
  · exact absurd ⟨h, trace, htrace, hne⟩ hunusable

namespace Memory

open PaymentGateway.Action (perform)

variable {γ : Type}

/-- In memory a call that is sent fails only if the exchange does, and as the exchange did. -/
theorem exchange_of_course {gateway : Gateway γ} {credentials : Credentials} {call : Call}
    {request : Request} {token : Option String} {s t u : World γ}
    {result : Except Failure Outcome} {effects : List Effect}
    (course : Payments.Course (services gateway) credentials call s result effects t)
    (hprepare : perform (Payments.prepare (services gateway) call) s = (.ok (request, token), u)) :
    ∃ reply, effects.filter Effect.isExchange =
        [.exchanged (request.fields credentials (call.overlay token)) reply] ∧
      ∀ failure, result = .error failure → reply = .error failure := by
  cases course with
  | unprepared hfailed =>
    rw [hprepare] at hfailed
    cases hfailed
  | unanswered hprepared hfields =>
    rw [hprepare] at hprepared
    cases hprepared
    refine ⟨_, by rw [hfields]; rfl, ?_⟩
    rintro failure ⟨⟩
    rfl
  | answered hprepared hfields hexchange hnow hreceipt happend =>
    rw [hprepare] at hprepared
    cases hprepared
    obtain ⟨rfl, -⟩ := ledger_of_appendReceipt happend
    refine ⟨_, by rw [hfields]; rfl, ?_⟩
    rintro failure ⟨⟩

/-- A capture or void that was sent, and the approval that it refers to. -/
structure Entry.Sent (entry : Entry γ) (kind : Modification) (approval : Receipt) : Prop where
  exchange : ∃ request reply,
    entry.effects.filter Effect.isExchange = [.exchanged request reply] ∧
      RefersTo request kind approval.response ∧
      ∀ failure, entry.result = .error failure → reply = .error failure

/-- At any point of a run, a capture or void of a payment with a usable approval in the ledger is
rejected exactly if an approval without a trace number hides it.  Otherwise the newest approval is
usable and the call is sent, referring to it, and fails only as the exchange does. -/
theorem rejected_iff_hides {gateway : Gateway γ} {credentials : Credentials}
    {world : World γ} {turns : List Turn} {earlier later : List (Entry γ)} {entry : Entry γ}
    {call : Call} {kind : Modification}
    (hrecord : record gateway credentials world turns = earlier ++ entry :: later)
    (hjob : entry.job = .pay call) (hkind : call.kind.modification? = some kind)
    (husable : ∃ receipt ∈ entry.before.stores.ledger.receipts,
      receipt.Usable call.ids.payment call.caller.tenant) :
    entry.before.stores.ledger.receipts =
        world.stores.ledger.receipts ++ earlier.filterMap Entry.receipt? ∧
      (entry.result = .error (.missingAuthorization call.ids.payment) ∧ entry.effects = [] ↔
        entry.before.stores.ledger.Hides call.ids.payment call.caller.tenant) ∧
      (¬ entry.before.stores.ledger.Hides call.ids.payment call.caller.tenant →
        ∃ newest, entry.before.stores.ledger.LastApproval call.ids.payment call.caller.tenant
            newest ∧
          newest.Usable call.ids.payment call.caller.tenant ∧ entry.Sent kind newest) := by
  obtain ⟨met, turn, rfl, hledger, -⟩ := exists_turn_of_record hrecord
  refine ⟨hledger, ?_⟩
  obtain ⟨result, hprepare, hresult, course⟩ :=
    course_of_modification gateway credentials met hjob hkind
  obtain ⟨newest, hnewest⟩ := Ledger.exists_lastApproval
    (husable.imp fun _ h => ⟨h.1, h.2.toApproves⟩)
  -- Only the newest approval counts: the usable ones are hidden if it is not usable itself.
  rw [hnewest.hides_iff]
  have hoffered : met.stores.ledger.lastAuthorization? call.ids.payment call.caller.tenant =
    newest.reference? := hnewest.lastAuthorization?_eq
  rw [hoffered] at hprepare
  by_cases h : newest.Usable call.ids.payment call.caller.tenant
  · obtain ⟨prior, hprior⟩ := h.exists_reference
    rw [hprior] at hprepare
    obtain ⟨reply, hexchanges, hfails⟩ := exchange_of_course course hprepare
    have hsent : (Entry.ofTurn gateway credentials met turn).Sent kind newest := by
      refine ⟨_, reply, hexchanges, refersTo_modification hprior kind credentials call, ?_⟩
      intro failure hfailure
      rw [hresult] at hfailure
      apply hfails
      cases result with
      | ok outcome => cases hfailure
      | error other =>
        cases hfailure
        rfl
    refine ⟨⟨?_, fun hunusable => absurd h hunusable⟩, fun _ => ⟨newest, hnewest, h, hsent⟩⟩
    rintro ⟨-, heffects⟩
    rw [heffects] at hexchanges
    cases hexchanges
  · rw [hnewest.approves.reference?_eq_none h] at hprepare
    obtain ⟨rfl, heffects, -⟩ := course.eq_of_error hprepare
    exact ⟨⟨fun _ => h, fun _ => ⟨hresult, heffects⟩⟩, fun hvisible => absurd h hvisible⟩

def answering : Gateway (List FieldList) where
  exchange _ responses := (.ok (responses.headD .empty), responses.tail)

def authorizeTwiceThenCapture : List Turn :=
  [⟨.epoch, .empty, .pay (tokenCall .authorize)⟩, ⟨.epoch, .empty, .pay (tokenCall .authorize)⟩,
    ⟨.epoch, .empty, .pay (bareCall .capture)⟩]

def decline : FieldList := .ofList [("pg_response_type", "D"), ("pg_trace_number", "T-2")]

theorem rejected_iff_hides_decline :
    ∃ first second captured newest,
      record answering ⟨"merchant", "secret"⟩ ⟨[approval, decline, approval], .empty, .epoch⟩
          authorizeTwiceThenCapture = [first, second] ++ captured :: [] ∧
        captured.before.stores.ledger.LastApproval .nil .nil newest ∧
        newest.Usable .nil .nil ∧ captured.Sent .capture newest := by
  have hrecord : ∃ first second captured,
      record answering ⟨"merchant", "secret"⟩ ⟨[approval, decline, approval], .empty, .epoch⟩
          authorizeTwiceThenCapture = [first, second] ++ captured :: [] ∧
        captured.job = .pay (bareCall .capture) ∧
        (tokenCall .authorize).receipt approval .epoch ∈ captured.before.stores.ledger.receipts ∧
        captured.result ≠ .error (.missingAuthorization .nil) :=
    ⟨_, _, _, rfl, rfl, List.mem_cons_self, nofun⟩
  obtain ⟨first, second, captured, hrecord, hjob, hmem, hresult⟩ := hrecord
  have husable : ((tokenCall .authorize).receipt approval .epoch).Usable .nil .nil :=
    ⟨⟨rfl, rfl, .inl rfl, rfl⟩, "T-1", rfl, by decide⟩
  obtain ⟨-, hrejected, hsent⟩ := rejected_iff_hides hrecord hjob rfl ⟨_, hmem, husable⟩
  obtain ⟨newest, hnewest⟩ := hsent fun h => hresult (hrejected.mpr h).1
  exact ⟨first, second, captured, newest, hrecord, hnewest⟩

def untracedApproval : FieldList := .ofList [("pg_response_type", "A")]

/-- Not every usable approval in a ledger can be captured. -/
theorem not_sent_of_untracedApproval :
    ∃ first second captured receipt,
      record answering ⟨"merchant", "secret"⟩
          ⟨[approval, untracedApproval, approval], .empty, .epoch⟩ authorizeTwiceThenCapture =
        [first, second, captured] ∧
        captured.job = .pay (bareCall .capture) ∧
        receipt ∈ captured.before.stores.ledger.receipts ∧ receipt.Usable .nil .nil ∧
        captured.result = .error (.missingAuthorization .nil) := by
  refine ⟨_, _, _, _, rfl, rfl, List.mem_cons_self, ⟨⟨rfl, rfl, .inl rfl, rfl⟩, "T-1", rfl, ?_⟩,
    rfl⟩
  decide

end Memory

end PaymentGateway
