import PaymentGateway.Proofs.Memory.Approvals
import PaymentGateway.Proofs.Payments.Amounts

/-!
# Amounts over whole runs

Every outcome that the history of a payment shows was returned by an earlier call of the run, with
the amount that the call recorded.
-/

namespace PaymentGateway.Memory

open PaymentGateway.Action (perform)

variable {γ : Type}

/-- A turn that paid, with the request that the gateway answered, what it kept and returned. -/
structure Entry.Paid (entry : Entry γ) (call : Call) (request response : FieldList)
    (receipt : Receipt) : Prop where
  job : entry.job = .pay call
  effects : entry.effects = [.exchanged request (.ok response), .appended receipt (.ok ())]
  result : entry.result = .ok (.outcome receipt.outcome)
  records : receipt.Records call request response

inductive Returned (payment tenant : Uuid) (earlier : List (Entry γ)) : Outcome → Prop
  | paid {prior : Entry γ} {call : Call} {request response : FieldList} {receipt : Receipt}
      (hprior : prior ∈ earlier) (hpaid : prior.Paid call request response receipt)
      (hpayment : call.ids.payment = payment) (htenant : call.caller.tenant = tenant) :
      Returned payment tenant earlier receipt.outcome

theorem Entry.exists_paid {gateway : Gateway γ} {credentials : Credentials} {world : World γ}
    {turn : Turn} {receipt : Receipt}
    (h : (Entry.ofTurn gateway credentials world turn).receipt? = some receipt) :
    ∃ call request response,
      (Entry.ofTurn gateway credentials world turn).Paid call request response receipt := by
  obtain ⟨call, response, hjob, -, -⟩ := (booked_ofTurn gateway credentials world turn).response _ h
  obtain ⟨result, hresult, course⟩ := course_ofTurn gateway credentials world turn hjob
  obtain ⟨effect, heffect, hreply⟩ := List.exists_of_findSome?_eq_some h
  split at hreply <;> cases hreply
  obtain ⟨request, response, heffects, rfl, hrecords⟩ := course.records heffect
  exact ⟨call, request, response, hjob, heffects, hresult, hrecords⟩

/-- The history of a payment shows what the ledger holds of it. -/
theorem result_of_history {gateway : Gateway γ} {credentials : Credentials} {world : World γ}
    {turn : Turn} {payment tenant : Uuid} (hjob : turn.job = .history payment tenant) :
    (Entry.ofTurn gateway credentials world turn).result =
      .ok (.outcomes ((world.stores.ledger.ofPayment payment tenant).map (·.outcome))) := by
  obtain ⟨time, accounts, job⟩ := turn
  dsimp only at hjob
  subst hjob
  rfl

/-- Every outcome that the history of a payment shows in a run from an empty ledger was returned by
an earlier call for the payment. -/
theorem returned_of_history {gateway : Gateway γ} {credentials : Credentials} {world : World γ}
    {turns : List Turn} {earlier later : List (Entry γ)} {entry : Entry γ} {payment tenant : Uuid}
    (hempty : world.stores.ledger = .empty)
    (hrecord : record gateway credentials world turns = earlier ++ entry :: later)
    (hjob : entry.job = .history payment tenant) :
    ∃ outcomes, entry.result = .ok (.outcomes outcomes) ∧
      ∀ outcome ∈ outcomes, Returned payment tenant earlier outcome := by
  obtain ⟨met, turn, rfl, hledger, -⟩ := exists_turn_of_record hrecord
  rw [hempty, Ledger.empty, List.nil_append] at hledger
  refine ⟨_, result_of_history hjob, ?_⟩
  intro outcome houtcome
  obtain ⟨receipt, hreceipt, rfl⟩ := List.mem_map.mp houtcome
  obtain ⟨hmem, hpayment⟩ := List.mem_filter.mp hreceipt
  rw [Bool.and_eq_true, beq_iff_eq, beq_iff_eq] at hpayment
  rw [hledger] at hmem
  obtain ⟨prior, hprior, hwrote⟩ := List.mem_filterMap.mp hmem
  -- the earlier turn is a turn of the same run
  obtain ⟨before, after, rfl⟩ := List.append_of_mem hprior
  rw [List.append_assoc, List.cons_append] at hrecord
  obtain ⟨metBefore, turnBefore, rfl, -, -⟩ := exists_turn_of_record hrecord
  obtain ⟨call, request, response, paid⟩ := Entry.exists_paid hwrote
  have hkeeps := paid.records.keeps
  exact .paid hprior paid (hkeeps.paymentId.symm.trans hpayment.1)
    (hkeeps.tenantId.symm.trans hpayment.2)

/-- Whatever its services do, a call that records a response records, and returns or reports, the
amount that it was given.  If the call moves money its request asked for that amount; the request of
a capture or void names none.  In memory the history of a payment shows such outcomes only. -/
theorem records_of_appended :
    (∀ {σ : Type} (services : Services (StateM σ)) (credentials : Credentials) (call : Call) (s : σ)
      (receipt : Receipt) (reply : Except Failure Unit),
      .appended receipt reply ∈ effectsOf (Payments.execute · credentials call) services s →
        ∃ request response,
          effectsOf (Payments.execute · credentials call) services s =
            [.exchanged request (.ok response), .appended receipt reply] ∧
          (perform (Payments.execute services credentials call) s).1 = receipt.conclusion reply ∧
          receipt.outcome.amount = call.amount ∧ receipt.Records call request response) ∧
    ∀ {γ : Type} (gateway : Gateway γ) (credentials : Credentials) (world : World γ)
      (turns : List Turn) (earlier later : List (Entry γ)) (entry : Entry γ)
      (payment tenant : Uuid), world.stores.ledger = .empty →
      record gateway credentials world turns = earlier ++ entry :: later →
      entry.job = .history payment tenant →
        ∃ outcomes, entry.result = .ok (.outcomes outcomes) ∧
          ∀ outcome ∈ outcomes, Returned payment tenant earlier outcome := by
  constructor
  · intro σ services credentials call s receipt reply happended
    obtain ⟨request, response, heffects, hresult, hrecords⟩ :=
      (Payments.course_execute services credentials call s).records happended
    exact ⟨request, response, heffects, hresult, hrecords.keeps.amount, hrecords⟩
  · intro γ gateway credentials world turns earlier later entry payment tenant hempty hrecord hjob
    exact returned_of_history hempty hrecord hjob

def charged : Decimal := ⟨false, 125, 1, by decide, by decide⟩

def charge : Call := { Payments.cardPurchase with amount := some charged }

def chargeThenHistory : List Turn :=
  [⟨.epoch, .empty, .pay charge⟩, ⟨.epoch, .empty, .history .nil .nil⟩]

theorem records_of_appended_charge :
    (∃ request response receipt,
      effectsOf (Payments.execute · ⟨"merchant", "secret"⟩ charge) (services approving) emptyWorld =
        [.exchanged request (.ok response), .appended receipt (.ok ())] ∧
      receipt.amount = some charged ∧ request.get? "pg_total_amount" = some "12.50") ∧
    ∃ paid shown outcome,
      record approving ⟨"merchant", "secret"⟩ emptyWorld chargeThenHistory = [paid] ++ shown :: [] ∧
      shown.result = .ok (.outcomes [outcome]) ∧ paid.result = .ok (.outcome outcome) := by
  obtain ⟨hcalls, hruns⟩ := records_of_appended
  constructor
  · have happended : .appended (charge.receipt approval .epoch) (.ok ()) ∈
        effectsOf (Payments.execute · ⟨"merchant", "secret"⟩ charge) (services approving)
          emptyWorld := List.mem_cons_of_mem _ List.mem_cons_self
    obtain ⟨request, response, heffects, -, hamount, hrecords⟩ := hcalls _ _ _ _ _ _ happended
    obtain ⟨amount, hkept, hasked⟩ := hrecords.movement .sale rfl
    have hcharged : some amount = some charged := hkept.symm.trans hamount
    cases hcharged
    exact ⟨request, response, _, heffects, hamount, hasked⟩
  · have hrecord : ∃ paid shown outcome, record approving ⟨"merchant", "secret"⟩ emptyWorld
          chargeThenHistory = [paid] ++ shown :: [] ∧
        shown.job = .history .nil .nil ∧ shown.result = .ok (.outcomes [outcome]) :=
      ⟨_, _, _, rfl, rfl, rfl⟩
    obtain ⟨paid, shown, outcome, hrecord, hjob, hshown⟩ := hrecord
    obtain ⟨outcomes, hresult, hpaid⟩ := hruns _ _ _ _ _ _ _ _ _ rfl hrecord hjob
    rw [hshown] at hresult
    cases hresult
    cases hpaid _ List.mem_cons_self with
    | paid hprior hearlier =>
      obtain rfl := List.mem_singleton.mp hprior
      exact ⟨_, shown, _, hrecord, hshown, hearlier.result⟩

/-- Not every recorded amount was asked for: a capture records the amount of its call, and its
request names none. -/
theorem not_asked_of_capture :
    ∃ authorized captured request response receipt,
      record approving ⟨"merchant", "secret"⟩ emptyWorld
          [⟨.epoch, .empty, .pay (tokenCall .authorize)⟩,
            ⟨.epoch, .empty, .pay { bareCall .capture with amount := some charged }⟩] =
        [authorized, captured] ∧
      captured.effects = [.exchanged request (.ok response), .appended receipt (.ok ())] ∧
      receipt.amount = some charged ∧ captured.result = .ok (.outcome receipt.outcome) ∧
      request.get? "pg_total_amount" = none ∧
      request.get? "pg_total_amount" ≠ some charged.moneyText :=
  ⟨_, _, _, _, _, rfl, rfl, rfl, rfl, rfl, nofun⟩

end PaymentGateway.Memory
