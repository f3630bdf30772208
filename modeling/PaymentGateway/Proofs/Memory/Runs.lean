import PaymentGateway.Proofs.Memory.Services
import PaymentGateway.Proofs.Payments.Course

/-!
# Runs of a world kept in memory

A run gives one job after another to the payments of a world.  Its record keeps what each job met,
returned and did.  The ledger holds what the jobs so far have written to it, and nothing else.
-/

namespace PaymentGateway

open PaymentGateway.Action (perform)

/-! ## Jobs -/

inductive Job where
  | pay (call : Call)
  | history (payment tenant : Uuid)
  | addMethod (account method : Uuid) (overrides : Overrides) (isDefault : Bool) (caller : Caller)
  | hostedPage
  | notification

inductive Answer where
  | outcome (outcome : Outcome)
  | outcomes (outcomes : List Outcome)
  | method (record : PaymentMethod)
  | page (fields : FieldList)
  | done

def Job.run {m : Type → Type} [Monad m] (services : Services m) (credentials : Credentials) :
    Job → Action m Answer
  | .pay call => do return .outcome (← Payments.execute services credentials call)
  | .history payment tenant => do return .outcomes (← Payments.history services payment tenant)
  | .addMethod account method overrides isDefault caller => do
      return .method (← Payments.addMethod services account method overrides isDefault caller)
  | .hostedPage => do return .page (← Payments.hostedPage)
  | .notification => do
      Payments.takeNotification
      return .done

namespace Memory

variable {γ : Type}

structure Turn where
  time : Timestamp
  accounts : Accounts
  job : Job

structure Entry (γ : Type) where
  job : Job
  before : World γ
  result : Except Failure Answer
  effects : List Effect
  after : World γ

def Entry.ofTurn (gateway : Gateway γ) (credentials : Credentials) (world : World γ)
    (turn : Turn) : Entry γ :=
  let before : World γ :=
    { world with
      time := turn.time
      stores := { world.stores with accounts := turn.accounts } }
  let finished := perform (turn.job.run (services gateway) credentials) before
  { job := turn.job
    before
    result := finished.1
    effects := effectsOf (turn.job.run · credentials) (services gateway) before
    after := finished.2 }

def record (gateway : Gateway γ) (credentials : Credentials) :
    World γ → List Turn → List (Entry γ)
  | _, [] => []
  | world, turn :: turns =>
      let entry := Entry.ofTurn gateway credentials world turn
      entry :: record gateway credentials entry.after turns

namespace Entry

def response? (entry : Entry γ) : Option FieldList :=
  entry.effects.findSome? fun
    | .exchanged _ (.ok response) => some response
    | _ => none

def receipt? (entry : Entry γ) : Option Receipt :=
  entry.effects.findSome? fun
    | .appended receipt (.ok ()) => some receipt
    | _ => none

end Entry

/-! ## What one turn writes -/

/-- A turn after which the ledger holds what it wrote, and which wrote only what it responded. -/
structure Entry.Booked (entry : Entry γ) : Prop where
  ledger : entry.after.stores.ledger.receipts =
    entry.before.stores.ledger.receipts ++ entry.receipt?.toList
  receipt : ∀ call, entry.job = .pay call → ∀ response, entry.response? = some response →
    ∃ receipt, entry.receipt? = some receipt ∧ receipt.Keeps call response
  response : ∀ receipt, entry.receipt? = some receipt → ∃ call response,
    entry.job = .pay call ∧ entry.response? = some response ∧ receipt.Keeps call response

/-- A turn that pays takes the course of its call. -/
theorem course_ofTurn (gateway : Gateway γ) (credentials : Credentials) (world : World γ)
    (turn : Turn) {call : Call} (hjob : turn.job = .pay call) :
    ∃ result, (Entry.ofTurn gateway credentials world turn).result = result.map .outcome ∧
      Payments.Course (services gateway) credentials call
        (Entry.ofTurn gateway credentials world turn).before result
        (Entry.ofTurn gateway credentials world turn).effects
        (Entry.ofTurn gateway credentials world turn).after := by
  obtain ⟨time, accounts, job⟩ := turn
  dsimp only at hjob
  subst hjob
  generalize hentry : Entry.ofTurn gateway credentials world ⟨time, accounts, .pay call⟩ = entry
  obtain ⟨result, effects, after, course, hrun, hobserved⟩ :=
    Payments.exists_course (services gateway) credentials call entry.before
  have hfinished := Action.perform_bind_pure
    (Payments.execute (services gateway) credentials call) Answer.outcome entry.before
  have hnoted := Action.perform_bind_pure
    (Payments.execute (services gateway).observed credentials call) Answer.outcome
    (entry.before, [])
  rw [hrun] at hfinished
  rw [hobserved] at hnoted
  subst hentry
  refine ⟨result, congrArg Prod.fst hfinished, ?_⟩
  -- The turn wraps the outcome into an answer, which changes neither the effects nor the world.
  have heffects : (Entry.ofTurn gateway credentials world ⟨time, accounts, .pay call⟩).effects =
      effects := congrArg (fun run => run.2.2) hnoted
  have hafter : (Entry.ofTurn gateway credentials world ⟨time, accounts, .pay call⟩).after =
      after := congrArg Prod.snd hfinished
  rw [heffects, hafter]
  exact course

/-- A turn that got no response and left the ledger alone. -/
theorem booked_of_silent {entry : Entry γ} (hresponse : entry.response? = none)
    (hreceipt : entry.receipt? = none)
    (hledger : entry.after.stores.ledger = entry.before.stores.ledger) : entry.Booked where
  ledger := by rw [hledger, hreceipt, Option.toList_none, List.append_nil]
  receipt call hjob response h := by
    rw [hresponse] at h
    cases h
  response receipt h := by
    rw [hreceipt] at h
    cases h

/-- A turn that got a response and wrote the receipt of its call. -/
theorem booked_of_receipt {entry : Entry γ} {call : Call} {response : FieldList}
    {receipt : Receipt} (hjob : entry.job = .pay call)
    (hresponse : entry.response? = some response) (hreceipt : entry.receipt? = some receipt)
    (hkeeps : receipt.Keeps call response)
    (hledger : entry.after.stores.ledger = entry.before.stores.ledger.append receipt) :
    entry.Booked where
  ledger := by
    rw [hledger, hreceipt]
    rfl
  receipt other hother response' h := by
    have hcall : call = other := Job.pay.inj (hjob.symm.trans hother)
    rw [hresponse, Option.some.injEq] at h
    exact ⟨receipt, hreceipt, hcall ▸ h ▸ hkeeps⟩
  response receipt' h := by
    rw [hreceipt, Option.some.injEq] at h
    exact ⟨call, response, hjob, hresponse, h ▸ hkeeps⟩

theorem booked_of_course {gateway : Gateway γ} {credentials : Credentials} {entry : Entry γ}
    {call : Call} {result : Except Failure Outcome} (hjob : entry.job = .pay call)
    (course : Payments.Course (services gateway) credentials call entry.before result
      entry.effects entry.after) : entry.Booked := by
  obtain ⟨job, before, answer, effects, after⟩ := entry
  dsimp only at hjob course
  have hprepared := perform_prepare_snd gateway call before
  cases course with
  | @unprepared failure t hprepare =>
    rw [hprepare] at hprepared
    apply booked_of_silent rfl rfl
    show after.stores.ledger = before.stores.ledger
    rw [← hprepared]
  | @unanswered request token fields failure t u hprepare hfields hexchange =>
    rw [hprepare] at hprepared
    apply booked_of_silent rfl rfl
    show after.stores.ledger = before.stores.ledger
    rw [stores_of_exchange hexchange, ← hprepared]
  | @answered request token fields response time receipt reply t u v w hprepare hfields hexchange
      hnow hreceipt happend =>
    rw [hprepare] at hprepared
    -- the ledger of a world takes every receipt
    obtain ⟨rfl, hledger⟩ := ledger_of_appendReceipt happend
    have hkeeps := call.keeps_receipt response time
    rw [hreceipt] at hkeeps
    apply booked_of_receipt hjob rfl rfl hkeeps
    show after.stores.ledger = before.stores.ledger.append receipt
    cases hnow
    rw [hledger, stores_of_exchange hexchange, ← hprepared]

/-- Every turn is booked, whatever its job. -/
theorem booked_ofTurn (gateway : Gateway γ) (credentials : Credentials) (world : World γ)
    (turn : Turn) : (Entry.ofTurn gateway credentials world turn).Booked := by
  obtain ⟨time, accounts, job⟩ := turn
  cases job with
  | pay call =>
    obtain ⟨result, -, course⟩ := course_ofTurn gateway credentials world
      ⟨time, accounts, .pay call⟩ rfl
    exact booked_of_course rfl course
  | history payment tenant => exact booked_of_silent rfl rfl rfl
  | addMethod account method overrides isDefault caller =>
    -- with a token the method is stored, without one nothing is done
    refine booked_of_silent ?_ ?_ ?_ <;>
      simp only [Entry.response?, Entry.receipt?, Entry.ofTurn, effectsOf, Job.run,
        Payments.addMethod] <;>
      cases overrides.get? .token <;> rfl
  | hostedPage => exact booked_of_silent rfl rfl rfl
  | notification => exact booked_of_silent rfl rfl rfl

/-! ## What a run has written -/

/-- Wherever a run is, the ledger holds what the turns so far have written, behind what it held at
the start. -/
theorem exists_turn_of_record {gateway : Gateway γ} {credentials : Credentials} {world : World γ}
    {turns : List Turn} {earlier later : List (Entry γ)} {entry : Entry γ}
    (h : record gateway credentials world turns = earlier ++ entry :: later) :
    ∃ met turn, entry = Entry.ofTurn gateway credentials met turn ∧
      met.stores.ledger.receipts =
        world.stores.ledger.receipts ++ earlier.filterMap Entry.receipt? ∧
      ∀ e ∈ earlier, e.Booked := by
  -- By the turns before the entry: each of them adds its own receipt to what the ledger held.
  induction turns generalizing world earlier with
  | nil => exact absurd h.symm (List.append_ne_nil_of_right_ne_nil _ (List.cons_ne_nil _ _))
  | cons turn turns ih =>
    rw [record] at h
    cases earlier with
    | nil =>
      rw [List.nil_append, List.cons.injEq] at h
      exact ⟨world, turn, h.1.symm, (List.append_nil _).symm, fun e he => nomatch he⟩
    | cons first earlier =>
      rw [List.cons_append, List.cons.injEq] at h
      obtain ⟨hfirst, hrest⟩ := h
      have hbooked := booked_ofTurn gateway credentials world turn
      obtain ⟨met, next, hentry, hledger, hall⟩ := ih hrest
      refine ⟨met, next, hentry, ?_, ?_⟩
      · rw [hledger, hbooked.ledger, ← hfirst, List.filterMap_cons, List.append_assoc]
        show world.stores.ledger.receipts ++ _ = _
        cases (Entry.ofTurn gateway credentials world turn).receipt? <;> rfl
      · intro e he
        rcases List.mem_cons.mp he with rfl | he
        · exact hfirst ▸ hbooked
        · exact hall e he

end Memory

end PaymentGateway
