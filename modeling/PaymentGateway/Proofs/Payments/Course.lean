import PaymentGateway.Proofs.Payments.Effects

/-!
# The course of a payment call

A call takes one of three courses: it never reaches the gateway, it gets no response, or it gets one
and writes a receipt for it.  Each course says what was done, from which states, and what the call
returns.
-/

namespace PaymentGateway

open PaymentGateway.Action (perform)

variable {σ : Type}

structure Receipt.Keeps (receipt : Receipt) (call : Call) (response : FieldList) : Prop where
  accountId : receipt.accountId = call.ids.account
  paymentId : receipt.paymentId = call.ids.payment
  transactionId : receipt.transactionId = call.ids.transaction
  tenantId : receipt.tenantId = call.caller.tenant
  kind : receipt.kind = call.kind
  amount : receipt.amount = call.amount
  currency : receipt.currency = call.currency
  response : receipt.response = response

theorem Call.keeps_receipt (call : Call) (response : FieldList) (time : Timestamp) :
    (call.receipt response time).Keeps call response :=
  ⟨rfl, rfl, rfl, rfl, rfl, rfl, rfl, rfl⟩

/-- What a call returns once its receipt is written, or was to be written. -/
def Receipt.conclusion (receipt : Receipt) : Except Failure Unit → Except Failure Outcome
  | .ok () => .ok receipt.outcome
  | .error source => .error (.unrecorded receipt.outcome source)

namespace Payments

/-- The courses of a call from a state: what it returns, what it does outside and where it ends. -/
inductive Course (services : Services (StateM σ)) (credentials : Credentials) (call : Call)
    (s : σ) : Except Failure Outcome → List Effect → σ → Prop
  | unprepared {failure : Failure} {t : σ}
      (hprepare : perform (prepare services call) s = (.error failure, t)) :
      Course services credentials call s (.error failure) [] t
  | unanswered {request : Request} {token : Option String} {fields : FieldList}
      {failure : Failure} {t u : σ}
      (hprepare : perform (prepare services call) s = (.ok (request, token), t))
      (hfields : request.fields credentials (call.overlay token) = fields)
      (hexchange : perform (services.exchange fields) t = (.error failure, u)) :
      Course services credentials call s (.error failure)
        [.exchanged fields (.error failure)] u
  | answered {request : Request} {token : Option String} {fields response : FieldList}
      {time : Timestamp} {receipt : Receipt} {reply : Except Failure Unit} {t u v w : σ}
      (hprepare : perform (prepare services call) s = (.ok (request, token), t))
      (hfields : request.fields credentials (call.overlay token) = fields)
      (hexchange : perform (services.exchange fields) t = (.ok response, u))
      (hnow : services.now u = (time, v))
      (hreceipt : call.receipt response time = receipt)
      (happend : perform (services.appendReceipt receipt) v = (reply, w)) :
      Course services credentials call s (receipt.conclusion reply)
        [.exchanged fields (.ok response), .appended receipt reply] w

theorem Course.eq_of_error {services : Services (StateM σ)} {credentials : Credentials}
    {call : Call} {s t u : σ} {result : Except Failure Outcome} {effects : List Effect}
    {failure : Failure} (course : Course services credentials call s result effects t)
    (h : perform (prepare services call) s = (.error failure, u)) :
    result = .error failure ∧ effects = [] ∧ t = u := by
  cases course with
  | unprepared hprepare =>
    rw [h] at hprepare
    cases hprepare
    exact ⟨rfl, rfl, rfl⟩
  | unanswered hprepare =>
    rw [h] at hprepare
    cases hprepare
  | answered hprepare =>
    rw [h] at hprepare
    cases hprepare

/-- A request that could be prepared is sent, once. -/
theorem Course.exchanges_of_ok {services : Services (StateM σ)} {credentials : Credentials}
    {call : Call} {s t u : σ} {result : Except Failure Outcome} {effects : List Effect}
    {request : Request} {token : Option String}
    (course : Course services credentials call s result effects t)
    (h : perform (prepare services call) s = (.ok (request, token), u)) :
    ∃ reply, effects.filter Effect.isExchange =
      [.exchanged (request.fields credentials (call.overlay token)) reply] := by
  cases course with
  | unprepared hprepare =>
    rw [h] at hprepare
    cases hprepare
  | unanswered hprepare hfields =>
    rw [h] at hprepare
    cases hprepare
    exact ⟨_, by rw [hfields]; rfl⟩
  | answered hprepare hfields =>
    rw [h] at hprepare
    cases hprepare
    exact ⟨_, by rw [hfields]; rfl⟩

/-- Whatever a call sends are the fields of the request it prepared. -/
theorem Course.exists_prepared {services : Services (StateM σ)} {credentials : Credentials}
    {call : Call} {s t : σ} {result : Except Failure Outcome} {effects : List Effect}
    {fields : FieldList} {reply : Except Failure FieldList}
    (course : Course services credentials call s result effects t)
    (hsent : .exchanged fields reply ∈ effects) :
    ∃ request token u, perform (prepare services call) s = (.ok (request, token), u) ∧
      fields = request.fields credentials (call.overlay token) := by
  cases course with
  | unprepared => cases hsent
  | unanswered hprepare hfields =>
    cases List.mem_singleton.mp hsent
    exact ⟨_, _, _, hprepare, hfields.symm⟩
  | answered hprepare hfields =>
    rw [List.mem_cons, List.mem_singleton] at hsent
    rcases hsent with hsent | hsent <;> cases hsent
    exact ⟨_, _, _, hprepare, hfields.symm⟩

theorem perform_conclude (services : Services (StateM σ)) (call : Call) (response : FieldList)
    (s : σ) :
    perform (conclude services call response) s =
      let receipt := call.receipt response (services.now s).1
      let appended := perform (services.appendReceipt receipt) (services.now s).2
      (receipt.conclusion appended.1, appended.2) := by
  have hnow : perform (liftM services.now : Action (StateM σ) Timestamp) s =
      (.ok (services.now s).1, (services.now s).2) := Action.perform_liftM _ _
  rw [conclude, Action.perform_bind_of_ok hnow, Action.perform_bind, Action.perform_tryCatch]
  dsimp only
  rcases perform (services.appendReceipt _) _ with ⟨failure | ⟨⟩, t⟩ <;> rfl

theorem conclude_observed (services : Services (StateM σ)) (call : Call) (response : FieldList)
    (s : σ) (effects : List Effect) :
    perform (conclude services.observed call response) (s, effects) =
      let receipt := call.receipt response (services.now s).1
      let appended := perform (services.appendReceipt receipt) (services.now s).2
      (receipt.conclusion appended.1,
        (appended.2, effects ++ [.appended receipt appended.1])) :=
  perform_conclude services.observed call response (s, effects)

theorem perform_execute_of_ok {services : Services (StateM σ)} {call : Call} {request : Request}
    {token : Option String} {s t : σ}
    (hprepare : perform (prepare services call) s = (.ok (request, token), t))
    (credentials : Credentials) :
    perform (execute services credentials call) s =
      perform (services.exchange (request.fields credentials (call.overlay token)) >>=
        conclude services call) t := by
  rw [execute, Action.perform_bind_of_ok hprepare]

theorem perform_execute_of_error {services : Services (StateM σ)} {call : Call}
    {failure : Failure} {s t : σ}
    (hprepare : perform (prepare services call) s = (.error failure, t))
    (credentials : Credentials) :
    perform (execute services credentials call) s = (.error failure, t) := by
  rw [execute, Action.perform_bind_of_error hprepare]

/-- Every call takes a course, and observing it changes nothing in it. -/
theorem exists_course (services : Services (StateM σ)) (credentials : Credentials) (call : Call)
    (s : σ) :
    ∃ result effects t, Course services credentials call s result effects t ∧
      perform (execute services credentials call) s = (result, t) ∧
      perform (execute services.observed credentials call) (s, []) = (result, (t, effects)) := by
  -- The look-ups leave no note, so both runs stand at the exchange with the same request.
  have hsilent := Action.perform_silently (prepare services call) s []
  rw [← prepare_observed] at hsilent
  rcases hprepare : perform (prepare services call) s with ⟨failure | ⟨request, token⟩, t⟩
  · rw [hprepare] at hsilent
    exact ⟨_, _, _, .unprepared hprepare, perform_execute_of_error hprepare credentials,
      perform_execute_of_error hsilent credentials⟩
  rw [hprepare] at hsilent
  have hplain := perform_execute_of_ok hprepare credentials
  have hobserved := perform_execute_of_ok hsilent credentials
  generalize hfields : request.fields credentials (call.overlay token) = fields
    at hplain hobserved
  -- From here on what is done is noted behind nothing.
  have hnoted : perform (services.observed.exchange fields) (t, []) =
      ((perform (services.exchange fields) t).1, ((perform (services.exchange fields) t).2,
        [.exchanged fields (perform (services.exchange fields) t).1])) := rfl
  rcases hexchange : perform (services.exchange fields) t with ⟨failure | response, u⟩
  · rw [hexchange] at hnoted
    refine ⟨_, _, _, .unanswered hprepare hfields hexchange, ?_, ?_⟩
    · rw [hplain, Action.perform_bind_of_error hexchange]
    · rw [hobserved, Action.perform_bind_of_error hnoted]
  · rw [hexchange] at hnoted
    refine ⟨_, _, _, .answered hprepare hfields hexchange rfl rfl rfl, ?_, ?_⟩
    · rw [hplain, Action.perform_bind_of_ok hexchange]
      exact perform_conclude services call response u
    · rw [hobserved, Action.perform_bind_of_ok hnoted]
      exact conclude_observed services call response u _

theorem course_execute (services : Services (StateM σ)) (credentials : Credentials) (call : Call)
    (s : σ) :
    Course services credentials call s (perform (execute services credentials call) s).1
      (effectsOf (execute · credentials call) services s)
      (perform (execute services credentials call) s).2 := by
  obtain ⟨result, effects, t, course, hrun, hobserved⟩ := exists_course services credentials call s
  rw [effectsOf, hobserved, hrun]
  exact course

end Payments

end PaymentGateway
