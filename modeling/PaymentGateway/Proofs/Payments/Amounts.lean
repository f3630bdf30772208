import PaymentGateway.Proofs.Payments.Credentials

/-!
# The amount that is recorded and the amount that was asked for

A call that moves money keeps the amount that its request asked the gateway for.  A capture or void
keeps the amount of its call as well, but its request names none.
-/

namespace PaymentGateway

open PaymentGateway.Action (perform)

variable {σ : Type}

def Request.amount? : Request → Option Decimal
  | .card _ amount _ _ | .eft _ amount _ _ => some amount
  | .modification _ _ _ _ => none

theorem Request.field?_totalAmount (credentials : Credentials) (request : Request) (call : Call)
    (token : Option String) :
    (request.fields credentials (call.overlay token)).field? .totalAmount =
      request.amount?.map Decimal.moneyText := by
  rw [field?_fields]
  rcases request with ⟨kind, amount, payer, _ | card⟩ | ⟨kind, amount, payer, _ | account⟩ |
    ⟨kind, rail, trace, authorization⟩ <;>
    simp [amount?, sentFields, computedFields, shapeFields, cardFields, accountFields, fundsFields,
      identifyingPairs, List.lookup_append]

theorem Shaped.amount?_eq {s : FundsSources} {kind : Movement} {amount : Decimal} {means : Means}
    {value : String} {request : Request} {token : Option String}
    (shaped : Shaped s kind amount means value request token) : request.amount? = some amount := by
  cases shaped <;> rfl

/-- What is kept of a call, beside the request that the gateway answered. -/
structure Receipt.Records (receipt : Receipt) (call : Call) (request response : FieldList) :
    Prop where
  keeps : receipt.Keeps call response
  movement : ∀ kind, call.kind.movement? = some kind → ∃ amount, receipt.amount = some amount ∧
    request.get? "pg_total_amount" = some amount.moneyText
  modification : ∀ kind, call.kind.modification? = some kind →
    request.get? "pg_total_amount" = none

namespace Payments

theorem exists_amount_of_movement {services : Services (StateM σ)} {call : Call} {kind : Movement}
    (hkind : call.kind.movement? = some kind) {request : Request} {token : Option String} {s t : σ}
    (hprepare : perform (prepare services call) s = (.ok (request, token), t)) :
    ∃ amount, call.amount = some amount ∧ request.amount? = some amount := by
  rw [prepare_eq_funds hkind] at hprepare
  obtain ⟨amount, account, stored, u, hamount, -, -, hrequest⟩ := exists_amount_of_funds hprepare
  obtain ⟨means, value, -, shaped⟩ := exists_shaped hrequest
  exact ⟨amount, hamount, shaped.amount?_eq⟩

theorem amount?_of_modification {services : Services (StateM σ)} {call : Call}
    {kind : Modification} (hkind : call.kind.modification? = some kind) {request : Request}
    {token : Option String} {s t : σ}
    (hprepare : perform (prepare services call) s = (.ok (request, token), t)) :
    request.amount? = none := by
  rw [prepare_eq_modification hkind] at hprepare
  obtain ⟨-, prior, rfl⟩ := exists_reference_of_modification hprepare
  rfl

/-- A receipt is written behind the response that it keeps, and records what was asked for. -/
theorem Course.records {services : Services (StateM σ)} {credentials : Credentials} {call : Call}
    {s t : σ} {result : Except Failure Outcome} {effects : List Effect} {receipt : Receipt}
    {reply : Except Failure Unit}
    (course : Course services credentials call s result effects t)
    (happended : .appended receipt reply ∈ effects) :
    ∃ request response,
      effects = [.exchanged request (.ok response), .appended receipt reply] ∧
      result = receipt.conclusion reply ∧ receipt.Records call request response := by
  cases course with
  | unprepared => cases happended
  | unanswered => cases List.mem_singleton.mp happended
  | @answered request token fields response time _ _ t u v w hprepare hfields hexchange hnow
      hreceipt happend =>
    rw [List.mem_cons, List.mem_singleton] at happended
    rcases happended with happended | happended <;> cases happended
    have hkeeps : receipt.Keeps call response := hreceipt ▸ call.keeps_receipt response time
    have htotal : fields.get? "pg_total_amount" = request.amount?.map Decimal.moneyText :=
      hfields ▸ request.field?_totalAmount credentials call token
    refine ⟨fields, response, rfl, rfl, hkeeps, ?_, ?_⟩
    · intro kind hkind
      obtain ⟨amount, hamount, hasked⟩ := exists_amount_of_movement hkind hprepare
      exact ⟨amount, hkeeps.amount.trans hamount, by rw [htotal, hasked, Option.map_some]⟩
    · intro kind hkind
      rw [htotal, amount?_of_modification hkind hprepare, Option.map_none]

end Payments

end PaymentGateway
