import PaymentGateway.Proofs.Memory.Services
import PaymentGateway.Proofs.Payments.Means

/-!
# A request carries exactly one credential

Whatever its services do, a call that moves money sends the one credential that its overrides and
the stored payment method choose, and a call that modifies an earlier one sends none.
-/

namespace PaymentGateway

open PaymentGateway.Action (perform)

variable {σ : Type} {services : Services (StateM σ)}

def CallKind.movement? : CallKind → Option Movement
  | .authorize => some .auth
  | .purchase => some .sale
  | .credit => some .credit
  | .capture | .void | .refund => none

namespace Payments

theorem prepare_eq_funds {m : Type → Type} [Monad m] {call : Call} {kind : Movement}
    (h : call.kind.movement? = some kind) (services : Services m) :
    prepare services call = funds services kind call := by
  unfold prepare
  cases hkind : call.kind <;> rw [hkind] at h <;> cases h <;> rfl

/-- The amount and the look-ups behind the request of a movement. -/
theorem exists_amount_of_funds {kind : Movement} {call : Call} {request : Request}
    {token : Option String} {s u : σ}
    (h : perform (funds services kind call) s = (.ok (request, token), u)) :
    ∃ amount account stored t, call.amount = some amount ∧
      perform (services.findAccount? call.ids.account call.caller.tenant) s = (.ok account, t) ∧
      perform (services.findMethod? call.ids.method call.caller.tenant) t = (.ok stored, u) ∧
      FundsSources.request ⟨call.overrides, account, stored⟩ kind amount =
        .ok (request, token) := by
  unfold funds at h
  cases hamount : call.amount with
  | none =>
    rw [hamount] at h
    cases h
  | some amount =>
    rw [hamount] at h
    obtain ⟨account, t, haccount, h⟩ := Action.exists_of_perform_bind h
    obtain ⟨stored, v, hstored, h⟩ := Action.exists_of_perform_bind h
    refine ⟨amount, account, stored, t, rfl, haccount, ?_⟩
    dsimp only at h
    cases hrequest : FundsSources.request ⟨call.overrides, account, stored⟩ kind amount <;>
      rw [hrequest] at h <;> cases h
    exact ⟨hstored, rfl⟩

theorem exists_lookups_of_funds {kind : Movement} {call : Call} {request : Request}
    {token : Option String} {s u : σ}
    (h : perform (funds services kind call) s = (.ok (request, token), u)) :
    ∃ amount account stored t,
      perform (services.findAccount? call.ids.account call.caller.tenant) s = (.ok account, t) ∧
      perform (services.findMethod? call.ids.method call.caller.tenant) t = (.ok stored, u) ∧
      FundsSources.request ⟨call.overrides, account, stored⟩ kind amount =
        .ok (request, token) := by
  obtain ⟨amount, account, stored, t, -, hlookups⟩ := exists_amount_of_funds h
  exact ⟨amount, account, stored, t, hlookups⟩

theorem exists_reference_of_modification {kind : Modification} {call : Call} {request : Request}
    {token : Option String} {s u : σ}
    (h : perform (modification services kind call) s = (.ok (request, token), u)) :
    token = none ∧ ∃ prior : AuthorizationReference, request = prior.modification kind := by
  obtain ⟨prior?, t, -, h⟩ := Action.exists_of_perform_bind h
  cases prior? <;> cases h
  exact ⟨rfl, _, rfl⟩

/-- A call that moves money sends exactly one credential, that of the first means of payment for
which the caller or else the payment method found has one.  A capture or void sends none. -/
theorem paidWith_of_exchanged {credentials : Credentials} {call : Call} {s : σ}
    {request : FieldList} {reply : Except Failure FieldList}
    (hsent : .exchanged request reply ∈ effectsOf (execute · credentials call) services s) :
    (∀ kind, call.kind.movement? = some kind → ∃ account stored t u,
      perform (services.findAccount? call.ids.account call.caller.tenant) s = (.ok account, t) ∧
      perform (services.findMethod? call.ids.method call.caller.tenant) t = (.ok stored, u) ∧
      ∃ means value, PaidWith request kind call.overrides stored means value) ∧
    ∀ kind, call.kind.modification? = some kind →
      ∀ means : Means, request.field? means.field = none := by
  obtain ⟨prepared, token, u, hprepare, rfl⟩ :=
    (course_execute services credentials call s).exists_prepared hsent
  constructor
  · intro kind hkind
    rw [prepare_eq_funds hkind] at hprepare
    obtain ⟨amount, account, stored, t, haccount, hstored, hrequest⟩ :=
      exists_lookups_of_funds hprepare
    obtain ⟨means, value, chosen, shaped⟩ := exists_shaped hrequest
    exact ⟨account, stored, t, u, haccount, hstored, means, value,
      shaped.paidWith chosen credentials call⟩
  · -- A reference has no instrument, and the overlay of a capture or void carries no token.
    intro kind hkind means
    rw [prepare_eq_modification hkind] at hprepare
    obtain ⟨rfl, prior, rfl⟩ := exists_reference_of_modification hprepare
    rw [Request.field?_fields_of_instrument (by cases means <;> decide)]
    rfl

def cardPurchase : Call :=
  { Memory.bareCall .purchase with
    amount := some .zero
    overrides := .ofList [("token", " "), ("ccNumber", "4111111111111111"), ("ccType", "visa")] }

def storedToken : PaymentMethod := { token := some "kept", accountNumber := some "12345" }

def storedTokenWorld : World Unit :=
  { Memory.emptyWorld with stores := { Stores.empty with methods := ⟨[storedToken]⟩ } }

theorem paidWith_of_exchanged_storedToken : ∃ request reply,
    .exchanged request reply ∈ effectsOf (execute · ⟨"merchant", "secret"⟩ cardPurchase)
      (Memory.services Memory.approving) storedTokenWorld ∧
    PaidWith request .sale cardPurchase.overrides (some storedToken) .token "kept" := by
  have hsent : ∃ request reply, .exchanged request reply ∈
      effectsOf (execute · ⟨"merchant", "secret"⟩ cardPurchase)
        (Memory.services Memory.approving) storedTokenWorld := ⟨_, _, List.mem_cons_self⟩
  obtain ⟨request, reply, hsent⟩ := hsent
  obtain ⟨hmovement, -⟩ := paidWith_of_exchanged hsent
  obtain ⟨account, stored, t, u, haccount, hstored, means, value, paid⟩ := hmovement .sale rfl
  cases haccount
  cases hstored
  have hchosen : Means.chosen? cardPurchase.overrides (some storedToken) =
      some (.token, "kept") := rfl
  have hmeans := hchosen.symm.trans paid.chosen
  cases hmeans
  exact ⟨request, reply, hsent, paid⟩

end Payments

end PaymentGateway
