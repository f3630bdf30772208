import PaymentGateway.Proofs.Payments.Secrets

/-!
# No call tells secrets apart

On services that do not tell secrets apart, calls that differ in secrets only make a pair: they come
to the same outcome or fail alike, times aside, and on the way they send requests that differ in
secrets only and write the same receipts.
-/

namespace PaymentGateway

open PaymentGateway.Action (Paired Noted)

/-! ## Failures without times -/

def Failure.timeless : Failure → Failure
  | .unrecorded outcome source => .unrecorded outcome.timeless source.timeless
  | failure => failure

theorem Failure.message_timeless (failure : Failure) :
    failure.timeless.message = failure.message := by
  cases failure <;> rfl

/-- Failures that are the same, times aside. -/
def FailAlike (failure other : Failure) : Prop :=
  failure.timeless = other.timeless

theorem FailAlike.refl (failure : Failure) : FailAlike failure failure := rfl

theorem FailAlike.message_eq {failure other : Failure} (h : FailAlike failure other) :
    failure.message = other.message := by
  rw [← failure.message_timeless, h, other.message_timeless]

/-! ## Services -/

inductive Effect.Veils : Effect → Effect → Prop
  | exchanged {request other : FieldList} {reply reply' : Except Failure FieldList}
      (hrequest : request.Veils other) (hreply : Matched FailAlike Eq reply reply') :
      Veils (.exchanged request reply) (.exchanged other reply')
  | appended {receipt other : Receipt} {reply reply' : Except Failure Unit}
      (hreceipt : receipt.timeless = other.timeless) (hreply : Matched FailAlike Eq reply reply') :
      Veils (.appended receipt reply) (.appended other reply')

/-- Services that do the same on states that are related, whatever the secrets are that they are
given. -/
structure Services.Twin {σ τ : Type} (R : σ → τ → Prop) (services : Services (StateM σ))
    (others : Services (StateM τ)) : Prop where
  exchange : ∀ {request other : FieldList}, request.Veils other →
    Paired FailAlike R Eq (services.exchange request) (others.exchange other)
  appendReceipt : ∀ {receipt other : Receipt}, receipt.timeless = other.timeless →
    Paired FailAlike R Eq (services.appendReceipt receipt) (others.appendReceipt other)
  lastAuthorization? : ∀ payment tenant, Paired FailAlike R Eq
    (services.lastAuthorization? payment tenant) (others.lastAuthorization? payment tenant)
  receipts : ∀ payment tenant, Paired FailAlike R
    (fun receipts others => receipts.map Receipt.timeless = others.map Receipt.timeless)
    (services.receipts payment tenant) (others.receipts payment tenant)
  findMethod? : ∀ id tenant, Paired FailAlike R (Option.Rel PaymentMethod.Veils)
    (services.findMethod? id tenant) (others.findMethod? id tenant)
  findAccount? : ∀ id tenant, Paired FailAlike R Eq
    (services.findAccount? id tenant) (others.findAccount? id tenant)
  now : ∀ s t, R s t → R (services.now s).2 (others.now t).2

variable {σ τ : Type} {R : σ → τ → Prop} {services : Services (StateM σ)}
  {others : Services (StateM τ)}

theorem Services.Twin.observed (twin : services.Twin R others) :
    services.observed.Twin (Noted R Effect.Veils) others.observed where
  exchange h := (twin.exchange h).noting fun _ _ hreply => .cons (.exchanged h hreply) .nil
  appendReceipt h := (twin.appendReceipt h).noting fun _ _ hreply => .cons (.appended h hreply) .nil
  lastAuthorization? payment tenant := (twin.lastAuthorization? payment tenant).silently
  receipts payment tenant := (twin.receipts payment tenant).silently
  findMethod? id tenant := (twin.findMethod? id tenant).silently
  findAccount? id tenant := (twin.findAccount? id tenant).silently
  now s t related := ⟨twin.now s.1 t.1 related.1, related.2⟩

/-! ## Calls -/

namespace Payments

variable {call other : Call}

theorem paired_modification (twin : services.Twin R others) (h : call.Veils other)
    (kind : Modification) :
    Paired FailAlike R PreparedAlike (modification services kind call)
      (modification others kind other) := by
  unfold modification
  rw [h.ids_eq, h.caller_eq]
  refine (twin.lastAuthorization? _ _).bind ?_
  rintro prior _ rfl
  cases prior with
  | none => exact .throw rfl
  | some prior => exact .pure ⟨.same _, rfl⟩

theorem paired_funds (twin : services.Twin R others) (h : call.Veils other) (kind : Movement) :
    Paired FailAlike R PreparedAlike (funds services kind call) (funds others kind other) := by
  unfold funds
  rw [h.ids_eq, h.caller_eq, h.amount_eq, h.kind_eq]
  cases other.amount with
  | none => exact .throw rfl
  | some amount =>
    refine (twin.findAccount? _ _).bind ?_
    rintro account _ rfl
    refine (twin.findMethod? _ _).bind fun stored stored' hstored => ?_
    have hsources : FundsSources.Veils ⟨call.overrides, account, stored⟩
        ⟨other.overrides, account, stored'⟩ := ⟨h.overrides, rfl, hstored⟩
    have hrequest := hsources.request kind amount
    dsimp only
    generalize FundsSources.request ⟨call.overrides, account, stored⟩ kind amount = prepared
      at hrequest ⊢
    generalize FundsSources.request ⟨other.overrides, account, stored'⟩ kind amount = prepared'
      at hrequest ⊢
    cases hrequest with
    | ok hprepared => exact .pure hprepared
    | error hfault =>
      subst hfault
      exact .throw rfl

theorem paired_prepare (twin : services.Twin R others) (h : call.Veils other) :
    Paired FailAlike R PreparedAlike (prepare services call) (prepare others other) := by
  unfold prepare
  rw [h.kind_eq]
  cases other.kind with
  | authorize => exact paired_funds twin h .auth
  | purchase => exact paired_funds twin h .sale
  | credit => exact paired_funds twin h .credit
  | capture => exact paired_modification twin h .capture
  | void => exact paired_modification twin h .void
  | refund => exact .throw rfl

theorem timeless_receipt_eq (h : call.Veils other) (response : FieldList)
    (time time' : Timestamp) :
    (call.receipt response time).timeless = (other.receipt response time').timeless := by
  have hreceipt : ∀ c : Call, (c.receipt response time).timeless =
      (Call.receipt { c with overrides := .empty } response time').timeless := fun _ => rfl
  rw [hreceipt, h.rest]
  rfl

theorem paired_conclude (twin : services.Twin R others) (h : call.Veils other)
    (response : FieldList) :
    Paired FailAlike R (fun o p => o.timeless = p.timeless) (conclude services call response)
      (conclude others other response) := by
  unfold conclude
  refine Paired.bind (Paired.liftM (P := fun _ _ => True)
    fun s t related => ⟨trivial, twin.now s t related⟩) fun time time' _ => ?_
  have hreceipt := timeless_receipt_eq h response time time'
  have houtcome : (call.receipt response time).outcome.timeless =
      (other.receipt response time').outcome.timeless := congrArg Receipt.outcome hreceipt
  refine Paired.bind (Paired.tryCatch (twin.appendReceipt hreceipt) ?_) fun _ _ _ =>
    .pure houtcome
  intro source source' hsource
  refine .throw ?_
  unfold FailAlike Failure.timeless
  rw [houtcome, hsource]

/-- Calls that differ in secrets only come to the same, and leave the same behind. -/
theorem paired_execute (twin : services.Twin R others) {c d : Credentials} (hlogin : c.Veils d)
    (h : call.Veils other) :
    Paired FailAlike R (fun o p => o.timeless = p.timeless) (execute services c call)
      (execute others d other) := by
  unfold execute
  refine (paired_prepare twin h).bind ?_
  rintro ⟨request, token⟩ ⟨request', _⟩ ⟨hrequest, rfl⟩
  refine (twin.exchange (hrequest.fields hlogin h.ids_eq h.caller_eq token)).bind ?_
  rintro response _ rfl
  exact paired_conclude twin h response

theorem paired_history (twin : services.Twin R others) (payment tenant : Uuid) :
    Paired FailAlike R (fun os ps => os.map Outcome.timeless = ps.map Outcome.timeless)
      (history services payment tenant) (history others payment tenant) := by
  unfold history
  refine (twin.receipts payment tenant).bind fun receipts receipts' h => .pure ?_
  have houtcomes := congrArg (List.map Receipt.outcome) h
  rw [List.map_map, List.map_map] at houtcomes ⊢
  exact houtcomes

end Payments

end PaymentGateway
