import PaymentGateway.Proofs.Payments.Credentials
import PaymentGateway.Proofs.Payments.Placeholders
import PaymentGateway.Proofs.Settings.Logins

/-!
# Where empty fields come from

A request holds an empty field exactly where an empty text is kept for it and its caller gives
nothing, or where the name of the user is empty.  An empty credential that is kept is paid with like
any other.
-/

namespace PaymentGateway

open PaymentGateway.Action (perform)

theorem CallKind.eq_refund {kind : CallKind} (hmovement : kind.movement? = none)
    (hmodification : kind.modification? = none) : kind = .refund := by
  cases kind with
  | refund => rfl
  | authorize | purchase | credit => cases hmovement
  | capture | void => cases hmodification

namespace Memory

variable {α γ : Type}

def sources (world : World γ) (call : Call) : FundsSources where
  overrides := call.overrides
  account := world.stores.accounts.find? call.ids.account
  stored := world.stores.methods.find? call.ids.method call.caller.tenant

theorem eq_of_guarded {failure : Option Failure} {look : World γ → α} {world t : World γ} {a : α}
    (h : perform (guarded failure (do return look (← get)) : Action (Step γ) α) world = (.ok a, t)) :
    a = look world ∧ t = world := by
  cases failure with
  | none =>
    cases h
    exact ⟨rfl, rfl⟩
  | some error => cases h

theorem exists_receipt_of_lastAuthorization? {ledger : Ledger} {payment tenant : Uuid}
    {prior : AuthorizationReference} (h : ledger.lastAuthorization? payment tenant = some prior) :
    ∃ receipt : Receipt, receipt.reference? = some prior := by
  obtain ⟨receipt, -, hreference⟩ := Option.bind_eq_some_iff.mp h
  exact ⟨receipt, hreference⟩

/-- The request of a call is drawn from its sources, or modifies what a receipt refers to. -/
theorem drawn_or_modifies {gateway : Gateway γ} {failures : StoreFailures} {call : Call}
    {world t : World γ} {request : Request} {token : Option String}
    (h : perform (Payments.prepare (services gateway failures) call) world =
      (.ok (request, token), t)) :
    (∃ kind amount, call.kind.movement? = some kind ∧
      (sources world call).request kind amount = .ok (request, token)) ∨
    ∃ kind receipt prior, call.kind.movement? = none ∧ Receipt.reference? receipt = some prior ∧
      request = prior.modification kind ∧ token = none := by
  -- A kind moves money, modifies an earlier movement, or is the refund, which prepares nothing.
  cases hmovement : call.kind.movement? with
  | some kind =>
    rw [Payments.prepare_eq_funds hmovement] at h
    obtain ⟨amount, account, stored, u, haccount, hstored, hrequest⟩ :=
      Payments.exists_lookups_of_funds h
    obtain ⟨rfl, rfl⟩ := eq_of_guarded haccount
    obtain ⟨rfl, rfl⟩ := eq_of_guarded hstored
    exact .inl ⟨kind, amount, rfl, hrequest⟩
  | none =>
    cases hmodification : call.kind.modification? with
    | some kind =>
      rw [prepare_eq_modification hmodification] at h
      obtain ⟨prior?, u, hprior, h⟩ := Action.exists_of_perform_bind h
      obtain ⟨hfound, hsame⟩ := eq_of_guarded hprior
      rw [hfound, hsame] at h
      cases hlast : world.stores.ledger.lastAuthorization? call.ids.payment call.caller.tenant with
      | none =>
        rw [hlast] at h
        cases h
      | some prior =>
        rw [hlast] at h
        cases h
        obtain ⟨receipt, hreceipt⟩ := exists_receipt_of_lastAuthorization? hlast
        exact .inr ⟨kind, receipt, prior, rfl, hreceipt, rfl, rfl⟩
    | none =>
      unfold Payments.prepare at h
      rw [CallKind.eq_refund hmovement hmodification] at h
      cases h

/-- The empty fields of a call: those that its sources leave, and the user's. -/
def LeavesEmpty (world : World γ) (call : Call) (field : Field) : Prop :=
  (∃ kind means value, call.kind.movement? = some kind ∧
    Means.chosen? call.overrides (sources world call).stored = some (means, value) ∧
    (sources world call).LeavesEmpty means field) ∨
  field = .enteredBy ∧ call.caller.user = some ""

/-- A request holds an empty value exactly under the names of fields for which an empty text is
kept and its caller gives nothing, and of the user if the user's name is empty. -/
theorem get?_eq_empty_iff_of_exchanged {settings : Settings} (hsettings : settings.check = .ok ())
    {gateway : Gateway γ} {failures : StoreFailures} {call : Call} {world : World γ}
    {request : FieldList} {reply : Except Failure FieldList}
    (hsent : .exchanged request reply ∈
      effectsOf (Payments.execute · settings.credentials call) (services gateway failures) world)
    (name : String) :
    request.get? name = some "" ↔
      ∃ field, name = field.wireName ∧ LeavesEmpty world call field := by
  obtain ⟨hmerchant, hpassword⟩ := Settings.ne_empty_of_check hsettings
  obtain ⟨prepared, token, t, hprepare, rfl⟩ :=
    (Payments.course_execute (services gateway failures) settings.credentials call
      world).exists_prepared hsent
  rw [Request.get?_fields_eq_empty_iff]
  refine exists_congr fun field => and_congr_right fun _ => ?_
  rw [LeavesEmpty]
  -- Only a request that moves money is made of kept texts; a reference holds no empty one.
  rcases drawn_or_modifies hprepare with ⟨kind, amount, hkind, hrequest⟩ |
    ⟨kind, receipt, prior, hkind, hprior, rfl, rfl⟩
  · obtain ⟨means, value, chosen, draws⟩ := FundsSources.exists_draws hrequest
    rw [Request.mem_sentFields_iff hmerchant hpassword, draws.mem_shapeFields_iff chosen]
    refine or_congr_left ⟨fun hempty => ⟨kind, means, value, hkind, chosen, hempty⟩, ?_⟩
    rintro ⟨_, other, _, -, hother, hempty⟩
    cases chosen.symm.trans hother
    exact hempty
  · obtain ⟨htrace, hcode⟩ := Receipt.ne_empty_of_reference? hprior
    rw [prior.mem_sentFields_iff htrace hcode hmerchant hpassword, hkind]
    simp

def merchantSettings : Settings := ⟨"merchant", "secret", "localhost", 6050, true, 10, 60⟩

def emptyTokenWorld : World Unit :=
  { emptyWorld with stores := { Stores.empty with methods := ⟨[{ token := some "" }]⟩ } }

theorem get?_eq_empty_iff_of_exchanged_emptyToken : ∃ request reply,
    .exchanged request reply ∈ effectsOf
      (Payments.execute · merchantSettings.credentials Payments.cardPurchase) (services approving)
      emptyTokenWorld ∧
    request.get? "pg_payment_method_id" = some "" := by
  have hsent : ∃ request reply, .exchanged request reply ∈ effectsOf
      (Payments.execute · merchantSettings.credentials Payments.cardPurchase) (services approving)
      emptyTokenWorld := ⟨_, _, List.mem_cons_self⟩
  obtain ⟨request, reply, hsent⟩ := hsent
  have hempty := get?_eq_empty_iff_of_exchanged (by decide) hsent "pg_payment_method_id"
  refine ⟨request, reply, hsent, hempty.mpr ⟨.paymentMethodId, rfl, .inl ?_⟩⟩
  exact ⟨.sale, .token, "", rfl, rfl, .inr ⟨_, List.mem_cons_self, rfl, rfl, rfl⟩⟩

/-- An empty token that is kept is paid with, although the caller gives a card number. -/
theorem displaces_card_of_emptyToken : ∃ request reply,
    merchantSettings.check = .ok () ∧
    .exchanged request reply ∈ effectsOf
      (Payments.execute · merchantSettings.credentials Payments.cardPurchase) (services approving)
      emptyTokenWorld ∧
    Payments.cardPurchase.overrides.visible? "ccNumber" = some "4111111111111111" ∧
    request.get? "pg_payment_method_id" = some "" ∧
    request.get? "ecom_payment_card_number" = none :=
  ⟨_, _, by decide, List.mem_cons_self, rfl, by decide, by decide⟩

end Memory

end PaymentGateway
