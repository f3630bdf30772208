import PaymentGateway.Proofs.Memory.Execution
import PaymentGateway.Proofs.Payments.Pairs
import PaymentGateway.Proofs.Request.Secrets

/-!
# Calls that differ in secrets only

A card or bank account number comes from the caller or from the stored payment method, and goes into
the request alone.  So two calls that differ in such numbers send the same request but for them, and
with the same reply they come to the same.
-/

namespace PaymentGateway

/-! ## Where numbers come from -/

def secretProperties : List String := ["ccNumber", "accountNumber"]

/-- Two sets of properties that differ at most in secrets that are there in both. -/
structure Overrides.Veils (o p : Overrides) : Prop where
  rest : ∀ name, name ∉ secretProperties → o.values.get? name = p.values.get? name
  secret : ∀ name ∈ secretProperties, Option.Rel Veiled (o.values.get? name) (p.values.get? name)

def PaymentMethod.unnumbered (record : PaymentMethod) : PaymentMethod :=
  { record with cardNumber := none, accountNumber := none }

structure PaymentMethod.Veils (record other : PaymentMethod) : Prop where
  rest : record.unnumbered = other.unnumbered
  cardNumber : Option.Rel Veiled record.cardNumber other.cardNumber
  accountNumber : Option.Rel Veiled record.accountNumber other.accountNumber

structure Call.Veils (call other : Call) : Prop where
  rest : { call with overrides := .empty } = { other with overrides := .empty }
  overrides : call.overrides.Veils other.overrides

namespace Call.Veils

variable {call other : Call}

theorem kind_eq (h : call.Veils other) : call.kind = other.kind :=
  (congrArg Call.kind h.rest :)

theorem ids_eq (h : call.Veils other) : call.ids = other.ids :=
  (congrArg Call.ids h.rest :)

theorem amount_eq (h : call.Veils other) : call.amount = other.amount :=
  (congrArg Call.amount h.rest :)

theorem caller_eq (h : call.Veils other) : call.caller = other.caller :=
  (congrArg Call.caller h.rest :)

end Call.Veils

structure FundsSources.Veils (s t : FundsSources) : Prop where
  overrides : s.overrides.Veils t.overrides
  account : s.account = t.account
  stored : Option.Rel PaymentMethod.Veils s.stored t.stored

theorem rel_or {α β : Type} {R : α → β → Prop} {a c : Option α} {b d : Option β}
    (h : Option.Rel R a b) (h' : Option.Rel R c d) : Option.Rel R (a.or c) (b.or d) := by
  cases h with
  | some h => exact .some h
  | none => exact h'

namespace Overrides.Veils

variable {o p : Overrides}

theorem get?_eq (h : o.Veils p) {property : Property} (hname : property.name ∉ secretProperties) :
    o.get? property = p.get? property := by
  rw [get?, get?, named?, named?, h.rest _ hname]

theorem resolve_eq (h : o.Veils p) (property : Property)
    (hname : property.name ∉ secretProperties) (stored : Option String) :
    o.resolve property stored = p.resolve property stored :=
  congrArg (·.or stored) (h.get?_eq hname)

theorem rel_named? (h : o.Veils p) {name : String} (hname : name ∈ secretProperties) :
    Option.Rel Veiled (o.named? name) (p.named? name) := by
  have hvalue := h.secret name hname
  unfold named?
  generalize o.values.get? name = value at hvalue ⊢
  generalize p.values.get? name = other at hvalue ⊢
  cases hvalue with
  | none => exact .none
  | some h =>
    dsimp only
    rw [h.isBlankText_eq]
    split
    · exact .none
    · exact .some h

theorem rel_resolve (h : o.Veils p) (property : Property)
    (hname : property.name ∈ secretProperties) {stored other : Option String}
    (hstored : Option.Rel Veiled stored other) :
    Option.Rel Veiled (o.resolve property stored) (p.resolve property other) :=
  rel_or (h.rel_named? hname) hstored

end Overrides.Veils

theorem Overrides.Veils.refl (overrides : Overrides) : overrides.Veils overrides :=
  ⟨fun _ _ => rfl, fun _ _ => rel_veiled_refl _⟩

theorem Overrides.veils_set (overrides : Overrides) {name text other : String}
    (hname : name ∈ secretProperties) (h : Veiled text other) :
    (overrides.set name text).Veils (overrides.set name other) where
  rest property hproperty := by
    have hother : ¬ name = property := fun e => hproperty (e ▸ hname)
    rw [set, set, FieldList.get?_insert, FieldList.get?_insert, if_neg hother, if_neg hother]
  secret property _ := by
    rw [set, set, FieldList.get?_insert, FieldList.get?_insert]
    split
    · exact .some h
    · exact rel_veiled_refl _

/-! ## The request of a movement -/

/-- Requests that differ in secrets only, paid with the same token if with any. -/
def PreparedAlike (prepared other : Request × Option String) : Prop :=
  prepared.1.Veils other.1 ∧ prepared.2 = other.2

namespace FundsSources.Veils

variable {s t : FundsSources}

theorem stored_eq (h : s.Veils t) {pick : PaymentMethod → Option String}
    (hpick : ∀ record, pick record.unnumbered = pick record) :
    s.stored.bind pick = t.stored.bind pick := by
  have hstored := h.stored
  generalize s.stored = stored at hstored ⊢
  generalize t.stored = other at hstored ⊢
  cases hstored with
  | none => rfl
  | @some record other hveils =>
    show pick record = pick other
    rw [← hpick, hveils.rest, hpick]

theorem ofMethod_eq (h : s.Veils t) (property : Property)
    (hname : property.name ∉ secretProperties) {pick : PaymentMethod → Option String}
    (hpick : ∀ record, pick record.unnumbered = pick record) :
    s.ofMethod property pick = t.ofMethod property pick := by
  rw [ofMethod, ofMethod, h.stored_eq hpick, h.overrides.resolve_eq property hname]

theorem ofAccount_eq (h : s.Veils t) (property : Property)
    (hname : property.name ∉ secretProperties) (pick : Account → Option String) :
    s.ofAccount property pick = t.ofAccount property pick := by
  rw [ofAccount, ofAccount, h.account, h.overrides.resolve_eq property hname]

theorem payer_eq (h : s.Veils t) : s.payer = t.payer := by
  unfold payer
  rw [h.ofAccount_eq .firstName (by decide), h.ofAccount_eq .lastName (by decide),
    h.ofAccount_eq .phone (by decide), h.ofAccount_eq .email (by decide),
    h.ofMethod_eq .address (by decide) fun _ => rfl, h.ofMethod_eq .state (by decide) fun _ => rfl,
    h.ofMethod_eq .zip (by decide) fun _ => rfl]

theorem holderName_eq (h : s.Veils t) : s.holderName = t.holderName := by
  unfold holderName
  rw [h.ofMethod_eq .cardFirstName (by decide) fun _ => rfl,
    h.ofMethod_eq .cardLastName (by decide) fun _ => rfl]

theorem tokenIsCard_eq (h : s.Veils t) : s.tokenIsCard = t.tokenIsCard := by
  rw [tokenIsCard, tokenIsCard, h.stored_eq fun _ => rfl, h.overrides.get?_eq (by decide)]

theorem rel_stored (h : s.Veils t) {pick : PaymentMethod → Option String}
    (hpick : ∀ record other : PaymentMethod, record.Veils other →
      Option.Rel Veiled (pick record) (pick other)) :
    Option.Rel Veiled (s.stored.bind pick) (t.stored.bind pick) := by
  have hstored := h.stored
  generalize s.stored = stored at hstored ⊢
  generalize t.stored = other at hstored ⊢
  cases hstored with
  | none => exact .none
  | some hveils => exact hpick _ _ hveils

theorem card (h : s.Veils t) {number other : String} (hnumber : Veiled number other) :
    Matched Eq (fun a b => b = { a with number := other } ∧ Veiled a.number other)
      (s.card number) (t.card other) := by
  unfold FundsSources.card
  rw [h.holderName_eq, h.ofMethod_eq .cardType (by decide) fun _ => rfl,
    h.ofMethod_eq .cardExpirationMonth (by decide) fun _ => rfl,
    h.ofMethod_eq .cardExpirationYear (by decide) fun _ => rfl]
  cases readOptional CardNetwork.read (t.ofMethod .cardType (·.cardType)) with
  | error fault => exact .error rfl
  | ok network => exact .ok ⟨rfl, hnumber⟩

theorem bankAccount (h : s.Veils t) {number other : String} (hnumber : Veiled number other) :
    Matched Eq (fun a b => b = { a with number := other } ∧ Veiled a.number other)
      (s.bankAccount number) (t.bankAccount other) := by
  unfold FundsSources.bankAccount
  rw [h.ofMethod_eq .routingNumber (by decide) fun _ => rfl,
    h.ofMethod_eq .accountType (by decide) fun _ => rfl]
  cases readOptional AccountKind.read (t.ofMethod .accountType (·.accountType)) with
  | error fault => exact .error rfl
  | ok kind => exact .ok ⟨rfl, hnumber⟩

theorem request (h : s.Veils t) (kind : Movement) (amount : Decimal) :
    Matched Eq PreparedAlike (s.request kind amount) (t.request kind amount) := by
  have htoken := h.overrides.resolve_eq .token (by decide)
  have hcard := h.overrides.rel_resolve .cardNumber (by decide)
    (h.rel_stored fun _ _ hveils => hveils.cardNumber)
  have haccount := h.overrides.rel_resolve .accountNumber (by decide)
    (h.rel_stored fun _ _ hveils => hveils.accountNumber)
  unfold FundsSources.request Tender.resolve
  rw [htoken, h.stored_eq fun _ => rfl, h.tokenIsCard_eq, h.payer_eq]
  -- The token decides first, and is no secret; then a number is there on both sides or on neither.
  cases t.overrides.resolve .token (t.stored.bind (·.token)) with
  | some token => exact .ok ⟨.same _, rfl⟩
  | none =>
    dsimp only
    generalize s.overrides.resolve .cardNumber (s.stored.bind (·.cardNumber)) = number at hcard ⊢
    generalize t.overrides.resolve .cardNumber (t.stored.bind (·.cardNumber)) = other at hcard ⊢
    cases hcard with
    | some hnumber =>
      dsimp only
      refine (h.card hnumber).map ?_
      rintro a b ⟨rfl, ha⟩
      exact ⟨.card ha, rfl⟩
    | none =>
      dsimp only
      generalize s.overrides.resolve .accountNumber (s.stored.bind (·.accountNumber)) = number
        at haccount ⊢
      generalize t.overrides.resolve .accountNumber (t.stored.bind (·.accountNumber)) = other
        at haccount ⊢
      cases haccount with
      | some hnumber =>
        dsimp only
        refine (h.bankAccount hnumber).map ?_
        rintro a b ⟨rfl, ha⟩
        exact ⟨.account ha, rfl⟩
      | none => exact .error rfl

end FundsSources.Veils

end PaymentGateway
