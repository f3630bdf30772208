import PaymentGateway.Proofs.Payments.Course
import PaymentGateway.Proofs.Payments.References
import PaymentGateway.Proofs.Request.Fields

/-!
# What a request pays with

A request that moves money carries one credential: a token before a card number before a bank
account number, each as the caller or else the stored payment method gives it.  It describes no
other instrument, and its transaction code is that of the instrument it pays with.
-/

namespace PaymentGateway

open PaymentGateway.Action (perform)

/-! ## Means of payment -/

inductive Means where
  | token
  | card
  | account
  deriving DecidableEq, Repr

/-- The property that a caller gives under a name, if it is not blank. -/
def Overrides.visible? (overrides : Overrides) (name : String) : Option String :=
  (overrides.values.get? name).filter fun value => !Text.isBlankText value

namespace Means

/-- The means of payment, in their order of precedence. -/
def all : List Means := [.token, .card, .account]

def field : Means → Field
  | .token => .paymentMethodId
  | .card => .cardNumber
  | .account => .checkAccount

def given? (overrides : Overrides) (stored : Option PaymentMethod) : Means → Option String
  | .token => (overrides.visible? "token").or (stored.bind (·.token))
  | .card => (overrides.visible? "ccNumber").or (stored.bind (·.cardNumber))
  | .account => (overrides.visible? "accountNumber").or (stored.bind (·.accountNumber))

def chosen? (overrides : Overrides) (stored : Option PaymentMethod) : Option (Means × String) :=
  all.findSome? fun means => (means.given? overrides stored).map fun value => (means, value)

/-- Whether a payment counts as one by card. -/
def isCard (overrides : Overrides) (stored : Option PaymentMethod) : Means → Bool
  | .token => (stored.bind (·.cardType)).isSome || (overrides.visible? "ccType").isSome
  | .card => true
  | .account => false

def tender (value : String) : Means → Tender
  | .token => .token value
  | .card => .cardNumber value
  | .account => .accountNumber value

end Means

def movementCode : Movement → (isCard : Bool) → String
  | .sale, true => "10"
  | .auth, true => "11"
  | .credit, true => "13"
  | .sale, false => "20"
  | .auth, false => "21"
  | .credit, false => "23"

/-- A request that pays with one credential and describes no other instrument. -/
structure PaidWith (request : FieldList) (kind : Movement) (overrides : Overrides)
    (stored : Option PaymentMethod) (means : Means) (value : String) : Prop where
  chosen : Means.chosen? overrides stored = some (means, value)
  credential : ∀ other : Means,
    request.field? other.field = if other = means then some value else none
  noCard : means ≠ .card → ∀ field ∈ Request.cardCatalog, request.field? field = none
  noAccount : means ≠ .account → ∀ field ∈ Request.accountCatalog, request.field? field = none
  transactionType : request.field? .transactionType =
    some (movementCode kind (means.isCard overrides stored))

/-! ## The choice of a means -/

theorem Overrides.named?_eq (overrides : Overrides) (name : String) :
    overrides.named? name = overrides.visible? name := by
  rw [named?, visible?]
  cases overrides.values.get? name with
  | none => rfl
  | some value => cases h : Text.isBlankText value <;> simp [h, Option.filter_some]

theorem Tender.resolve_eq (overrides : Overrides) (stored : Option PaymentMethod) :
    resolve overrides stored =
      match Means.chosen? overrides stored with
      | some (means, value) => means.tender value
      | none => .nothing := by
  simp only [resolve, Overrides.resolve, Overrides.resolveNamed, Overrides.named?_eq,
    Means.chosen?, Means.all, List.findSome?_cons, List.findSome?_nil, Means.given?, Property.name]
  cases (overrides.visible? "token").or (stored.bind (·.token)) with
  | some token => rfl
  | none =>
    cases (overrides.visible? "ccNumber").or (stored.bind (·.cardNumber)) with
    | some number => rfl
    | none =>
      cases (overrides.visible? "accountNumber").or (stored.bind (·.accountNumber)) <;> rfl

theorem FundsSources.tokenIsCard_eq (s : FundsSources) :
    s.tokenIsCard = Means.token.isCard s.overrides s.stored := by
  rw [tokenIsCard, Means.isCard, Overrides.get?, Overrides.named?_eq]
  rfl

/-! ## The request of a movement -/

/-- What a movement sends for each means of payment: its request and the token of the overlay. -/
inductive Shaped (s : FundsSources) (kind : Movement) (amount : Decimal) :
    Means → String → Request → Option String → Prop
  | cardToken (value : String) (h : s.tokenIsCard = true) :
      Shaped s kind amount .token value (.card kind amount s.payer none) (some value)
  | accountToken (value : String) (h : s.tokenIsCard = false) :
      Shaped s kind amount .token value (.eft kind amount s.payer none) (some value)
  | card (card : Card) :
      Shaped s kind amount .card card.number (.card kind amount s.payer (some card)) none
  | account (account : BankAccount) :
      Shaped s kind amount .account account.number (.eft kind amount s.payer (some account)) none

namespace FundsSources

inductive Draws (s : FundsSources) (kind : Movement) (amount : Decimal) (value : String) :
    Means → Request → Option String → Prop
  | cardToken (h : s.tokenIsCard = true) :
      Draws s kind amount value .token (.card kind amount s.payer none) (some value)
  | accountToken (h : s.tokenIsCard = false) :
      Draws s kind amount value .token (.eft kind amount s.payer none) (some value)
  | card (network : Option CardNetwork) :
      Draws s kind amount value .card
        (.card kind amount s.payer (some ⟨value, s.holderName, network,
          s.ofMethod .cardExpirationMonth (·.cardExpirationMonth),
          s.ofMethod .cardExpirationYear (·.cardExpirationYear)⟩)) none
  | account (accountKind : Option AccountKind) :
      Draws s kind amount value .account
        (.eft kind amount s.payer (some ⟨value, s.ofMethod .routingNumber (·.routingNumber),
          accountKind⟩)) none

theorem exists_draws {s : FundsSources} {kind : Movement} {amount : Decimal} {request : Request}
    {token : Option String} (h : s.request kind amount = .ok (request, token)) :
    ∃ means value, Means.chosen? s.overrides s.stored = some (means, value) ∧
      s.Draws kind amount value means request token := by
  rw [FundsSources.request, Tender.resolve_eq] at h
  rcases hchosen : Means.chosen? s.overrides s.stored with _ | ⟨means, value⟩ <;>
    rw [hchosen] at h
  · cases h
  · refine ⟨means, value, rfl, ?_⟩
    -- A token pays for a card or for an account, by what the caller says of it; a number pays for
    -- its own.
    cases means with
    | token =>
      dsimp only [Means.tender] at h
      cases hcard : s.tokenIsCard <;> rw [hcard] at h <;> cases h
      · exact .accountToken hcard
      · exact .cardToken hcard
    | card =>
      dsimp only [Means.tender, card] at h
      cases hread : readOptional CardNetwork.read (s.ofMethod .cardType (·.cardType)) <;>
        rw [hread] at h <;> cases h
      exact .card _
    | account =>
      dsimp only [Means.tender, bankAccount] at h
      cases hread : readOptional AccountKind.read (s.ofMethod .accountType (·.accountType)) <;>
        rw [hread] at h <;> cases h
      exact .account _

end FundsSources

/-- What is drawn, whatever else there is of a card or an account. -/
theorem FundsSources.Draws.shaped {s : FundsSources} {kind : Movement} {amount : Decimal}
    {means : Means} {value : String} {request : Request} {token : Option String}
    (draws : s.Draws kind amount value means request token) :
    Shaped s kind amount means value request token := by
  cases draws with
  | cardToken h => exact .cardToken value h
  | accountToken h => exact .accountToken value h
  | card network => exact .card ⟨value, _, network, _, _⟩
  | account accountKind => exact .account ⟨value, _, accountKind⟩

theorem exists_shaped {s : FundsSources} {kind : Movement} {amount : Decimal} {request : Request}
    {token : Option String} (h : s.request kind amount = .ok (request, token)) :
    ∃ means value, Means.chosen? s.overrides s.stored = some (means, value) ∧
      Shaped s kind amount means value request token := by
  obtain ⟨means, value, chosen, draws⟩ := FundsSources.exists_draws h
  exact ⟨means, value, chosen, draws.shaped⟩

theorem movementCode_eq (kind : Movement) (isCard : Bool) :
    movementCode kind isCard = TransactionType.code ⟨if isCard then .card else .eft, kind.action⟩ := by
  cases kind <;> cases isCard <;> rfl

theorem Shaped.code_eq {s : FundsSources} {kind : Movement} {amount : Decimal} {means : Means}
    {value : String} {request : Request} {token : Option String}
    (shaped : Shaped s kind amount means value request token) :
    request.transactionType.code = movementCode kind (means.isCard s.overrides s.stored) := by
  rw [movementCode_eq]
  cases shaped with
  | cardToken value h =>
    rw [← FundsSources.tokenIsCard_eq, h]
    rfl
  | accountToken value h =>
    rw [← FundsSources.tokenIsCard_eq, h]
    rfl
  | card card => rfl
  | account account => rfl

theorem Shaped.paidWith {s : FundsSources} {kind : Movement} {amount : Decimal} {means : Means}
    {value : String} {request : Request} {token : Option String}
    (chosen : Means.chosen? s.overrides s.stored = some (means, value))
    (shaped : Shaped s kind amount means value request token) (credentials : Credentials)
    (call : Call) :
    PaidWith (request.fields credentials (call.overlay token)) kind s.overrides s.stored means
      value where
  chosen := chosen
  credential other := by
    rw [Request.field?_fields_of_instrument (by cases other <;> decide)]
    -- Each shape has the field of its own credential and not those of the two others.
    cases shaped <;> cases other <;>
      simp [Request.instrumentFields, Request.cardFields, Request.accountFields, Means.field,
        List.lookup_append]
  noCard hmeans field hfield := by
    rw [Request.field?_fields_of_instrument (by simp [hfield])]
    simp only [Request.cardCatalog, List.mem_cons, List.not_mem_nil, or_false] at hfield
    cases shaped <;> rcases hfield with rfl | rfl | rfl | rfl | rfl <;>
      simp [Request.instrumentFields, Request.accountFields, List.lookup_append] at hmeans ⊢
  noAccount hmeans field hfield := by
    rw [Request.field?_fields_of_instrument (by simp [hfield])]
    simp only [Request.accountCatalog, List.mem_cons, List.not_mem_nil, or_false] at hfield
    cases shaped <;> rcases hfield with rfl | rfl | rfl <;>
      simp [Request.instrumentFields, Request.cardFields, List.lookup_append] at hmeans ⊢
  transactionType := by
    rw [Request.field?_transactionType, shaped.code_eq]

end PaymentGateway
