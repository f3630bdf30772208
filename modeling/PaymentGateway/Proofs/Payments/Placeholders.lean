import PaymentGateway.Proofs.Account.Names
import PaymentGateway.Proofs.Payments.References
import PaymentGateway.Proofs.Payments.Means
import PaymentGateway.Proofs.Text.SingleLine

/-!
# Empty values in requests

Neither an override nor what a request computes for itself is ever empty.  What is kept with an
account or a payment method counts as it is, also if it is empty, and so does the name of the user.
-/

namespace PaymentGateway

/-! ## Texts that are never empty -/

theorem Overrides.visible?_ne_empty (overrides : Overrides) (name : String) :
    overrides.visible? name ≠ some "" := by
  intro h
  obtain ⟨-, hvisible⟩ := Option.filter_eq_some_iff.mp h
  exact absurd hvisible (by decide)

theorem Account.visible?_ne_empty (cs : List Char) : visible? cs ≠ some "" := by
  intro h
  exact ((visible?_eq_some_iff cs "").mp h).1 rfl

theorem Account.firstName_ne_empty (a : Account) : a.firstName ≠ some "" := by
  unfold firstName
  cases a.firstNameLength with
  | none => exact nofun
  | some length => exact visible?_ne_empty _

theorem Account.lastName_ne_empty (a : Account) : a.lastName ≠ some "" :=
  visible?_ne_empty _

theorem Uuid.toText_ne_empty (u : Uuid) : u.toText ≠ "" := by
  intro h
  have hchars : u.toChars = [] := by
    rw [← String.toList_ofList (l := u.toChars)]
    exact congrArg String.toList h
  simp [toChars] at hchars

theorem Receipt.nonEmpty?_ne_empty (receipt : Receipt) (field : Field) :
    receipt.nonEmpty? field ≠ some "" := by
  intro h
  obtain ⟨-, hne⟩ := Option.filter_eq_some_iff.mp h
  exact absurd hne (by decide)

theorem Receipt.ne_empty_of_reference? {receipt : Receipt} {prior : AuthorizationReference}
    (h : receipt.reference? = some prior) :
    prior.traceNumber ≠ "" ∧ prior.authorizationCode ≠ some "" := by
  obtain ⟨trace, htrace, rfl⟩ := Option.map_eq_some_iff.mp h
  refine ⟨?_, receipt.nonEmpty?_ne_empty _⟩
  rintro rfl
  exact receipt.nonEmpty?_ne_empty _ htrace

/-! ## Texts that are kept -/

/-- What is kept for a field, and the property that overrides it. -/
structure Kept where
  field : Field
  property : Property
  text : Option String

/-- An empty text is kept, and the caller gives nothing in its place. -/
def Kept.IsEmpty (overrides : Overrides) (kept : Kept) : Prop :=
  overrides.visible? kept.property.name = none ∧ kept.text = some ""

def Kept.IsAbsent (overrides : Overrides) (kept : Kept) : Prop :=
  overrides.visible? kept.property.name = none ∧ kept.text = none

def Means.kept (stored : Option PaymentMethod) : Means → Kept
  | .token => ⟨.paymentMethodId, .token, stored.bind (·.token)⟩
  | .card => ⟨.cardNumber, .cardNumber, stored.bind (·.cardNumber)⟩
  | .account => ⟨.checkAccount, .accountNumber, stored.bind (·.accountNumber)⟩

theorem Overrides.resolve_eq_empty_iff (overrides : Overrides) (property : Property)
    (stored : Option String) :
    overrides.resolve property stored = some "" ↔
      overrides.visible? property.name = none ∧ stored = some "" := by
  rw [resolve, resolveNamed, named?_eq]
  cases hvisible : overrides.visible? property.name with
  | none => simp
  | some value =>
    have hne : value ≠ "" := by
      rintro rfl
      exact overrides.visible?_ne_empty _ hvisible
    simp [hne]

namespace FundsSources

/-- What is kept for every request that moves money, the names of the payer aside. -/
def kept (s : FundsSources) : List Kept :=
  [⟨.billToStreetLine1, .address, s.stored.bind (·.address)⟩,
    ⟨.billToState, .state, s.stored.bind (·.state)⟩,
    ⟨.billToPostalCode, .zip, s.stored.bind (·.zip)⟩,
    ⟨.billToPhone, .phone, s.account.bind (·.phone)⟩,
    ⟨.billToEmail, .email, s.account.bind (·.email)⟩]

def keptFor (s : FundsSources) : Means → List Kept
  | .token => [Means.token.kept s.stored]
  | .card =>
      [Means.card.kept s.stored,
        ⟨.cardExpMonth, .cardExpirationMonth, s.stored.bind (·.cardExpirationMonth)⟩,
        ⟨.cardExpYear, .cardExpirationYear, s.stored.bind (·.cardExpirationYear)⟩]
  | .account =>
      [⟨.checkTrn, .routingNumber, s.stored.bind (·.routingNumber)⟩,
        Means.account.kept s.stored]

def HolderIsEmpty (s : FundsSources) : Prop :=
  let first : Kept := ⟨.cardName, .cardFirstName, s.stored.bind (·.cardFirstName)⟩
  let last : Kept := ⟨.cardName, .cardLastName, s.stored.bind (·.cardLastName)⟩
  first.IsEmpty s.overrides ∧ last.IsAbsent s.overrides ∨
    first.IsAbsent s.overrides ∧ last.IsEmpty s.overrides

/-- The fields that are sent empty because of what is kept. -/
def LeavesEmpty (s : FundsSources) (means : Means) (field : Field) : Prop :=
  (means = .card ∧ field = .cardName ∧ s.HolderIsEmpty) ∨
    ∃ kept ∈ s.keptFor means ++ s.kept, field = kept.field ∧ kept.IsEmpty s.overrides

/-! ## What is sent empty -/

theorem ofMethod_eq_empty_iff (s : FundsSources) (property : Property)
    (pick : PaymentMethod → Option String) :
    s.ofMethod property pick = some "" ↔
      s.overrides.visible? property.name = none ∧ s.stored.bind pick = some "" :=
  s.overrides.resolve_eq_empty_iff property _

theorem ofAccount_eq_empty_iff (s : FundsSources) (property : Property)
    (pick : Account → Option String) :
    s.ofAccount property pick = some "" ↔
      s.overrides.visible? property.name = none ∧ s.account.bind pick = some "" :=
  s.overrides.resolve_eq_empty_iff property _

theorem ofAccount_ne_empty {pick : Account → Option String} (h : ∀ a, pick a ≠ some "")
    (s : FundsSources) (property : Property) : s.ofAccount property pick ≠ some "" := by
  rw [Ne, ofAccount_eq_empty_iff]
  rintro ⟨-, hkept⟩
  obtain ⟨a, -, ha⟩ := Option.bind_eq_some_iff.mp hkept
  exact h a ha

theorem mem_present {field other : Field} {value : Option String} {text : String} :
    (other, text) ∈ Request.present field value ↔ other = field ∧ value = some text := by
  cases value with
  | none => simp [Request.present]
  | some kept => simp [Request.present, eq_comm]

/-- The fields of every request that moves money are empty where what is kept is. -/
theorem mem_fundsFields_iff (s : FundsSources) (amount : Decimal) (field : Field) :
    (field, "") ∈ Request.fundsFields amount s.payer ↔
      ∃ kept ∈ s.kept, field = kept.field ∧ kept.IsEmpty s.overrides := by
  have hfirst := s.ofAccount_ne_empty Account.firstName_ne_empty .firstName
  have hlast := s.ofAccount_ne_empty Account.lastName_ne_empty .lastName
  have hamount := amount.moneyText_ne_empty.symm
  simp [Request.fundsFields, payer, kept, mem_present, Kept.IsEmpty, ofMethod_eq_empty_iff,
    ofAccount_eq_empty_iff, hfirst, hlast, hamount]

theorem ofMethod_eq_none_iff (s : FundsSources) (property : Property)
    (pick : PaymentMethod → Option String) :
    s.ofMethod property pick = none ↔
      s.overrides.visible? property.name = none ∧ s.stored.bind pick = none := by
  rw [ofMethod, Overrides.resolve, Overrides.resolveNamed, Overrides.named?_eq, Option.or_eq_none_iff]

/-- A card holder is named by nothing only if the one name that is there is empty, for two names
stand apart. -/
theorem holderName_eq_empty_iff (s : FundsSources) :
    s.holderName = some "" ↔ s.HolderIsEmpty := by
  have hnames : s.holderName = some "" ↔
      s.ofMethod .cardFirstName (·.cardFirstName) = some "" ∧
          s.ofMethod .cardLastName (·.cardLastName) = none ∨
        s.ofMethod .cardFirstName (·.cardFirstName) = none ∧
          s.ofMethod .cardLastName (·.cardLastName) = some "" := by
    unfold holderName
    cases s.ofMethod .cardFirstName (·.cardFirstName) <;>
      cases s.ofMethod .cardLastName (·.cardLastName) <;> simp
  rw [hnames, ofMethod_eq_empty_iff, ofMethod_eq_empty_iff, ofMethod_eq_none_iff,
    ofMethod_eq_none_iff]
  rfl

end FundsSources

/-! ## The instrument of a request -/

theorem Means.given?_eq_resolve (overrides : Overrides) (stored : Option PaymentMethod)
    (means : Means) :
    means.given? overrides stored =
      overrides.resolve (means.kept stored).property (means.kept stored).text := by
  cases means <;> rw [given?, Overrides.resolve, Overrides.resolveNamed, Overrides.named?_eq] <;> rfl

/-- The chosen credential is empty where the one that is kept is. -/
theorem Means.eq_empty_iff_of_chosen? {overrides : Overrides} {stored : Option PaymentMethod}
    {means : Means} {value : String} (h : chosen? overrides stored = some (means, value)) :
    value = "" ↔ (means.kept stored).IsEmpty overrides := by
  obtain ⟨other, -, hother⟩ := List.exists_of_findSome?_eq_some h
  obtain ⟨text, hgiven, hpair⟩ := Option.map_eq_some_iff.mp hother
  cases hpair
  rw [given?_eq_resolve] at hgiven
  rw [Kept.IsEmpty, ← overrides.resolve_eq_empty_iff, hgiven, Option.some_inj]

namespace FundsSources

/-- The fields of an instrument are empty where what is kept for it is. -/
theorem Draws.mem_instrument_iff {s : FundsSources} {kind : Movement} {amount : Decimal}
    {means : Means} {value : String} {request : Request} {token : Option String}
    (chosen : Means.chosen? s.overrides s.stored = some (means, value))
    (draws : s.Draws kind amount value means request token) (field : Field) :
    (field, "") ∈ request.instrumentFields ++ Request.present .paymentMethodId token ↔
      (means = .card ∧ field = .cardName ∧ s.HolderIsEmpty) ∨
        ∃ kept ∈ s.keptFor means, field = kept.field ∧ kept.IsEmpty s.overrides := by
  have hvalue := Means.eq_empty_iff_of_chosen? chosen
  -- A code is never empty; every other field is empty exactly if what is drawn for it is.
  cases draws with
  | cardToken | accountToken =>
    simp [Request.instrumentFields, mem_present, keptFor, Means.kept, hvalue]
  | card network =>
    have hnetwork : network.map CardNetwork.code ≠ some "" := by
      cases network <;> simp [CardNetwork.code_ne_empty]
    simp [Request.instrumentFields, Request.cardFields, mem_present, keptFor, Means.kept,
      eq_comm.trans hvalue, hnetwork, holderName_eq_empty_iff, ofMethod_eq_empty_iff, Kept.IsEmpty]
  | account accountKind =>
    have hkind : accountKind.map AccountKind.code ≠ some "" := by
      cases accountKind <;> simp [AccountKind.code_ne_empty]
    simp [Request.instrumentFields, Request.accountFields, mem_present, keptFor, Means.kept,
      eq_comm.trans hvalue, hkind, ofMethod_eq_empty_iff, Kept.IsEmpty]

end FundsSources

/-! ## A whole request -/

namespace Request

theorem mem_identifyingPairs_iff (ids : Identifiers) (caller : Caller) (field : Field) :
    (field, "") ∈ identifyingPairs ids caller ↔ field = .enteredBy ∧ caller.user = some "" := by
  have hids (u : Uuid) : "" ≠ u.toText := u.toText_ne_empty.symm
  have huser : caller.user.getD softwareName = "" ↔ caller.user = some "" := by
    cases caller.user <;> simp [softwareName]
  simp [identifyingPairs, hids, ← huser, softwareName, softwareVersion]

/-- The empty fields of a request with a login: those of its shape, the token and the user. -/
theorem mem_sentFields_iff {credentials : Credentials} (hmerchant : credentials.merchantId ≠ "")
    (hpassword : credentials.password ≠ "") (request : Request) (ids : Identifiers)
    (caller : Caller) (token : Option String) (field : Field) :
    (field, "") ∈ request.sentFields credentials ids caller token ↔
      (field, "") ∈ request.shapeFields ++ present .paymentMethodId token ∨
        field = .enteredBy ∧ caller.user = some "" := by
  have hcode := request.transactionType.code_ne_empty
  have hlogin : (field, "") ∈ request.computedFields credentials ↔
      (field, "") ∈ request.shapeFields := by
    simp [computedFields, hmerchant.symm, hpassword.symm, hcode.symm]
  rw [sentFields, List.mem_append, List.mem_append, List.mem_append, mem_identifyingPairs_iff,
    hlogin]
  exact or_right_comm

/-- A field list holds an empty value under the names of its empty fields. -/
theorem get?_fields_eq_empty_iff (credentials : Credentials) (request : Request) (call : Call)
    (token : Option String) (name : String) :
    (request.fields credentials (call.overlay token)).get? name = some "" ↔
      ∃ field, name = field.wireName ∧
        (field, "") ∈ request.sentFields credentials call.ids call.caller token := by
  rw [FieldList.get?, Entries.get?_eq_some_iff (FieldList.nodup_names _), entries_fields,
    List.mem_map]
  constructor
  · rintro ⟨⟨field, value⟩, hmem, hentry⟩
    cases hentry
    exact ⟨field, rfl, hmem⟩
  · rintro ⟨field, rfl, hmem⟩
    exact ⟨(field, ""), hmem, rfl⟩

end Request

/-- The shape of a request that moves money has the empty fields that its sources leave. -/
theorem FundsSources.Draws.mem_shapeFields_iff {s : FundsSources} {kind : Movement}
    {amount : Decimal} {means : Means} {value : String} {request : Request} {token : Option String}
    (chosen : Means.chosen? s.overrides s.stored = some (means, value))
    (draws : s.Draws kind amount value means request token) (field : Field) :
    (field, "") ∈ request.shapeFields ++ Request.present .paymentMethodId token ↔
      s.LeavesEmpty means field := by
  have hshape : request.shapeFields =
      request.instrumentFields ++ Request.fundsFields amount s.payer := by
    cases draws <;> rfl
  have hinstrument := draws.mem_instrument_iff chosen field
  rw [List.mem_append] at hinstrument
  rw [hshape, List.mem_append, List.mem_append, or_right_comm, hinstrument, mem_fundsFields_iff,
    or_assoc, LeavesEmpty]
  simp only [List.mem_append, or_and_right, exists_or]

/-- A capture or void has no empty field but the user's. -/
theorem AuthorizationReference.mem_sentFields_iff {prior : AuthorizationReference}
    (htrace : prior.traceNumber ≠ "") (hcode : prior.authorizationCode ≠ some "")
    {credentials : Credentials} (hmerchant : credentials.merchantId ≠ "")
    (hpassword : credentials.password ≠ "") (kind : Modification) (ids : Identifiers)
    (caller : Caller) (field : Field) :
    (field, "") ∈ (prior.modification kind).sentFields credentials ids caller none ↔
      field = .enteredBy ∧ caller.user = some "" := by
  have hshape : (field, "") ∉ (prior.modification kind).shapeFields := by
    simp [modification, Request.shapeFields, FundsSources.mem_present, htrace.symm, hcode]
  rw [Request.mem_sentFields_iff hmerchant hpassword, List.mem_append, FundsSources.mem_present]
  simp [hshape]

end PaymentGateway
