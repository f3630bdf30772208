import PaymentGateway.Proofs.Payments.Credentials

/-!
# What a request that moves money holds

Such a request holds a login, a transaction type, an amount, what identifies its call and the
credential that it is paid with.  Every other attribute of the payer or of the instrument is there if
the caller gives it or else it is kept, and is sent as it was given.
-/

namespace PaymentGateway

open PaymentGateway.Action (perform)

/-! ## Attributes -/

/-- First and last name, or the one that is there. -/
def fullName? : (first last : Option String) → Option String
  | some first, some last => some (first ++ " " ++ last)
  | some first, none => some first
  | none, last => last

def cardTypeCodes : List (String × String) :=
  [("visa", "VISA"),
    ("mast", "MAST"), ("master", "MAST"), ("mastercard", "MAST"),
    ("amer", "AMER"), ("amex", "AMER"), ("americanexpress", "AMER"),
    ("disc", "DISC"), ("discover", "DISC"),
    ("dine", "DINE"), ("diners", "DINE"), ("dinersclub", "DINE"),
    ("jcb", "JCB")]

def accountTypeCodes : List (String × String) :=
  [("c", "C"), ("checking", "C"), ("s", "S"), ("savings", "S")]

/-- The code that a text spells, in any case, between white space and with any separators. -/
def cardTypeCode? (text : String) : Option String :=
  cardTypeCodes.lookup <| String.ofList <|
    ((Text.trimChars text.toList).map Char.toLower).filter fun c =>
      !(c == ' ' || c == '-' || c == '_')

def accountTypeCode? (text : String) : Option String :=
  accountTypeCodes.lookup (String.ofList ((Text.trimChars text.toList).map Char.toLower))

namespace FundsSources

/-- What the caller gives under a name, unless it is blank, else what is kept. -/
def given? (s : FundsSources) (name : String) (kept : Option String) : Option String :=
  (s.overrides.visible? name).or kept

def cardType? (s : FundsSources) : Option String :=
  s.given? "ccType" (s.stored.bind (·.cardType))

def accountType? (s : FundsSources) : Option String :=
  s.given? "accountType" (s.stored.bind (·.accountType))

def payerContents (s : FundsSources) : List (Field × Option String) :=
  [(.billToFirstName, s.given? "firstName" (s.account.bind (·.firstName))),
    (.billToLastName, s.given? "lastName" (s.account.bind (·.lastName))),
    (.billToStreetLine1, s.given? "address1" (s.stored.bind (·.address))),
    (.billToState, s.given? "state" (s.stored.bind (·.state))),
    (.billToPostalCode, s.given? "zip" (s.stored.bind (·.zip))),
    (.billToPhone, s.given? "phone" (s.account.bind (·.phone))),
    (.billToEmail, s.given? "email" (s.account.bind (·.email)))]

/-- The attributes of the instrument that a credential belongs to; a token stands for itself. -/
def instrumentContents (s : FundsSources) (value : String) : Means → List (Field × Option String)
  | .token => []
  | .card =>
      [(.cardName, fullName? (s.given? "ccFirstName" (s.stored.bind (·.cardFirstName)))
        (s.given? "ccLastName" (s.stored.bind (·.cardLastName)))),
        (.cardType, s.cardType?.bind cardTypeCode?),
        (.cardNumber, some value),
        (.cardExpMonth, s.given? "ccExpirationMonth" (s.stored.bind (·.cardExpirationMonth))),
        (.cardExpYear, s.given? "ccExpirationYear" (s.stored.bind (·.cardExpirationYear)))]
  | .account =>
      [(.checkTrn, s.given? "trn" (s.stored.bind (·.routingNumber))),
        (.checkAccount, some value),
        (.checkAccountType, s.accountType?.bind accountTypeCode?)]

end FundsSources

/-- All that a request may hold, in the order in which it is sent. -/
def Call.contents (call : Call) (credentials : Credentials) (kind : Movement) (amount : Decimal)
    (s : FundsSources) (means : Means) (value : String) : List (Field × Option String) :=
  [(.merchantId, some credentials.merchantId), (.password, some credentials.password),
    (.transactionType, some (movementCode kind (means.isCard s.overrides s.stored)))] ++
  s.instrumentContents value means ++
  [(.totalAmount, some amount.moneyText)] ++
  s.payerContents ++
  [(.consumerId, some call.ids.account.toText), (.consumerOrderId, some call.ids.payment.toText),
    (.walletId, some call.ids.method.toText),
    (.enteredBy, some (call.caller.user.getD "forte-agi")),
    (.softwareName, some "forte-agi"), (.softwareVersion, some "0.1.0"),
    (.paymentMethodId, if means = .token then some value else none)]

def sentContents (contents : List (Field × Option String)) : List (String × String) :=
  contents.filterMap fun (field, value) => value.map fun text => (field.wireName, text)

/-- A request that is paid with one credential and holds just what it has to. -/
structure HoldsContents (request : FieldList) (call : Call) (credentials : Credentials)
    (kind : Movement) (amount : Decimal) (s : FundsSources) (means : Means) (value : String) :
    Prop where
  chosen : Means.chosen? s.overrides s.stored = some (means, value)
  cardType : means = .card → ∀ text, s.cardType? = some text → ∃ code, cardTypeCode? text = some code
  accountType : means = .account →
    ∀ text, s.accountType? = some text → ∃ code, accountTypeCode? text = some code
  entries : request.entries =
    sentContents (call.contents credentials kind amount s means value)

/-! ## The request that is drawn from its sources -/

theorem sentContents_append (contents more : List (Field × Option String)) :
    sentContents (contents ++ more) = sentContents contents ++ sentContents more :=
  List.filterMap_append

theorem sentContents_cons (field : Field) (value : Option String)
    (contents : List (Field × Option String)) :
    sentContents ((field, value) :: contents) =
      (Request.present field value).map Field.entry ++ sentContents contents := by
  cases value <;> rfl

theorem sentContents_nil : sentContents [] = [] := rfl

/-! ## Codes -/

theorem lookup_map_mk (spellings : List String) (code spelling : String) :
    (spellings.map (·, code)).lookup spelling =
      if spellings.contains spelling then some code else none := by
  induction spellings with
  | nil => rfl
  | cons first rest ih =>
    rw [List.map_cons, List.lookup_cons, List.contains_cons, ih]
    cases spelling == first <;> rfl

/-- Among values with spellings, the code of a spelling belongs to the first value that has it. -/
theorem lookup_flatMap_spellings {α : Type} (all : List α) (spellings : α → List String)
    (code : α → String) (spelling : String) :
    (all.flatMap fun a => (spellings a).map (·, code a)).lookup spelling =
      (all.find? fun a => (spellings a).contains spelling).map code := by
  induction all with
  | nil => rfl
  | cons a all ih =>
    rw [List.flatMap_cons, List.lookup_append, lookup_map_mk, ih, List.find?_cons]
    cases (spellings a).contains spelling <;> rfl

theorem cardTypeCode?_eq (text : String) :
    cardTypeCode? text = (CardNetwork.read text).toOption.map CardNetwork.code := by
  have hcodes : cardTypeCodes = CardNetwork.all.flatMap fun network =>
      network.spellings.map (·, network.code) := rfl
  rw [cardTypeCode?, hcodes, lookup_flatMap_spellings, CardNetwork.read, CardNetwork.normalize]
  split <;> rename_i hfound <;> rw [hfound] <;> rfl

theorem accountTypeCode?_eq (text : String) :
    accountTypeCode? text = (AccountKind.read text).toOption.map AccountKind.code := by
  have hcodes : accountTypeCodes = AccountKind.all.flatMap fun kind =>
      kind.spellings.map (·, kind.code) := rfl
  rw [accountTypeCode?, hcodes, lookup_flatMap_spellings, AccountKind.read]
  split <;> rename_i hfound <;> rw [hfound] <;> rfl

/-- What was read of an optional text is sent as the code that the text spells. -/
theorem bind_code?_of_readOptional {α : Type} {read : String → Except ValidationFault α}
    {code : α → String} {code? : String → Option String}
    (hcode : ∀ text, code? text = (read text).toOption.map code) {text : Option String}
    {value : Option α} (h : FundsSources.readOptional read text = .ok value) :
    text.bind code? = value.map code ∧
      ∀ spelling, text = some spelling → ∃ code, code? spelling = some code := by
  -- A text that spells nothing would have failed the request; so what is there has a code.
  cases text with
  | none =>
    cases h
    exact ⟨rfl, nofun⟩
  | some spelling =>
    rw [FundsSources.readOptional] at h
    cases hread : read spelling with
    | error fault =>
      rw [hread] at h
      cases h
    | ok meaning =>
      rw [hread] at h
      cases h
      have hspelled : code? spelling = some (code meaning) := by
        rw [hcode, hread]
        rfl
      refine ⟨hspelled, ?_⟩
      intro other hother
      cases hother
      exact ⟨code meaning, hspelled⟩

namespace FundsSources

theorem ofMethod_eq_given? (s : FundsSources) (property : Property)
    (pick : PaymentMethod → Option String) :
    s.ofMethod property pick = s.given? property.name (s.stored.bind pick) := by
  rw [ofMethod, Overrides.resolve, Overrides.resolveNamed, Overrides.named?_eq, given?]

theorem ofAccount_eq_given? (s : FundsSources) (property : Property)
    (pick : Account → Option String) :
    s.ofAccount property pick = s.given? property.name (s.account.bind pick) := by
  rw [ofAccount, Overrides.resolve, Overrides.resolveNamed, Overrides.named?_eq, given?]

theorem holderName_eq_fullName? (s : FundsSources) :
    s.holderName = fullName? (s.ofMethod .cardFirstName (·.cardFirstName))
      (s.ofMethod .cardLastName (·.cardLastName)) := by
  unfold holderName
  cases s.ofMethod .cardFirstName (·.cardFirstName) <;>
    cases s.ofMethod .cardLastName (·.cardLastName) <;> rfl

/-- The card type of a request is the one that its text spells. -/
theorem read_network_of_request {s : FundsSources} {kind : Movement} {amount : Decimal}
    {number : String} {details : Card} {payer : Payer} {token : Option String}
    (chosen : Means.chosen? s.overrides s.stored = some (.card, number))
    (h : s.request kind amount = .ok (.card kind amount payer (some details), token)) :
    readOptional CardNetwork.read s.cardType? = .ok details.network := by
  rw [request, Tender.resolve_eq, chosen] at h
  dsimp only [Means.tender, card] at h
  have htype : s.ofMethod .cardType (·.cardType) = s.cardType? := s.ofMethod_eq_given? _ _
  rw [htype] at h
  cases hread : readOptional CardNetwork.read s.cardType? <;> rw [hread] at h <;> cases h
  rfl

/-- The account type of a request is the one that its text spells. -/
theorem read_kind_of_request {s : FundsSources} {kind : Movement} {amount : Decimal}
    {number : String} {details : BankAccount} {payer : Payer} {token : Option String}
    (chosen : Means.chosen? s.overrides s.stored = some (.account, number))
    (h : s.request kind amount = .ok (.eft kind amount payer (some details), token)) :
    readOptional AccountKind.read s.accountType? = .ok details.kind := by
  rw [request, Tender.resolve_eq, chosen] at h
  dsimp only [Means.tender, bankAccount] at h
  have htype : s.ofMethod .accountType (·.accountType) = s.accountType? := s.ofMethod_eq_given? _ _
  rw [htype] at h
  cases hread : readOptional AccountKind.read s.accountType? <;> rw [hread] at h <;> cases h
  rfl

theorem map_entry_fundsFields (s : FundsSources) (amount : Decimal) :
    (Request.fundsFields amount s.payer).map Field.entry =
      sentContents ([(.totalAmount, some amount.moneyText)] ++ s.payerContents) := by
  simp only [Request.fundsFields, payer, payerContents, List.singleton_append, sentContents_cons,
    sentContents_nil, ofMethod_eq_given?, ofAccount_eq_given?, List.map_append, List.append_assoc,
    List.append_nil]
  rfl

end FundsSources

/-- What identifies a call, and the token that it is paid with. -/
theorem map_entry_identifyingPairs (call : Call) (token : Option String) :
    (identifyingPairs call.ids call.caller ++ Request.present .paymentMethodId token).map
        Field.entry =
      sentContents
        [(.consumerId, some call.ids.account.toText),
          (.consumerOrderId, some call.ids.payment.toText),
          (.walletId, some call.ids.method.toText),
          (.enteredBy, some (call.caller.user.getD "forte-agi")),
          (.softwareName, some "forte-agi"), (.softwareVersion, some "0.1.0"),
          (.paymentMethodId, token)] := by
  cases token <;> rfl

/-- A request holds the contents of its sources if its instrument does. -/
theorem entries_eq_contents (means : Means) {s : FundsSources} {kind : Movement} {amount : Decimal}
    {value : String} {request : Request}
    (hcode : request.transactionType.code = movementCode kind (means.isCard s.overrides s.stored))
    (hshape : request.shapeFields =
      request.instrumentFields ++ Request.fundsFields amount s.payer)
    (hinstrument : request.instrumentFields.map Field.entry =
      sentContents (s.instrumentContents value means))
    (credentials : Credentials) (call : Call) :
    (request.fields credentials
        (call.overlay (if means = .token then some value else none))).entries =
      sentContents (call.contents credentials kind amount s means value) := by
  rw [Request.entries_fields, Request.sentFields, Request.computedFields, hshape, hcode,
    List.append_assoc, List.map_append, map_entry_identifyingPairs, List.map_append,
    List.map_append, hinstrument, s.map_entry_fundsFields, Call.contents]
  simp only [sentContents_append, List.append_assoc]
  rfl

/-- The request that is drawn from its sources holds their contents. -/
theorem FundsSources.Draws.holdsContents {s : FundsSources} {kind : Movement} {amount : Decimal}
    {means : Means} {value : String} {request : Request} {token : Option String}
    (h : s.request kind amount = .ok (request, token))
    (chosen : Means.chosen? s.overrides s.stored = some (means, value))
    (draws : s.Draws kind amount value means request token) (credentials : Credentials)
    (call : Call) :
    HoldsContents (request.fields credentials (call.overlay token)) call credentials kind amount s
      means value := by
  have hcode := draws.shaped.code_eq
  -- The attributes of the other instruments are absent for a reason of shape; only a code has to be
  -- looked up.
  cases draws with
  | cardToken hcard =>
    refine ⟨chosen, ?_, ?_, entries_eq_contents .token hcode rfl rfl credentials call⟩ <;> rintro ⟨⟩
  | accountToken hcard =>
    refine ⟨chosen, ?_, ?_, entries_eq_contents .token hcode rfl rfl credentials call⟩ <;> rintro ⟨⟩
  | card network =>
    obtain ⟨hnetwork, hspelled⟩ :=
      bind_code?_of_readOptional cardTypeCode?_eq (read_network_of_request chosen h)
    refine ⟨chosen, fun _ => hspelled, by rintro ⟨⟩,
      entries_eq_contents .card hcode rfl ?_ credentials call⟩
    simp only [instrumentContents, sentContents_cons, sentContents_nil, hnetwork,
      Request.instrumentFields, Request.cardFields, holderName_eq_fullName?, ofMethod_eq_given?,
      Option.map_some, Option.getD_some, List.map_append, List.append_assoc, List.append_nil]
    rfl
  | account accountKind =>
    obtain ⟨hkind, hspelled⟩ :=
      bind_code?_of_readOptional accountTypeCode?_eq (read_kind_of_request chosen h)
    refine ⟨chosen, by rintro ⟨⟩, fun _ => hspelled,
      entries_eq_contents .account hcode rfl ?_ credentials call⟩
    simp only [instrumentContents, sentContents_cons, sentContents_nil, hkind,
      Request.instrumentFields, Request.accountFields, ofMethod_eq_given?,
      Option.map_some, Option.getD_some, List.map_append, List.append_assoc, List.append_nil]
    rfl

namespace Payments

variable {σ : Type} {services : Services (StateM σ)}

/-- A call that moves money and is sent finds an account and a payment method, if there are any, and
its request holds what these and its caller give: the fields listed, each with its text, and no
other. -/
theorem holdsContents_of_exchanged {credentials : Credentials} {call : Call} {kind : Movement}
    (hkind : call.kind.movement? = some kind) {s : σ} {request : FieldList}
    {reply : Except Failure FieldList}
    (hsent : .exchanged request reply ∈ effectsOf (execute · credentials call) services s) :
    ∃ account stored t u amount means value,
      perform (services.findAccount? call.ids.account call.caller.tenant) s = (.ok account, t) ∧
      perform (services.findMethod? call.ids.method call.caller.tenant) t = (.ok stored, u) ∧
      call.amount = some amount ∧
      HoldsContents request call credentials kind amount ⟨call.overrides, account, stored⟩ means
        value := by
  obtain ⟨prepared, token, u, hprepare, rfl⟩ :=
    (course_execute services credentials call s).exists_prepared hsent
  rw [prepare_eq_funds hkind] at hprepare
  obtain ⟨amount, account, stored, t, hamount, haccount, hstored, hrequest⟩ :=
    exists_amount_of_funds hprepare
  obtain ⟨means, value, chosen, draws⟩ := FundsSources.exists_draws hrequest
  exact ⟨account, stored, t, u, amount, means, value, haccount, hstored, hamount,
    draws.holdsContents hrequest chosen credentials call⟩

def overriddenPurchase : Call :=
  { Memory.bareCall .purchase with
    amount := some .zero
    overrides := .ofList [("ccNumber", "4111111111111111"), ("ccType", "Master-Card"),
      ("ccExpirationYear", "2030"), ("zip", "10001"), ("phone", " ")] }

def savingsCredit : Call :=
  { Memory.bareCall .credit with
    amount := some .zero
    overrides := .ofList [("accountType", " Savings "), ("address1", "1 Main St")]
    caller := ⟨.nil, some "ada"⟩ }

def tokenAuthorization : Call :=
  { Memory.tokenCall .authorize with
    overrides := .ofList [("token", "tok_1"), ("trn", "021000021"), ("email", "ada@example.com")] }

def knownAccount : Account := ⟨.nil, "Ada Lovelace", some 3, none, some "555-0100"⟩

def keptMethod : PaymentMethod :=
  { cardFirstName := some "A.", cardLastName := some "L.", cardExpirationMonth := some "08"
    routingNumber := some "021000021", accountNumber := some "12345", state := some "NY"
    zip := some "90210" }

def keptMethodWorld : World Unit :=
  { Memory.emptyWorld with stores := ⟨.empty, ⟨[keptMethod]⟩, ⟨[knownAccount]⟩⟩ }

/-- A purchase by card, a credit to an account and an authorization by token, one field after the
other. -/
theorem holdsContents_of_exchanged_eachMeans :
    let sends (call : Call) (entries : List (String × String)) : Prop := ∃ request reply,
      .exchanged request reply ∈ effectsOf (execute · ⟨"merchant", "secret"⟩ call)
        (Memory.services Memory.approving) keptMethodWorld ∧ request.entries = entries
    sends overriddenPurchase
      [("pg_merchant_id", "merchant"), ("pg_password", "secret"), ("pg_transaction_type", "10"),
        ("ecom_payment_card_name", "A. L."), ("ecom_payment_card_type", "MAST"),
        ("ecom_payment_card_number", "4111111111111111"), ("ecom_payment_card_expdate_month", "08"),
        ("ecom_payment_card_expdate_year", "2030"), ("pg_total_amount", "0.00"),
        ("ecom_billto_postal_name_first", "Ada"), ("ecom_billto_postal_name_last", "Lovelace"),
        ("ecom_billto_postal_stateprov", "NY"), ("ecom_billto_postal_postalcode", "10001"),
        ("ecom_billto_telecom_phone_number", "555-0100"),
        ("pg_consumer_id", "00000000-0000-0000-0000-000000000000"),
        ("ecom_consumerorderid", "00000000-0000-0000-0000-000000000000"),
        ("ecom_walletid", "00000000-0000-0000-0000-000000000000"),
        ("pg_entered_by", "forte-agi"), ("pg_software_name", "forte-agi"),
        ("pg_software_version", "0.1.0")] ∧
    sends savingsCredit
      [("pg_merchant_id", "merchant"), ("pg_password", "secret"), ("pg_transaction_type", "23"),
        ("ecom_payment_check_trn", "021000021"), ("ecom_payment_check_account", "12345"),
        ("ecom_payment_check_account_type", "S"), ("pg_total_amount", "0.00"),
        ("ecom_billto_postal_name_first", "Ada"), ("ecom_billto_postal_name_last", "Lovelace"),
        ("ecom_billto_postal_street_line1", "1 Main St"), ("ecom_billto_postal_stateprov", "NY"),
        ("ecom_billto_postal_postalcode", "90210"),
        ("ecom_billto_telecom_phone_number", "555-0100"),
        ("pg_consumer_id", "00000000-0000-0000-0000-000000000000"),
        ("ecom_consumerorderid", "00000000-0000-0000-0000-000000000000"),
        ("ecom_walletid", "00000000-0000-0000-0000-000000000000"), ("pg_entered_by", "ada"),
        ("pg_software_name", "forte-agi"), ("pg_software_version", "0.1.0")] ∧
    sends tokenAuthorization
      [("pg_merchant_id", "merchant"), ("pg_password", "secret"), ("pg_transaction_type", "21"),
        ("pg_total_amount", "0.00"), ("ecom_billto_postal_name_first", "Ada"),
        ("ecom_billto_postal_name_last", "Lovelace"), ("ecom_billto_postal_stateprov", "NY"),
        ("ecom_billto_postal_postalcode", "90210"),
        ("ecom_billto_telecom_phone_number", "555-0100"),
        ("ecom_billto_online_email", "ada@example.com"),
        ("pg_consumer_id", "00000000-0000-0000-0000-000000000000"),
        ("ecom_consumerorderid", "00000000-0000-0000-0000-000000000000"),
        ("ecom_walletid", "00000000-0000-0000-0000-000000000000"),
        ("pg_entered_by", "forte-agi"), ("pg_software_name", "forte-agi"),
        ("pg_software_version", "0.1.0"), ("pg_payment_method_id", "tok_1")] := by
  intro sends
  have hsends : ∀ (call : Call) (kind : Movement) (means : Means) (value : String)
      (entries : List (String × String)), call.ids = ⟨.nil, .nil, .nil, .nil⟩ →
      call.caller.tenant = .nil → call.amount = some .zero → call.kind.movement? = some kind →
      Means.chosen? call.overrides (some keptMethod) = some (means, value) →
      sentContents (call.contents ⟨"merchant", "secret"⟩ kind .zero
        ⟨call.overrides, some knownAccount, some keptMethod⟩ means value) = entries →
      (∃ request reply, .exchanged request reply ∈
        effectsOf (execute · ⟨"merchant", "secret"⟩ call) (Memory.services Memory.approving)
          keptMethodWorld) → sends call entries := by
    rintro call kind means value entries hids htenant hamount hkind hchosen rfl
      ⟨request, reply, hsent⟩
    obtain ⟨account, stored, t, u, amount, means', value', haccount, hstored, hpaid, holds⟩ :=
      holdsContents_of_exchanged hkind hsent
    rw [hids, htenant] at haccount hstored
    cases haccount
    cases hstored
    cases hamount.symm.trans hpaid
    cases hchosen.symm.trans holds.chosen
    exact ⟨request, reply, hsent, holds.entries⟩
  refine ⟨?_, ?_, ?_⟩
  · exact hsends overriddenPurchase .sale .card "4111111111111111" _ rfl rfl rfl rfl rfl
      (by decide +kernel) ⟨_, _, List.mem_cons_self⟩
  · exact hsends savingsCredit .credit .account "12345" _ rfl rfl rfl rfl rfl
      (by decide +kernel) ⟨_, _, List.mem_cons_self⟩
  · exact hsends tokenAuthorization .auth .token "tok_1" _ rfl rfl rfl rfl rfl
      (by decide +kernel) ⟨_, _, List.mem_cons_self⟩

end Payments

end PaymentGateway
