import PaymentGateway.Proofs.Request.Fields
import PaymentGateway.Proofs.RequestCheck.Accepted
import PaymentGateway.Proofs.Text.SingleLine

/-!
# The check applies the rules of the shape it is given

The check sees the fields of a request only, and recognises their shape by the credential.  It
accepts a request exactly if the request is complete for the shape that it really has and all its
texts are texts of one line.
-/

namespace PaymentGateway

/-! ## What a request has to say -/

def Filled (value : Option String) : Prop :=
  ∃ text, value = some text ∧ text ≠ ""

@[simp] theorem filled_some (text : String) : Filled (some text) ↔ text ≠ "" := by
  simp [Filled]

@[simp] theorem not_filled_none : ¬ Filled none := by
  simp [Filled]

theorem filled_map_iff {α : Type} {code : α → String} (h : ∀ a, code a ≠ "") (value : Option α) :
    Filled (value.map code) ↔ value.isSome = true := by
  cases value <;> simp [h]

namespace Request

/-- Whether a token stands in for the instrument of a request. -/
def isPaidByToken : Request → Bool
  | .card _ _ _ details => details.isNone
  | .eft _ _ _ details => details.isNone
  | .modification _ _ _ _ => false

def IsComplete : Request → Prop
  | .card _ _ payer (some details) =>
      Filled payer.firstName ∧ Filled payer.lastName ∧ details.network.isSome ∧
        Filled details.holderName ∧ Filled details.expirationMonth ∧ Filled details.expirationYear
  | .eft _ _ payer (some details) =>
      Filled payer.firstName ∧ Filled payer.lastName ∧ Filled details.routingNumber ∧
        details.kind.isSome
  | .card _ _ _ none => True
  | .eft _ _ _ none => True
  | .modification _ _ originalTrace _ => originalTrace ≠ ""

/-- The fields that the check has to require of a request of this shape. -/
def shapeRules : Request → List Field
  | .card _ _ _ (some _) => RequestCheck.cardRequired
  | .eft _ _ _ (some _) => RequestCheck.accountRequired
  | .card _ _ _ none => RequestCheck.tokenRequired
  | .eft _ _ _ none => RequestCheck.tokenRequired
  | .modification _ _ _ _ => RequestCheck.modificationRequired

end Request

/-! ## The texts of a request -/

def Payer.texts (payer : Payer) : List String :=
  [payer.firstName, payer.lastName, payer.streetLine1, payer.state, payer.zip, payer.phone,
    payer.email].flatMap Option.toList

def Card.texts (card : Card) : List String :=
  card.holderName.toList ++ card.number ::
    [card.expirationMonth, card.expirationYear].flatMap Option.toList

def BankAccount.texts (account : BankAccount) : List String :=
  account.routingNumber.toList ++ [account.number]

def Request.texts : Request → List String
  | .card _ _ payer details => (details.map Card.texts).getD [] ++ payer.texts
  | .eft _ _ payer details => (details.map BankAccount.texts).getD [] ++ payer.texts
  | .modification _ _ originalTrace originalAuthorization =>
      originalTrace :: originalAuthorization.toList

def Request.allTexts (credentials : Credentials) (request : Request)
    (user token : Option String) : List String :=
  [credentials.merchantId, credentials.password] ++ request.texts ++ user.toList ++ token.toList

structure Request.Acceptable (credentials : Credentials) (request : Request)
    (user token : Option String) : Prop where
  merchantId : credentials.merchantId ≠ ""
  password : credentials.password ≠ ""
  singleLine : ∀ text ∈ request.allTexts credentials user token, SingleLine text
  complete : request.IsComplete

/-! ## Framing -/

theorem keepsLine_entry_iff (pair : Field × String) :
    RequestCheck.KeepsLine (Field.entry pair) ↔ SingleLine pair.2 := by
  rw [← any_isLineBreak_eq_false_iff]
  exact ⟨fun h => h.value, fun h => ⟨pair.1.isFramedName_wireName, h⟩⟩

theorem singleLine_user_iff (user : Option String) :
    SingleLine (user.getD softwareName) ↔ ∀ text, user = some text → SingleLine text := by
  have hname : SingleLine softwareName := by decide
  cases user <;> simp [hname]

namespace Request

@[simp] theorem map_snd_present (field : Field) (value : Option String) :
    (present field value).map Prod.snd = value.toList := by
  cases value <;> rfl

/-- All values of a request are texts of one line exactly if the texts it is made of are. -/
theorem forall_sentFields_iff (credentials : Credentials) (request : Request) (ids : Identifiers)
    (caller : Caller) (token : Option String) :
    (∀ text ∈ (sentFields credentials request ids caller token).map Prod.snd, SingleLine text) ↔
      ∀ text ∈ request.allTexts credentials caller.user token, SingleLine text := by
  have hname : SingleLine softwareName := by decide
  have hversion : SingleLine softwareVersion := by decide
  rcases request with ⟨kind, amount, payer, _ | card⟩ | ⟨kind, amount, payer, _ | account⟩ |
    ⟨kind, rail, trace, authorization⟩ <;>
    simp [sentFields, computedFields, shapeFields, cardFields, accountFields, fundsFields,
      identifyingPairs, allTexts, texts, Payer.texts, Card.texts, BankAccount.texts, or_imp, forall_and,
      singleLine_user_iff, hname, hversion, TransactionType.singleLine_code,
      CardNetwork.singleLine_code, AccountKind.singleLine_code, Decimal.singleLine_moneyText,
      Uuid.singleLine_toText]

end Request

/-! ## The check of a request -/

namespace RequestCheck

theorem isPresent_eq_true_iff (m : FieldList) (field : Field) :
    isPresent m field = true ↔ Filled (m.field? field) := by
  unfold isPresent
  cases m.field? field <;> simp

theorem require_iff (m : FieldList) (fields : List Field) :
    require m fields = .ok () ↔ ∀ field ∈ fields, Filled (m.field? field) := by
  simp only [require_eq_ok_iff, isPresent_eq_true_iff]

variable (credentials : Credentials) (request : Request) (call : Call) (token : Option String)

theorem checkFraming_fields_iff :
    checkFraming (request.fields credentials (call.overlay token)).entries = .ok () ↔
      ∀ text ∈ request.allTexts credentials call.caller.user token, SingleLine text := by
  rw [checkFraming_eq_ok_iff, Request.entries_fields, List.forall_mem_map,
    ← Request.forall_sentFields_iff credentials request call.ids call.caller token,
    List.forall_mem_map]
  simp only [keepsLine_entry_iff]

/-- The login is all that a request can lack of the fields of every request. -/
theorem require_alwaysRequired_iff :
    require (request.fields credentials (call.overlay token)) alwaysRequired = .ok () ↔
      credentials.merchantId ≠ "" ∧ credentials.password ≠ "" := by
  rw [require_iff]
  simp [alwaysRequired, Request.field?_fields, Request.sentFields, Request.computedFields,
    TransactionType.code_ne_empty]

theorem contains_fields_of_instrument {field : Field}
    (h : field ∈ Request.cardCatalog ++ Request.accountCatalog ++ [.paymentMethodId]) :
    (request.fields credentials (call.overlay token)).contains field =
      ((request.instrumentFields ++ Request.present .paymentMethodId token).lookup field).isSome := by
  rw [FieldList.contains, Request.field?_fields_of_instrument h]

variable {request token}

/-- The shape that the check recognises is the one that the request has. -/
theorem shapeRequired_fields (htoken : token.isSome = request.isPaidByToken) :
    shapeRequired (request.fields credentials (call.overlay token)) = request.shapeRules := by
  unfold shapeRequired
  rw [contains_fields_of_instrument _ _ _ _ (by decide),
    contains_fields_of_instrument _ _ _ _ (by decide),
    contains_fields_of_instrument _ _ _ _ (by decide)]
  rcases request with ⟨kind, amount, payer, _ | card⟩ | ⟨kind, amount, payer, _ | account⟩ |
    ⟨kind, rail, trace, authorization⟩ <;>
    simp [Request.isPaidByToken] at htoken <;>
    simp [Request.shapeRules, Request.instrumentFields, Request.cardFields, Request.accountFields,
      List.lookup_append, htoken]

theorem require_shapeRules_iff :
    require (request.fields credentials (call.overlay token)) request.shapeRules = .ok () ↔
      request.IsComplete := by
  rw [require_iff]
  have hnetwork := filled_map_iff CardNetwork.code_ne_empty
  have hkind := filled_map_iff AccountKind.code_ne_empty
  rcases request with ⟨kind, amount, payer, _ | card⟩ | ⟨kind, amount, payer, _ | account⟩ |
    ⟨kind, rail, trace, authorization⟩ <;>
    simp [Request.shapeRules, Request.IsComplete, cardRequired, accountRequired, tokenRequired,
      modificationRequired, Request.field?_fields, Request.sentFields, Request.computedFields,
      Request.shapeFields, Request.cardFields, Request.accountFields, Request.fundsFields,
      identifyingPairs, List.lookup_append, Decimal.moneyText_ne_empty, hnetwork, hkind]

/-- A request is accepted exactly if it is acceptable, and the check requires the fields of the
shape that the request really has. -/
theorem check_fields_eq_ok_iff (credentials : Credentials) (request : Request) (call : Call)
    (token : Option String) (htoken : token.isSome = request.isPaidByToken) :
    (check (request.fields credentials (call.overlay token)) = .ok () ↔
      request.Acceptable credentials call.caller.user token) ∧
    shapeRequired (request.fields credentials (call.overlay token)) = request.shapeRules := by
  have hshape := shapeRequired_fields credentials call htoken
  refine ⟨?_, hshape⟩
  rw [check_eq_ok_iff, hshape, require_alwaysRequired_iff, require_shapeRules_iff,
    checkFraming_fields_iff]
  constructor
  · rintro ⟨⟨hmerchant, hpassword⟩, hcomplete, hlines⟩
    exact ⟨hmerchant, hpassword, hlines, hcomplete⟩
  · rintro ⟨hmerchant, hpassword, hlines, hcomplete⟩
    exact ⟨⟨hmerchant, hpassword⟩, hcomplete, hlines⟩

def emptyNumber : Request :=
  .card .sale .zero { firstName := some "Ada", lastName := some "Lovelace" }
    (some ⟨"", some "Ada Lovelace", some .visa, some "01", some "2030"⟩)

/-- The call of a user whose name looks like the framing. -/
def framedUserCall : Call :=
  ⟨.purchase, ⟨.nil, .nil, .nil, .nil⟩, some .zero, none, .empty, ⟨.nil, some "endofdata=	"⟩⟩

theorem check_fields_eq_ok_iff_emptyNumber :
    (none : Option String).isSome = emptyNumber.isPaidByToken ∧
      emptyNumber.Acceptable ⟨"merchant", "="⟩ (some "endofdata=	") none ∧
      check (emptyNumber.fields ⟨"merchant", "="⟩ (framedUserCall.overlay none)) = .ok () ∧
      shapeRequired (emptyNumber.fields ⟨"merchant", "="⟩ (framedUserCall.overlay none)) =
        cardRequired := by
  have htoken : (none : Option String).isSome = emptyNumber.isPaidByToken := rfl
  obtain ⟨hiff, hshape⟩ :=
    check_fields_eq_ok_iff ⟨"merchant", "="⟩ emptyNumber framedUserCall none htoken
  have acceptable : emptyNumber.Acceptable ⟨"merchant", "="⟩ (some "endofdata=	") none := by
    refine ⟨by decide, by decide, by decide, ?_⟩
    simp [emptyNumber, Request.IsComplete]
  exact ⟨htoken, acceptable, hiff.mpr acceptable, hshape⟩

end RequestCheck

end PaymentGateway
