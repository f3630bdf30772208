import PaymentGateway.Proofs.FieldList.Overlay
import PaymentGateway.Proofs.Request.Fields

/-!
# Requests under an overlay

A request computes its login, its transaction type and the fields of its shape for which it has a
source.  An overlay replaces the values of the fields that it names and adds the others behind them.
The overlay of a call names none of the computed fields.
-/

namespace PaymentGateway

/-! ## Where the computed fields come from -/

def Card.source? (card : Card) : Field → Option String
  | .cardName => card.holderName
  | .cardType => card.network.map CardNetwork.code
  | .cardNumber => some card.number
  | .cardExpMonth => card.expirationMonth
  | .cardExpYear => card.expirationYear
  | _ => none

def BankAccount.source? (account : BankAccount) : Field → Option String
  | .checkTrn => account.routingNumber
  | .checkAccount => some account.number
  | .checkAccountType => account.kind.map AccountKind.code
  | _ => none

namespace Request

def fundsSource? (amount : Decimal) (payer : Payer) : Field → Option String
  | .totalAmount => some amount.moneyText
  | .billToFirstName => payer.firstName
  | .billToLastName => payer.lastName
  | .billToStreetLine1 => payer.streetLine1
  | .billToState => payer.state
  | .billToPostalCode => payer.zip
  | .billToPhone => payer.phone
  | .billToEmail => payer.email
  | _ => none

def referenceSource? (originalTrace : String) (originalAuthorization : Option String) :
    Field → Option String
  | .originalTraceNumber => some originalTrace
  | .originalAuthorizationCode => originalAuthorization
  | _ => none

def shapeSource? (field : Field) : Request → Option String
  | .card _ amount payer details =>
      (details.bind (·.source? field)).or (fundsSource? amount payer field)
  | .eft _ amount payer details =>
      (details.bind (·.source? field)).or (fundsSource? amount payer field)
  | .modification _ _ originalTrace originalAuthorization =>
      referenceSource? originalTrace originalAuthorization field

/-- What is computed for a field of a request, if there is a source for it. -/
def source? (credentials : Credentials) (request : Request) : Field → Option String
  | .merchantId => some credentials.merchantId
  | .password => some credentials.password
  | .transactionType => some request.transactionType.code
  | field => request.shapeSource? field

theorem lookup_cardFields (card : Card) (field : Field) :
    (cardFields card).lookup field = card.source? field := by
  unfold Card.source?
  split <;> simp_all [cardFields, List.lookup_append]

theorem lookup_accountFields (account : BankAccount) (field : Field) :
    (accountFields account).lookup field = account.source? field := by
  unfold BankAccount.source?
  split <;> simp_all [accountFields, List.lookup_append]

theorem lookup_fundsFields (amount : Decimal) (payer : Payer) (field : Field) :
    (fundsFields amount payer).lookup field = fundsSource? amount payer field := by
  unfold fundsSource?
  split <;> simp_all [fundsFields, List.lookup_append]

theorem lookup_shapeFields (request : Request) (field : Field) :
    request.shapeFields.lookup field = request.shapeSource? field := by
  -- The field lists of the parts have no name in common, so the first one that has the field
  -- decides.
  cases request with
  | card kind amount payer card =>
    rw [shapeFields, List.lookup_append, lookup_fundsFields]
    cases card with
    | none => rfl
    | some card => rw [Option.map_some, Option.getD_some, lookup_cardFields]; rfl
  | eft kind amount payer account =>
    rw [shapeFields, List.lookup_append, lookup_fundsFields]
    cases account with
    | none => rfl
    | some account => rw [Option.map_some, Option.getD_some, lookup_accountFields]; rfl
  | modification kind rail trace authorization =>
    show _ = referenceSource? trace authorization field
    unfold referenceSource?
    split <;> simp_all [shapeFields]

theorem lookup_computedFields (credentials : Credentials) (request : Request) (field : Field) :
    (request.computedFields credentials).lookup field = request.source? credentials field := by
  unfold source?
  split <;> simp_all [computedFields, lookup_shapeFields]

/-! ## The overlay on top -/

def computed? (credentials : Credentials) (request : Request) (name : String) : Option String :=
  (Field.ofWireName? name).bind (request.source? credentials ·)

/-- A request under an overlay: the overlay decides what it names, all else is as it is computed, and
the computed names come first and in the order that they have without an overlay. -/
structure Overlaid (credentials : Credentials) (request : Request) (overlay : FieldList) : Prop where
  mem_names : ∀ name, name ∈ (request.fields credentials overlay).names ↔
    name ∈ overlay.names ∨ (request.computed? credentials name).isSome
  get? : ∀ name, (request.fields credentials overlay).get? name =
    (overlay.get? name).or (request.computed? credentials name)
  names : (request.fields credentials overlay).names =
    (request.fields credentials .empty).names ++
      overlay.names.filter (· ∉ (request.fields credentials .empty).names)
  leading : ["pg_merchant_id", "pg_password", "pg_transaction_type"] <+:
    (request.fields credentials overlay).names
  nodup : (request.fields credentials overlay).names.Nodup

theorem nodup_computedFields (credentials : Credentials) (request : Request) :
    ((request.computedFields credentials).map Prod.fst).Nodup := by
  have hsublist : ((request.computedFields credentials).map Prod.fst).Sublist
      ([.merchantId, .password, .transactionType] ++ shapeCatalog) := by
    rw [computedFields, List.map_append]
    exact (List.Sublist.refl _).append request.map_fst_shapeFields_sublist
  exact hsublist.nodup (by decide)

theorem entries_fields_empty (credentials : Credentials) (request : Request) :
    (request.fields credentials .empty).entries =
      (request.computedFields credentials).map Field.entry :=
  FieldList.entries_ofList (Entries.nodup_names_map_entry (request.nodup_computedFields credentials))

theorem get?_fields_empty (credentials : Credentials) (request : Request) (name : String) :
    (request.fields credentials .empty).get? name = request.computed? credentials name := by
  rw [FieldList.get?, entries_fields_empty, Entries.get?_map_entry_eq_bind, computed?]
  simp only [lookup_computedFields]

theorem fields_eq_merge (credentials : Credentials) (request : Request) (overlay : FieldList) :
    request.fields credentials overlay = (request.fields credentials .empty).merge overlay := rfl

theorem get?_fields (credentials : Credentials) (request : Request) (overlay : FieldList)
    (name : String) :
    (request.fields credentials overlay).get? name =
      (overlay.get? name).or (request.computed? credentials name) := by
  rw [fields_eq_merge, FieldList.get?_merge, get?_fields_empty]

theorem leading_fields_empty (credentials : Credentials) (request : Request) :
    ["pg_merchant_id", "pg_password", "pg_transaction_type"] <+:
      (request.fields credentials .empty).names := by
  rw [FieldList.names, entries_fields_empty, computedFields, List.map_append, Entries.names,
    List.map_append]
  exact List.prefix_append _ _

/-- No name of a call's overlay is computed, so all that is computed is sent. -/
theorem get?_fields_overlay (credentials : Credentials) (request : Request) (call : Call)
    (token : Option String) (name : String) :
    (request.fields credentials (call.overlay token)).get? name =
      (request.computed? credentials name).or ((call.overlay token).get? name) := by
  rw [FieldList.get?, entries_fields, sentFields, List.append_assoc, List.map_append,
    ← entries_overlay, Entries.get?_append, ← entries_fields_empty]
  exact congrArg (Option.or · _) (request.get?_fields_empty credentials name)

/-- An overlay decides what it names and nothing else, and its new names come last.  The overlay of a
call replaces nothing that is computed. -/
theorem overlaid (credentials : Credentials) (request : Request) (overlay : FieldList) :
    request.Overlaid credentials overlay ∧
      ∀ (call : Call) (token : Option String) (name : String),
        (request.fields credentials (call.overlay token)).get? name =
          (request.computed? credentials name).or ((call.overlay token).get? name) := by
  have hnames : (request.fields credentials overlay).names = _ :=
    FieldList.names_merge (request.fields credentials .empty) overlay
  refine ⟨⟨fun name => ?_, request.get?_fields credentials overlay, hnames, ?_,
    FieldList.nodup_names _⟩, request.get?_fields_overlay credentials⟩
  · rw [← FieldList.isSome_get?_iff, get?_fields, Option.isSome_or, Bool.or_eq_true,
      FieldList.isSome_get?_iff]
  · rw [hnames]
    exact (request.leading_fields_empty credentials).trans (List.prefix_append _ _)

end Request

end PaymentGateway
