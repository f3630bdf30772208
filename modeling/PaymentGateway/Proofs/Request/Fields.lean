import PaymentGateway.Call
import PaymentGateway.Proofs.FieldList.Catalog

/-!
# The fields of a whole request

A request is sent with the login and the transaction type, the fields of its shape, those that
identify the call and the token that pays for it.  Each field is written once, so each is looked up
where it was written.
-/

namespace PaymentGateway

namespace Request

/-- The fields of a request with its overlay, in the order in which they are sent. -/
def sentFields (credentials : Credentials) (request : Request) (ids : Identifiers)
    (caller : Caller) (token : Option String) : List (Field × String) :=
  request.computedFields credentials ++ identifyingPairs ids caller ++
    present .paymentMethodId token

/-! ## Each field is written once -/

theorem map_fst_present_sublist (field : Field) (value : Option String) :
    ((present field value).map Prod.fst).Sublist [field] := by
  cases value with
  | none => exact List.nil_sublist _
  | some text => exact List.Sublist.refl _

def cardCatalog : List Field :=
  [.cardName, .cardType, .cardNumber, .cardExpMonth, .cardExpYear]

def accountCatalog : List Field := [.checkTrn, .checkAccount, .checkAccountType]

def fundsCatalog : List Field :=
  [.totalAmount, .billToFirstName, .billToLastName, .billToStreetLine1, .billToState,
    .billToPostalCode, .billToPhone, .billToEmail]

def modificationCatalog : List Field := [.originalTraceNumber, .originalAuthorizationCode]

theorem map_fst_cardFields_sublist (details : Option Card) :
    (((details.map cardFields).getD []).map Prod.fst).Sublist cardCatalog := by
  cases details with
  | none => exact List.nil_sublist _
  | some card =>
    simp only [Option.map_some, Option.getD_some, cardFields, List.map_append]
    exact ((((map_fst_present_sublist _ _).append (map_fst_present_sublist _ _)).append
      (.refl _)).append (map_fst_present_sublist _ _)).append (map_fst_present_sublist _ _)

theorem map_fst_accountFields_sublist (details : Option BankAccount) :
    (((details.map accountFields).getD []).map Prod.fst).Sublist accountCatalog := by
  cases details with
  | none => exact List.nil_sublist _
  | some account =>
    simp only [Option.map_some, Option.getD_some, accountFields, List.map_append]
    exact ((map_fst_present_sublist _ _).append (.refl _)).append (map_fst_present_sublist _ _)

theorem map_fst_fundsFields_sublist (amount : Decimal) (payer : Payer) :
    ((fundsFields amount payer).map Prod.fst).Sublist fundsCatalog := by
  simp only [fundsFields, List.map_append]
  exact (((((((List.Sublist.refl _).append (map_fst_present_sublist _ _)).append
    (map_fst_present_sublist _ _)).append (map_fst_present_sublist _ _)).append
    (map_fst_present_sublist _ _)).append (map_fst_present_sublist _ _)).append
    (map_fst_present_sublist _ _)).append (map_fst_present_sublist _ _)

/-- The fields that any shape writes, each at its place. -/
def shapeCatalog : List Field :=
  cardCatalog ++ (accountCatalog ++ (fundsCatalog ++ modificationCatalog))

theorem map_fst_shapeFields_sublist (request : Request) :
    (request.shapeFields.map Prod.fst).Sublist shapeCatalog := by
  -- Each shape skips the parts of the catalog that belong to the others.
  cases request with
  | card kind amount payer details =>
    have hfunds := (map_fst_fundsFields_sublist amount payer).trans
      (List.sublist_append_left _ modificationCatalog)
    rw [shapeFields, List.map_append]
    exact (map_fst_cardFields_sublist details).append
      (hfunds.trans (List.sublist_append_right accountCatalog _))
  | eft kind amount payer details =>
    have hfunds := (map_fst_fundsFields_sublist amount payer).trans
      (List.sublist_append_left _ modificationCatalog)
    rw [shapeFields, List.map_append]
    exact ((map_fst_accountFields_sublist details).append hfunds).trans
      (List.sublist_append_right cardCatalog _)
  | modification kind rail trace authorization =>
    have hfields : ([(Field.originalTraceNumber, trace)].map Prod.fst ++
        (present .originalAuthorizationCode authorization).map Prod.fst).Sublist
          modificationCatalog :=
      (List.Sublist.refl [Field.originalTraceNumber]).append (map_fst_present_sublist _ _)
    rw [shapeFields, List.map_append]
    exact hfields.trans <| (List.sublist_append_right fundsCatalog _).trans <|
      (List.sublist_append_right accountCatalog _).trans (List.sublist_append_right cardCatalog _)

theorem nodup_sentFields (credentials : Credentials) (request : Request) (ids : Identifiers)
    (caller : Caller) (token : Option String) :
    ((sentFields credentials request ids caller token).map Prod.fst).Nodup := by
  have hsublist : ((sentFields credentials request ids caller token).map Prod.fst).Sublist
      ([.merchantId, .password, .transactionType] ++ shapeCatalog ++
        [.consumerId, .consumerOrderId, .walletId, .enteredBy, .softwareName,
          .softwareVersion] ++ [.paymentMethodId]) := by
    simp only [sentFields, computedFields, List.map_append]
    exact (((List.Sublist.refl _).append request.map_fst_shapeFields_sublist).append
      (.refl _)).append (map_fst_present_sublist _ _)
  exact hsublist.nodup (by decide)

/-! ## Looking fields up -/

theorem entries_overlay (call : Call) (token : Option String) :
    (call.overlay token).entries =
      (identifyingPairs call.ids call.caller ++ present .paymentMethodId token).map Field.entry := by
  have distinct : ((identifyingPairs call.ids call.caller).map Prod.fst).Nodup := by
    show List.Nodup [Field.consumerId, .consumerOrderId, .walletId, .enteredBy, .softwareName,
      .softwareVersion]
    decide
  have hfields : (identifyingFields call.ids call.caller).entries =
      (identifyingPairs call.ids call.caller).map Field.entry :=
    FieldList.entries_ofList (Entries.nodup_names_map_entry distinct)
  cases token with
  | none =>
    rw [present, Option.map_none, Option.toList_none, List.append_nil]
    exact hfields
  | some token =>
    -- The token has a name of its own, so it is put behind the other fields.
    have absent : Field.paymentMethodId.wireName ∉
        (identifyingFields call.ids call.caller).names := by
      rw [FieldList.names, hfields, Entries.names_map_entry]
      intro hmem
      obtain ⟨field, hfield, hname⟩ := List.mem_map.mp hmem
      rw [Field.wireName_inj] at hname
      subst hname
      revert hfield
      show Field.paymentMethodId ∉ [Field.consumerId, .consumerOrderId, .walletId, .enteredBy,
        .softwareName, .softwareVersion]
      decide
    show ((identifyingFields call.ids call.caller).insert _ token).entries = _
    rw [FieldList.entries_insert_of_not_mem absent, hfields, List.map_append]
    rfl

/-- A request is sent with its fields, each as it was written. -/
theorem entries_fields (credentials : Credentials) (request : Request) (call : Call)
    (token : Option String) :
    (request.fields credentials (call.overlay token)).entries =
      (sentFields credentials request call.ids call.caller token).map Field.entry := by
  have distinct := Entries.nodup_names_map_entry
    (nodup_sentFields credentials request call.ids call.caller token)
  rw [sentFields, List.append_assoc, List.map_append] at distinct ⊢
  rw [← entries_overlay] at distinct ⊢
  have hcomputed : (Entries.names ((request.computedFields credentials).map Field.entry)).Nodup := by
    rw [Entries.names, List.map_append] at distinct
    exact (List.nodup_append.mp distinct).1
  have hbelow := FieldList.entries_ofList hcomputed
  show ((FieldList.ofList ((request.computedFields credentials).map Field.entry)).insertAll
    (call.overlay token).entries).entries = _
  rw [FieldList.entries_insertAll (by rw [hbelow]; exact distinct), hbelow]

theorem field?_fields (credentials : Credentials) (request : Request) (call : Call)
    (token : Option String) (field : Field) :
    (request.fields credentials (call.overlay token)).field? field =
      (sentFields credentials request call.ids call.caller token).lookup field := by
  rw [FieldList.field?, FieldList.get?, entries_fields, Entries.get?_map_entry]

@[simp] theorem lookup_pair (field other : Field) (value : String)
    (rest : List (Field × String)) :
    ((field, value) :: rest).lookup other =
      if other = field then some value else rest.lookup other := by
  rw [List.lookup_cons]
  by_cases h : other = field
  · rw [if_pos h, beq_iff_eq.mpr h]
  · rw [if_neg h, beq_eq_false_iff_ne.mpr h]

@[simp] theorem lookup_present (field other : Field) (value : Option String) :
    (present field value).lookup other = if other = field then value else none := by
  cases value with
  | none => exact (ite_self _).symm
  | some text =>
    rw [present, Option.map_some, Option.toList_some, lookup_pair]
    rfl

def instrumentFields : Request → List (Field × String)
  | .card _ _ _ details => (details.map cardFields).getD []
  | .eft _ _ _ details => (details.map accountFields).getD []
  | .modification _ _ _ _ => []

/-- The fields of instruments and the token are written nowhere else. -/
theorem lookup_sentFields_of_instrument {field : Field}
    (h : field ∈ cardCatalog ++ accountCatalog ++ [.paymentMethodId]) (credentials : Credentials)
    (request : Request) (ids : Identifiers) (caller : Caller) (token : Option String) :
    (sentFields credentials request ids caller token).lookup field =
      (request.instrumentFields ++ present .paymentMethodId token).lookup field := by
  simp only [cardCatalog, accountCatalog, List.cons_append, List.nil_append, List.mem_cons,
    List.not_mem_nil, or_false] at h
  rcases h with rfl | rfl | rfl | rfl | rfl | rfl | rfl | rfl | rfl <;> cases request <;>
    simp [sentFields, computedFields, shapeFields, fundsFields, instrumentFields, identifyingPairs,
      List.lookup_append]

theorem field?_fields_of_instrument {field : Field}
    (h : field ∈ cardCatalog ++ accountCatalog ++ [.paymentMethodId]) (credentials : Credentials)
    (request : Request) (call : Call) (token : Option String) :
    (request.fields credentials (call.overlay token)).field? field =
      (request.instrumentFields ++ present .paymentMethodId token).lookup field := by
  rw [field?_fields, lookup_sentFields_of_instrument h]

theorem field?_transactionType (credentials : Credentials) (request : Request) (call : Call)
    (token : Option String) :
    (request.fields credentials (call.overlay token)).field? .transactionType =
      some request.transactionType.code := by
  rw [field?_fields]
  rfl

end Request

end PaymentGateway
