import Mathlib.Data.List.Find
import PaymentGateway.Proofs.RequestCheck.Shapes

/-!
# The check does not tell logins apart

The check asks of a login only that it is there and keeps to its lines.  So it comes to the same
under any two logins that do.  One that breaks a line is found behind all missing fields and before
anything else that breaks a line.
-/

namespace PaymentGateway

/-- A login that a request can carry. -/
structure Credentials.Sendable (credentials : Credentials) : Prop where
  merchantId_ne_empty : credentials.merchantId ≠ ""
  password_ne_empty : credentials.password ≠ ""
  merchantId_singleLine : SingleLine credentials.merchantId
  password_singleLine : SingleLine credentials.password

namespace RequestCheck

/-! ## Framing -/

theorem checkFraming_entry_cons (pair : Field × String) (rest : List (String × String)) :
    checkFraming (Field.entry pair :: rest) =
      if SingleLine pair.2 then checkFraming rest else .error (.lineBreak pair.1.wireName) := by
  rw [Field.entry, checkFraming, pair.1.isFramedName_wireName, Bool.not_true,
    if_neg Bool.false_ne_true]
  by_cases hline : SingleLine pair.2
  · rw [if_pos hline, (any_isLineBreak_eq_false_iff _).mpr hline, if_neg Bool.false_ne_true]
  · have hbreak : pair.2.toList.any isLineBreak = true := by
      rw [← Bool.not_eq_false, any_isLineBreak_eq_false_iff]
      exact hline
    rw [if_neg hline, if_pos hbreak]

theorem checkFraming_ne_missingField (entries : List (String × String)) (field : Field) :
    checkFraming entries ≠ .error (.missingField field) := by
  intro h
  induction entries with
  | nil => cases h
  | cons entry rest ih =>
    unfold checkFraming at h
    split at h
    · cases h
    · split at h
      · cases h
      · exact ih h

/-! ## Required fields -/

def IsBesideLogin (field : Field) : Prop :=
  field ≠ .merchantId ∧ field ≠ .password

instance (field : Field) : Decidable (IsBesideLogin field) :=
  inferInstanceAs (Decidable (_ ∧ _))

theorem isBesideLogin_of_mem_shapeRequired (m : FieldList) :
    ∀ field ∈ shapeRequired m, IsBesideLogin field := by
  unfold shapeRequired
  split
  · decide
  · split
    · decide
    · split <;> decide

variable (c d : Credentials) (request : Request) (call : Call) (token : Option String)

theorem field?_fields_eq {field : Field} (h : IsBesideLogin field) :
    (request.fields c (call.overlay token)).field? field =
      (request.fields d (call.overlay token)).field? field := by
  rw [Request.field?_fields, Request.field?_fields]
  simp [Request.sentFields, Request.computedFields, h.1, h.2]

theorem shapeRequired_fields_eq :
    shapeRequired (request.fields c (call.overlay token)) =
      shapeRequired (request.fields d (call.overlay token)) := by
  have hcontains (field : Field) (h : IsBesideLogin field) :
      (request.fields c (call.overlay token)).contains field =
        (request.fields d (call.overlay token)).contains field := by
    rw [FieldList.contains, field?_fields_eq c d request call token h, FieldList.contains]
  unfold shapeRequired
  rw [hcontains .cardNumber (by decide), hcontains .checkAccount (by decide),
    hcontains .paymentMethodId (by decide)]

theorem require_fields_eq {fields : List Field} (h : ∀ field ∈ fields, IsBesideLogin field) :
    require (request.fields c (call.overlay token)) fields =
      require (request.fields d (call.overlay token)) fields := by
  unfold require
  rw [List.find?_congr]
  intro field hfield
  rw [isPresent, field?_fields_eq c d request call token (h field hfield), isPresent]

/-- What a shape requires is there or missing alike under every login. -/
theorem require_shape_eq :
    require (request.fields c (call.overlay token))
        (shapeRequired (request.fields c (call.overlay token))) =
      require (request.fields d (call.overlay token))
        (shapeRequired (request.fields d (call.overlay token))) := by
  rw [shapeRequired_fields_eq c d]
  exact require_fields_eq c d request call token (isBesideLogin_of_mem_shapeRequired _)

/-! ## The verdict under a login -/

def fieldsBehindLogin : List (Field × String) :=
  (.transactionType, request.transactionType.code) :: request.shapeFields ++
    identifyingPairs call.ids call.caller ++ Request.present .paymentMethodId token

theorem entries_fields_eq :
    (request.fields c (call.overlay token)).entries =
      Field.entry (.merchantId, c.merchantId) :: Field.entry (.password, c.password) ::
        (fieldsBehindLogin request call token).map Field.entry :=
  Request.entries_fields c request call token

theorem exists_of_require_eq_error {m : FieldList} {fields : List Field} {fault : ValidationFault}
    (h : require m fields = .error fault) : ∃ field ∈ fields, fault = .missingField field := by
  unfold require at h
  split at h
  · next field hfield =>
    cases h
    exact ⟨field, List.mem_of_find?_eq_some hfield, rfl⟩
  · cases h

/-- The lines of a login, then all other lines. -/
def checkLines : Except ValidationFault Unit :=
  if SingleLine c.merchantId then
    if SingleLine c.password then
      checkFraming ((fieldsBehindLogin request call token).map Field.entry)
    else .error (.lineBreak "pg_password")
  else .error (.lineBreak "pg_merchant_id")

/-- The check of a request whose login is there. -/
theorem check_fields_eq (hmerchant : c.merchantId ≠ "") (hpassword : c.password ≠ "") :
    check (request.fields c (call.overlay token)) =
      (require (request.fields c (call.overlay token))
        (shapeRequired (request.fields c (call.overlay token))) >>= fun _ =>
      checkLines c request call token) := by
  have halways := (require_alwaysRequired_iff c request call token).mpr ⟨hmerchant, hpassword⟩
  rw [check, halways, entries_fields_eq, checkFraming_entry_cons, checkFraming_entry_cons]
  rfl

/-- Either one field is missing under every login that is there, or the lines decide. -/
theorem missing_or_checkLines :
    (∃ field, IsBesideLogin field ∧ ∀ c : Credentials, c.merchantId ≠ "" → c.password ≠ "" →
      check (request.fields c (call.overlay token)) = .error (.missingField field)) ∨
    ∀ c : Credentials, c.merchantId ≠ "" → c.password ≠ "" →
      check (request.fields c (call.overlay token)) = checkLines c request call token := by
  -- What the shape requires is not the login, so any login can stand for all of them.
  let d : Credentials := ⟨"", ""⟩
  cases hshape : require (request.fields d (call.overlay token))
      (shapeRequired (request.fields d (call.overlay token))) with
  | error fault =>
    obtain ⟨field, hfield, rfl⟩ := exists_of_require_eq_error hshape
    refine .inl ⟨field, isBesideLogin_of_mem_shapeRequired _ field hfield, ?_⟩
    intro c hmerchant hpassword
    rw [check_fields_eq c request call token hmerchant hpassword, require_shape_eq c d, hshape]
    rfl
  | ok =>
    right
    intro c hmerchant hpassword
    rw [check_fields_eq c request call token hmerchant hpassword, require_shape_eq c d, hshape]
    rfl

theorem checkLines_ne_missingField (field : Field) :
    checkLines c request call token ≠ .error (.missingField field) := by
  unfold checkLines
  split
  · split
    · exact checkFraming_ne_missingField _ field
    · exact nofun
  · exact nofun

variable {c}

theorem checkLines_of_sendable (hc : c.Sendable) :
    checkLines c request call token =
      checkFraming ((fieldsBehindLogin request call token).map Field.entry) := by
  rw [checkLines, if_pos hc.merchantId_singleLine, if_pos hc.password_singleLine]

/-- A login that breaks a line is named for it. -/
theorem checkLines_of_broken (h : ¬ (SingleLine c.merchantId ∧ SingleLine c.password)) :
    checkLines c request call token =
      .error (.lineBreak (if SingleLine c.merchantId then "pg_password" else "pg_merchant_id")) := by
  unfold checkLines
  by_cases hline : SingleLine c.merchantId
  · rw [if_pos hline, if_pos hline, if_neg fun hpassword => h ⟨hline, hpassword⟩]
  · rw [if_neg hline, if_neg hline]

end RequestCheck

end PaymentGateway
