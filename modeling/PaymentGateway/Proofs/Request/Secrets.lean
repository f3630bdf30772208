import PaymentGateway.Proofs.Request.Fields
import PaymentGateway.Proofs.RequestCheck.Secrets

/-!
# Where requests carry secrets

The password of a login and the number of a card or bank account go into one field each.  Requests
that differ in these alone are sent with the same fields, which differ in the same secrets.
-/

namespace PaymentGateway

structure Credentials.Veils (c d : Credentials) : Prop where
  merchantId : c.merchantId = d.merchantId
  password : Veiled c.password d.password

namespace Request

/-- Two requests that differ at most in the number of their instrument. -/
inductive Veils : Request → Request → Prop
  | same (request : Request) : Veils request request
  | card {kind : Movement} {amount : Decimal} {payer : Payer} {details : Card} {number : String}
      (h : Veiled details.number number) :
      Veils (.card kind amount payer (some details))
        (.card kind amount payer (some { details with number }))
  | account {kind : Movement} {amount : Decimal} {payer : Payer} {details : BankAccount}
      {number : String} (h : Veiled details.number number) :
      Veils (.eft kind amount payer (some details))
        (.eft kind amount payer (some { details with number }))

def VeiledFields (fields others : List (Field × String)) : Prop :=
  List.Forall₂ VeiledEntry (fields.map Field.entry) (others.map Field.entry)

namespace VeiledFields

variable {fields others more rest : List (Field × String)}

theorem refl (fields : List (Field × String)) : VeiledFields fields fields :=
  List.forall₂_same.mpr fun entry _ => .same entry

theorem append (h : VeiledFields fields others) (hmore : VeiledFields more rest) :
    VeiledFields (fields ++ more) (others ++ rest) := by
  unfold VeiledFields
  rw [List.map_append, List.map_append]
  exact List.rel_append h hmore

theorem secret (field : Field) {text other : String} (h : Veiled text other)
    (hfield : field.wireName ∈ secretNames) : VeiledFields [(field, text)] [(field, other)] :=
  .cons (h.entry hfield) .nil

end VeiledFields

theorem Veils.shapeFields {request other : Request} (h : request.Veils other) :
    VeiledFields request.shapeFields other.shapeFields := by
  cases h with
  | same => exact .refl _
  | card h =>
    have hnumber := VeiledFields.secret .cardNumber h (by decide)
    exact .append (.append (.append (.append (.refl _) hnumber) (.refl _)) (.refl _)) (.refl _)
  | account h =>
    have hnumber := VeiledFields.secret .checkAccount h (by decide)
    exact .append (.append (.append (.refl _) hnumber) (.refl _)) (.refl _)

theorem Veils.transactionType_eq {request other : Request} (h : request.Veils other) :
    request.transactionType = other.transactionType := by
  cases h <;> rfl

theorem Veils.computedFields {request other : Request} (h : request.Veils other)
    {c d : Credentials} (hlogin : c.Veils d) :
    VeiledFields (request.computedFields c) (other.computedFields d) := by
  have hpassword := VeiledFields.secret .password hlogin.password (by decide)
  unfold Request.computedFields
  rw [hlogin.merchantId, h.transactionType_eq]
  exact .append (.append (.append (.refl [(.merchantId, d.merchantId)]) hpassword) (.refl _))
    h.shapeFields

/-- What is sent differs in secrets only, if the requests and the logins do. -/
theorem Veils.fields {request other : Request} (h : request.Veils other) {c d : Credentials}
    (hlogin : c.Veils d) {call otherCall : Call} (hids : call.ids = otherCall.ids)
    (hcaller : call.caller = otherCall.caller) (token : Option String) :
    (request.fields c (call.overlay token)).Veils (other.fields d (otherCall.overlay token)) := by
  unfold FieldList.Veils
  rw [entries_fields, entries_fields, hids, hcaller]
  exact ((h.computedFields hlogin).append (.refl _)).append (.refl _)

end Request

end PaymentGateway
