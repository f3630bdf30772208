import PaymentGateway.Proofs.Payments.Means

/-!
# Adding a payment method

Without a token nothing is done.  With one, the method that the properties describe is given to the
store once, and the call fails only if the store does.
-/

namespace PaymentGateway.Payments

open PaymentGateway.Action (perform)

variable {σ : Type} {overrides : Overrides} {token : String}

theorem token_get? (overrides : Overrides) :
    overrides.get? .token = overrides.visible? "token" :=
  overrides.named?_eq "token"

theorem perform_addMethod_of_none (h : overrides.visible? "token" = none)
    (services : Services (StateM σ)) (account method : Uuid) (isDefault : Bool) (caller : Caller)
    (s : σ) :
    perform (addMethod services account method overrides isDefault caller) s =
      (.error (.validation (.propertyRequired "token")), s) := by
  unfold addMethod
  rw [token_get?, h]
  rfl

theorem perform_addMethod_of_some (h : overrides.visible? "token" = some token)
    (services : Services (StateM σ)) (account method : Uuid) (isDefault : Bool) (caller : Caller)
    (s : σ) :
    perform (addMethod services account method overrides isDefault caller) s =
      let record := describeMethod account method caller.tenant overrides isDefault token
        (services.now s).1
      let put := perform (services.putMethod record) (services.now s).2
      (put.1.map fun _ => record, put.2) := by
  have hnow : perform (liftM services.now : Action (StateM σ) Timestamp) s =
      (.ok (services.now s).1, (services.now s).2) := Action.perform_liftM _ _
  unfold addMethod
  rw [token_get?, h]
  dsimp only
  rw [Action.perform_bind_of_ok hnow, Action.perform_bind_pure]

theorem effectsOf_addMethod_of_none (h : overrides.visible? "token" = none)
    (services : Services (StateM σ)) (account method : Uuid) (isDefault : Bool) (caller : Caller)
    (s : σ) :
    effectsOf (addMethod · account method overrides isDefault caller) services s = [] := by
  rw [effectsOf, perform_addMethod_of_none h]

theorem effectsOf_addMethod_of_some (h : overrides.visible? "token" = some token)
    (services : Services (StateM σ)) (account method : Uuid) (isDefault : Bool) (caller : Caller)
    (s : σ) :
    effectsOf (addMethod · account method overrides isDefault caller) services s =
      let record := describeMethod account method caller.tenant overrides isDefault token
        (services.now s).1
      [.stored record (perform (services.putMethod record) (services.now s).2).1] := by
  rw [effectsOf, perform_addMethod_of_some h]
  rfl

end PaymentGateway.Payments
