import PaymentGateway.Proofs.FieldList.Lookup
import PaymentGateway.Proofs.Memory.Execution
import PaymentGateway.Proofs.Payments.Adding
import PaymentGateway.Proofs.Payments.Pairs

/-!
# Stored payment methods hide numbers

Of a card number a stored method keeps the last four digits, of a bank account number nothing.  So
calls that differ in such numbers only, and not in these digits, store the same.
-/

namespace PaymentGateway

open PaymentGateway.Action (perform)

/-! ## What is kept of a number -/

def asciiDigits (text : String) : List Char :=
  text.toList.filter fun c => '0' ≤ c && c ≤ '9'

/-- A text that consists of the last digits of another: of four, or of all if there are fewer. -/
structure EndsDigits (kept number : String) : Prop where
  suffix : kept.toList <:+ asciiDigits number
  length : kept.toList.length = min 4 (asciiDigits number).length

theorem toList_lastFour (number : String) :
    (Payments.lastFour number).toList =
      (asciiDigits number).drop ((asciiDigits number).length - 4) :=
  String.toList_ofList

theorem endsDigits_lastFour (number : String) : EndsDigits (Payments.lastFour number) number := by
  constructor
  · rw [toList_lastFour]
    exact List.drop_suffix _ _
  · rw [toList_lastFour, List.length_drop]
    omega

/-- No other text consists of the last digits. -/
theorem EndsDigits.eq_lastFour {kept number : String} (h : EndsDigits kept number) :
    kept = Payments.lastFour number := by
  apply String.toList_inj.mp
  have hlast := endsDigits_lastFour number
  have hlength := h.length.trans hlast.length.symm
  exact (List.suffix_of_suffix_length_le h.suffix hlast.suffix
    (Nat.le_of_eq hlength)).eq_of_length hlength

/-! ## Properties that differ in numbers -/

/-- Properties that agree but for the bank account number and for the value of the card number,
whose last digits agree. -/
structure Overrides.SameButNumbers (p q : Overrides) : Prop where
  rest : ∀ name, name ≠ "ccNumber" → name ≠ "accountNumber" →
    p.values.get? name = q.values.get? name
  cardNumber : p.values.get? "ccNumber" = q.values.get? "ccNumber" ∨
    ∃ number other kept, p.visible? "ccNumber" = some number ∧
      q.visible? "ccNumber" = some other ∧ EndsDigits kept number ∧ EndsDigits kept other

namespace Overrides.SameButNumbers

variable {p q : Overrides}

theorem get?_eq (same : p.SameButNumbers q) {property : Property}
    (hcard : property.name ≠ "ccNumber") (haccount : property.name ≠ "accountNumber") :
    p.get? property = q.get? property := by
  rw [get?, get?, named?, named?, same.rest _ hcard haccount]

theorem lastFour_eq (same : p.SameButNumbers q) :
    (p.get? .cardNumber).map Payments.lastFour = (q.get? .cardNumber).map Payments.lastFour := by
  rcases same.cardNumber with hsame | ⟨number, other, kept, hnumber, hother, hkept, hkept'⟩
  · have hvalue : p.values.get? Property.cardNumber.name = q.values.get? Property.cardNumber.name :=
      hsame
    rw [get?, get?, named?, named?, hvalue]
  · have hp : p.get? .cardNumber = some number := (p.named?_eq _).trans hnumber
    have hq : q.get? .cardNumber = some other := (q.named?_eq _).trans hother
    rw [hp, hq, Option.map_some, Option.map_some, ← hkept.eq_lastFour, ← hkept'.eq_lastFour]

end Overrides.SameButNumbers

theorem Overrides.visible?_set {value : String} (h : Text.isBlankText value = false)
    (overrides : Overrides) (name : String) :
    (overrides.set name value).visible? name = some value := by
  rw [visible?, set, FieldList.get?_insert, if_pos rfl, Option.filter_some, h]
  rfl

/-- Properties given two card numbers with the same last digits, and one of them a bank account
number. -/
theorem Overrides.sameButNumbers_set {number other kept : String}
    (hnumber : Text.isBlankText number = false) (hother : Text.isBlankText other = false)
    (h : EndsDigits kept number) (h' : EndsDigits kept other) (overrides : Overrides)
    (account : String) :
    (overrides.set "ccNumber" number).SameButNumbers
      ((overrides.set "accountNumber" account).set "ccNumber" other) := by
  constructor
  · intro name hcard haccount
    rw [set, set, set, FieldList.get?_insert, FieldList.get?_insert, FieldList.get?_insert,
      if_neg hcard.symm, if_neg hcard.symm, if_neg haccount.symm]
  · exact .inr ⟨number, other, kept, visible?_set hnumber _ _, visible?_set hother _ _, h, h'⟩

namespace Payments

theorem describeMethod_eq {p q : Overrides} (same : p.SameButNumbers q)
    (account method tenant : Uuid) (isDefault : Bool) (token : String) (time : Timestamp) :
    describeMethod account method tenant p isDefault token time =
      describeMethod account method tenant q isDefault token time := by
  have hget (property : Property) (hcard : property.name ≠ "ccNumber")
      (haccount : property.name ≠ "accountNumber") : p.get? property = q.get? property :=
    same.get?_eq hcard haccount
  unfold describeMethod
  rw [same.lastFour_eq, hget .cardFirstName (by decide) (by decide),
    hget .cardLastName (by decide) (by decide), hget .cardType (by decide) (by decide),
    hget .cardExpirationMonth (by decide) (by decide),
    hget .cardExpirationYear (by decide) (by decide), hget .routingNumber (by decide) (by decide),
    hget .accountType (by decide) (by decide), hget .address (by decide) (by decide),
    hget .state (by decide) (by decide), hget .zip (by decide) (by decide)]

/-- Adding a method does the same with either properties, on any services. -/
theorem addMethod_eq {m : Type → Type} [Monad m] {p q : Overrides} (same : p.SameButNumbers q)
    (services : Services m) (account method : Uuid) (isDefault : Bool) (caller : Caller) :
    addMethod services account method p isDefault caller =
      addMethod services account method q isDefault caller := by
  have htoken : p.get? .token = q.get? .token := same.get?_eq (by decide) (by decide)
  unfold addMethod
  rw [htoken]
  cases q.get? .token with
  | none => rfl
  | some token =>
    have hrecord := describeMethod_eq same account method caller.tenant isDefault token
    simp only [hrecord]

end Payments

/-! ## Stored payment methods -/

/-- A payment method without a card or bank account number, and with the last digits of the card
number that was given for it, if one was. -/
structure PaymentMethod.HidesNumbers (record : PaymentMethod) (overrides : Overrides) : Prop where
  cardNumber : record.cardNumber = none
  accountNumber : record.accountNumber = none
  cardLastFour : Option.Rel EndsDigits record.cardLastFour (overrides.visible? "ccNumber")

theorem Payments.hidesNumbers_describeMethod (account method tenant : Uuid) (overrides : Overrides)
    (isDefault : Bool) (token : String) (time : Timestamp) :
    (describeMethod account method tenant overrides isDefault token time).HidesNumbers
      overrides := by
  refine ⟨rfl, rfl, ?_⟩
  show Option.Rel EndsDigits ((overrides.named? "ccNumber").map lastFour) _
  rw [overrides.named?_eq]
  cases overrides.visible? "ccNumber" with
  | none => exact .none
  | some number => exact .some (endsDigits_lastFour number)

inductive Effect.StoresSame : Effect → Effect → Prop
  | stored {record other : PaymentMethod} (reply : Except Failure Unit)
      (hrecord : record.timeless = other.timeless) :
      StoresSame (.stored record reply) (.stored other reply)

namespace Memory

variable {γ δ : Type}

theorem perform_putMethod (gateway : Gateway γ) (failures : StoreFailures) (record : PaymentMethod)
    (world : World γ) :
    perform ((services gateway failures).putMethod record) world =
      match failures.putMethod with
      | some failure => (.error failure, world)
      | none =>
          (.ok (), { world with
            stores := { world.stores with methods := world.stores.methods.put record } }) := by
  show perform (guarded failures.putMethod _) world = _
  cases failures.putMethod <;> rfl

theorem now_eq (gateway : Gateway γ) (failures : StoreFailures) (world : World γ) :
    (services gateway failures).now world = (world.time, world) := rfl

/-- Worlds with the same stores, times aside, keep alike what is described at different times. -/
theorem putMethod_alike (gateway : Gateway γ) (other : Gateway δ) (failures : StoreFailures)
    {record record' : PaymentMethod} (hrecord : record.timeless = record'.timeless) {w : World γ}
    {v : World δ} (h : w.stores.timeless = v.stores.timeless) :
    (perform ((services gateway failures).putMethod record) w).1 =
        (perform ((services other failures).putMethod record') v).1 ∧
      (perform ((services gateway failures).putMethod record) w).2.stores.timeless =
        (perform ((services other failures).putMethod record') v).2.stores.timeless := by
  rw [perform_putMethod, perform_putMethod]
  cases failures.putMethod with
  | some failure => exact ⟨rfl, h⟩
  | none =>
    refine ⟨rfl, ?_⟩
    show Stores.mk _ (w.stores.methods.put record).timeless _ =
      Stores.mk _ (v.stores.methods.put record').timeless _
    injection h with hledger hmethods haccounts
    rw [PaymentMethods.timeless_put, PaymentMethods.timeless_put, hrecord, hmethods, hledger,
      haccounts]

/-- What two calls that add a method have in common: they return the same method or the same
failure, tried to store the same and left the same stores, times aside. -/
structure AddedAlike (call : Except Failure PaymentMethod × World γ) (effects : List Effect)
    (call' : Except Failure PaymentMethod × World δ) (effects' : List Effect) : Prop where
  result : Matched Eq (fun record record' => record.timeless = record'.timeless) call.1 call'.1
  stores : call.2.stores.timeless = call'.2.stores.timeless
  effects : List.Forall₂ Effect.StoresSame effects effects'

/-- In memory a method is added alike at any time. -/
theorem addMethod_alike (gateway : Gateway γ) (other : Gateway δ) (failures : StoreFailures)
    (account method : Uuid) (overrides : Overrides) (isDefault : Bool) (caller : Caller)
    {w : World γ} {v : World δ} (h : w.stores.timeless = v.stores.timeless) :
    AddedAlike
      (perform (Payments.addMethod (services gateway failures) account method overrides isDefault
        caller) w)
      (effectsOf (Payments.addMethod · account method overrides isDefault caller)
        (services gateway failures) w)
      (perform (Payments.addMethod (services other failures) account method overrides isDefault
        caller) v)
      (effectsOf (Payments.addMethod · account method overrides isDefault caller)
        (services other failures) v) := by
  cases htoken : overrides.visible? "token" with
  | none =>
    rw [Payments.perform_addMethod_of_none htoken, Payments.perform_addMethod_of_none htoken,
      Payments.effectsOf_addMethod_of_none htoken, Payments.effectsOf_addMethod_of_none htoken]
    exact ⟨.error rfl, h, .nil⟩
  | some token =>
    rw [Payments.perform_addMethod_of_some htoken, Payments.perform_addMethod_of_some htoken,
      Payments.effectsOf_addMethod_of_some htoken, Payments.effectsOf_addMethod_of_some htoken,
      now_eq, now_eq]
    -- The clocks may differ, so the methods are equal but for the time of their creation.
    set record : Timestamp → PaymentMethod :=
      Payments.describeMethod account method caller.tenant overrides isDefault token
    have hrecord : (record w.time).timeless = (record v.time).timeless := rfl
    obtain ⟨hreply, hstores⟩ := putMethod_alike gateway other failures hrecord h
    have hresult : Matched Eq (fun record record' : PaymentMethod => record.timeless = record'.timeless)
        ((perform ((services gateway failures).putMethod (record w.time)) w).1.map
          fun _ => record w.time)
        ((perform ((services other failures).putMethod (record v.time)) v).1.map
          fun _ => record v.time) := by
      rw [hreply]
      exact (Matched.refl (fun _ => rfl) (fun _ => rfl) _).map fun _ _ _ => hrecord
    refine ⟨hresult, hstores, ?_⟩
    show List.Forall₂ Effect.StoresSame [.stored (record w.time) _] [.stored (record v.time) _]
    rw [hreply]
    exact .cons (.stored _ hrecord) .nil

/-- Adding a method keeps no numbers.  Calls that differ in numbers only do the same, also at
different times; what a call with a token stores hides the numbers, and a call without one stores
nothing. -/
theorem addMethod_hides_numbers (account method : Uuid) (isDefault : Bool) (caller : Caller) :
    (∀ (p q : Overrides), p.SameButNumbers q →
      (∀ {m : Type → Type} [Monad m] (services : Services m),
        Payments.addMethod services account method p isDefault caller =
          Payments.addMethod services account method q isDefault caller) ∧
      ∀ {γ δ : Type} (gateway : Gateway γ) (other : Gateway δ) (failures : StoreFailures)
        (w : World γ) (v : World δ), w.stores.timeless = v.stores.timeless →
        AddedAlike
          (perform (Payments.addMethod (services gateway failures) account method p isDefault
            caller) w)
          (effectsOf (Payments.addMethod · account method p isDefault caller)
            (services gateway failures) w)
          (perform (Payments.addMethod (services other failures) account method q isDefault
            caller) v)
          (effectsOf (Payments.addMethod · account method q isDefault caller)
            (services other failures) v)) ∧
    (∀ (overrides : Overrides) {σ : Type} (services : Services (StateM σ)) (s : σ),
      (overrides.visible? "token").isSome →
      ∃ record reply, record.HidesNumbers overrides ∧
        effectsOf (Payments.addMethod · account method overrides isDefault caller) services s =
          [.stored record reply] ∧
        (perform (Payments.addMethod services account method overrides isDefault caller) s).1 =
          reply.map fun _ => record) ∧
    ∀ (overrides : Overrides) {σ : Type} (services : Services (StateM σ)) (s : σ),
      overrides.visible? "token" = none →
      effectsOf (Payments.addMethod · account method overrides isDefault caller) services s = [] ∧
      perform (Payments.addMethod services account method overrides isDefault caller) s =
        (.error (.validation (.propertyRequired "token")), s) := by
  refine ⟨fun p q same => ⟨fun services => ?_, ?_⟩, ?_, ?_⟩
  · exact Payments.addMethod_eq same services account method isDefault caller
  · -- The program itself is the same for both properties, so only the worlds are left to compare.
    intro γ δ gateway other failures w v h
    have heffects : effectsOf (Payments.addMethod · account method p isDefault caller)
        (services gateway failures) w =
        effectsOf (Payments.addMethod · account method q isDefault caller)
          (services gateway failures) w := by
      rw [effectsOf, Payments.addMethod_eq same, effectsOf]
    rw [Payments.addMethod_eq same, heffects]
    exact addMethod_alike gateway other failures account method q isDefault caller h
  · intro overrides σ services s h
    obtain ⟨token, htoken⟩ := Option.isSome_iff_exists.mp h
    rw [Payments.effectsOf_addMethod_of_some htoken, Payments.perform_addMethod_of_some htoken]
    exact ⟨_, _, Payments.hidesNumbers_describeMethod _ _ _ _ _ _ _, rfl, rfl⟩
  · intro overrides σ services s htoken
    exact ⟨Payments.effectsOf_addMethod_of_none htoken services account method isDefault caller s,
      Payments.perform_addMethod_of_none htoken services account method isDefault caller s⟩

def tokenProperties : Overrides := .ofList [("token", "tok-1")]

def laterWorld : World Unit :=
  { emptyWorld with time := { Timestamp.epoch with nanosecond := 1, nanosecond_lt := by decide } }

def maskedMethod (world : World Unit) : PaymentMethod where
  token := some "tok-1"
  cardLastFour := some "1234"
  isDefault := true
  createdAt := some world.time

theorem addMethod_hides_numbers_of_card :
    AddedAlike
      (perform (Payments.addMethod (services approving) .nil .nil
        (tokenProperties.set "ccNumber" "4111-1111 1111 1234") true ⟨.nil, none⟩) emptyWorld)
      [.stored (maskedMethod emptyWorld) (.ok ())]
      (perform (Payments.addMethod (services approving) .nil .nil
        ((tokenProperties.set "accountNumber" "99").set "ccNumber" "№ 1234x") true ⟨.nil, none⟩)
        laterWorld)
      [.stored (maskedMethod laterWorld) (.ok ())] ∧
    (∃ record : PaymentMethod, record.cardNumber = none ∧
      (perform (Payments.addMethod (services approving) .nil .nil tokenProperties true ⟨.nil, none⟩)
        emptyWorld).1 = .ok record) ∧
    (perform (Payments.addMethod (services approving) .nil .nil .empty true ⟨.nil, none⟩)
      emptyWorld).2 = emptyWorld := by
  obtain ⟨halike, htoken, hnone⟩ := addMethod_hides_numbers .nil .nil true ⟨.nil, none⟩
  have hkept (number : String) (h : (asciiDigits number).drop ((asciiDigits number).length - 4) =
      ['1', '2', '3', '4']) : EndsDigits "1234" number := by
    have hlast : Payments.lastFour number = "1234" := by
      apply String.toList_inj.mp
      rw [toList_lastFour, h]
      rfl
    rw [← hlast]
    exact endsDigits_lastFour number
  have same := Overrides.sameButNumbers_set (by decide) (by decide)
    (hkept "4111-1111 1111 1234" (by decide)) (hkept "№ 1234x" (by decide)) tokenProperties "99"
  refine ⟨(halike _ _ same).2 approving approving {} emptyWorld laterWorld rfl, ?_, ?_⟩
  · obtain ⟨record, reply, hhides, heffects, hresult⟩ :=
      htoken tokenProperties (services approving) emptyWorld (by decide)
    cases heffects
    exact ⟨_, hhides.cardNumber, hresult⟩
  · rw [(hnone .empty (services approving) emptyWorld (by decide)).2]

end Memory

end PaymentGateway
