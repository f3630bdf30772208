import PaymentGateway.Proofs.Client.Line
import PaymentGateway.Proofs.Memory.Isolation
import PaymentGateway.Proofs.Payments.Secrecy

/-!
# Runs do not tell secrets apart

A run of calls and histories shows outcomes, failures, messages and receipts.  None of it depends on
the password of the merchant or on the number of a card or bank account: two runs that differ in
such secrets only, and whose requests get the same replies, show the same and send requests that
differ in the same secrets.
-/

namespace PaymentGateway

open PaymentGateway.Action (perform Paired)

/-! ## Far ends behind the check -/

namespace Client

/-- A gateway that takes the requests that pass the check, and gives them a fixed reply. -/
def answering (reply : Except Failure FieldList) : Gateway Unit where
  exchange request state :=
    match RequestCheck.check request with
    | .error fault => (.error (.validation fault), state)
    | .ok () => (reply, state)

/-- What replies to a request: one fixed reply, or a client with a connection whose far end takes
every request whole. -/
inductive FarEnd where
  | replying (reply : Except Failure FieldList)
  | connected (settings : Settings) (connection : Connection) (whole : connection.writeLimit = none)

def FarEnd.gateway : FarEnd → Gateway Unit
  | .replying reply => answering reply
  | .connected settings connection _ =>
      { exchange request state := ((Client.exchange settings connection request).result, state) }

/-- A far end that takes every request whole replies to one as to another. -/
theorem result_exchange_congr {connection : Connection} (hwhole : connection.writeLimit = none)
    (settings : Settings) {m n : FieldList} (hm : RequestCheck.check m = .ok ())
    (hn : RequestCheck.check n = .ok ()) :
    (exchange settings connection m).result = (exchange settings connection n).result := by
  -- With every byte taken, what follows does not look at the request.
  have hreply (request : FieldList) : (converse settings connection request).2 =
      match connection.flushFailure with
      | some fault => (.error (.transport fault), 0)
      | none => readResponse (settings.readTimeout * 1000) settings.readTimeout [] 0
          connection.incoming := by
    rw [converse, writeRequest, hwhole]
    cases connection.flushFailure <;> rfl
  have hsame : (converse settings connection m).2.1 = (converse settings connection n).2.1 := by
    rw [hreply, hreply]
  rw [exchange, exchange, hm, hn]
  dsimp only
  split
  · rfl
  · cases connection.opening with
    | stalled => rfl
    | failed fault => rfl
    | opened => exact hsame

/-- Requests that the check does not tell apart get the same reply. -/
theorem FarEnd.reply_congr (farEnd : FarEnd) {m n : FieldList}
    (h : RequestCheck.check m = RequestCheck.check n) (state : Unit) :
    (farEnd.gateway.exchange m state).1 = (farEnd.gateway.exchange n state).1 := by
  cases farEnd with
  | replying reply =>
    unfold gateway answering
    dsimp only
    rw [h]
  | connected settings connection whole =>
    show (exchange settings connection m).result = (exchange settings connection n).result
    cases hm : RequestCheck.check m with
    | error fault => rw [exchange_of_rejected hm, exchange_of_rejected (h.symm.trans hm)]
    | ok => exact result_exchange_congr whole settings hm (h.symm.trans hm)

end Client

/-! ## Jobs and stores -/

inductive Job.Veils : Job → Job → Prop
  | pay {call other : Call} (h : call.Veils other) : Veils (.pay call) (.pay other)
  | history (payment tenant : Uuid) : Veils (.history payment tenant) (.history payment tenant)

/-- Two stores that differ in times and in the numbers of payment methods only. -/
structure Stores.Veils (s t : Stores) : Prop where
  ledger : s.ledger.timeless = t.ledger.timeless
  methods : List.Forall₂ PaymentMethod.Veils s.methods.records t.methods.records
  accounts : s.accounts = t.accounts

theorem PaymentMethods.rel_find? {methods others : PaymentMethods}
    (h : List.Forall₂ PaymentMethod.Veils methods.records others.records) (id tenant : Uuid) :
    Option.Rel PaymentMethod.Veils (methods.find? id tenant) (others.find? id tenant) := by
  obtain ⟨records⟩ := methods
  obtain ⟨records'⟩ := others
  unfold find?
  dsimp only at h ⊢
  induction h with
  | nil => exact .none
  | @cons record other _ _ hrecord _ ih =>
    have hid : record.id = other.id := (congrArg PaymentMethod.id hrecord.rest :)
    have htenant : record.tenantId = other.tenantId :=
      (congrArg PaymentMethod.tenantId hrecord.rest :)
    rw [List.find?_cons, List.find?_cons, hid, htenant]
    split
    · exact .some hrecord
    · exact ih

def World.Veils (w v : World Unit) : Prop :=
  w.stores.Veils v.stores

namespace Memory

theorem paired_guarded {α β : Type} {P : α → β → Prop} {operation : Step Unit α}
    {other : Step Unit β} (failure : Option Failure)
    (h : ∀ w v, w.Veils v → P (operation w).1 (other v).1 ∧ (operation w).2.Veils (other v).2) :
    Paired FailAlike World.Veils P (guarded failure operation) (guarded failure other) := by
  cases failure with
  | none => exact .liftM h
  | some error => exact .throw rfl

theorem paired_exchange (farEnd : Client.FarEnd) (failures : StoreFailures)
    {request other : FieldList} (h : request.Veils other) :
    Paired FailAlike World.Veils Eq
      ((services farEnd.gateway failures).exchange request)
      ((services farEnd.gateway failures).exchange other) := by
  intro w v hworld
  rw [perform_exchange, perform_exchange]
  dsimp only
  rw [farEnd.reply_congr h.check_eq]
  exact ⟨.refl FailAlike.refl (fun _ => rfl) _, hworld⟩

/-- What a call meets in memory tells no secrets apart. -/
theorem twin_services (farEnd : Client.FarEnd) (failures : StoreFailures) :
    (services farEnd.gateway failures).Twin World.Veils (services farEnd.gateway failures) where
  exchange := paired_exchange farEnd failures
  appendReceipt {receipt other} h := paired_guarded _ fun w v hworld => by
    refine ⟨rfl, ?_, hworld.methods, hworld.accounts⟩
    show (w.stores.ledger.append receipt).timeless = (v.stores.ledger.append other).timeless
    rw [Ledger.timeless_append, Ledger.timeless_append, hworld.ledger, h]
  lastAuthorization? payment tenant := paired_guarded _ fun w v hworld => by
    refine ⟨?_, hworld⟩
    show w.stores.ledger.lastAuthorization? payment tenant =
      v.stores.ledger.lastAuthorization? payment tenant
    rw [← Ledger.lastAuthorization?_timeless, hworld.ledger, Ledger.lastAuthorization?_timeless]
  receipts payment tenant := paired_guarded _ fun w v hworld => by
    refine ⟨?_, hworld⟩
    show (w.stores.ledger.ofPayment payment tenant).map _ =
      (v.stores.ledger.ofPayment payment tenant).map _
    rw [← Ledger.ofPayment_timeless, hworld.ledger, Ledger.ofPayment_timeless]
  findMethod? id tenant := paired_guarded _ fun w v hworld =>
    ⟨PaymentMethods.rel_find? hworld.methods id tenant, hworld⟩
  findAccount? id tenant := paired_guarded _ fun w v hworld =>
    ⟨congrArg (·.find? id) hworld.accounts, hworld⟩
  now _ _ hworld := hworld

/-! ## Runs with given replies -/

/-- A turn, with what replies to its request and the store operations that fail. -/
structure Occasion where
  turn : Turn
  farEnd : Client.FarEnd
  failures : StoreFailures

structure Occasion.Veils (occasion other : Occasion) : Prop where
  job : occasion.turn.job.Veils other.turn.job
  accounts : occasion.turn.accounts = other.turn.accounts
  farEnd : occasion.farEnd = other.farEnd
  failures : occasion.failures = other.failures

def Occasion.entry (occasion : Occasion) (credentials : Credentials) (world : World Unit) :
    Entry Unit :=
  let services := services occasion.farEnd.gateway occasion.failures
  let before : World Unit :=
    { world with
      time := occasion.turn.time
      stores := { world.stores with accounts := occasion.turn.accounts } }
  let finished := perform (occasion.turn.job.run services credentials) before
  { job := occasion.turn.job
    before
    result := finished.1
    effects := effectsOf (occasion.turn.job.run · credentials) services before
    after := finished.2 }

def chronicle (credentials : Credentials) : World Unit → List Occasion → List (Entry Unit)
  | _, [] => []
  | world, occasion :: occasions =>
      let entry := occasion.entry credentials world
      entry :: chronicle credentials entry.after occasions

def Entry.sent (entry : Entry Unit) : List FieldList :=
  (entry.effects.filterMap Effect.sent?).filter fun request => (RequestCheck.check request).isOk

/-- Two turns that show the same, times aside: the same answer, or the same failure with the same
message, and the same receipts.  They send requests that differ in secrets only, so one sends if the
other does. -/
structure Entry.ShowsSame (entry other : Entry Unit) : Prop where
  result : Matched (fun failure failure' => FailAlike failure failure' ∧
      failure.message = failure'.message)
    (fun answer answer' => answer.timeless = answer'.timeless) entry.result other.result
  ledger : entry.after.stores.ledger.timeless = other.after.stores.ledger.timeless
  sent : List.Forall₂ FieldList.Veils entry.sent other.sent

theorem paired_run {σ τ : Type} {R : σ → τ → Prop} {services : Services (StateM σ)}
    {others : Services (StateM τ)} (twin : services.Twin R others) {c d : Credentials}
    (hlogin : c.Veils d) {job other : Job} (h : job.Veils other) :
    Paired FailAlike R (fun a b : Answer => a.timeless = b.timeless) (job.run services c)
      (other.run others d) := by
  cases h with
  | pay h =>
    refine (Payments.paired_execute twin hlogin h).bind fun outcome outcome' hsame => .pure ?_
    exact congrArg Answer.outcome hsame
  | history payment tenant =>
    refine (Payments.paired_history twin payment tenant).bind fun outcomes outcomes' hsame =>
      .pure ?_
    exact congrArg Answer.outcomes hsame

theorem forall₂_sent {entry other : Entry Unit}
    (h : List.Forall₂ Effect.Veils entry.effects other.effects) :
    List.Forall₂ FieldList.Veils entry.sent other.sent := by
  have hsent : List.Forall₂ FieldList.Veils (entry.effects.filterMap Effect.sent?)
      (other.effects.filterMap Effect.sent?) := by
    refine List.rel_filterMap ?_ h
    intro effect effect' heffect
    cases heffect with
    | exchanged hrequest _ => exact .some hrequest
    | appended _ _ => exact .none
  refine List.rel_filter ?_ hsent
  intro request request' hrequest
  dsimp only
  rw [hrequest.check_eq]

/-- One step of two runs that differ in secrets only. -/
theorem entry_veils {c d : Credentials} (hlogin : c.Veils d) {w v : World Unit} (hworld : w.Veils v)
    {occasion other : Occasion} (h : occasion.Veils other) :
    (occasion.entry c w).ShowsSame (other.entry d v) ∧
      (occasion.entry c w).after.Veils (other.entry d v).after := by
  obtain ⟨⟨time, accounts, job⟩, farEnd, failures⟩ := occasion
  obtain ⟨⟨time', _, job'⟩, _, _⟩ := other
  obtain ⟨hjob, rfl, rfl, rfl⟩ := h
  have twin := twin_services farEnd failures
  have hbefore : World.Veils
      { w with time := time, stores := { w.stores with accounts } }
      { v with time := time', stores := { v.stores with accounts } } :=
    ⟨hworld.ledger, hworld.methods, rfl⟩
  -- the run itself shows the answer and the stores, the observed run what was sent
  obtain ⟨hresult, hafter⟩ := paired_run twin hlogin hjob _ _ hbefore
  obtain ⟨-, -, heffects⟩ := paired_run twin.observed hlogin hjob (_, []) (_, []) ⟨hbefore, .nil⟩
  refine ⟨⟨?_, hafter.ledger, forall₂_sent heffects⟩, hafter⟩
  exact hresult.imp fun failure failure' hfail => ⟨hfail, hfail.message_eq⟩

/-- Two runs that differ in secrets only show the same, turn by turn, whatever replies to their
requests and whichever store operations fail. -/
theorem showsSame_chronicle {c d : Credentials} (hlogin : c.Veils d) {w v : World Unit}
    (hworld : w.Veils v) {occasions others : List Occasion}
    (h : List.Forall₂ Occasion.Veils occasions others) :
    List.Forall₂ Entry.ShowsSame (chronicle c w occasions) (chronicle d v others) := by
  induction h generalizing w v with
  | nil => exact .nil
  | cons hoccasion _ ih =>
    obtain ⟨hsame, hafter⟩ := entry_veils hlogin hworld hoccasion
    exact .cons hsame (ih hafter)

def numberlessPurchase : Call :=
  { bareCall .purchase with
    amount := some .zero
    overrides := .ofList [("firstName", "Ada"), ("lastName", "Byron"), ("ccType", "visa"),
      ("ccFirstName", "Ada"), ("ccLastName", "Byron"), ("ccExpirationMonth", "12"),
      ("ccExpirationYear", "2030"), ("trn", "021000021"), ("accountType", "checking")] }

def threeOccasions (cardNumber : String) (time : Timestamp) : List Occasion :=
  let cardPurchase : Call :=
    { numberlessPurchase with
      overrides := numberlessPurchase.overrides.set "ccNumber" cardNumber }
  let approving : Connection := { incoming := [.bytes (Wire.encode approval)] }
  [⟨⟨time, .empty, .pay cardPurchase⟩, .replying (.ok approval),
      { appendReceipt := some (.storage "disk full") }⟩,
    ⟨⟨time, .empty, .pay numberlessPurchase⟩,
      .connected ⟨"merchant", "secret", "gateway", 6050, false, 10, 60⟩ approving rfl, {}⟩,
    ⟨⟨time, .empty, .history .nil .nil⟩, .replying (.ok approval), {}⟩]

def worldWithAccount (accountNumber : String) : World Unit :=
  { emptyWorld with
    stores := { Stores.empty with methods := ⟨[{ accountNumber := some accountNumber }]⟩ } }

theorem showsSame_chronicle_threeOccasions :
    let occasions := threeOccasions "4111111111111111" .epoch
    let others := threeOccasions "5500 0000 0000 0004"
      ⟨Timestamp.epoch.date, 1, 0, by decide, by decide⟩
    Credentials.Veils ⟨"merchant", "secret"⟩ ⟨"merchant", "pass=word"⟩ ∧
      (worldWithAccount "12345").Veils (worldWithAccount "987654321") ∧
      List.Forall₂ Occasion.Veils occasions others ∧
      List.Forall₂ Entry.ShowsSame
        (chronicle ⟨"merchant", "secret"⟩ (worldWithAccount "12345") occasions)
        (chronicle ⟨"merchant", "pass=word"⟩ (worldWithAccount "987654321") others) ∧
      (chronicle ⟨"merchant", "secret"⟩ (worldWithAccount "12345") occasions).head?.map
        (·.sent.length) = some 1 := by
  intro occasions others
  have hlogin : Credentials.Veils ⟨"merchant", "secret"⟩ ⟨"merchant", "pass=word"⟩ :=
    ⟨rfl, .secret ⟨by decide, by decide⟩ ⟨by decide, by decide⟩⟩
  have hnumber : Veiled "12345" "987654321" :=
    .secret ⟨by decide, by decide⟩ ⟨by decide, by decide⟩
  have hworld : (worldWithAccount "12345").Veils (worldWithAccount "987654321") :=
    ⟨rfl, .cons ⟨rfl, .none, .some hnumber⟩ .nil, rfl⟩
  have hcard : Veiled "4111111111111111" "5500 0000 0000 0004" :=
    .secret ⟨by decide, by decide⟩ ⟨by decide, by decide⟩
  have hoccasions : List.Forall₂ Occasion.Veils occasions others := by
    refine .cons ⟨.pay ⟨rfl, ?_⟩, rfl, rfl, rfl⟩ (.cons ⟨.pay ⟨rfl, ?_⟩, rfl, rfl, rfl⟩
      (.cons ⟨.history _ _, rfl, rfl, rfl⟩ .nil))
    · exact Overrides.veils_set _ (by decide) hcard
    · exact .refl _
  exact ⟨hlogin, hworld, hoccasions, showsSame_chronicle hlogin hworld hoccasions,
    by decide +kernel⟩

end Memory

end PaymentGateway
