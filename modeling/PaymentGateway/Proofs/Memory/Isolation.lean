import PaymentGateway.Proofs.Memory.Execution
import PaymentGateway.Proofs.Memory.Runs

/-!
# Payments do not disturb each other

What a payment of a tenant shows follows from the calls for it and from the payment methods of the
tenant.  The calls of other tenants and those for other payments can be taken out of a run, whatever
identifiers they share with the payment.
-/

namespace PaymentGateway

/-! ## Jobs and a payment -/

/-- Whether a job is done for another tenant, or pays for another payment. -/
def Job.isForeign (payment tenant : Uuid) : Job → Bool
  | .pay call => call.caller.tenant != tenant || call.ids.payment != payment
  | .history _ owner => owner != tenant
  | .addMethod _ _ _ _ caller => caller.tenant != tenant
  | .hostedPage | .notification => false

def Job.isAbout (payment tenant : Uuid) : Job → Bool
  | .pay call => call.caller.tenant == tenant && call.ids.payment == payment
  | .history other owner => owner == tenant && other == payment
  | .addMethod _ _ _ _ _ | .hostedPage | .notification => false

def Answer.timeless : Answer → Answer
  | .outcome o => .outcome o.timeless
  | .outcomes os => .outcomes (os.map Outcome.timeless)
  | .method record => .method record.timeless
  | .page fields => .page fields
  | .done => .done

theorem timeless_map_outcome (result : Except Failure Outcome) :
    (result.map Answer.outcome).map Answer.timeless =
      (result.map Outcome.timeless).map Answer.outcome := by
  cases result <;> rfl

/-! ## Stores and a payment -/

theorem Ledger.ofPayment_append (ledger : Ledger) (receipt : Receipt) (payment tenant : Uuid) :
    (ledger.append receipt).ofPayment payment tenant =
      ledger.ofPayment payment tenant ++
        if receipt.paymentId = payment ∧ receipt.tenantId = tenant then [receipt] else [] := by
  rw [ofPayment, append, List.filter_append, ofPayment]
  by_cases h : receipt.paymentId = payment ∧ receipt.tenantId = tenant
  · simp [h]
  · rw [if_neg h]
    simp_all

theorem PaymentMethods.find?_put (methods : PaymentMethods) (record : PaymentMethod)
    (id tenant : Uuid) :
    (methods.put record).find? id tenant =
      if record.id = id ∧ record.tenantId = tenant then some record
      else methods.find? id tenant := by
  rw [find?, put, List.find?_cons]
  split <;> simp_all [find?]

/-- Stores that agree on a payment and on the payment methods of its tenant, times aside. -/
structure Stores.Agree (payment tenant : Uuid) (s t : Stores) : Prop where
  receipts : s.ledger.timeless.ofPayment payment tenant =
    t.ledger.timeless.ofPayment payment tenant
  methods : ∀ id, s.methods.timeless.find? id tenant = t.methods.timeless.find? id tenant

namespace Stores.Agree

variable {payment tenant : Uuid} {s t u : Stores}

theorem refl (payment tenant : Uuid) (s : Stores) : s.Agree payment tenant s :=
  ⟨rfl, fun _ => rfl⟩

theorem trans (h : s.Agree payment tenant t) (h' : t.Agree payment tenant u) :
    s.Agree payment tenant u :=
  ⟨h.receipts.trans h'.receipts, fun id => (h.methods id).trans (h'.methods id)⟩

/-- Neither a payment nor a payment method is looked up in the accounts. -/
theorem withAccounts (h : s.Agree payment tenant t) (accounts other : Accounts) :
    Agree payment tenant { s with accounts } { t with accounts := other } :=
  ⟨h.receipts, h.methods⟩

theorem append (h : s.Agree payment tenant t) {receipt other : Receipt}
    (hsame : receipt.timeless = other.timeless) :
    Agree payment tenant { s with ledger := s.ledger.append receipt }
      { t with ledger := t.ledger.append other } := by
  refine ⟨?_, h.methods⟩
  dsimp only
  rw [Ledger.timeless_append, Ledger.timeless_append, Ledger.ofPayment_append,
    Ledger.ofPayment_append, h.receipts, hsame]

/-- A receipt of another payment, or of another tenant, is not seen. -/
theorem append_of_foreign {receipt : Receipt}
    (hforeign : ¬ (receipt.paymentId = payment ∧ receipt.tenantId = tenant)) (s : Stores) :
    Agree payment tenant { s with ledger := s.ledger.append receipt } s := by
  refine ⟨?_, fun _ => rfl⟩
  have hother : ¬ (receipt.timeless.paymentId = payment ∧ receipt.timeless.tenantId = tenant) :=
    hforeign
  dsimp only
  rw [Ledger.timeless_append, Ledger.ofPayment_append, if_neg hother, List.append_nil]

theorem put (h : s.Agree payment tenant t) {record other : PaymentMethod}
    (hsame : record.timeless = other.timeless) :
    Agree payment tenant { s with methods := s.methods.put record }
      { t with methods := t.methods.put other } := by
  refine ⟨h.receipts, fun id => ?_⟩
  dsimp only
  rw [PaymentMethods.timeless_put, PaymentMethods.timeless_put, PaymentMethods.find?_put,
    PaymentMethods.find?_put, h.methods id, hsame]

/-- A payment method of another tenant is not seen. -/
theorem put_of_foreign {record : PaymentMethod} (hforeign : record.tenantId ≠ tenant)
    (s : Stores) : Agree payment tenant { s with methods := s.methods.put record } s := by
  refine ⟨rfl, fun id => ?_⟩
  have hother : ¬ (record.timeless.id = id ∧ record.timeless.tenantId = tenant) :=
    fun h => hforeign h.2
  dsimp only
  rw [PaymentMethods.timeless_put, PaymentMethods.find?_put, if_neg hother]

theorem outcomes (h : s.Agree payment tenant t) :
    (s.ledger.ofPayment payment tenant).map (·.outcome.timeless) =
      (t.ledger.ofPayment payment tenant).map (·.outcome.timeless) := by
  have houtcomes := congrArg (List.map Receipt.outcome) h.receipts
  rw [Ledger.ofPayment_timeless, Ledger.ofPayment_timeless, List.map_map, List.map_map] at houtcomes
  exact houtcomes

/-- A call for the payment finds the same in stores that agree. -/
theorem sameFor (h : s.Agree payment tenant t) {call : Call}
    (hpayment : call.ids.payment = payment) (htenant : call.caller.tenant = tenant)
    (haccounts : s.accounts = t.accounts) : s.SameFor call t := by
  subst hpayment htenant
  refine ⟨?_, h.methods call.ids.method, congrArg (·.find? call.ids.account) haccounts⟩
  rw [← Ledger.lastAuthorization?_timeless s.ledger, ← Ledger.lastAuthorization?_timeless t.ledger,
    Ledger.lastAuthorization?, Ledger.lastAuthorization?, h.receipts]

end Stores.Agree

namespace Memory

open PaymentGateway.Action (perform)

/-! ## Visits -/

structure Visit where
  turn : Turn
  reply : FieldList → Except Failure FieldList

namespace Visit

def timeless (visit : Visit) : Visit :=
  { visit with turn := { visit.turn with time := .epoch } }

def gateway (visit : Visit) : Gateway Unit :=
  ⟨fun request state => (visit.reply request, state)⟩

def entry (credentials : Credentials) (world : World Unit) (visit : Visit) : Entry Unit :=
  Entry.ofTurn visit.gateway credentials world visit.turn

end Visit

def visited (credentials : Credentials) : World Unit → List Visit → List (Entry Unit)
  | _, [] => []
  | world, visit :: visits =>
      let entry := visit.entry credentials world
      entry :: visited credentials entry.after visits

/-- What a turn shows of a payment, times aside. -/
structure Sight where
  job : Job
  -- The fields it sent.
  sent : List FieldList
  answer : Except Failure Answer
  -- The history of the payment that it met.
  history : List Outcome

def Entry.sight {γ : Type} (payment tenant : Uuid) (entry : Entry γ) : Sight where
  job := entry.job
  sent := entry.effects.filterMap Effect.sent?
  answer := entry.result.map Answer.timeless
  history := (entry.before.stores.ledger.ofPayment payment tenant).map (·.outcome.timeless)

def sights {γ : Type} (payment tenant : Uuid) (entries : List (Entry γ)) : List Sight :=
  (entries.filter (·.job.isAbout payment tenant)).map (Entry.sight payment tenant)

/-! ## One turn -/

structure Entry.Pays {γ : Type} (gateway : Gateway γ) (credentials : Credentials) (call : Call)
    (entry : Entry γ) : Prop where
  job : entry.job = .pay call
  concluded : ∃ result : Except Failure Outcome, entry.result = result.map .outcome ∧
    (result, entry.effects, entry.after) =
      conclusion gateway credentials World.time call entry.before
        (perform (Payments.prepare (services gateway) call) entry.before).1

theorem pays_ofTurn {γ : Type} (gateway : Gateway γ) (credentials : Credentials)
    (world : World γ) (turn : Turn) {call : Call} (hjob : turn.job = .pay call) :
    (Entry.ofTurn gateway credentials world turn).Pays gateway credentials call := by
  obtain ⟨result, hresult, course⟩ := course_ofTurn gateway credentials world turn hjob
  rw [← clocked_time] at course
  exact ⟨hjob, result, hresult, eq_conclusion_of_course course⟩

/-- A turn that adds a payment method stores it if there is a token for it. -/
theorem after_ofTurn_addMethod {γ : Type} (gateway : Gateway γ) (credentials : Credentials)
    (world : World γ) (time : Timestamp) (accounts : Accounts) (account method : Uuid)
    (overrides : Overrides) (isDefault : Bool) (caller : Caller) :
    (Entry.ofTurn gateway credentials world
        ⟨time, accounts, .addMethod account method overrides isDefault caller⟩).after.stores =
      match overrides.get? .token with
      | none => { world.stores with accounts }
      | some token =>
          { world.stores with
            accounts
            methods := world.stores.methods.put <|
              Payments.describeMethod account method caller.tenant overrides isDefault token
                time } := by
  let before : World γ := { world with time, stores := { world.stores with accounts } }
  show (perform (Payments.addMethod (services gateway) account method overrides isDefault caller
    >>= fun record => pure (Answer.method record)) before).2.stores = _
  rw [Action.perform_bind_pure]
  unfold Payments.addMethod
  cases overrides.get? .token <;> rfl

/-- A payment does not see what a call for another one, or for another tenant, leaves behind. -/
theorem agree_conclusion_of_foreign {γ : Type} {payment tenant : Uuid} {call : Call}
    (hforeign : ¬ (call.ids.payment = payment ∧ call.caller.tenant = tenant))
    (gateway : Gateway γ) (credentials : Credentials) (clock : World γ → Timestamp)
    (world : World γ) (prepared : Except Failure (Request × Option String)) :
    (conclusion gateway credentials clock call world prepared).2.2.stores.Agree payment tenant
      world.stores := by
  rcases prepared with failure | ⟨request, token⟩
  · exact .refl ..
  · unfold conclusion
    dsimp only
    cases (gateway.exchange _ world.gateway).1 with
    | error failure => exact .refl ..
    | ok response => exact .append_of_foreign hforeign world.stores

/-- What a foreign turn leaves behind looks to a payment as what it met. -/
theorem agree_of_foreign {payment tenant : Uuid} {visit : Visit}
    (hforeign : visit.turn.job.isForeign payment tenant = true) (credentials : Credentials)
    (world : World Unit) :
    (visit.entry credentials world).after.stores.Agree payment tenant world.stores := by
  obtain ⟨⟨time, accounts, job⟩, reply⟩ := visit
  dsimp only at hforeign
  have hmet : Stores.Agree payment tenant { world.stores with accounts } world.stores :=
    .withAccounts (.refl payment tenant world.stores) accounts world.stores.accounts
  -- A foreign job writes under another payment, or under another tenant, if it writes at all.
  cases job with
  | pay call =>
    have hother : ¬ (call.ids.payment = payment ∧ call.caller.tenant = tenant) := by
      rintro ⟨rfl, rfl⟩
      simp [Job.isForeign] at hforeign
    obtain ⟨-, result, -, hconcluded⟩ := pays_ofTurn (Visit.gateway ⟨⟨time, accounts, .pay call⟩,
      reply⟩) credentials world ⟨time, accounts, .pay call⟩ rfl
    have hafter := congrArg (fun c => c.2.2.stores) hconcluded
    rw [Visit.entry, hafter]
    exact .trans (agree_conclusion_of_foreign hother ..) hmet
  | history other owner => exact hmet
  | addMethod account method overrides isDefault caller =>
    have hother : caller.tenant ≠ tenant := by simpa [Job.isForeign] using hforeign
    rw [Visit.entry, after_ofTurn_addMethod]
    cases overrides.get? .token with
    | none => exact hmet
    | some token =>
      have hrecord : (Payments.describeMethod account method caller.tenant overrides isDefault
          token time).tenantId ≠ tenant := hother
      exact .trans (.put_of_foreign hrecord { world.stores with accounts }) hmet
  | hostedPage => cases hforeign
  | notification => cases hforeign

/-- A call for the payment shows the same from stores that agree on it if it gets the same reply,
and leaves such stores. -/
theorem agree_of_pays {payment tenant : Uuid} {reply : FieldList → Except Failure FieldList}
    {credentials : Credentials} {call : Call} {entry again : Entry Unit}
    (pays : entry.Pays ⟨fun request state => (reply request, state)⟩ credentials call)
    (pays' : again.Pays ⟨fun request state => (reply request, state)⟩ credentials call)
    (agree : entry.before.stores.Agree payment tenant again.before.stores)
    (haccounts : entry.before.stores.accounts = again.before.stores.accounts)
    (hpayment : call.ids.payment = payment) (htenant : call.caller.tenant = tenant) :
    entry.after.stores.Agree payment tenant again.after.stores ∧
      entry.sight payment tenant = again.sight payment tenant := by
  obtain ⟨hjob, result, hresult, hconcluded⟩ := pays
  obtain ⟨hjob', result', hresult', hconcluded'⟩ := pays'
  rw [prepare_congr (agree.sameFor hpayment htenant haccounts)] at hconcluded
  -- Both calls find the same, so they come to one conclusion over two worlds.
  have halike : Alike (fun w v => w.stores.Agree payment tenant v.stores)
      (result, entry.effects, entry.after) (result', again.effects, again.after) := by
    rw [hconcluded, hconcluded']
    rcases (perform (Payments.prepare _ call) again.before).1 with failure | ⟨request, token⟩
    · exact ⟨rfl, rfl, agree⟩
    · exact alike_settled (fun related hsame => related.append hsame) agree ..
  refine ⟨halike.after, ?_⟩
  rw [Entry.sight, Entry.sight, Sight.mk.injEq, hjob, hjob', hresult, hresult']
  refine ⟨rfl, halike.sent, ?_, agree.outcomes⟩
  rw [timeless_map_outcome, timeless_map_outcome, halike.result]

theorem sight_history {γ : Type} (gateway : Gateway γ) (credentials : Credentials)
    (world : World γ) (time : Timestamp) (accounts : Accounts) (payment tenant : Uuid) :
    let history := (world.stores.ledger.ofPayment payment tenant).map (·.outcome.timeless)
    (Entry.ofTurn gateway credentials world ⟨time, accounts, .history payment tenant⟩).sight
        payment tenant =
      ⟨.history payment tenant, [], .ok (.outcomes history), history⟩ := by
  intro history
  show Sight.mk _ _ (.ok (.outcomes (((world.stores.ledger.ofPayment payment tenant).map
    (·.outcome)).map Outcome.timeless))) _ = _
  rw [List.map_map]
  rfl

/-- A kept turn leaves stores that agree on the payment where it meets such stores.  If it is about
the payment it shows the same. -/
theorem agree_of_kept {payment tenant : Uuid} {w v : World Unit}
    (agree : w.stores.Agree payment tenant v.stores) {visit other : Visit}
    (hsame : visit.timeless = other.timeless)
    (hkept : visit.turn.job.isForeign payment tenant = false) (credentials : Credentials) :
    (visit.entry credentials w).after.stores.Agree payment tenant
        (other.entry credentials v).after.stores ∧
      (visit.turn.job.isAbout payment tenant = true →
        (visit.entry credentials w).sight payment tenant =
          (other.entry credentials v).sight payment tenant) := by
  obtain ⟨⟨time, accounts, job⟩, reply⟩ := visit
  obtain ⟨⟨otherTime, otherAccounts, otherJob⟩, otherReply⟩ := other
  obtain ⟨⟨rfl, rfl⟩, rfl⟩ : (accounts = otherAccounts ∧ job = otherJob) ∧ reply = otherReply := by
    simpa [Visit.timeless] using hsame
  dsimp only at hkept ⊢
  have hmet := agree.withAccounts accounts accounts
  -- A kept job about the payment sees what the stores agree on; a kept job of another kind writes
  -- the same into both.
  cases job with
  | pay call =>
    obtain ⟨htenant, hpayment⟩ : call.caller.tenant = tenant ∧ call.ids.payment = payment := by
      simpa [Job.isForeign] using hkept
    obtain ⟨hafter, hsight⟩ := agree_of_pays
      (pays_ofTurn _ credentials w ⟨time, accounts, .pay call⟩ rfl)
      (pays_ofTurn _ credentials v ⟨otherTime, accounts, .pay call⟩ rfl)
      hmet rfl hpayment htenant
    exact ⟨hafter, fun _ => hsight⟩
  | history asked owner =>
    refine ⟨hmet, fun habout => ?_⟩
    obtain ⟨rfl, rfl⟩ : owner = tenant ∧ asked = payment := by simpa [Job.isAbout] using habout
    rw [Visit.entry, Visit.entry, sight_history, sight_history, agree.outcomes]
  | addMethod account method overrides isDefault caller =>
    refine ⟨?_, fun habout => nomatch habout⟩
    rw [Visit.entry, Visit.entry, after_ofTurn_addMethod, after_ofTurn_addMethod]
    cases overrides.get? .token with
    | none => exact hmet
    | some token => exact hmet.put rfl
  | hostedPage => exact ⟨hmet, fun habout => nomatch habout⟩
  | notification => exact ⟨hmet, fun habout => nomatch habout⟩

/-! ## Whole runs -/

theorem isAbout_of_isForeign {payment tenant : Uuid} {job : Job}
    (h : job.isForeign payment tenant = true) : job.isAbout payment tenant = false := by
  cases job with
  | pay call =>
    simp only [Job.isForeign, Bool.or_eq_true, bne_iff_ne] at h
    simp only [Job.isAbout, Bool.and_eq_false_iff, beq_eq_false_iff_ne]
    exact h
  | history asked owner =>
    simp only [Job.isForeign, bne_iff_ne] at h
    simp [Job.isAbout, h]
  | _ => rfl

theorem sights_cons {γ : Type} (payment tenant : Uuid) (entry : Entry γ)
    (entries : List (Entry γ)) :
    sights payment tenant (entry :: entries) =
      (if entry.job.isAbout payment tenant then [entry.sight payment tenant] else []) ++
        sights payment tenant entries := by
  rw [sights, List.filter_cons]
  split <;> rfl

/-- From stores that agree on a payment, a run without its foreign turns shows the same of it. -/
theorem sights_eq_of_agree {payment tenant : Uuid} (credentials : Credentials)
    {visits kept : List Visit} {w v : World Unit}
    (agree : w.stores.Agree payment tenant v.stores)
    (hkept : (visits.filter fun visit => !visit.turn.job.isForeign payment tenant).map
      Visit.timeless = kept.map Visit.timeless) :
    sights payment tenant (visited credentials w visits) =
      sights payment tenant (visited credentials v kept) := by
  induction visits generalizing w v kept with
  | nil =>
    obtain rfl : kept = [] := by simpa using hkept.symm
    rfl
  | cons visit visits ih =>
    rw [visited, sights_cons]
    rw [List.filter_cons] at hkept
    -- A foreign visit is left out of the second run and shows nothing; the others go the same way
    -- in both.
    cases hforeign : visit.turn.job.isForeign payment tenant with
    | true =>
      have hjob : (visit.entry credentials w).job.isAbout payment tenant = false :=
        isAbout_of_isForeign hforeign
      rw [hforeign] at hkept
      rw [hjob]
      exact ih ((agree_of_foreign hforeign credentials w).trans agree) hkept
    | false =>
      rw [hforeign] at hkept
      obtain ⟨other, others, rfl, hsame, hrest⟩ := List.map_eq_cons_iff.mp hkept.symm
      obtain ⟨hafter, hsight⟩ := agree_of_kept agree hsame.symm hforeign credentials
      have hjob : (other.entry credentials v).job = (visit.entry credentials w).job :=
        (congrArg (fun visit : Visit => visit.turn.job) hsame :)
      rw [visited, sights_cons, hjob, ih hafter hrest.symm]
      split
      · rename_i habout
        rw [hsight habout]
      · rfl

/-- Taking the calls of other tenants out of a run, and those of a tenant for other payments, changes
nothing in what the calls of the tenant for a payment send, return and see. -/
theorem sights_eq_of_kept {credentials : Credentials} {world : World Unit}
    {visits kept : List Visit} {payment tenant : Uuid}
    (hkept : (visits.filter fun visit => !visit.turn.job.isForeign payment tenant).map
      Visit.timeless = kept.map Visit.timeless) :
    sights payment tenant (visited credentials world visits) =
      sights payment tenant (visited credentials world kept) :=
  sights_eq_of_agree credentials (.refl payment tenant world.stores) hkept

def tracedVisit (tenant : Uuid) (trace : String) (time : Timestamp) (call : Call) : Visit :=
  ⟨⟨time, .empty, .pay { call with caller := ⟨tenant, none⟩ }⟩, fun _ => .ok <| .ofList
    [("pg_response_type", "A"), ("pg_trace_number", trace), ("pg_transaction_type", "11")]⟩

/-- A stranger authorizes a payment of the same identifiers between the authorization of a tenant and
its capture, which still refers to the authorization of the tenant. -/
theorem sights_eq_of_kept_capture :
    let stranger : Uuid := ⟨List.replicate 32 1, rfl⟩
    let later : Timestamp := ⟨Date.epoch, 1, 0, by decide, by decide⟩
    let disturbed := [tracedVisit .nil "T-1" .epoch (tokenCall .authorize),
      tracedVisit stranger "T-2" .epoch (tokenCall .authorize),
      tracedVisit .nil "T-3" .epoch (bareCall .capture)]
    let undisturbed := [tracedVisit .nil "T-1" later (tokenCall .authorize),
      tracedVisit .nil "T-3" later (bareCall .capture)]
    (sights .nil .nil (visited ⟨"merchant", "secret"⟩ emptyWorld disturbed)).map
        (fun sight => sight.sent.map (·.get? "pg_original_trace_number")) =
      [[none], [some "T-1"]] ∧
    sights .nil .nil (visited ⟨"merchant", "secret"⟩ emptyWorld disturbed) =
      sights .nil .nil (visited ⟨"merchant", "secret"⟩ emptyWorld undisturbed) := by
  intro stranger later disturbed undisturbed
  refine ⟨by decide, sights_eq_of_kept ?_⟩
  rfl

end Memory

end PaymentGateway
