import PaymentGateway.Proofs.Memory.Isolation
import PaymentGateway.Proofs.Payments.Adding
import PaymentGateway.Proofs.Payments.Credentials

/-!
# Stored methods are charged by token

In a run the payment methods of a world are those that the turns so far have added.  A call that
names one of them is paid with a token, its caller's or the one added last, whatever numbers its
caller gives.
-/

namespace PaymentGateway

open PaymentGateway.Action (perform)

/-- The token of the payment method that a tenant stored last under an identifier. -/
def PaymentMethods.token? (methods : PaymentMethods) (id tenant : Uuid) : Option String :=
  (methods.find? id tenant).bind (·.token)

theorem PaymentMethods.token?_put (methods : PaymentMethods) {record : PaymentMethod}
    {token : String} (h : record.token = some token) (id tenant : Uuid) :
    (methods.put record).token? id tenant =
      if record.id = id ∧ record.tenantId = tenant then some token
      else methods.token? id tenant := by
  rw [token?, find?_put]
  split
  · exact h
  · rfl

namespace Memory

variable {γ : Type}

/-! ## What turns add -/

def Entry.addedToken? (id tenant : Uuid) (entry : Entry γ) : Option String :=
  match entry.job, entry.result with
  | .addMethod _ method overrides _ caller, .ok _ =>
      if method = id ∧ caller.tenant = tenant then overrides.visible? "token" else none
  | _, _ => none

theorem Entry.addedToken?_of_ok {entry : Entry γ} {account method : Uuid} {overrides : Overrides}
    {isDefault : Bool} {caller : Caller} {answer : Answer}
    (hjob : entry.job = .addMethod account method overrides isDefault caller)
    (hresult : entry.result = .ok answer) (id tenant : Uuid) :
    entry.addedToken? id tenant =
      if method = id ∧ caller.tenant = tenant then overrides.visible? "token" else none := by
  rw [addedToken?, hjob, hresult]

theorem Entry.addedToken?_of_error {entry : Entry γ} {failure : Failure}
    (hresult : entry.result = .error failure) (id tenant : Uuid) :
    entry.addedToken? id tenant = none := by
  rw [addedToken?, hresult]
  cases entry.job <;> rfl

def lastToken? (id tenant : Uuid) (earlier : List (Entry γ)) : Option String :=
  earlier.reverse.findSome? (Entry.addedToken? id tenant)

theorem lastToken?_cons (id tenant : Uuid) (first : Entry γ) (earlier : List (Entry γ)) :
    lastToken? id tenant (first :: earlier) =
      (lastToken? id tenant earlier).or (first.addedToken? id tenant) := by
  unfold lastToken?
  rw [List.reverse_cons, List.findSome?_append, List.findSome?_singleton]

theorem exists_lastToken? {id tenant : Uuid} {earlier : List (Entry γ)} {adding : Entry γ}
    (h : adding ∈ earlier) (hadded : (adding.addedToken? id tenant).isSome) :
    ∃ token, lastToken? id tenant earlier = some token := by
  apply Option.isSome_iff_exists.mp
  unfold lastToken?
  rw [List.findSome?_isSome_iff]
  exact ⟨adding, List.mem_reverse.mpr h, hadded⟩

/-! ## What a turn leaves of the payment methods -/

theorem methods_conclusion (gateway : Gateway γ) (credentials : Credentials)
    (clock : World γ → Timestamp) (call : Call) (world : World γ)
    (prepared : Except Failure (Request × Option String)) :
    (conclusion gateway credentials clock call world prepared).2.2.stores.methods =
      world.stores.methods := by
  rcases prepared with failure | ⟨request, token⟩
  · rfl
  · unfold conclusion
    dsimp only
    cases (gateway.exchange _ world.gateway).1 <;> rfl

theorem Entry.Pays.methods_after {gateway : Gateway γ} {credentials : Credentials} {call : Call}
    {entry : Entry γ} (pays : entry.Pays gateway credentials call) :
    entry.after.stores.methods = entry.before.stores.methods := by
  obtain ⟨-, result, -, hconcluded⟩ := pays
  have hafter := congrArg (fun c => c.2.2.stores.methods) hconcluded
  exact hafter.trans (methods_conclusion ..)

theorem result_ofTurn_addMethod (gateway : Gateway γ) (credentials : Credentials)
    (world : World γ) (time : Timestamp) (accounts : Accounts) (account method : Uuid)
    (overrides : Overrides) (isDefault : Bool) (caller : Caller) :
    (Entry.ofTurn gateway credentials world
        ⟨time, accounts, .addMethod account method overrides isDefault caller⟩).result =
      match overrides.visible? "token" with
      | none => .error (.validation (.propertyRequired "token"))
      | some token =>
          .ok (.method (Payments.describeMethod account method caller.tenant overrides isDefault
            token time)) := by
  let before : World γ := { world with time, stores := { world.stores with accounts } }
  show (perform (Payments.addMethod (services gateway) account method overrides isDefault caller
    >>= fun record => pure (Answer.method record)) before).1 = _
  rw [Action.perform_bind_pure]
  cases htoken : overrides.visible? "token" with
  | none => rw [Payments.perform_addMethod_of_none htoken]; rfl
  | some token => rw [Payments.perform_addMethod_of_some htoken]; rfl

/-- After a turn a payment method has the token that the turn added, else the one it had. -/
theorem token?_after (gateway : Gateway γ) (credentials : Credentials) (world : World γ)
    (turn : Turn) (id tenant : Uuid) :
    let entry := Entry.ofTurn gateway credentials world turn
    entry.after.stores.methods.token? id tenant =
      (entry.addedToken? id tenant).or (world.stores.methods.token? id tenant) := by
  intro entry
  obtain ⟨time, accounts, job⟩ := turn
  cases job with
  | pay call =>
    have pays := pays_ofTurn gateway credentials world ⟨time, accounts, .pay call⟩ rfl
    have hadded : entry.addedToken? id tenant = none := rfl
    have hmethods : entry.after.stores.methods = world.stores.methods := pays.methods_after
    rw [hmethods, hadded, Option.none_or]
  | history payment owner => rfl
  | addMethod account method overrides isDefault caller =>
    have hresult := result_ofTurn_addMethod gateway credentials world time accounts account method
      overrides isDefault caller
    have hafter := after_ofTurn_addMethod gateway credentials world time accounts account method
      overrides isDefault caller
    rw [Payments.token_get?] at hafter
    cases htoken : overrides.visible? "token" with
    | none =>
      rw [htoken] at hresult hafter
      rw [hafter, Entry.addedToken?_of_error hresult, Option.none_or]
    | some token =>
      rw [htoken] at hresult hafter
      have hrecord : (Payments.describeMethod account method caller.tenant overrides isDefault
        token time).token = some token := rfl
      rw [hafter, PaymentMethods.token?_put _ hrecord, Entry.addedToken?_of_ok rfl hresult, htoken]
      show (if method = id ∧ caller.tenant = tenant then _ else _) = _
      -- A method stored under another identifier or for another tenant hides nothing.
      by_cases hsame : method = id ∧ caller.tenant = tenant
      · rw [if_pos hsame, if_pos hsame, Option.some_or]
      · rw [if_neg hsame, if_neg hsame, Option.none_or]
  | hostedPage => rfl
  | notification => rfl

/-- Wherever a run is, a payment method has the token that was added last for it, else the one it
had at the start. -/
theorem exists_turn_of_tokens {gateway : Gateway γ} {credentials : Credentials} {world : World γ}
    {turns : List Turn} {earlier later : List (Entry γ)} {entry : Entry γ}
    (h : record gateway credentials world turns = earlier ++ entry :: later) :
    ∃ met turn, entry = Entry.ofTurn gateway credentials met turn ∧
      ∀ id tenant, met.stores.methods.token? id tenant =
        (lastToken? id tenant earlier).or (world.stores.methods.token? id tenant) := by
  induction turns generalizing world earlier with
  | nil => exact absurd h.symm (List.append_ne_nil_of_right_ne_nil _ (List.cons_ne_nil _ _))
  | cons turn turns ih =>
    rw [record] at h
    cases earlier with
    | nil =>
      rw [List.nil_append, List.cons.injEq] at h
      exact ⟨world, turn, h.1.symm, fun _ _ => rfl⟩
    | cons first earlier =>
      rw [List.cons_append, List.cons.injEq] at h
      obtain ⟨hfirst, hrest⟩ := h
      obtain ⟨met, next, hentry, hmet⟩ := ih hrest
      refine ⟨met, next, hentry, fun id tenant => ?_⟩
      rw [hmet, token?_after, hfirst, lastToken?_cons, Option.or_assoc]

/-! ## Charging a stored method -/

/-- A payment method with a token is charged by token. -/
theorem chosen?_of_token {overrides : Overrides} {stored : Option PaymentMethod} {token : String}
    (h : stored.bind (·.token) = some token) :
    Means.chosen? overrides stored = some (.token, (overrides.visible? "token").getD token) := by
  unfold Means.chosen? Means.all
  rw [List.findSome?_cons, Means.given?, h]
  cases overrides.visible? "token" <;> rfl

theorem request_of_token {s : FundsSources} {token : String}
    (h : s.stored.bind (·.token) = some token) (kind : Movement) (amount : Decimal) :
    ∃ request shown, s.request kind amount = .ok (request, shown) := by
  rw [FundsSources.request, Tender.resolve_eq, chosen?_of_token h]
  dsimp only [Means.tender]
  cases s.tokenIsCard <;> exact ⟨_, _, rfl⟩

/-- A request that was prepared is sent once, and its call fails only with the gateway. -/
theorem exists_reply_of_conclusion {gateway : Gateway γ} {credentials : Credentials}
    {clock : World γ → Timestamp} {call : Call} {world after : World γ} {request : Request}
    {token : Option String} {result : Except Failure Outcome} {effects : List Effect}
    (h : (result, effects, after) =
      conclusion gateway credentials clock call world (.ok (request, token))) :
    ∃ reply,
      effects.filter Effect.isExchange =
        [.exchanged (request.fields credentials (call.overlay token)) reply] ∧
      ∀ failure, result = .error failure → reply = .error failure := by
  unfold conclusion at h
  dsimp only at h
  cases hreply : (gateway.exchange (request.fields credentials (call.overlay token))
      world.gateway).1 with
  | error failure =>
    rw [hreply, settled] at h
    cases h
    refine ⟨.error failure, rfl, fun other hother => ?_⟩
    cases hother
    rfl
  | ok response =>
    rw [hreply, settled] at h
    cases h
    exact ⟨.ok response, rfl, nofun⟩

/-- A call that moves money with a stored token is paid with a token. -/
theorem paidWith_of_token {gateway : Gateway γ} {credentials : Credentials} {call : Call}
    {kind : Movement} {amount : Decimal} {token : String} {entry : Entry γ}
    (pays : entry.Pays gateway credentials call) (hkind : call.kind.movement? = some kind)
    (hamount : call.amount = some amount)
    (htoken : entry.before.stores.methods.token? call.ids.method call.caller.tenant = some token) :
    ∃ request reply, entry.effects.filter Effect.isExchange = [.exchanged request reply] ∧
      PaidWith request kind call.overrides
        (entry.before.stores.methods.find? call.ids.method call.caller.tenant) .token
        ((call.overrides.visible? "token").getD token) ∧
      ∀ failure, entry.result = .error failure → reply = .error failure := by
  obtain ⟨-, result, hresult, hconcluded⟩ := pays
  let sources : FundsSources :=
    ⟨call.overrides, entry.before.stores.accounts.find? call.ids.account,
      entry.before.stores.methods.find? call.ids.method call.caller.tenant⟩
  have hstored : sources.stored.bind (·.token) = some token := htoken
  obtain ⟨request, shown, hrequest⟩ := request_of_token hstored kind amount
  have hprepared : (perform (Payments.prepare (services gateway) call) entry.before).1 =
      .ok (request, shown) := by
    rw [Payments.prepare_eq_funds hkind, perform_funds, hamount]
    show (sources.request kind amount).mapError Failure.validation = _
    rw [hrequest]
    rfl
  obtain ⟨means, value, chosen, shaped⟩ := exists_shaped hrequest
  -- A stored token comes before every number, whoever gives it.
  cases (chosen?_of_token htoken).symm.trans chosen
  rw [hprepared] at hconcluded
  obtain ⟨reply, heffects, hfailure⟩ := exists_reply_of_conclusion hconcluded
  refine ⟨_, reply, heffects, shaped.paidWith chosen credentials call, fun failure hfailed => ?_⟩
  rw [hresult] at hfailed
  cases result with
  | error other =>
    cases hfailed
    exact hfailure failure rfl
  | ok outcome => cases hfailed

/-- A call that moves money and names a payment method that an earlier turn added for its tenant
sends one request.  It pays with the caller's token or else with the one that was added last, and it
holds no card or bank account number.  Only the gateway can fail such a call. -/
theorem charges_stored_token {gateway : Gateway γ} {credentials : Credentials} {world : World γ}
    {turns : List Turn} {earlier later : List (Entry γ)} {entry adding : Entry γ} {call : Call}
    {kind : Movement}
    (hrecord : record gateway credentials world turns = earlier ++ entry :: later)
    (hjob : entry.job = .pay call) (hkind : call.kind.movement? = some kind)
    (hamount : call.amount.isSome) (hadding : adding ∈ earlier)
    (hadded : (adding.addedToken? call.ids.method call.caller.tenant).isSome) :
    ∃ token request reply,
      lastToken? call.ids.method call.caller.tenant earlier = some token ∧
      entry.effects.filter Effect.isExchange = [.exchanged request reply] ∧
      request.get? "pg_payment_method_id" = some ((call.overrides.visible? "token").getD token) ∧
      (∀ field ∈ Request.cardCatalog ++ Request.accountCatalog,
        request.get? field.wireName = none) ∧
      ∀ failure, entry.result = .error failure → reply = .error failure := by
  obtain ⟨token, hlast⟩ := exists_lastToken? hadding hadded
  obtain ⟨amount, hamount⟩ := Option.isSome_iff_exists.mp hamount
  obtain ⟨met, turn, rfl, htokens⟩ := exists_turn_of_tokens hrecord
  have htoken : met.stores.methods.token? call.ids.method call.caller.tenant = some token := by
    rw [htokens, hlast, Option.some_or]
  have pays := pays_ofTurn gateway credentials met turn hjob
  obtain ⟨request, reply, hsent, paid, hfailure⟩ := paidWith_of_token pays hkind hamount htoken
  refine ⟨token, request, reply, hlast, hsent, paid.credential .token, ?_, hfailure⟩
  intro field hfield
  rcases List.mem_append.mp hfield with hcard | haccount
  · exact paid.noCard (by decide) field hcard
  · exact paid.noAccount (by decide) field haccount

def adding (tenant : Uuid) (token : String) : Turn :=
  ⟨.epoch, .empty, .addMethod .nil .nil (.ofList [("token", token), ("accountNumber", "123")]) false
    ⟨tenant, none⟩⟩

def addTwiceThenCharge : List Turn :=
  let stranger : Uuid := ⟨List.replicate 32 ⟨1, by decide⟩, rfl⟩
  [adding .nil "old", adding .nil "new", adding stranger "other",
    ⟨.epoch, .empty, .pay Payments.cardPurchase⟩]

theorem charges_stored_token_of_last : ∃ earlier entry request reply,
    record approving ⟨"merchant", "secret"⟩ emptyWorld addTwiceThenCharge = earlier ++ entry :: [] ∧
    entry.effects.filter Effect.isExchange = [.exchanged request reply] ∧
    request.get? "pg_payment_method_id" = some "new" := by
  have hrun : ∃ first second third entry,
      record approving ⟨"merchant", "secret"⟩ emptyWorld addTwiceThenCharge =
        [first, second, third] ++ entry :: [] ∧
      entry.job = .pay Payments.cardPurchase ∧ second.addedToken? .nil .nil = some "new" ∧
      third.addedToken? .nil .nil = none := ⟨_, _, _, _, rfl, rfl, rfl, rfl⟩
  obtain ⟨first, second, third, entry, hrecord, hjob, hsecond, hthird⟩ := hrun
  have hadded : (second.addedToken? Payments.cardPurchase.ids.method
      Payments.cardPurchase.caller.tenant).isSome := by
    show (second.addedToken? .nil .nil).isSome
    rw [hsecond]
    rfl
  have hkind : Payments.cardPurchase.kind.movement? = some .sale := rfl
  obtain ⟨token, request, reply, hlast, hsent, hpaid, -⟩ :=
    charges_stored_token hrecord hjob hkind rfl (by simp) hadded
  have hnew : lastToken? .nil .nil [first, second, third] = some "new" := by
    rw [lastToken?_cons, lastToken?_cons, lastToken?_cons, hsecond, hthird]
    rfl
  cases hnew.symm.trans hlast
  exact ⟨_, entry, request, reply, hrecord, hsent, hpaid⟩

end Memory

end PaymentGateway
