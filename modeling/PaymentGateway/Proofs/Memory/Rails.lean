import PaymentGateway.Proofs.Memory.Approvals
import PaymentGateway.Proofs.Payments.Credentials

/-!
# The rails of captures and voids

An authorize or purchase goes out on the rail of the instrument that pays for it.  A later capture
or void of it takes the rail that the response to it names, and that of bank transfers if the
response names none.  So it stays on the rail of what it modifies exactly if the response repeated
that rail.
-/

namespace PaymentGateway.Memory

open PaymentGateway.Action (perform)

variable {γ : Type}

/-! ## The turn that approved -/

theorem exists_turn_of_lastApproval? {payment tenant : Uuid} {earlier : List (Entry γ)}
    {response : FieldList} (h : lastApproval? payment tenant earlier = some response) :
    ∃ before prior after, earlier = before ++ prior :: after ∧
      prior.approval? payment tenant = some response ∧
      ∀ entry ∈ after, entry.approval? payment tenant = none := by
  obtain ⟨after, prior, before, hreverse, hprior, hafter⟩ := List.findSome?_eq_some_iff.mp h
  refine ⟨before.reverse, prior, after.reverse, ?_, hprior, ?_⟩
  · rw [← List.reverse_reverse earlier, hreverse, List.reverse_append, List.reverse_cons,
      List.append_assoc, List.singleton_append]
  · exact fun entry hentry => hafter entry (List.mem_reverse.mp hentry)

theorem Entry.exists_of_approval? {payment tenant : Uuid} {entry : Entry γ} {response : FieldList}
    (h : entry.approval? payment tenant = some response) :
    ∃ call, entry.job = .pay call ∧ (call.kind = .authorize ∨ call.kind = .purchase) ∧
      ∃ sent, .exchanged sent (.ok response) ∈ entry.effects := by
  unfold approval? at h
  cases hjob : entry.job with
  | pay call =>
    rw [hjob] at h
    dsimp only at h
    split at h
    · rename_i hcall
      obtain ⟨hresponse, -⟩ := Option.filter_eq_some_iff.mp h
      obtain ⟨effect, heffect, hreply⟩ := List.exists_of_findSome?_eq_some hresponse
      refine ⟨call, rfl, hcall.2.2, ?_⟩
      split at hreply <;> cases hreply
      exact ⟨_, heffect⟩
    · cases h
  | _ =>
    rw [hjob] at h
    cases h

/-- What an approved authorize or purchase sent, it sent under a code of its own instrument. -/
theorem exists_sent_of_approval? {gateway : Gateway γ} {credentials : Credentials}
    {world : World γ} {turns : List Turn} {before later : List (Entry γ)} {prior : Entry γ}
    (hrecord : record gateway credentials world turns = before ++ prior :: later)
    {payment tenant : Uuid} {response : FieldList}
    (h : prior.approval? payment tenant = some response) :
    ∃ sent kind isCard, .exchanged sent (.ok response) ∈ prior.effects ∧
      (kind = .auth ∨ kind = .sale) ∧
      sent.get? "pg_transaction_type" = some (movementCode kind isCard) := by
  obtain ⟨call, hjob, hkind, sent, hsent⟩ := Entry.exists_of_approval? h
  obtain ⟨met, turn, rfl, -, -⟩ := exists_turn_of_record hrecord
  obtain ⟨result, -, course⟩ := course_ofTurn gateway credentials met turn hjob
  obtain ⟨request, token, after, hprepare, rfl⟩ := course.exists_prepared hsent
  have hmovement : ∃ kind, call.kind.movement? = some kind ∧ (kind = .auth ∨ kind = .sale) := by
    rcases hkind with hkind | hkind
    · exact ⟨.auth, by rw [hkind]; rfl, .inl rfl⟩
    · exact ⟨.sale, by rw [hkind]; rfl, .inr rfl⟩
  obtain ⟨kind, hmovement, hkind⟩ := hmovement
  rw [Payments.prepare_eq_funds hmovement] at hprepare
  obtain ⟨amount, account, stored, t, -, -, hrequest⟩ := Payments.exists_lookups_of_funds hprepare
  obtain ⟨means, value, -, shaped⟩ := exists_shaped hrequest
  refine ⟨_, kind, means.isCard call.overrides stored, hsent, hkind, ?_⟩
  exact (Request.field?_transactionType ..).trans (congrArg some shaped.code_eq)

/-! ## The turn that modifies -/

/-- A capture or void that is sent refers to the last approval so far. -/
theorem exists_refersTo_of_exchanged {gateway : Gateway γ} {credentials : Credentials}
    {world : World γ} {turns : List Turn} {earlier later : List (Entry γ)} {entry : Entry γ}
    {call : Call} {kind : Modification} (hempty : world.stores.ledger = .empty)
    (hrecord : record gateway credentials world turns = earlier ++ entry :: later)
    (hjob : entry.job = .pay call) (hkind : call.kind.modification? = some kind)
    {request : FieldList} {reply : Except Failure FieldList}
    (hsent : .exchanged request reply ∈ entry.effects) :
    ∃ response, lastApproval? call.ids.payment call.caller.tenant earlier = some response ∧
      RefersTo request kind response := by
  obtain ⟨ledger, result, hlast, hprepare, -, course⟩ :=
    exists_course_of_record hempty hrecord hjob hkind
  obtain ⟨prepared, token, after, hprepared, rfl⟩ := course.exists_prepared hsent
  rw [hprepare] at hprepared
  cases hprior : ledger.lastAuthorization? call.ids.payment call.caller.tenant with
  | none =>
    rw [hprior] at hprepared
    cases hprepared
  | some prior =>
    rw [hprior] at hprepared
    cases hprepared
    obtain ⟨receipt, hfound, hreference⟩ := Option.bind_eq_some_iff.mp hprior
    refine ⟨receipt.response, ?_, refersTo_modification hreference kind credentials call⟩
    rw [hlast, hfound, Option.map_some]

/-! ## Rails -/

def cardCodes : List (Option String) := [some "10", some "11"]

def accountCodes : List (Option String) := [some "20", some "21"]

/-- A capture or void under a code of the rail under which an authorize or purchase was sent. -/
structure SameRail (sent request : FieldList) : Prop where
  card : sent.get? "pg_transaction_type" ∈ cardCodes →
    request.get? "pg_transaction_type" ∈ [some "12", some "14"]
  account : sent.get? "pg_transaction_type" ∈ accountCodes →
    request.get? "pg_transaction_type" ∈ [some "22", some "24"]

theorem sameRail_iff {sent request response : FieldList} {movement : Movement} {isCard : Bool}
    {kind : Modification} (hmovement : movement = .auth ∨ movement = .sale)
    (hsent : sent.get? "pg_transaction_type" = some (movementCode movement isCard))
    (hrequest : RefersTo request kind response) :
    SameRail sent request ↔
      (isCardResponse response = true ↔ sent.get? "pg_transaction_type" ∈ cardCodes) := by
  have hcode := hrequest.transactionType
  unfold modificationCode at hcode
  have hsplit : SameRail sent request ↔
      (sent.get? "pg_transaction_type" ∈ cardCodes →
        request.get? "pg_transaction_type" ∈ [some "12", some "14"]) ∧
      (sent.get? "pg_transaction_type" ∈ accountCodes →
        request.get? "pg_transaction_type" ∈ [some "22", some "24"]) :=
    ⟨fun h => ⟨h.card, h.account⟩, fun h => ⟨h.1, h.2⟩⟩
  rw [hsplit, hcode, hsent]
  cases isCardResponse response <;> cases kind <;> cases isCard <;>
    rcases hmovement with rfl | rfl <;> decide

/-- In a run from an empty ledger, what a capture or void modifies was sent by the last turn that
approved an authorize or purchase of the payment.  Its code is that of the rail that the response of
this turn names, of bank transfers if it names none; so it is on the rail of what was sent exactly
if the response names a card transaction just when one was sent. -/
theorem sameRail_iff_of_exchanged {gateway : Gateway γ} {credentials : Credentials}
    {world : World γ} {turns : List Turn} {earlier later : List (Entry γ)} {entry : Entry γ}
    {call : Call} {kind : Modification} (hempty : world.stores.ledger = .empty)
    (hrecord : record gateway credentials world turns = earlier ++ entry :: later)
    (hjob : entry.job = .pay call) (hkind : call.kind.modification? = some kind)
    {request : FieldList} {reply : Except Failure FieldList}
    (hsent : .exchanged request reply ∈ entry.effects) :
    ∃ before prior after sent response, earlier = before ++ prior :: after ∧
      prior.approval? call.ids.payment call.caller.tenant = some response ∧
      (∀ e ∈ after, e.approval? call.ids.payment call.caller.tenant = none) ∧
      .exchanged sent (.ok response) ∈ prior.effects ∧
      RefersTo request kind response ∧
      sent.get? "pg_transaction_type" ∈ cardCodes ++ accountCodes ∧
      (SameRail sent request ↔
        (isCardResponse response = true ↔ sent.get? "pg_transaction_type" ∈ cardCodes)) := by
  obtain ⟨response, hlast, hrefers⟩ :=
    exists_refersTo_of_exchanged hempty hrecord hjob hkind hsent
  obtain ⟨before, prior, after, rfl, hprior, hafter⟩ := exists_turn_of_lastApproval? hlast
  rw [List.append_assoc, List.cons_append] at hrecord
  obtain ⟨sent, movement, isCard, hprevious, hmovement, hcode⟩ :=
    exists_sent_of_approval? hrecord hprior
  refine ⟨before, prior, after, sent, response, rfl, hprior, hafter, hprevious, hrefers, ?_,
    sameRail_iff hmovement hcode hrefers⟩
  rw [hcode]
  rcases hmovement with rfl | rfl <;> cases isCard <;> decide

def purchaseThenCapture : List Turn :=
  [⟨.epoch, .empty, .pay Payments.cardPurchase⟩, ⟨.epoch, .empty, .pay (bareCall .capture)⟩]

theorem sameRail_iff_of_exchanged_cardPurchase :
    let purchased := Entry.ofTurn approving ⟨"merchant", "secret"⟩ emptyWorld
      ⟨.epoch, .empty, .pay Payments.cardPurchase⟩
    let captured := Entry.ofTurn approving ⟨"merchant", "secret"⟩ purchased.after
      ⟨.epoch, .empty, .pay (bareCall .capture)⟩
    record approving ⟨"merchant", "secret"⟩ emptyWorld purchaseThenCapture =
        [purchased] ++ captured :: [] ∧
      ∃ sent request reply, .exchanged sent (.ok approval) ∈ purchased.effects ∧
        .exchanged request reply ∈ captured.effects ∧ SameRail sent request := by
  intro purchased captured
  have hrecord : record approving ⟨"merchant", "secret"⟩ emptyWorld purchaseThenCapture =
      [purchased] ++ captured :: [] := rfl
  have hempty : emptyWorld.stores.ledger = .empty := rfl
  have hcaptured : .exchanged _ (.ok approval) ∈ captured.effects := List.mem_cons_self
  obtain ⟨before, prior, after, sent, response, hsplit, hprior, -, hsent, -, -, hrail⟩ :=
    sameRail_iff_of_exchanged hempty hrecord rfl rfl hcaptured
  rcases List.append_eq_singleton_iff.mp hsplit.symm with ⟨-, hturn⟩ | ⟨-, hturn⟩ <;> cases hturn
  have hresponse : some approval = some response := hprior
  obtain rfl := Option.some.inj hresponse
  have hcodes : (purchased.effects.filterMap Effect.sent?).map (·.get? "pg_transaction_type") =
      [some "10"] := rfl
  have hmem : sent ∈ purchased.effects.filterMap Effect.sent? :=
    List.mem_filterMap.mpr ⟨_, hsent, rfl⟩
  have hcode : sent.get? "pg_transaction_type" = some "10" :=
    List.mem_singleton.mp (hcodes ▸ List.mem_map_of_mem hmem)
  refine ⟨hrecord, sent, _, _, hsent, hcaptured, hrail.mpr ?_⟩
  rw [hcode]
  decide

def unnamedApproval : FieldList :=
  .ofList [("pg_response_type", "A"), ("pg_trace_number", "T-1")]

def unnaming : Gateway Unit := ⟨fun _ state => (.ok unnamedApproval, state)⟩

/-- Not every capture stays on the rail of the purchase that it refers to. -/
theorem not_sameRail_of_unnaming :
    ∃ purchased captured sent request reply,
      record unnaming ⟨"merchant", "secret"⟩ emptyWorld purchaseThenCapture =
        [purchased, captured] ∧
      purchased.approval? .nil .nil = some unnamedApproval ∧
      .exchanged sent (.ok unnamedApproval) ∈ purchased.effects ∧
      .exchanged request reply ∈ captured.effects ∧
      sent.get? "pg_transaction_type" = some "10" ∧
      request.get? "pg_transaction_type" = some "22" ∧ ¬ SameRail sent request := by
  refine ⟨_, _, _, _, .ok unnamedApproval, rfl, rfl, List.mem_cons_self, List.mem_cons_self, rfl,
    rfl, ?_⟩
  intro h
  exact absurd (h.card (by decide)) (by decide)

end PaymentGateway.Memory
