import PaymentGateway.Proofs.Memory.Coherence
import PaymentGateway.Proofs.Payments.References

/-!
# The ledger of interleaved calls

Whatever the interleaving, the ledger holds the receipts of the calls that are past their append, each
once and in the order of the appends, and what a capture or void refers to was in the ledger when it
looked.  A call that no other one interrupts does what it does alone.
-/

namespace PaymentGateway.Interleaving

open PaymentGateway.Action (perform)

variable {ι γ : Type} {setup : Setup ι γ}

/-! ## The ledger of one payment -/

def Setup.appendsOf (setup : Setup ι γ) (payment tenant : Uuid) (events : List (Event ι)) :
    List (ι × Receipt) :=
  (appends events).filter fun (i, _) =>
    (setup.call i).ids.payment == payment && (setup.call i).caller.tenant == tenant

theorem Setup.mem_appendsOf_iff {payment tenant : Uuid} {events : List (Event ι)}
    {entry : ι × Receipt} :
    entry ∈ setup.appendsOf payment tenant events ↔ entry ∈ appends events ∧
      (setup.call entry.1).ids.payment = payment ∧ (setup.call entry.1).caller.tenant = tenant := by
  rw [appendsOf, List.mem_filter, Bool.and_eq_true, beq_iff_eq, beq_iff_eq]

/-- The ledger tells the payment of a receipt as the call that appended it does. -/
theorem Coherent.ofPayment_eq {events : List (Event ι)} {s : System ι γ}
    (h : Coherent setup events s) (payment tenant : Uuid) :
    s.world.stores.ledger.ofPayment payment tenant =
      (setup.appendsOf payment tenant events).map Prod.snd := by
  rw [Ledger.ofPayment, h.ledger, List.filter_map, Setup.appendsOf]
  congr 1
  apply List.filter_congr
  rintro ⟨i, receipt⟩ hmem
  have hkeeps := h.keeps i receipt ((h.mem_appends_iff i receipt).mp hmem)
  dsimp only [Function.comp]
  rw [hkeeps.paymentId, hkeeps.tenantId]

theorem Coherent.perform_history {events : List (Event ι)} {s : System ι γ}
    (h : Coherent setup events s) (payment tenant : Uuid) :
    perform (Payments.history setup.services payment tenant) s.world =
      (.ok ((setup.appendsOf payment tenant events).map (·.2.outcome)), s.world) := by
  rw [Payments.history, Action.perform_bind, Setup.services, Memory.perform_receipts,
    h.ofPayment_eq]
  dsimp only
  rw [Action.perform_pure, List.map_map]
  rfl

/-! ## Captures and voids on their way -/

/-- The request of a capture or void refers to a receipt that the ledger holds at the look-up. -/
theorem refersTo_of_look {world : World γ} {i : ι} {request : FieldList} {kind : Modification}
    (h : (perform (setup.look i) world).1 = .ok request)
    (hkind : (setup.call i).kind.modification? = some kind) :
    ∃ receipt ∈ world.stores.ledger.ofPayment (setup.call i).ids.payment
        (setup.call i).caller.tenant,
      receipt.isModifiable ∧ RefersTo request kind receipt.response := by
  rw [Setup.look, prepare_eq_modification hkind, Action.perform_bind, Setup.services,
    Memory.perform_modification, Ledger.lastAuthorization?] at h
  cases hfound : (world.stores.ledger.ofPayment (setup.call i).ids.payment
      (setup.call i).caller.tenant).reverse.find? (·.isModifiable) with
  | none =>
    rw [hfound] at h
    cases h
  | some receipt =>
    rw [hfound, Option.bind_some] at h
    have hmem := List.mem_reverse.mp (List.mem_of_find?_eq_some hfound)
    refine ⟨receipt, hmem, List.find?_some hfound, ?_⟩
    -- A receipt without a trace number offers nothing, and the look-up fails.
    cases hprior : receipt.reference? with
    | none =>
      rw [hprior] at h
      cases h
    | some prior =>
      rw [hprior] at h
      cases h
      exact refersTo_modification hprior kind setup.credentials (setup.call i)

variable [DecidableEq ι]

/-! ## Runs -/

theorem Run.append {start s t : System ι γ} {events later : List (Event ι)}
    (run : Run setup start events s) (more : Run setup s later t) :
    Run setup start (events ++ later) t := by
  induction more with
  | nil =>
    rw [List.append_nil]
    exact run
  | snoc _ step ih =>
    rw [← List.append_assoc]
    exact .snoc ih step

theorem System.phase_set_cases {s : System ι γ} {i j : ι} {phase other : Phase} {world : World γ}
    (h : (s.set i phase world).phase j = other) : (j = i ∧ phase = other) ∨ s.phase j = other := by
  by_cases hji : j = i
  · rw [hji, System.phase_set_self] at h
    exact .inl ⟨hji, h⟩
  · rw [System.phase_set_of_ne hji] at h
    exact .inr h

/-- Only a look-up prepares a request. -/
theorem Step.prepared_cases {s t : System ι γ} {event : Event ι} {i : ι} {request : FieldList}
    (step : Step setup s event t) (h : t.phase i = .prepared request) :
    (event = .looked i (.ok request) ∧
      (perform (setup.look i) s.world).1 = .ok request) ∨ s.phase i = .prepared request := by
  -- Every other step leads its call to a later phase and leaves the other calls where they are.
  cases step with
  | @looked j found w hphase hlook =>
    rcases System.phase_set_cases h with ⟨rfl, hnext⟩ | h
    · cases found with
      | error failure => cases hnext
      | ok other =>
        cases hnext
        exact .inl ⟨rfl, congrArg Prod.fst hlook⟩
    · exact .inr h
  | @exchanged j other reply w hphase hexchange =>
    rcases System.phase_set_cases h with ⟨rfl, hnext⟩ | h
    · cases reply <;> cases hnext
    · exact .inr h
  | appended =>
    rcases System.phase_set_cases h with ⟨rfl, hnext⟩ | h
    · cases hnext
    · exact .inr h
  | returned =>
    rcases System.phase_set_cases h with ⟨rfl, hnext⟩ | h
    · cases hnext
    · exact .inr h
  | drifted => exact .inr h

/-- Every request on its way was made by an earlier look-up. -/
theorem Run.exists_looked {start s : System ι γ} {events : List (Event ι)} {i : ι}
    {request : FieldList} (run : Run setup start events s) (initial : start.Initial)
    (h : s.phase i = .prepared request) :
    ∃ earlier later met, events = earlier ++ .looked i (.ok request) :: later ∧
      Run setup start earlier met ∧ (perform (setup.look i) met.world).1 = .ok request := by
  induction run with
  | nil =>
    rw [initial.phase] at h
    cases h
  | @snoc events s t event run step ih =>
    -- either this step made the request, or it was on its way before
    rcases step.prepared_cases h with ⟨rfl, hlook⟩ | h
    · exact ⟨events, [], s, rfl, run, hlook⟩
    · obtain ⟨earlier, later, met, rfl, hrun, hlook⟩ := ih h
      exact ⟨earlier, later ++ [event], met, by simp, hrun, hlook⟩

/-- What holds at a state of an interleaving of the ledger, of the requests on their way and of the
calls that wait. -/
structure Accounted (setup : Setup ι γ) (start : System ι γ) (events : List (Event ι))
    (s : System ι γ) : Prop where
  -- the ledger holds the receipts of the appends, in their order
  ledger : ∀ payment tenant, s.world.stores.ledger.ofPayment payment tenant =
    (setup.appendsOf payment tenant events).map Prod.snd
  -- each call appends at most once
  nodup : ∀ payment tenant, ((setup.appendsOf payment tenant events).map Prod.fst).Nodup
  -- the appended receipts are those of the calls that are past their append
  mem_iff : ∀ payment tenant i receipt, (i, receipt) ∈ setup.appendsOf payment tenant events ↔
    ((setup.call i).ids.payment = payment ∧ (setup.call i).caller.tenant = tenant) ∧
      (s.phase i).receipt? = some receipt
  -- each receipt is the call's own, with what the gateway responded to it
  keeps : ∀ i receipt, (s.phase i).receipt? = some receipt →
    ∃ response, .exchanged i (.ok response) ∈ events ∧ receipt.Keeps (setup.call i) response
  -- the history of a payment tells the outcomes of its appends
  history : ∀ payment tenant,
    perform (Payments.history setup.services payment tenant) s.world =
      (.ok ((setup.appendsOf payment tenant events).map (·.2.outcome)), s.world)
  -- what returned an outcome has appended
  returned : ∀ i outcome, .returned i outcome ∈ events →
    ∃ receipt, (s.phase i).receipt? = some receipt
  -- what has appended returns the outcome of its receipt, and no other
  outcome : ∀ later t, Run setup s later t → ∀ i receipt outcome,
    (s.phase i).receipt? = some receipt → .returned i outcome ∈ events ++ later →
      outcome = receipt.outcome
  -- a capture or void on its way refers to what the ledger held at the look-up
  refersTo : ∀ i request kind, s.phase i = .prepared request →
    (setup.call i).kind.modification? = some kind →
    ∃ earlier later met, events = earlier ++ .looked i (.ok request) :: later ∧
      Run setup start earlier met ∧
      ∃ receipt ∈ met.world.stores.ledger.ofPayment (setup.call i).ids.payment
          (setup.call i).caller.tenant,
        receipt.isModifiable ∧ RefersTo request kind receipt.response
  -- a call that waits can go on without a pause, and then does what it does alone
  unpaused : ∀ i, s.phase i = .waiting → ∃ more t result, Run setup s more t ∧
    (∀ event ∈ more, event.isOf i) ∧ (t.phase i).result? = some result
  alone : ∀ i more t result, s.phase i = .waiting → Run setup s more t →
    (∀ event ∈ more, event.isOf i) → (t.phase i).result? = some result →
    perform (Payments.execute setup.services setup.credentials (setup.call i)) s.world =
      (result, t.world)

/-- At every state of every interleaving, no receipt is lost, repeated or out of order. -/
theorem Run.accounted {start s : System ι γ} {events : List (Event ι)} (initial : start.Initial)
    (run : Run setup start events s) : Accounted setup start events s := by
  have h := run.coherent initial
  refine ⟨h.ofPayment_eq, ?_, ?_, ?_, h.perform_history, ?_, ?_, ?_, ?_, ?_⟩
  · intro payment tenant
    exact h.nodup.sublist (List.filter_sublist.map Prod.fst)
  · intro payment tenant i receipt
    rw [Setup.mem_appendsOf_iff, h.mem_appends_iff]
    exact and_comm
  · intro i receipt hreceipt
    have hkeeps := h.keeps i receipt hreceipt
    refine ⟨receipt.response, h.exchanged i receipt.response ?_, hkeeps⟩
    cases hphase : s.phase i <;> rw [hphase] at hreceipt <;> cases hreceipt <;> rfl
  · intro i outcome hreturned
    obtain ⟨receipt, hphase, -⟩ := h.returned i outcome hreturned
    exact ⟨receipt, by rw [hphase]; rfl⟩
  · intro later t more i receipt outcome hreceipt hreturned
    have hlater := (run.append more).coherent initial
    obtain ⟨other, hphase, rfl⟩ := hlater.returned i outcome hreturned
    -- the receipt appended by now is still the only one of its call
    have hmem : (i, receipt) ∈ appends (events ++ later) := by
      rw [appends, List.filterMap_append]
      exact List.mem_append_left _ ((h.mem_appends_iff i receipt).mpr hreceipt)
    have hsame := (hlater.mem_appends_iff i receipt).mp hmem
    rw [hphase] at hsame
    exact congrArg Receipt.outcome (Option.some.inj hsame)
  · intro i request kind hphase hkind
    obtain ⟨earlier, later, met, hevents, hrun, hlook⟩ := run.exists_looked initial hphase
    exact ⟨earlier, later, met, hevents, hrun, refersTo_of_look hlook hkind⟩
  · intro i hwaiting
    exact exists_run_alone setup hwaiting
  · intro i more t result hwaiting more hevents hresult
    exact more.execute_eq hevents hwaiting hresult

def authorizationAndCapture : Setup Bool Unit where
  gateway := Memory.approving
  credentials := ⟨"merchant", "secret"⟩
  call i := if i then Memory.bareCall .capture else Memory.tokenCall .authorize

def bothWaiting : System Bool Unit := ⟨Memory.emptyWorld, fun _ => .waiting⟩

/-- The capture looks while the authorization is between its append and its return. -/
theorem Run.accounted_authorizationAndCapture :
    bothWaiting.Initial ∧ ∃ events s, Run authorizationAndCapture bothWaiting events s ∧
      (s.phase false).receipt? = some ((Memory.tokenCall .authorize).receipt Memory.approval .epoch) ∧
      (∃ request, s.phase true = .prepared request) ∧
      Accounted authorizationAndCapture bothWaiting events s := by
  have initial : bothWaiting.Initial := ⟨rfl, fun _ => rfl⟩
  have hstart : Run authorizationAndCapture bothWaiting [] bothWaiting := .nil
  have hlooked := hstart.snoc (.looked (i := false) rfl rfl)
  have hexchanged := hlooked.snoc (.exchanged (i := false) rfl rfl)
  have happended := hexchanged.snoc (.appended (i := false) rfl rfl)
  have hboth := happended.snoc (.looked (i := true) rfl rfl)
  exact ⟨initial, _, _, hboth, rfl, ⟨_, rfl⟩, hboth.accounted initial⟩

end PaymentGateway.Interleaving
