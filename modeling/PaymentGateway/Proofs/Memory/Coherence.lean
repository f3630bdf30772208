import PaymentGateway.Proofs.Memory.Interleaving

/-!
# Coherence of interleaved calls

A system is coherent with the steps that led to it: the ledger holds what they appended, and each call
has the phase that its own steps left it in.  Every step keeps this, whichever call takes it.
-/

namespace PaymentGateway.Interleaving

variable {ι γ : Type} {setup : Setup ι γ}

/-! ## The invariant -/

def Event.append? : Event ι → Option (ι × Receipt)
  | .appended i receipt => some (i, receipt)
  | .looked _ _ | .exchanged _ _ | .returned _ _ | .drifted => none

def appends (events : List (Event ι)) : List (ι × Receipt) :=
  events.filterMap Event.append?

theorem appends_concat (events : List (Event ι)) (event : Event ι) :
    appends (events ++ [event]) = appends events ++ event.append?.toList := by
  rw [appends, List.filterMap_append, List.filterMap_cons, List.filterMap_nil]
  cases event.append? <;> rfl

/-- The response that a call got, as far as it still knows it. -/
def Phase.response? : Phase → Option FieldList
  | .answered response => some response
  | .recorded receipt | .returned receipt => some receipt.response
  | .waiting | .prepared _ | .failed _ => none

/-- What ties a system to the steps that led to it. -/
structure Coherent (setup : Setup ι γ) (events : List (Event ι)) (s : System ι γ) : Prop where
  -- the ledger holds what was appended, in the same order
  ledger : s.world.stores.ledger.receipts = (appends events).map Prod.snd
  -- no call appends twice
  nodup : ((appends events).map Prod.fst).Nodup
  -- a call is past its append exactly if the steps say so
  mem_appends_iff : ∀ i receipt, (i, receipt) ∈ appends events ↔
    (s.phase i).receipt? = some receipt
  -- a receipt is its call's own
  keeps : ∀ i receipt, (s.phase i).receipt? = some receipt →
    receipt.Keeps (setup.call i) receipt.response
  -- a response came from the gateway
  exchanged : ∀ i response, (s.phase i).response? = some response →
    .exchanged i (.ok response) ∈ events
  -- what a call returned is the outcome of its receipt
  returned : ∀ i outcome, .returned i outcome ∈ events →
    ∃ receipt, s.phase i = .returned receipt ∧ receipt.outcome = outcome

structure System.Initial (s : System ι γ) : Prop where
  ledger : s.world.stores.ledger = .empty
  phase : ∀ i, s.phase i = .waiting

theorem System.Initial.coherent {s : System ι γ} (h : s.Initial) : Coherent setup [] s where
  ledger := congrArg Ledger.receipts h.ledger
  nodup := .nil
  mem_appends_iff i receipt := by
    rw [h.phase i]
    constructor <;> (intro h'; cases h')
  keeps i receipt h' := by
    rw [h.phase i] at h'
    cases h'
  exchanged i response h' := by
    rw [h.phase i] at h'
    cases h'
  returned i outcome h' := nomatch h'

section Steps

variable {events : List (Event ι)} {s : System ι γ}

namespace Coherent

theorem not_mem_appends (h : Coherent setup events s) {i : ι}
    (hphase : (s.phase i).receipt? = none) (receipt : Receipt) :
    (i, receipt) ∉ appends events := by
  intro hmem
  rw [h.mem_appends_iff, hphase] at hmem
  cases hmem

/-- A call without a receipt can append one without appending twice. -/
theorem nodup_concat (h : Coherent setup events s) {i : ι}
    (hphase : (s.phase i).receipt? = none) (receipt : Receipt) :
    ((appends events ++ [(i, receipt)]).map Prod.fst).Nodup := by
  rw [List.map_append, List.nodup_append]
  refine ⟨h.nodup, List.nodup_cons.mpr ⟨List.not_mem_nil, .nil⟩, ?_⟩
  rintro j hj k hk rfl
  obtain ⟨⟨_, other⟩, hmem, rfl⟩ := List.mem_map.mp hj
  rw [List.map_singleton, List.mem_singleton] at hk
  dsimp only at hk
  rw [hk] at hmem
  exact h.not_mem_appends hphase other hmem

theorem drift (h : Coherent setup events s) {world : World γ}
    (hledger : world.stores.ledger = s.world.stores.ledger) :
    Coherent setup (events ++ [.drifted]) { s with world := world } := by
  have happends : appends (events ++ [.drifted]) = appends events := by
    rw [appends_concat]
    exact List.append_nil _
  refine ⟨?_, ?_, ?_, h.keeps, ?_, ?_⟩
  · rw [happends, ← h.ledger]
    exact congrArg Ledger.receipts hledger
  · rw [happends]
    exact h.nodup
  · rw [happends]
    exact h.mem_appends_iff
  · intro j response hj
    exact List.mem_append_left _ (h.exchanged j response hj)
  · intro j outcome hj
    rcases List.mem_append.mp hj with hj | hj
    · exact h.returned j outcome hj
    · exact absurd (List.mem_singleton.mp hj) (fun h => nomatch h)

end Coherent

/-! ## Steps of one call -/

namespace Coherent

variable [DecidableEq ι]

/-- What has returned stays as it is when another call takes a step. -/
theorem returned_set (h : Coherent setup events s) {i : ι}
    (hpending : ∀ receipt, s.phase i ≠ .returned receipt) (phase : Phase) (world : World γ)
    {j : ι} {outcome : Outcome} (hj : .returned j outcome ∈ events) :
    ∃ receipt, (s.set i phase world).phase j = .returned receipt ∧ receipt.outcome = outcome := by
  obtain ⟨receipt, hphase, houtcome⟩ := h.returned j outcome hj
  have hji : j ≠ i := by
    rintro rfl
    exact hpending receipt hphase
  exact ⟨receipt, by rw [System.phase_set_of_ne hji, hphase], houtcome⟩

/-- A step of one call that appends nothing. -/
theorem set (h : Coherent setup events s) {i : ι} {event : Event ι} {phase : Phase}
    {world : World γ} (happend : event.append? = none)
    (hledger : world.stores.ledger = s.world.stores.ledger)
    (hreceipt : phase.receipt? = (s.phase i).receipt?)
    (hresponse : ∀ response, phase.response? = some response →
      .exchanged i (.ok response) ∈ events ++ [event])
    (hpending : ∀ receipt, s.phase i ≠ .returned receipt)
    (hreturned : ∀ j outcome, event = .returned j outcome →
      ∃ receipt, j = i ∧ phase = .returned receipt ∧ receipt.outcome = outcome) :
    Coherent setup (events ++ [event]) (s.set i phase world) := by
  have happends : appends (events ++ [event]) = appends events := by
    rw [appends_concat, happend, Option.toList_none, List.append_nil]
  -- no call has a receipt that it did not have before
  have hreceipts : ∀ j, ((s.set i phase world).phase j).receipt? = (s.phase j).receipt? := by
    intro j
    by_cases hj : j = i
    · rw [hj, System.phase_set_self, hreceipt]
    · rw [System.phase_set_of_ne hj]
  refine ⟨?_, ?_, ?_, ?_, ?_, ?_⟩
  · rw [happends, ← h.ledger]
    exact congrArg Ledger.receipts hledger
  · rw [happends]
    exact h.nodup
  · intro j receipt
    rw [happends, hreceipts]
    exact h.mem_appends_iff j receipt
  · intro j receipt hj
    rw [hreceipts] at hj
    exact h.keeps j receipt hj
  · intro j response hj
    by_cases hji : j = i
    · rw [hji, System.phase_set_self] at hj
      exact hji ▸ hresponse response hj
    · rw [System.phase_set_of_ne hji] at hj
      exact List.mem_append_left _ (h.exchanged j response hj)
  · intro j outcome hj
    rcases List.mem_append.mp hj with hj | hj
    · exact h.returned_set hpending phase world hj
    · obtain ⟨receipt, rfl, hphase, houtcome⟩ :=
        hreturned j outcome (List.mem_singleton.mp hj).symm
      exact ⟨receipt, by rw [System.phase_set_self, hphase], houtcome⟩

theorem append (h : Coherent setup events s) {i : ι} {response : FieldList}
    (hphase : s.phase i = .answered response) {receipt : Receipt} {world : World γ}
    (hkeeps : receipt.Keeps (setup.call i) response)
    (hledger : world.stores.ledger = s.world.stores.ledger.append receipt) :
    Coherent setup (events ++ [.appended i receipt]) (s.set i (.recorded receipt) world) := by
  have happends : appends (events ++ [.appended i receipt]) =
      appends events ++ [(i, receipt)] := appends_concat events _
  -- a call that has just been answered has not appended before
  have hnone : (s.phase i).receipt? = none := by
    rw [hphase]
    rfl
  refine ⟨?_, ?_, ?_, ?_, ?_, ?_⟩
  · rw [happends, List.map_append, ← h.ledger]
    exact congrArg Ledger.receipts hledger
  · rw [happends]
    exact h.nodup_concat hnone receipt
  · intro j other
    rw [happends, List.mem_append, List.mem_singleton, Prod.mk.injEq]
    by_cases hji : j = i
    · rw [hji, System.phase_set_self]
      constructor
      · rintro (hmem | ⟨-, rfl⟩)
        · exact absurd hmem (h.not_mem_appends hnone other)
        · rfl
      · intro hother
        exact .inr ⟨rfl, (Option.some.inj hother).symm⟩
    · rw [System.phase_set_of_ne hji, h.mem_appends_iff]
      exact ⟨fun hmem => hmem.resolve_right (fun hnew => hji hnew.1), .inl⟩
  · intro j other hother
    by_cases hji : j = i
    · rw [hji, System.phase_set_self] at hother
      cases hother
      rw [hji, hkeeps.response]
      exact hkeeps
    · rw [System.phase_set_of_ne hji] at hother
      exact h.keeps j other hother
  · intro j other hother
    apply List.mem_append_left
    by_cases hji : j = i
    · rw [hji, System.phase_set_self] at hother
      cases hother
      rw [hkeeps.response, hji]
      exact h.exchanged i response (by rw [hphase]; rfl)
    · rw [System.phase_set_of_ne hji] at hother
      exact h.exchanged j other hother
  · intro j outcome hj
    have hold : .returned j outcome ∈ events := by
      rcases List.mem_append.mp hj with hj | hj
      · exact hj
      · exact absurd (List.mem_singleton.mp hj) (fun h => nomatch h)
    refine h.returned_set ?_ _ world hold
    intro other hother
    rw [hphase] at hother
    cases hother

/-- Every step keeps a system coherent with its past. -/
theorem step (h : Coherent setup events s) {event : Event ι} {t : System ι γ}
    (hstep : Step setup s event t) : Coherent setup (events ++ [event]) t := by
  cases hstep with
  | @looked i found w hphase hlook =>
    have hworld := perform_look_snd setup i s.world
    rw [hlook] at hworld
    -- No step but the append touches the ledger: a look-up leaves the world as it was.
    refine h.set rfl (congrArg (fun world => world.stores.ledger) hworld) ?_ ?_ ?_ ?_
    · rw [hphase]
      cases found <;> rfl
    · intro response hresponse
      cases found <;> cases hresponse
    · intro receipt hreceipt
      rw [hphase] at hreceipt
      cases hreceipt
    · intro j outcome hevent
      cases hevent
  | @exchanged i request reply w hphase hexchange =>
    have hstores := Memory.stores_of_exchange hexchange
    -- The gateway has a state of its own, apart from the stores.
    refine h.set rfl (congrArg Stores.ledger hstores) ?_ ?_ ?_ ?_
    · rw [hphase]
      cases reply <;> rfl
    · intro response hresponse
      cases reply with
      | error failure => cases hresponse
      | ok other =>
        cases hresponse
        exact List.mem_append_right _ List.mem_cons_self
    · intro receipt hreceipt
      rw [hphase] at hreceipt
      cases hreceipt
    · intro j outcome hevent
      cases hevent
  | @appended i response receipt w hphase happend =>
    rw [perform_append] at happend
    cases happend
    exact h.append hphase ((setup.call i).keeps_receipt response s.world.time) rfl
  | @returned i receipt hphase =>
    refine h.set rfl rfl ?_ ?_ ?_ ?_
    · rw [hphase]
      rfl
    · intro response hresponse
      refine List.mem_append_left _ (h.exchanged i response ?_)
      rw [hphase]
      exact hresponse
    · intro other hother
      rw [hphase] at hother
      cases hother
    · intro j outcome hevent
      cases hevent
      exact ⟨receipt, rfl, rfl, rfl⟩
  | drifted hledger => exact h.drift hledger

end Coherent

end Steps

theorem Run.coherent [DecidableEq ι] {start s : System ι γ} {events : List (Event ι)}
    (initial : start.Initial) (run : Run setup start events s) : Coherent setup events s := by
  induction run with
  | nil => exact initial.coherent
  | snoc _ step ih => exact ih.step step

end PaymentGateway.Interleaving
