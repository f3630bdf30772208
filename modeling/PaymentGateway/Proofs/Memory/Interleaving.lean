import PaymentGateway.Proofs.Memory.Services
import PaymentGateway.Proofs.Payments.Course

/-!
# Calls whose steps interleave

Any number of calls share a world.  Each looks up what its request needs, exchanges it, writes a
receipt and returns, and between two steps of one call any other call may take steps of its own.
-/

namespace PaymentGateway.Interleaving

open PaymentGateway.Action (perform)

/-! ## The steps of a call -/

structure Setup (ι γ : Type) where
  gateway : Gateway γ
  credentials : Credentials
  call : ι → Call

variable {ι γ : Type}

namespace Setup

def services (setup : Setup ι γ) : Services (Memory.Step γ) := Memory.services setup.gateway

def look (setup : Setup ι γ) (i : ι) : Action (Memory.Step γ) FieldList := do
  let (request, token) ← Payments.prepare setup.services (setup.call i)
  return request.fields setup.credentials ((setup.call i).overlay token)

def append (setup : Setup ι γ) (i : ι) (response : FieldList) :
    Action (Memory.Step γ) Receipt := do
  let receipt := (setup.call i).receipt response (← setup.services.now)
  setup.services.appendReceipt receipt
  return receipt

end Setup

theorem perform_look_snd (setup : Setup ι γ) (i : ι) (world : World γ) :
    (perform (setup.look i) world).2 = world := by
  have hprepare := Payments.quiet_prepare
    (Memory.quiet_lookups setup.gateway Memory.honest_noFailures id) (setup.call i)
  exact (hprepare.bind fun _ => .pure _).view_perform world

theorem perform_append (setup : Setup ι γ) (i : ι) (response : FieldList) (world : World γ) :
    perform (setup.append i response) world =
      (.ok ((setup.call i).receipt response world.time), { world with
        stores := { world.stores with
          ledger := world.stores.ledger.append ((setup.call i).receipt response world.time) } }) :=
  rfl

/-- A call is its steps, one after the other. -/
theorem execute_eq_steps (setup : Setup ι γ) (i : ι) (world : World γ) :
    perform (Payments.execute setup.services setup.credentials (setup.call i)) world =
      perform (do
        let request ← setup.look i
        let response ← setup.services.exchange request
        let receipt ← setup.append i response
        return receipt.outcome) world := by
  rw [Payments.execute, Setup.look, bind_assoc, Action.perform_bind, Action.perform_bind]
  rcases perform (Payments.prepare setup.services (setup.call i)) world with
    ⟨failure | ⟨request, token⟩, t⟩
  · rfl
  · dsimp only
    rw [pure_bind, Action.perform_bind, Action.perform_bind]
    rcases perform (setup.services.exchange _) t with ⟨failure | response, u⟩
    · rfl
    · rfl

/-! ## How far a call has come -/

inductive Phase where
  | waiting
  -- The request is made, and on its way.
  | prepared (request : FieldList)
  | answered (response : FieldList)
  | recorded (receipt : Receipt)
  | returned (receipt : Receipt)
  | failed (failure : Failure)

namespace Phase

def after {α : Type} (next : α → Phase) : Except Failure α → Phase
  | .ok a => next a
  | .error failure => .failed failure

/-- The receipt of a call that is past its append. -/
def receipt? : Phase → Option Receipt
  | .recorded receipt | .returned receipt => some receipt
  | .waiting | .prepared _ | .answered _ | .failed _ => none

def result? : Phase → Option (Except Failure Outcome)
  | .returned receipt => some (.ok receipt.outcome)
  | .failed failure => some (.error failure)
  | .waiting | .prepared _ | .answered _ | .recorded _ => none

end Phase

/-- Where a call is after steps of its own, from a world in which it waited. -/
def Setup.Reaches (setup : Setup ι γ) (i : ι) (start : World γ) : Phase → World γ → Prop
  | .waiting, world => world = start
  | .prepared request, world => perform (setup.look i) start = (.ok request, world)
  | .answered response, world => ∃ request met,
      perform (setup.look i) start = (.ok request, met) ∧
      perform (setup.services.exchange request) met = (.ok response, world)
  | .recorded receipt, world | .returned receipt, world =>
      perform (Payments.execute setup.services setup.credentials (setup.call i)) start =
        (.ok receipt.outcome, world)
  | .failed failure, world =>
      perform (Payments.execute setup.services setup.credentials (setup.call i)) start =
        (.error failure, world)

namespace Setup.Reaches

variable {setup : Setup ι γ} {i : ι} {start world next : World γ}

theorem of_looked (h : setup.Reaches i start .waiting world) {found : Except Failure FieldList}
    (hlook : perform (setup.look i) world = (found, next)) :
    setup.Reaches i start (.after .prepared found) next := by
  obtain rfl : world = start := h
  cases found with
  | ok request => exact hlook
  | error failure =>
    show perform (Payments.execute setup.services _ _) world = _
    rw [execute_eq_steps, Action.perform_bind_of_error hlook]

theorem of_exchanged {request : FieldList} (h : setup.Reaches i start (.prepared request) world)
    {reply : Except Failure FieldList}
    (hexchange : perform (setup.services.exchange request) world = (reply, next)) :
    setup.Reaches i start (.after .answered reply) next := by
  cases reply with
  | ok response => exact ⟨request, world, h, hexchange⟩
  | error failure =>
    show perform (Payments.execute setup.services _ _) start = _
    rw [execute_eq_steps, Action.perform_bind_of_ok h, Action.perform_bind_of_error hexchange]

theorem of_appended {response : FieldList} (h : setup.Reaches i start (.answered response) world)
    {receipt : Receipt} (happend : perform (setup.append i response) world = (.ok receipt, next)) :
    setup.Reaches i start (.recorded receipt) next := by
  obtain ⟨request, met, hlook, hexchange⟩ := h
  show perform (Payments.execute setup.services _ _) start = _
  rw [execute_eq_steps, Action.perform_bind_of_ok hlook, Action.perform_bind_of_ok hexchange,
    Action.perform_bind_of_ok happend]
  rfl

end Setup.Reaches

/-! ## Systems and their steps -/

structure System (ι γ : Type) where
  world : World γ
  phase : ι → Phase

inductive Event (ι : Type) where
  | looked (i : ι) (found : Except Failure FieldList)
  | exchanged (i : ι) (reply : Except Failure FieldList)
  | appended (i : ι) (receipt : Receipt)
  | returned (i : ι) (outcome : Outcome)
  -- Time passes, and what is not the ledger changes.
  | drifted

def Event.isOf (i : ι) : Event ι → Prop
  | .looked j _ | .exchanged j _ | .appended j _ | .returned j _ => j = i
  | .drifted => False

variable [DecidableEq ι]

def System.set (s : System ι γ) (i : ι) (phase : Phase) (world : World γ) : System ι γ where
  world := world
  phase j := if j = i then phase else s.phase j

theorem System.phase_set_self (s : System ι γ) (i : ι) (phase : Phase) (world : World γ) :
    (s.set i phase world).phase i = phase :=
  if_pos rfl

theorem System.phase_set_of_ne {i j : ι} (h : j ≠ i) (s : System ι γ) (phase : Phase)
    (world : World γ) : (s.set i phase world).phase j = s.phase j :=
  if_neg h

inductive Step (setup : Setup ι γ) : System ι γ → Event ι → System ι γ → Prop
  | looked {s : System ι γ} {i : ι} {found : Except Failure FieldList} {w : World γ}
      (hphase : s.phase i = .waiting)
      (hlook : perform (setup.look i) s.world = (found, w)) :
      Step setup s (.looked i found) (s.set i (.after .prepared found) w)
  | exchanged {s : System ι γ} {i : ι} {request : FieldList} {reply : Except Failure FieldList}
      {w : World γ} (hphase : s.phase i = .prepared request)
      (hexchange : perform (setup.services.exchange request) s.world = (reply, w)) :
      Step setup s (.exchanged i reply) (s.set i (.after .answered reply) w)
  | appended {s : System ι γ} {i : ι} {response : FieldList} {receipt : Receipt} {w : World γ}
      (hphase : s.phase i = .answered response)
      (happend : perform (setup.append i response) s.world = (.ok receipt, w)) :
      Step setup s (.appended i receipt) (s.set i (.recorded receipt) w)
  | returned {s : System ι γ} {i : ι} {receipt : Receipt}
      (hphase : s.phase i = .recorded receipt) :
      Step setup s (.returned i receipt.outcome) (s.set i (.returned receipt) s.world)
  | drifted {s : System ι γ} {w : World γ}
      (hledger : w.stores.ledger = s.world.stores.ledger) :
      Step setup s .drifted { s with world := w }

inductive Run (setup : Setup ι γ) (start : System ι γ) : List (Event ι) → System ι γ → Prop
  | nil : Run setup start [] start
  | snoc {events : List (Event ι)} {s t : System ι γ} {event : Event ι}
      (run : Run setup start events s) (step : Step setup s event t) :
      Run setup start (events ++ [event]) t

/-! ## Steps without a pause -/

variable {setup : Setup ι γ} {i : ι}

theorem Step.reaches {start : World γ} {s t : System ι γ} {event : Event ι}
    (step : Step setup s event t) (hevent : event.isOf i)
    (h : setup.Reaches i start (s.phase i) s.world) :
    setup.Reaches i start (t.phase i) t.world := by
  cases step with
  | looked hphase hlook =>
    cases hevent
    rw [hphase] at h
    rw [System.phase_set_self]
    exact h.of_looked hlook
  | exchanged hphase hexchange =>
    cases hevent
    rw [hphase] at h
    rw [System.phase_set_self]
    exact h.of_exchanged hexchange
  | appended hphase happend =>
    cases hevent
    rw [hphase] at h
    rw [System.phase_set_self]
    exact h.of_appended happend
  | returned hphase =>
    cases hevent
    rw [hphase] at h
    rw [System.phase_set_self]
    exact h
  | drifted => cases hevent

theorem Run.reaches {s t : System ι γ} {events : List (Event ι)} (run : Run setup s events t)
    (hevents : ∀ event ∈ events, event.isOf i) (hwaiting : s.phase i = .waiting) :
    setup.Reaches i s.world (t.phase i) t.world := by
  induction run with
  | nil =>
    rw [hwaiting]
    rfl
  | @snoc events s t event run step ih =>
    have hbefore := ih fun event hmem => hevents event (List.mem_append_left _ hmem)
    exact step.reaches (hevents event (List.mem_append_right _ List.mem_cons_self)) hbefore

/-- A call that takes its steps without a pause does what it does alone. -/
theorem Run.execute_eq {s t : System ι γ} {events : List (Event ι)} (run : Run setup s events t)
    (hevents : ∀ event ∈ events, event.isOf i) (hwaiting : s.phase i = .waiting)
    {result : Except Failure Outcome} (hresult : (t.phase i).result? = some result) :
    perform (Payments.execute setup.services setup.credentials (setup.call i)) s.world =
      (result, t.world) := by
  have h := run.reaches hevents hwaiting
  cases hphase : t.phase i with
  | returned receipt =>
    rw [hphase] at h hresult
    cases hresult
    exact h
  | failed failure =>
    rw [hphase] at h hresult
    cases hresult
    exact h
  | _ =>
    rw [hphase] at hresult
    cases hresult

/-- A call that waits can take its steps without a pause, to its end. -/
theorem exists_run_alone (setup : Setup ι γ) {s : System ι γ} {i : ι}
    (hwaiting : s.phase i = .waiting) :
    ∃ events t result, Run setup s events t ∧ (∀ event ∈ events, event.isOf i) ∧
      (t.phase i).result? = some result := by
  -- One step for each part of the call, until a part fails or all are done.
  rcases hlook : perform (setup.look i) s.world with ⟨failure | request, t⟩
  · refine ⟨_, _, .error failure, .snoc .nil (.looked hwaiting hlook), by simp [Event.isOf], ?_⟩
    rw [System.phase_set_self]
    rfl
  have hlooked := Step.looked hwaiting hlook
  have hprepared := System.phase_set_self s i (.prepared request) t
  rcases hexchange : perform (setup.services.exchange request) t with ⟨failure | response, u⟩
  · refine ⟨_, _, .error failure, .snoc (.snoc .nil hlooked) (.exchanged hprepared hexchange),
      by simp [Event.isOf], ?_⟩
    rw [System.phase_set_self]
    rfl
  · have hexchanged := Step.exchanged hprepared hexchange
    have hanswered := System.phase_set_self (s.set i (.prepared request) t) i (.answered response) u
    have happended := Step.appended hanswered (perform_append setup i response u)
    refine ⟨_, _, .ok ((setup.call i).receipt response u.time).outcome,
      .snoc (.snoc (.snoc (.snoc .nil hlooked) hexchanged) happended)
        (.returned (System.phase_set_self _ i _ _)), by simp [Event.isOf], ?_⟩
    rw [System.phase_set_self]
    rfl

end PaymentGateway.Interleaving
