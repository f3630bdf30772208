import Mathlib.Data.List.Forall2
import PaymentGateway.Batch.OutcomeTable
import PaymentGateway.Proofs.Memory.Execution

/-!
# The rows of a batch

What becomes of a row follows from the call that it makes, if it makes one.  A row reports the
response to its call, or it fails; then it got no response and wrote nothing.
-/

namespace PaymentGateway.Batch

open PaymentGateway.Action (perform)

/-! ## Results -/

namespace RowResult

def ofCall (operation : Operation) : Except Failure Outcome → RowResult
  | .ok o => .outcome o
  | .error (.unrecorded o source) => .unrecorded o source
  | .error error => .unprocessed operation error

theorem ofCall_error {error : Failure} (h : error.wasAccepted = false) (operation : Operation) :
    ofCall operation (.error error) = .unprocessed operation error := by
  cases error with
  | unrecorded outcome source => cases h
  | _ => rfl

def timeless : RowResult → RowResult
  | .outcome o => .outcome o.timeless
  | .unreadable error => .unreadable error
  | .unprocessed operation error => .unprocessed operation error
  | .unrecorded o source => .unrecorded o.timeless source

theorem timeless_ofCall (operation : Operation) (result : Except Failure Outcome) :
    (ofCall operation result).timeless =
      (ofCall operation (result.map Outcome.timeless)).timeless := by
  rcases result with error | outcome
  · rfl
  · rfl

theorem message?_timeless (result : RowResult) : result.timeless.message? = result.message? := by
  cases result <;> rfl

theorem outcome?_timeless (result : RowResult) :
    result.timeless.outcome? = result.outcome?.map Outcome.timeless := by
  cases result <;> rfl

end RowResult

/-! ## The call of a row -/

/-- The call that a row makes, or what becomes of a row that makes none. -/
def rowCall (caller : Caller) : Except Failure Operation → Except RowResult (Operation × Call)
  | .error error => .error (.unreadable error)
  | .ok operation =>
      match operation.call caller with
      | .ok call => .ok (operation, call)
      | .error error => .error (.unprocessed operation error)

theorem not_accepted_call {operation : Operation} {caller : Caller} {error : Failure}
    (h : operation.call caller = .error error) : error.wasAccepted = false := by
  obtain ⟨kind, ids, amount, currency, overrides⟩ := operation
  cases kind <;> cases amount <;> cases currency <;> cases h <;> rfl

variable {σ : Type}

theorem runRow_eq (services : Services (StateM σ)) (credentials : Credentials) (caller : Caller)
    (row : Except Failure Operation) (s : σ) :
    runRow services credentials caller row s =
      match rowCall caller row with
      | .error result => (result, s)
      | .ok (operation, call) =>
          let finished := perform (Payments.execute services credentials call) s
          (.ofCall operation finished.1, finished.2) := by
  rcases row with error | operation
  · rfl
  have hrun : runRow services credentials caller (.ok operation) s =
      (.ofCall operation (perform (operation.execute services credentials caller) s).1,
        (perform (operation.execute services credentials caller) s).2) := by
    show StateT.run (runRow services credentials caller (.ok operation)) s = _
    rcases hfinished : perform (operation.execute services credentials caller) s with
      ⟨error | outcome, t⟩ <;>
      rw [Action.perform] at hfinished <;>
      rw [runRow, StateT.run_bind, hfinished]
    · cases error <;> rfl
    · rfl
  rw [hrun, rowCall, Operation.execute]
  cases hcall : operation.call caller with
  | ok call => rfl
  | error error =>
    dsimp only
    rw [Action.perform_throw, RowResult.ofCall_error (not_accepted_call hcall)]

/-! ## The record of a batch -/

structure Entry (σ : Type) where
  row : Except Failure Operation
  before : σ
  result : RowResult
  effects : List Effect
  after : σ

def Entry.ofRow (services : Services (StateM σ)) (credentials : Credentials) (caller : Caller)
    (s : σ) (row : Except Failure Operation) : Entry σ where
  row
  before := s
  result := (runRow services credentials caller row s).1
  effects :=
    match row with
    | .ok operation => effectsOf (operation.execute · credentials caller) services s
    | .error _ => []
  after := (runRow services credentials caller row s).2

def record (services : Services (StateM σ)) (credentials : Credentials) (caller : Caller) :
    σ → List (Except Failure Operation) → List (Entry σ)
  | _, [] => []
  | s, row :: rows =>
      let entry := Entry.ofRow services credentials caller s row
      entry :: record services credentials caller entry.after rows

section Run

variable (services : Services (StateM σ)) (credentials : Credentials) (caller : Caller)

theorem run_nil (s : σ) : run services credentials caller [] s = ([], s) := rfl

theorem run_cons (row : Except Failure Operation) (rows : List (Except Failure Operation))
    (s : σ) :
    run services credentials caller (row :: rows) s =
      let entry := Entry.ofRow services credentials caller s row
      let rest := run services credentials caller rows entry.after
      (entry.result :: rest.1, rest.2) := by
  rw [run, List.mapM_cons]
  rfl

theorem run_append (rows others : List (Except Failure Operation)) (s : σ) :
    run services credentials caller (rows ++ others) s =
      let first := run services credentials caller rows s
      let rest := run services credentials caller others first.2
      (first.1 ++ rest.1, rest.2) := by
  induction rows generalizing s with
  | nil => rfl
  | cons row rows ih =>
    rw [List.cons_append, run_cons, run_cons]
    dsimp only
    rw [ih]
    rfl

/-- A run returns the results of its record. -/
theorem results_run (rows : List (Except Failure Operation)) (s : σ) :
    (run services credentials caller rows s).1 =
      (record services credentials caller s rows).map Entry.result := by
  induction rows generalizing s with
  | nil => rfl
  | cons row rows ih =>
    rw [run_cons, record, List.map_cons]
    dsimp only
    rw [ih]

/-- An entry of a record is a row that met what the rows before it left. -/
theorem exists_rows_of_record {rows : List (Except Failure Operation)} {s : σ}
    {earlier later : List (Entry σ)} {entry : Entry σ}
    (h : record services credentials caller s rows = earlier ++ entry :: later) :
    ∃ before row after, rows = before ++ row :: after ∧
      record services credentials caller s before = earlier ∧
      (run services credentials caller before s).2 = entry.before ∧
      Entry.ofRow services credentials caller entry.before row = entry ∧
      record services credentials caller entry.after after = later := by
  -- By the rows before the entry, which lead the run to where the entry begins.
  induction rows generalizing s earlier with
  | nil => exact absurd h.symm (List.append_ne_nil_of_right_ne_nil _ (List.cons_ne_nil _ _))
  | cons row rows ih =>
    rw [record] at h
    cases earlier with
    | nil =>
      rw [List.nil_append, List.cons.injEq] at h
      obtain ⟨rfl, rfl⟩ := h
      exact ⟨[], row, rows, rfl, rfl, rfl, rfl, rfl⟩
    | cons first earlier =>
      rw [List.cons_append, List.cons.injEq] at h
      obtain ⟨rfl, hrest⟩ := h
      obtain ⟨before, next, after, rfl, rfl, hmet, hentry, hlater⟩ := ih hrest
      refine ⟨row :: before, next, after, rfl, rfl, ?_, hentry, hlater⟩
      rw [run_cons]
      exact hmet

theorem rows_record (rows : List (Except Failure Operation)) (s : σ) :
    (record services credentials caller s rows).map Entry.row = rows := by
  induction rows generalizing s with
  | nil => rfl
  | cons row rows ih =>
    rw [record, List.map_cons, ih]
    rfl

/-- The outcomes that a run reports, in the order of its rows. -/
theorem forall₂_outcomes {R : Entry σ → Outcome → Prop} {p : Entry σ → Bool}
    (h : ∀ s row,
      let entry := Entry.ofRow services credentials caller s row
      (p entry = false ∧ entry.result.outcome? = none) ∨
        (p entry = true ∧ ∃ outcome, entry.result.outcome? = some outcome ∧ R entry outcome))
    (rows : List (Except Failure Operation)) (s : σ) :
    List.Forall₂ R ((record services credentials caller s rows).filter p)
      ((run services credentials caller rows s).1.filterMap RowResult.outcome?) := by
  induction rows generalizing s with
  | nil => exact .nil
  | cons row rows ih =>
    have hrest := ih (Entry.ofRow services credentials caller s row).after
    rw [run_cons, record, List.filter_cons, List.filterMap_cons]
    rcases h s row with ⟨hp, houtcome⟩ | ⟨hp, outcome, houtcome, hreports⟩ <;>
      rw [hp, houtcome]
    · exact hrest
    · exact .cons hreports hrest

end Run

/-! ## A row in a world kept in memory -/

section World

open Memory (clocked conclusion services)

variable {γ : Type}

/-- A row comes to the conclusion of its call. -/
theorem ofRow_eq (gateway : Gateway γ) (clock : World γ → Timestamp) (credentials : Credentials)
    (caller : Caller) (row : Except Failure Operation) (world : World γ) :
    let entry := Entry.ofRow (clocked gateway clock) credentials caller world row
    (entry.result, entry.effects, entry.after) =
      match rowCall caller row with
      | .error result => (result, [], world)
      | .ok (operation, call) =>
          let concluded := conclusion gateway credentials clock call world
            (perform (Payments.prepare (services gateway) call) world).1
          (.ofCall operation concluded.1, concluded.2.1, concluded.2.2) := by
  intro entry
  have hrun : (entry.result, entry.after) = _ :=
    runRow_eq (clocked gateway clock) credentials caller row world
  rcases row with error | operation
  · rfl
  -- What a row does outside is what its operation does: reporting it does nothing.
  have heffects : entry.effects =
    effectsOf (operation.execute · credentials caller) (clocked gateway clock) world := rfl
  unfold Operation.execute at heffects
  cases hcall : operation.call caller with
  | error error =>
    have hrow : rowCall caller (.ok operation) = .error (.unprocessed operation error) := by
      rw [rowCall, hcall]
    rw [hcall] at heffects
    rw [hrow, Prod.mk.injEq] at hrun
    rw [hrow, hrun.1, hrun.2, heffects]
    rfl
  | ok call =>
    have hrow : rowCall caller (.ok operation) = .ok (operation, call) := by
      rw [rowCall, hcall]
    rw [hcall] at heffects
    rw [hrow, Prod.mk.injEq] at hrun
    rw [hrow, hrun.1, hrun.2, heffects]
    dsimp only
    rw [← Memory.perform_execute]

def Entry.isAnswered {σ : Type} (entry : Entry σ) : Bool :=
  entry.effects.any Effect.isResponse

/-- A row that failed: it reports nothing, got no response and wrote nothing. -/
structure Entry.Failed (entry : Entry (World γ)) : Prop where
  outcome : entry.result.outcome? = none
  unanswered : entry.isAnswered = false
  stores : entry.after.stores = entry.before.stores

def Entry.Reports {σ : Type} (caller : Caller) (entry : Entry σ) (outcome : Outcome) : Prop :=
  ∃ (operation : Operation) (call : Call) (fields response : FieldList) (receipt : Receipt),
    entry.row = .ok operation ∧ operation.call caller = .ok call ∧
    .exchanged fields (.ok response) ∈ entry.effects ∧ receipt.Keeps call response ∧
    receipt.outcome = outcome

theorem failed_of_eq {entry : Entry (World γ)} {result : RowResult} {effects : List Effect}
    {after : World γ} (h : (entry.result, entry.effects, entry.after) = (result, effects, after))
    (houtcome : result.outcome? = none) (hresponse : effects.any Effect.isResponse = false)
    (hstores : after.stores = entry.before.stores) : entry.Failed := by
  simp only [Prod.mk.injEq] at h
  obtain ⟨rfl, rfl, rfl⟩ := h
  exact ⟨houtcome, hresponse, hstores⟩

theorem outcome?_of_rowCall {caller : Caller} {row : Except Failure Operation}
    {result : RowResult} (h : rowCall caller row = .error result) : result.outcome? = none := by
  rcases row with error | operation
  · cases h
    rfl
  · rw [rowCall] at h
    cases hcall : operation.call caller with
    | error error =>
      rw [hcall] at h
      cases h
      rfl
    | ok call =>
      rw [hcall] at h
      cases h

theorem eq_of_rowCall {caller : Caller} {row : Except Failure Operation} {operation : Operation}
    {call : Call} (h : rowCall caller row = .ok (operation, call)) :
    row = .ok operation ∧ operation.call caller = .ok call := by
  rcases row with error | operation
  · cases h
  · rw [rowCall] at h
    cases hcall : operation.call caller with
    | error error =>
      rw [hcall] at h
      cases h
    | ok call =>
      rw [hcall] at h
      cases h
      exact ⟨rfl, hcall⟩

/-- A row fails, or it reports the response to its call. -/
theorem failed_or_reports {gateway : Gateway γ} (honest : gateway.Honest)
    (clock : World γ → Timestamp) (credentials : Credentials) (caller : Caller)
    (row : Except Failure Operation) (world : World γ) :
    let entry := Entry.ofRow (clocked gateway clock) credentials caller world row
    entry.Failed ∨
      entry.isAnswered = true ∧
        ∃ outcome, entry.result = .outcome outcome ∧ entry.Reports caller outcome := by
  intro entry
  have hentry : (entry.result, entry.effects, entry.after) = _ :=
    ofRow_eq gateway clock credentials caller row world
  cases hrow : rowCall caller row with
  | error result =>
    rw [hrow] at hentry
    exact .inl (failed_of_eq hentry (outcome?_of_rowCall hrow) rfl rfl)
  | ok made =>
    obtain ⟨operation, call⟩ := made
    rw [hrow] at hentry
    dsimp only at hentry
    have hquiet := Payments.quiet_prepare
      (Memory.quiet_lookups gateway Memory.honest_noFailures World.stores) call
    -- A call fails before its exchange or in it; then its failure is not that of an accepted
    -- payment, and nothing was written.
    rcases hprepared : (perform (Payments.prepare (services gateway) call) world).1 with
      failure | ⟨request, token⟩
    · have haccepted := hquiet.not_accepted world failure hprepared
      rw [hprepared, conclusion, RowResult.ofCall_error haccepted] at hentry
      exact .inl (failed_of_eq hentry rfl rfl rfl)
    rw [hprepared, conclusion] at hentry
    generalize request.fields credentials (call.overlay token) = fields at hentry
    cases hexchange : (gateway.exchange fields world.gateway).1 with
    | error failure =>
      have haccepted := honest fields world.gateway failure hexchange
      rw [hexchange, Memory.settled, RowResult.ofCall_error haccepted] at hentry
      exact .inl (failed_of_eq hentry rfl rfl rfl)
    | ok response =>
      -- The ledger takes every receipt, so a response is always reported as an outcome.
      rw [hexchange, Memory.settled] at hentry
      simp only [Prod.mk.injEq] at hentry
      obtain ⟨hresult, heffects, -⟩ := hentry
      obtain ⟨hrow', hcall⟩ := eq_of_rowCall hrow
      refine .inr ⟨?_, _, hresult, ?_⟩
      · rw [Entry.isAnswered, heffects]
        rfl
      · refine ⟨operation, call, fields, response, _, hrow', hcall, ?_, call.keeps_receipt ..,
          rfl⟩
        rw [heffects]
        exact List.mem_cons_self

end World

end PaymentGateway.Batch
