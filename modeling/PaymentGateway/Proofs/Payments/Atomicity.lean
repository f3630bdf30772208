import PaymentGateway.Proofs.Memory.Services
import PaymentGateway.Proofs.Payments.Course

/-!
# A call is recorded exactly if the gateway answered

Whatever its services do, a call exchanges at most once.  Without a response it fails, says that
nothing was accepted and leaves the stores alone; with one it writes exactly one receipt and returns
the outcome, or the outcome together with the failure to write it.
-/

namespace PaymentGateway

open PaymentGateway.Action (perform)

variable {σ τ γ : Type}

namespace Payments

/-- A run of a call that the gateway either never accepted, or that is recorded. -/
structure Atomic (view : σ → τ) (call : Call) (before : σ) (result : Except Failure Outcome)
    (effects : List Effect) (after : σ) : Prop where
  exchanges_le_one : (effects.filter Effect.isExchange).length ≤ 1
  unaccepted : (∀ request response, .exchanged request (.ok response) ∉ effects) →
    (∃ failure, result = .error failure ∧ failure.wasAccepted = false) ∧
      view after = view before ∧ ∀ effect ∈ effects, effect.isExchange
  accepted : ∀ request response, .exchanged request (.ok response) ∈ effects →
    ∃ receipt reply, receipt.Keeps call response ∧
      effects = [.exchanged request (.ok response), .appended receipt reply] ∧
      (reply = .ok () → result = .ok receipt.outcome) ∧
      ∀ source, reply = .error source → result = .error (.unrecorded receipt.outcome source)

theorem Atomic.of_failure {view : σ → τ} {call : Call} {before after : σ} {failure : Failure}
    {effects : List Effect} (hlength : effects.length ≤ 1)
    (hexchange : ∀ effect ∈ effects, effect.isExchange)
    (hresponse : ∀ request response, .exchanged request (.ok response) ∉ effects)
    (hfailure : failure.wasAccepted = false) (hview : view after = view before) :
    Atomic view call before (.error failure) effects after where
  exchanges_le_one := Nat.le_trans (List.length_filter_le _ _) hlength
  unaccepted _ := ⟨⟨failure, rfl, hfailure⟩, hview, hexchange⟩
  accepted request response hmem := absurd hmem (hresponse request response)

theorem Course.atomic {services : Services (StateM σ)} {view : σ → τ}
    (quiet : services.Quiet view) {credentials : Credentials} {call : Call} {before after : σ}
    {result : Except Failure Outcome} {effects : List Effect}
    (course : Course services credentials call before result effects after) :
    Atomic view call before result effects after := by
  have hquiet := quiet_prepare quiet.toQuietLookups call
  -- By where the course ends: only behind a response is anything written.
  cases course with
  | @unprepared failure t hprepare =>
    have hview := hquiet.view_perform before
    rw [hprepare] at hview
    have hfailure := hquiet.not_accepted before failure (congrArg Prod.fst hprepare)
    exact .of_failure (Nat.zero_le 1) (by simp) (by simp) hfailure hview
  | @unanswered request token fields failure t u hprepare hfields hexchange =>
    have hprepared := hquiet.view_perform before
    have hexchanged := (quiet.exchange fields).view_perform t
    rw [hprepare] at hprepared
    rw [hexchange] at hexchanged
    have hfailure := (quiet.exchange fields).not_accepted t failure (congrArg Prod.fst hexchange)
    exact .of_failure (Nat.le_refl 1) (by simp [Effect.isExchange]) (by simp) hfailure
      (hexchanged.trans hprepared)
  | @answered request token fields response time receipt reply t u v w hprepare hfields hexchange
      hnow hreceipt happend =>
    refine ⟨Nat.le_refl 1, ?_, ?_⟩
    · intro hresponse
      exact absurd List.mem_cons_self (hresponse fields response)
    · intro request' response' hmem
      have hsame : request' = fields ∧ response' = response := by simpa using hmem
      obtain ⟨rfl, rfl⟩ := hsame
      refine ⟨receipt, reply, hreceipt ▸ call.keeps_receipt response' time, rfl, ?_, ?_⟩
      · rintro rfl
        rfl
      · rintro source rfl
        rfl

/-- Every run of a call is atomic, whatever the gateway and the stores do, and observing it changes
neither what it returns nor where it ends. -/
theorem execute_atomic {services : Services (StateM σ)} {view : σ → τ}
    (quiet : services.Quiet view) (credentials : Credentials) (call : Call) (before : σ) :
    ∃ result effects after,
      perform (execute services credentials call) before = (result, after) ∧
      perform (execute services.observed credentials call) (before, []) =
        (result, (after, effects)) ∧
      Atomic view call before result effects after := by
  obtain ⟨result, effects, after, course, hrun, hobserved⟩ :=
    exists_course services credentials call before
  exact ⟨result, effects, after, hrun, hobserved, course.atomic quiet⟩

def fullDisk : StoreFailures := { appendReceipt := some (.storage "disk full") }

theorem execute_atomic_fullDisk :
    (Memory.services Memory.approving fullDisk).Quiet World.stores ∧
      ∃ receipt : Receipt, receipt.Keeps (Memory.bareCall .capture) Memory.approval ∧
        (perform (execute (Memory.services Memory.approving fullDisk) ⟨"merchant", "secret"⟩
          (Memory.bareCall .capture)) Memory.authorizedWorld).1 =
            .error (.unrecorded receipt.outcome (.storage "disk full")) := by
  have honest : fullDisk.Honest := by
    constructor <;> (intro failure h; cases h)
  have quiet := Memory.quiet_services Memory.honest_approving honest
  obtain ⟨result, effects, after, hrun, hobserved, atomic⟩ :=
    execute_atomic quiet ⟨"merchant", "secret"⟩ (Memory.bareCall .capture) Memory.authorizedWorld
  have hresult : result = .error (.unrecorded _ (.storage "disk full")) :=
    (congrArg Prod.fst hrun).symm
  have heffects : effects = [.exchanged _ (.ok Memory.approval), .appended _ _] :=
    (congrArg (fun run => run.2.2) hobserved).symm
  obtain ⟨receipt, reply, hkeeps, -, hok, herror⟩ :=
    atomic.accepted _ Memory.approval (heffects ▸ List.mem_cons_self)
  refine ⟨quiet, receipt, hkeeps, ?_⟩
  rw [hrun]
  rcases reply with source | ⟨⟩
  · have hsource := herror source rfl
    rw [hresult, Except.error.injEq, Failure.unrecorded.injEq] at hsource
    rw [hresult, hsource.1]
  · rw [hresult] at hok
    cases hok rfl

end Payments

end PaymentGateway
