import PaymentGateway.Client
import PaymentGateway.Proofs.Memory.Services

/-!
# A line of connections

A far end that behaves on its connections as a script says, one after another.  Every attempt to
connect takes one behaviour from the script; a request that is rejected takes none.
-/

namespace PaymentGateway.Client

/-! ## One exchange -/

theorem exchange_of_rejected {request : FieldList} {fault : ValidationFault}
    (h : RequestCheck.check request = .error fault) (settings : Settings)
    (connection : Connection) :
    exchange settings connection request = ⟨.error (.validation fault), [], 0⟩ := by
  rw [exchange, h]

theorem dial_mem_of_accepted {request : FieldList} (h : RequestCheck.check request = .ok ())
    (settings : Settings) (connection : Connection) :
    .dial ∈ (exchange settings connection request).events := by
  rw [exchange, h]
  dsimp only
  split
  · exact List.mem_cons_self
  · split <;> exact List.mem_cons_self

/-- No failure to read a response says that the gateway accepted. -/
theorem not_accepted_readResponse {limit seconds elapsed : Nat} {received : List UInt8}
    {incoming : List Incoming} {failure : Failure}
    (h : (readResponse limit seconds received elapsed incoming).1 = .error failure) :
    failure.wasAccepted = false := by
  induction incoming generalizing received elapsed with
  | nil =>
    rw [readResponse] at h
    split at h <;> cases h <;> rfl
  | cons next rest ih =>
    cases next with
    | bytes data =>
      rw [readResponse] at h
      split at h
      · cases h
      · cases h
        rfl
      · exact ih h
    | pause time =>
      rw [readResponse] at h
      split at h
      · exact ih h
      · cases h
        rfl
    | failure fault =>
      cases h
      rfl
    | silence =>
      cases h
      rfl

theorem not_accepted_exchange {settings : Settings} {connection : Connection}
    {request : FieldList} {failure : Failure}
    (h : (exchange settings connection request).result = .error failure) :
    failure.wasAccepted = false := by
  rw [exchange] at h
  split at h
  · cases h
    rfl
  · dsimp only at h
    split at h
    · cases h
      rfl
    · split at h
      · cases h
        rfl
      · cases h
        rfl
      · dsimp only [converse] at h
        split at h
        · cases h
          rfl
        · exact not_accepted_readResponse h

/-! ## One exchange after another -/

structure Contact where
  request : FieldList
  events : List Event

abbrev Traffic := List Contact

def contact? (request : FieldList) (report : Report) : Option Contact :=
  if .dial ∈ report.events then some ⟨request, report.events⟩ else none

/-- A gateway whose connections behave one after another as a script says. -/
def line (settings : Settings) (script : Nat → Connection) : Gateway Traffic where
  exchange request traffic :=
    let report := exchange settings (script traffic.length) request
    (report.result, traffic ++ (contact? request report).toList)

theorem honest_line (settings : Settings) (script : Nat → Connection) :
    (line settings script).Honest :=
  fun _ _ _ h => not_accepted_exchange h

/-- Two lines give the same reply, and it takes the same contact, if they behave the same on the
connection that the first one opens, if it opens any. -/
theorem exchange_line_congr {settings : Settings} {script other : Nat → Connection}
    {request : FieldList} {t u : Traffic}
    (hscript : t.length < ((line settings script).exchange request t).2.length →
      script t.length = other u.length) :
    ∃ reply, ∃ contact : Option Contact,
      (line settings script).exchange request t = (reply, t ++ contact.toList) ∧
      (line settings other).exchange request u = (reply, u ++ contact.toList) := by
  cases hcheck : RequestCheck.check request with
  | error fault =>
    refine ⟨.error (.validation fault), none, ?_, ?_⟩ <;>
      (dsimp only [line]
       rw [exchange_of_rejected hcheck]
       rfl)
  | ok =>
    have hdial := dial_mem_of_accepted hcheck settings (script t.length)
    -- An accepted request opens a connection, so the two scripts agree on it.
    have hopened : t.length < ((line settings script).exchange request t).2.length := by
      show t.length < (t ++ (contact? request _).toList).length
      rw [contact?, if_pos hdial]
      simp
    refine ⟨_, _, rfl, ?_⟩
    dsimp only [line]
    rw [hscript hopened]

/-! ## A line without one of its connections -/

/-- A script without the behaviour at a position, if there is one. -/
def withoutBehaviour (position : Option Nat) (script : Nat → Connection) : Nat → Connection :=
  match position with
  | none => script
  | some n => fun k => if k < n then script k else script (k + 1)

def withoutContact (position : Option Nat) (traffic : Traffic) : Traffic :=
  match position with
  | none => traffic
  | some n => traffic.eraseIdx n

def opened? (before after : Traffic) : Option Nat :=
  if before.length < after.length then some before.length else none

section Opened

variable {before after : Traffic} {contact : Option Contact}

theorem opened?_eq (h : after = before ++ contact.toList) :
    opened? before after = contact.map fun _ => before.length := by
  subst h
  cases contact <;> simp [opened?]

theorem withoutContact_append (h : after = before ++ contact.toList) (rest : Traffic) :
    withoutContact (opened? before after) (after ++ rest) = before ++ rest := by
  rw [opened?_eq h, h]
  cases contact with
  | none => simp [withoutContact]
  | some contact => simp [withoutContact, List.eraseIdx_append_of_length_le]

/-- Up to the connection that is left out, a script is as it was. -/
theorem withoutBehaviour_of_lt {k : Nat} (h : k < before.length) (after : Traffic)
    (script : Nat → Connection) :
    withoutBehaviour (opened? before after) script k = script k := by
  rw [opened?]
  split
  · exact if_pos h
  · rfl

/-- Behind the connection that is left out, the positions of a script are those of the traffic. -/
theorem withoutBehaviour_add (h : after = before ++ contact.toList)
    (script : Nat → Connection) (k : Nat) :
    withoutBehaviour (opened? before after) script (before.length + k) =
      script (after.length + k) := by
  rw [opened?_eq h, h]
  cases contact with
  | none => simp [withoutBehaviour]
  | some contact =>
    have hbehind : ¬ before.length + k < before.length := by omega
    have hnext : before.length + k + 1 = (before ++ [contact]).length + k := by
      rw [List.length_append, List.length_singleton]
      omega
    show (if before.length + k < before.length then _ else script (before.length + k + 1)) = _
    rw [if_neg hbehind, hnext]
    rfl

end Opened

end PaymentGateway.Client
