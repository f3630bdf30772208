import PaymentGateway.Proofs.Client.Line
import PaymentGateway.Proofs.Client.Procedure

/-!
# The life cycle of a connection

An accepted request leads to one attempt to connect, and an opened connection to one conversation
behind which it is shut down and dropped.  Whatever the far end does, every phase keeps to its
limit, and how the connection ends changes nothing in the result.
-/

namespace PaymentGateway.Client

open PaymentGateway.Action (perform)

/-! ## Reading -/

/-- Reads that begin between two times. -/
structure Reads (start finished : Nat) (steps : List (Nat × Operation)) : Prop where
  time : ∀ step ∈ steps, start ≤ step.1 ∧ step.1 ≤ finished
  operation : ∀ step ∈ steps, ∃ data, step.2 = .read data

def arrived (steps : List (Nat × Operation)) : List UInt8 :=
  steps.flatMap fun step =>
    match step.2 with
    | .read data => data
    | _ => []

/-- How reading what the far end sends can end, with the bytes that arrived. -/
inductive Ends (seconds : Nat) (incoming : List Incoming) (bytes : List UInt8) :
    Except Failure FieldList → Prop
  -- The bytes are a response, or break the format.
  | decided {verdict : Except FramingFault FieldList}
      (h : Wire.verdict? .empty (Wire.pieces bytes) = some verdict) :
      Ends seconds incoming bytes (resultOf (some verdict))
  -- The stream ends, and its bytes decide nothing.
  | cutOff (h : Wire.verdict? .empty (Wire.pieces bytes) = none) :
      Ends seconds incoming bytes (.error (.transport Wire.endedEarly))
  -- The far end fails.
  | failed {fault : TransportFault} (h : .failure fault ∈ incoming) :
      Ends seconds incoming bytes (.error (.transport fault))
  -- The limit is reached.
  | late : Ends seconds incoming bytes (.error (.transport (timedOut "response" seconds)))

theorem Reads.nil (start finished : Nat) : Reads start finished [] :=
  ⟨nofun, nofun⟩

theorem Reads.cons {start finished : Nat} {steps : List (Nat × Operation)}
    (h : Reads start finished steps) (hfinished : start ≤ finished) (data : List UInt8) :
    Reads start finished ((start, .read data) :: steps) where
  time := List.forall_mem_cons.mpr ⟨⟨Nat.le_refl _, hfinished⟩, h.time⟩
  operation := List.forall_mem_cons.mpr ⟨⟨data, rfl⟩, h.operation⟩

theorem Reads.of_le {start later finished : Nat} {steps : List (Nat × Operation)}
    (h : Reads later finished steps) (hlater : start ≤ later) : Reads start finished steps where
  time step hstep := ⟨Nat.le_trans hlater (h.time step hstep).1, (h.time step hstep).2⟩
  operation := h.operation

section Ends

variable {seconds : Nat} {incoming rest : List Incoming} {bytes : List UInt8}
  {result : Except Failure FieldList}

theorem ends_resultOf :
    Ends seconds incoming bytes (resultOf (Wire.verdict? .empty (Wire.pieces bytes))) := by
  cases h : Wire.verdict? .empty (Wire.pieces bytes) with
  | some verdict => exact .decided h
  | none => exact .cutOff h

theorem ends_of_complete {verdict : Except FramingFault FieldList}
    (h : Wire.verdict? .empty ((Wire.pieces bytes).filter Wire.isComplete) = some verdict) :
    Ends seconds incoming bytes (resultOf (some verdict)) := by
  obtain ⟨tail, htail⟩ := Wire.exists_pieces_append bytes []
  rw [List.append_nil] at htail
  exact .decided (by rw [htail, Wire.verdict?_append h])

theorem Ends.cons (h : Ends seconds rest bytes result) (next : Incoming) :
    Ends seconds (next :: rest) bytes result := by
  cases h with
  | decided h => exact .decided h
  | cutOff h => exact .cutOff h
  | failed h => exact .failed (List.mem_cons_of_mem _ h)
  | late => exact .late

end Ends

/-- What a reader does with what the far end sends: it reads within its limit, and its result is how
reading ends. -/
structure Heard (start length seconds elapsed : Nat) (received : List UInt8)
    (incoming : List Incoming) (steps : List (Nat × Operation))
    (result : Except Failure FieldList) (finished : Nat) : Prop where
  read_eq : readResponse length seconds received elapsed incoming = (result, finished)
  perform_eq : ∀ trace,
    perform (Procedure.receive ⟨start + length, "response", seconds⟩ received incoming)
      ⟨start + elapsed, trace⟩ = (result, ⟨start + finished, trace ++ steps⟩)
  elapsed_le : elapsed ≤ finished
  le_length : finished ≤ length
  reads : Reads (start + elapsed) (start + finished) steps
  ends : Ends seconds incoming (received ++ arrived steps) result

section Heard

variable {start length seconds elapsed time finished : Nat} {received data : List UInt8}
  {incoming rest : List Incoming} {steps : List (Nat × Operation)}
  {result : Except Failure FieldList}

theorem heard_nil (helapsed : elapsed ≤ length) :
    Heard start length seconds elapsed received [] [(start + elapsed, .read [])]
      (resultOf (Wire.verdict? .empty (Wire.pieces received))) elapsed where
  read_eq := readResponse_nil length seconds received elapsed
  perform_eq trace := by
    rw [Procedure.receive, Action.perform_bind_of_ok (Procedure.perform_operate _ _),
      Procedure.perform_ofExcept]
  elapsed_le := Nat.le_refl _
  le_length := helapsed
  reads := (Reads.nil _ _).cons (Nat.le_refl _) _
  ends := by
    show Ends seconds [] (received ++ []) _
    rw [List.append_nil]
    exact ends_resultOf

theorem heard_decided (helapsed : elapsed ≤ length) {verdict : Except FramingFault FieldList}
    (h : Wire.verdict? .empty ((Wire.pieces (received ++ data)).filter Wire.isComplete) =
      some verdict) :
    Heard start length seconds elapsed received (.bytes data :: rest)
      [(start + elapsed, .read data)] (resultOf (some verdict)) elapsed where
  read_eq := readResponse_bytes_of_some h length seconds elapsed rest
  perform_eq trace := by
    rw [Procedure.receive, Action.perform_bind_of_ok (Procedure.perform_operate _ _), h]
    exact Procedure.perform_ofExcept _ _
  elapsed_le := Nat.le_refl _
  le_length := helapsed
  reads := (Reads.nil _ _).cons (Nat.le_refl _) _
  ends := by
    show Ends seconds _ (received ++ (data ++ [])) _
    rw [List.append_nil]
    exact ends_of_complete h

theorem Heard.of_undecided
    (heard : Heard start length seconds elapsed (received ++ data) rest steps result finished)
    (h : Wire.verdict? .empty ((Wire.pieces (received ++ data)).filter Wire.isComplete) = none) :
    Heard start length seconds elapsed received (.bytes data :: rest)
      ((start + elapsed, .read data) :: steps) result finished where
  read_eq := (readResponse_bytes_of_none h length seconds elapsed rest).trans heard.read_eq
  perform_eq trace := by
    rw [Procedure.receive, Action.perform_bind_of_ok (Procedure.perform_operate _ _), h,
      List.append_cons trace _ steps]
    exact heard.perform_eq _
  elapsed_le := heard.elapsed_le
  le_length := heard.le_length
  reads := heard.reads.cons (Nat.add_le_add_left heard.elapsed_le _) _
  ends := by
    show Ends seconds _ (received ++ (data ++ arrived steps)) _
    rw [← List.append_assoc]
    exact heard.ends.cons _

theorem Heard.of_pause
    (heard : Heard start length seconds (elapsed + time) received rest steps result finished)
    (h : elapsed + time ≤ length) :
    Heard start length seconds elapsed received (.pause time :: rest) steps result finished where
  read_eq := by rw [readResponse, if_pos h, heard.read_eq]
  perform_eq trace := by
    have hclock : start + elapsed + time ≤ start + length := by omega
    have hwait : perform (Procedure.wait ⟨start + length, "response", seconds⟩ time)
        ⟨start + elapsed, trace⟩ = (.ok (), ⟨start + (elapsed + time), trace⟩) := by
      rw [Procedure.perform_wait, if_pos hclock, Nat.add_assoc]
    rw [Procedure.receive, Action.perform_bind_of_ok hwait, heard.perform_eq trace]
  elapsed_le := Nat.le_of_add_right_le heard.elapsed_le
  le_length := heard.le_length
  reads := heard.reads.of_le (Nat.add_le_add_left (Nat.le_add_right _ _) _)
  ends := heard.ends.cons _

/-- What ends a reader without another read. -/
theorem heard_of_failed {fault : TransportFault}
    (hread : readResponse length seconds received elapsed incoming =
      (.error (.transport fault), finished))
    (hperform : ∀ trace,
      perform (Procedure.receive ⟨start + length, "response", seconds⟩ received incoming)
        ⟨start + elapsed, trace⟩ = (.error (.transport fault), ⟨start + finished, trace⟩))
    (hfinished : elapsed ≤ finished) (hlength : finished ≤ length)
    (hends : Ends seconds incoming (received ++ arrived []) (.error (.transport fault))) :
    Heard start length seconds elapsed received incoming [] (.error (.transport fault))
      finished where
  read_eq := hread
  perform_eq trace := by rw [hperform, List.append_nil]
  elapsed_le := hfinished
  le_length := hlength
  reads := .nil _ _
  ends := hends

theorem heard_late (helapsed : elapsed ≤ length) (h : ¬ elapsed + time ≤ length) :
    Heard start length seconds elapsed received (.pause time :: rest) []
      (.error (.transport (timedOut "response" seconds))) length := by
  refine heard_of_failed ?_ ?_ helapsed (Nat.le_refl _) .late
  · rw [readResponse, if_neg h]
  · intro trace
    have hclock : ¬ start + elapsed + time ≤ start + length := by omega
    have hwait : perform (Procedure.wait ⟨start + length, "response", seconds⟩ time)
        ⟨start + elapsed, trace⟩ =
          (.error (.transport (timedOut "response" seconds)), ⟨start + length, trace⟩) := by
      rw [Procedure.perform_wait, if_neg hclock]
      rfl
    rw [Procedure.receive, Action.perform_bind_of_error hwait]

end Heard

/-- Whatever the far end sends, it is heard. -/
theorem exists_heard (start length seconds : Nat) {elapsed : Nat} (helapsed : elapsed ≤ length)
    (received : List UInt8) (incoming : List Incoming) :
    ∃ steps result finished,
      Heard start length seconds elapsed received incoming steps result finished := by
  -- The reader goes on exactly if what arrived decides nothing and its time is not over.
  induction incoming generalizing received elapsed with
  | nil => exact ⟨_, _, _, heard_nil helapsed⟩
  | cons next rest ih =>
    cases next with
    | bytes data =>
      cases h : Wire.verdict? .empty ((Wire.pieces (received ++ data)).filter Wire.isComplete) with
      | some verdict => exact ⟨_, _, _, heard_decided helapsed h⟩
      | none =>
        obtain ⟨steps, result, finished, heard⟩ := ih helapsed (received ++ data)
        exact ⟨_, _, _, heard.of_undecided h⟩
    | pause time =>
      by_cases h : elapsed + time ≤ length
      · obtain ⟨steps, result, finished, heard⟩ := ih h received
        exact ⟨_, _, _, heard.of_pause h⟩
      · exact ⟨_, _, _, heard_late helapsed h⟩
    | failure fault =>
      exact ⟨_, _, _, heard_of_failed rfl (fun _ => rfl) (Nat.le_refl _) helapsed
        (.failed List.mem_cons_self)⟩
    | silence =>
      exact ⟨_, _, _, heard_of_failed rfl (fun _ => rfl) helapsed (Nat.le_refl _) .late⟩

/-! ## Conversations -/

def Takes (connection : Connection) (request : FieldList) : Prop :=
  ∀ limit fault, connection.writeLimit = some (limit, fault) →
    (Wire.encode request).length ≤ limit

/-- The courses of a conversation between two times: its steps and its result. -/
inductive Conversation (settings : Settings) (connection : Connection) (request : FieldList)
    (start finished : Nat) : List (Nat × Operation) → Except Failure FieldList → Prop
  -- A write fails, and the far end took the bytes before the failure.
  | unwritten {limit : Nat} {fault : TransportFault}
      (hlimit : connection.writeLimit = some (limit, fault))
      (hshort : limit < (Wire.encode request).length) (hfinished : finished = start) :
      Conversation settings connection request start finished
        [(start, .write ((Wire.encode request).take limit))] (.error (.transport fault))
  -- All is written, and flushing fails.
  | unflushed {fault : TransportFault} (htaken : Takes connection request)
      (hflush : connection.flushFailure = some fault) (hfinished : finished = start) :
      Conversation settings connection request start finished
        [(start, .write (Wire.encode request)), (start, .flush)] (.error (.transport fault))
  -- All is written, and the rest are reads.
  | answered {reads : List (Nat × Operation)} {result : Except Failure FieldList} {time : Nat}
      (htaken : Takes connection request) (hflush : connection.flushFailure = none)
      (hread : readResponse (settings.readTimeout * 1000) settings.readTimeout [] 0
        connection.incoming = (result, time)) (hfinished : finished = start + time)
      (hreads : Reads start finished reads)
      (hends : Ends settings.readTimeout connection.incoming (arrived reads) result) :
      Conversation settings connection request start finished
        ((start, .write (Wire.encode request)) :: (start, .flush) :: reads) result

def Operation.event? : Operation → Option Event
  | .dial => some .dial
  | .write bytes => some (.write bytes)
  | .shutdown => some .shutdown
  | .drop => some .drop
  | .flush | .read _ => none

def events (steps : List (Nat × Operation)) : List Event :=
  steps.filterMap fun step => step.2.event?

theorem Reads.events_eq_nil {start finished : Nat} {steps : List (Nat × Operation)}
    (h : Reads start finished steps) : events steps = [] := by
  rw [events, List.filterMap_eq_nil_iff]
  intro step hstep
  obtain ⟨data, hdata⟩ := h.operation step hstep
  rw [hdata]
  rfl

/-- Writing takes the whole request or fails on the way. -/
theorem writeRequest_cases (connection : Connection) (request : FieldList) (s : Session) :
    (∃ limit fault, connection.writeLimit = some (limit, fault) ∧
      limit < (Wire.encode request).length ∧
      writeRequest connection (Wire.encode request) =
        ((Wire.encode request).take limit, some fault) ∧
      perform (Procedure.writeAll connection (Wire.encode request)) s =
        (.error (.transport fault),
          ⟨s.clock, s.trace ++ [(s.clock, .write ((Wire.encode request).take limit))]⟩)) ∨
    (Takes connection request ∧
      writeRequest connection (Wire.encode request) =
        (Wire.encode request, connection.flushFailure) ∧
      perform (Procedure.writeAll connection (Wire.encode request)) s =
        (.ok (), ⟨s.clock, s.trace ++ [(s.clock, .write (Wire.encode request))]⟩)) := by
  unfold writeRequest Procedure.writeAll Takes
  cases connection.writeLimit with
  | none => exact .inr ⟨nofun, rfl, rfl⟩
  | some failing =>
    obtain ⟨limit, fault⟩ := failing
    dsimp only
    by_cases hshort : limit < (Wire.encode request).length
    · rw [if_pos hshort, if_pos hshort]
      exact .inl ⟨limit, fault, rfl, hshort, rfl, rfl⟩
    · rw [if_neg hshort, if_neg hshort]
      refine .inr ⟨?_, rfl, rfl⟩
      rintro _ _ ⟨⟩
      exact Nat.not_lt.mp hshort

/-- Every conversation takes a course, within its limit. -/
theorem exists_conversation (settings : Settings) (connection : Connection) (request : FieldList)
    (start : Nat) (trace : List (Nat × Operation)) :
    ∃ written result time steps,
      converse settings connection request = (written, result, time) ∧
      time ≤ settings.readTimeout * 1000 ∧
      perform (Procedure.talk connection request
          ⟨start + settings.readTimeout * 1000, "response", settings.readTimeout⟩) ⟨start, trace⟩ =
        (result, ⟨start + time, trace ++ steps⟩) ∧
      Conversation settings connection request start (start + time) steps result ∧
      events steps = [.write written] := by
  -- A conversation ends at the write, at the flush or with what is heard, and takes time only to
  -- hear.
  rcases writeRequest_cases connection request ⟨start, trace⟩ with
    ⟨limit, fault, hlimit, hshort, hrequest, hwrite⟩ | ⟨htaken, hrequest, hwrite⟩
  · refine ⟨_, .error (.transport fault), 0, _, ?_, Nat.zero_le _, ?_, .unwritten hlimit hshort rfl,
      rfl⟩
    · rw [converse, hrequest]
    · rw [Procedure.talk, Action.perform_bind_of_error hwrite]
      rfl
  cases hflush : connection.flushFailure with
  | some fault =>
    refine ⟨Wire.encode request, .error (.transport fault), 0, _, ?_, Nat.zero_le _, ?_,
      .unflushed htaken hflush rfl, rfl⟩
    · rw [converse, hrequest, hflush]
    · rw [Procedure.talk, Action.perform_bind_of_ok hwrite,
        Action.perform_bind_of_error (Procedure.perform_flush_of_some hflush _),
        List.append_assoc]
      rfl
  | none =>
    obtain ⟨reads, result, time, heard⟩ := exists_heard start (settings.readTimeout * 1000)
      settings.readTimeout (Nat.zero_le _) [] connection.incoming
    refine ⟨Wire.encode request, result, time, _, ?_, heard.le_length, ?_,
      .answered htaken hflush heard.read_eq rfl heard.reads heard.ends, ?_⟩
    · rw [converse, hrequest, hflush]
      exact congrArg _ heard.read_eq
    · rw [Procedure.talk, Action.perform_bind_of_ok hwrite,
        Action.perform_bind_of_ok (Procedure.perform_flush_of_none hflush _)]
      refine (heard.perform_eq _).trans ?_
      rw [List.append_assoc, List.append_assoc]
      rfl
    · show _ :: events reads = _
      rw [heard.reads.events_eq_nil]

/-! ## Connections -/

def Session.ofOpened (steps : List (Nat × Operation)) (finished closed : Nat) : Session :=
  ⟨closed, (0, .dial) :: (steps ++ [(finished, .shutdown), (closed, .drop)])⟩

theorem events_ofOpened (steps : List (Nat × Operation)) (finished closed : Nat) :
    events (Session.ofOpened steps finished closed).trace =
      .dial :: (events steps ++ [.shutdown, .drop]) :=
  congrArg (List.cons Event.dial) List.filterMap_append

inductive Unopened (settings : Settings) (connection : Connection) : TransportFault → Nat → Prop
  | failed {fault : TransportFault} (hopening : connection.opening = .failed fault)
      (hdelay : connection.delay ≤ settings.connectTimeout * 1000) :
      Unopened settings connection fault connection.delay
  -- The attempt ends after its limit, or never.
  | late (hlate : settings.connectTimeout * 1000 < connection.delay ∨
        connection.opening = .stalled) :
      Unopened settings connection (timedOut "connect" settings.connectTimeout)
        (settings.connectTimeout * 1000)

/-- The life cycles of an exchange: its result and its session. -/
inductive LifeCycle (settings : Settings) (connection : Connection) (request : FieldList) :
    Except Failure FieldList → Session → Prop
  -- A rejected request leads to nothing.
  | rejected {fault : ValidationFault} (hcheck : RequestCheck.check request = .error fault) :
      LifeCycle settings connection request (.error (.validation fault)) ⟨0, []⟩
  -- The attempt to connect fails or takes too long.
  | unopened {fault : TransportFault} {ended : Nat} (hcheck : RequestCheck.check request = .ok ())
      (hunopened : Unopened settings connection fault ended) :
      LifeCycle settings connection request (.error (.transport fault)) ⟨ended, [(0, .dial)]⟩
  -- The connection is opened, used, shut down and dropped.
  | opened {result : Except Failure FieldList} {steps : List (Nat × Operation)}
      {opened finished closed : Nat} (hcheck : RequestCheck.check request = .ok ())
      (hopening : connection.opening = .opened) (hdelay : opened = connection.delay)
      (hopened : opened ≤ settings.connectTimeout * 1000)
      (hconversation : Conversation settings connection request opened finished steps result)
      (hfinished : opened ≤ finished ∧ finished ≤ opened + settings.readTimeout * 1000)
      (hclosed : finished ≤ closed ∧ closed ≤ finished + settings.connectTimeout * 1000) :
      LifeCycle settings connection request result (.ofOpened steps finished closed)

theorem closingTime_le (settings : Settings) (closing : Closing) :
    closingTime settings closing ≤ settings.connectTimeout * 1000 := by
  cases closing with
  | stalled => exact Nat.le_refl _
  | closed | failed fault => exact Nat.zero_le _

/-- However a connection takes its end, it takes its time. -/
theorem perform_hangUp_snd (settings : Settings) (connection : Connection) (s : Session) :
    (perform (Procedure.within "shutdown" settings.connectTimeout
      (Procedure.hangUp connection)) s).2 =
      ⟨s.clock + closingTime settings connection.closing,
        s.trace ++ [(s.clock, .shutdown)]⟩ := by
  rw [Procedure.perform_within, Procedure.hangUp,
    Action.perform_bind_of_ok (Procedure.perform_operate _ _)]
  cases connection.closing <;> rfl

/-- An accepted request leads to an attempt to connect, which fails in time or opens the connection
in time. -/
theorem connect_cases (settings : Settings) (connection : Connection) {request : FieldList}
    (hcheck : RequestCheck.check request = .ok ()) :
    (∃ fault ended, Unopened settings connection fault ended ∧
        exchange settings connection request = ⟨.error (.transport fault), [.dial], ended⟩ ∧
        perform (Procedure.within "connect" settings.connectTimeout
          (Procedure.connect connection)) .fresh =
            (.error (.transport fault), ⟨ended, [(0, .dial)]⟩)) ∨
      (connection.opening = .opened ∧ connection.delay ≤ settings.connectTimeout * 1000 ∧
        (∀ written result time, converse settings connection request = (written, result, time) →
          exchange settings connection request = ⟨result, [.dial, .write written, .shutdown, .drop],
            connection.delay + time + closingTime settings connection.closing⟩) ∧
        perform (Procedure.within "connect" settings.connectTimeout
          (Procedure.connect connection)) .fresh = (.ok (), ⟨connection.delay, [(0, .dial)]⟩)) := by
  have hwithin : perform (Procedure.within "connect" settings.connectTimeout
      (Procedure.connect connection)) .fresh = perform (Procedure.connect connection
        ⟨settings.connectTimeout * 1000, "connect", settings.connectTimeout⟩) .fresh := by
    rw [Procedure.perform_within, Session.fresh, Nat.zero_add]
  have hwait := Procedure.perform_wait
    ⟨settings.connectTimeout * 1000, "connect", settings.connectTimeout⟩ connection.delay
    ⟨0, [(0, .dial)]⟩
  have hdial : perform (Procedure.operate .dial) .fresh = (.ok (), ⟨0, [(0, .dial)]⟩) := rfl
  rw [exchange, hcheck, hwithin, Procedure.connect, Action.perform_bind_of_ok hdial]
  dsimp only
  rw [Nat.zero_add] at hwait
  -- An attempt that is still open at the limit fails there, however it would have ended.
  by_cases hdelay : connection.delay ≤ settings.connectTimeout * 1000
  · rw [if_pos hdelay] at hwait
    rw [Action.perform_bind_of_ok hwait, if_neg (Nat.not_lt.mpr hdelay)]
    cases hopening : connection.opening with
    | opened =>
      refine .inr ⟨rfl, hdelay, ?_, rfl⟩
      intro written result time hconverse
      rw [hconverse]
    | failed fault => exact .inl ⟨fault, _, .failed hopening hdelay, rfl, rfl⟩
    | stalled => exact .inl ⟨_, _, .late (.inr hopening), rfl, rfl⟩
  · rw [if_neg hdelay] at hwait
    rw [Action.perform_bind_of_error hwait, if_pos (Nat.not_le.mp hdelay)]
    exact .inl ⟨_, _, .late (.inl (Nat.not_le.mp hdelay)), rfl, rfl⟩

/-- Whatever a conversation ends with, the connection is shut down and dropped behind it. -/
theorem perform_exchange_of_opened {settings : Settings} {connection : Connection}
    {request : FieldList} {opened finished : Nat} {steps : List (Nat × Operation)}
    {result : Except Failure FieldList} (hcheck : RequestCheck.check request = .ok ())
    (hconnect : perform (Procedure.within "connect" settings.connectTimeout
      (Procedure.connect connection)) .fresh = (.ok (), ⟨opened, [(0, .dial)]⟩))
    (htalk : perform (Procedure.talk connection request
        ⟨opened + settings.readTimeout * 1000, "response", settings.readTimeout⟩)
        ⟨opened, [(0, .dial)]⟩ = (result, ⟨finished, [(0, .dial)] ++ steps⟩)) :
    perform (Procedure.exchange settings connection request) .fresh =
      (result, .ofOpened steps finished (finished + closingTime settings connection.closing)) := by
  have htalked : perform (Procedure.attempt (Procedure.within "response" settings.readTimeout
      (Procedure.talk connection request))) ⟨opened, [(0, .dial)]⟩ =
        (.ok result, ⟨finished, [(0, .dial)] ++ steps⟩) := by
    rw [Procedure.perform_attempt, Procedure.perform_within, htalk]
  have hended := Procedure.perform_attempt (Procedure.within "shutdown" settings.connectTimeout
    (Procedure.hangUp connection)) ⟨finished, [(0, .dial)] ++ steps⟩
  rw [perform_hangUp_snd] at hended
  rw [Procedure.exchange, hcheck]
  dsimp only
  rw [Action.perform_bind_of_ok hconnect, Action.perform_bind_of_ok htalked,
    Action.perform_bind_of_ok hended, Action.perform_bind_of_ok (Procedure.perform_operate _ _),
    Procedure.perform_ofExcept, Session.ofOpened, ← List.cons_append, List.append_cons (_ :: steps)]
  rfl

/-- An exchange takes the steps of the procedure, and its life cycle.  How the connection ends
changes nothing in its result. -/
theorem lifeCycle_exchange (settings : Settings) (connection : Connection) (request : FieldList) :
    ∃ session,
      perform (Procedure.exchange settings connection request) .fresh =
          ((exchange settings connection request).result, session) ∧
        (exchange settings connection request).events = events session.trace ∧
        (exchange settings connection request).elapsed = session.clock ∧
        LifeCycle settings connection request (exchange settings connection request).result
          session ∧
        ∀ closing, (exchange settings { connection with closing } request).result =
          (exchange settings connection request).result := by
  have hclosing : ∀ closing, (exchange settings { connection with closing } request).result =
      (exchange settings connection request).result := by
    intro closing
    unfold exchange
    split
    · rfl
    · dsimp only
      split
      · rfl
      · split <;> rfl
  -- The courses in the order in which the steps can fail: the check, the connection, the
  -- conversation.
  cases hcheck : RequestCheck.check request with
  | error fault =>
    have hexchange := exchange_of_rejected hcheck settings connection
    refine ⟨⟨0, []⟩, ?_, ?_, ?_, ?_, hclosing⟩ <;> rw [hexchange]
    · rw [Procedure.exchange, hcheck]
      rfl
    · rfl
    · exact .rejected hcheck
  | ok =>
    rcases connect_cases settings connection hcheck with
      ⟨fault, ended, hunopened, hexchange, hconnect⟩ |
      ⟨hopening, hopened, hexchange, hconnect⟩
    · refine ⟨⟨ended, [(0, .dial)]⟩, ?_, ?_, ?_, ?_, hclosing⟩ <;> rw [hexchange]
      · rw [Procedure.exchange, hcheck]
        exact Action.perform_bind_of_error hconnect _
      · rfl
      · exact .unopened hcheck hunopened
    · obtain ⟨written, result, time, steps, hconverse, htime, htalk, hconversation, hevents⟩ :=
        exists_conversation settings connection request connection.delay [(0, .dial)]
      let closed := connection.delay + time + closingTime settings connection.closing
      refine ⟨.ofOpened steps (connection.delay + time) closed, ?_, ?_, ?_, ?_, hclosing⟩ <;>
        rw [hexchange written result time hconverse]
      · exact perform_exchange_of_opened hcheck hconnect htalk
      · rw [events_ofOpened, hevents]
        rfl
      · rfl
      · exact .opened hcheck hopening rfl hopened hconversation
          ⟨Nat.le_add_right _ _, Nat.add_le_add_left htime _⟩
          ⟨Nat.le_add_right _ _, Nat.add_le_add_left (closingTime_le settings _) _⟩

end PaymentGateway.Client
