import PaymentGateway.CommandLine.Session
import PaymentGateway.Proofs.Batch.OutcomeTable
import PaymentGateway.Proofs.Batch.Rows
import PaymentGateway.Proofs.Client.Line

/-!
# Failing rows

A row that fails takes at most one connection and leaves the stores as they are.  Without it, and
without the behaviour of its connection, the other rows go as they went.
-/

namespace PaymentGateway.Batch

open PaymentGateway.Action (perform)
open Client (Traffic line)
open Memory (clocked conclusion services)

/-- The services of a world whose gateway is a line of connections.  Between any two readings of the
clock the traffic grows, so that it can show any sequence of times. -/
abbrev scripted (settings : Settings) (script : Nat → Connection)
    (clock : World Traffic → Timestamp) : Services (Memory.Step Traffic) :=
  clocked (line settings script) clock

/-! ## Two runs that go the same way -/

/-- Where two rows, or two runs, lead from two worlds: the same passed over their connections, and
their stores are the same, times aside. -/
structure Twins (w v a b : World Traffic) : Prop where
  stores : a.stores.timeless = b.stores.timeless
  contacts : ∃ contacts, a.gateway = w.gateway ++ contacts ∧ b.gateway = v.gateway ++ contacts

theorem Twins.start {w v : World Traffic} (h : w.stores.timeless = v.stores.timeless) :
    Twins w v w v :=
  ⟨h, [], (List.append_nil _).symm, (List.append_nil _).symm⟩

theorem Twins.append {w v a b : World Traffic} (h : Twins w v a b) {receipt other : Receipt}
    (hsame : receipt.timeless = other.timeless) :
    Twins w v (a.append receipt) (b.append other) := by
  refine ⟨?_, h.contacts⟩
  rw [World.timeless_append, World.timeless_append, h.stores, hsame]

theorem Twins.trans {w v a b c d : World Traffic} (h : Twins w v a b) (h' : Twins a b c d) :
    Twins w v c d := by
  obtain ⟨first, hfirst, hfirst'⟩ := h.contacts
  obtain ⟨rest, hrest, hrest'⟩ := h'.contacts
  refine ⟨h'.stores, first ++ rest, ?_, ?_⟩
  · rw [hrest, hfirst, List.append_assoc]
  · rw [hrest', hfirst', List.append_assoc]

/-- A row opens at most one connection. -/
theorem exists_contact_ofRow (settings : Settings) (script : Nat → Connection)
    (clock : World Traffic → Timestamp) (credentials : Credentials) (caller : Caller)
    (row : Except Failure Operation) (world : World Traffic) :
    ∃ contact : Option Client.Contact,
      (Entry.ofRow (scripted settings script clock) credentials caller world
        row).after.gateway = world.gateway ++ contact.toList := by
  have hafter := congrArg (fun entry => entry.2.2.gateway)
    (ofRow_eq (line settings script) clock credentials caller row world)
  dsimp only at hafter
  rw [hafter]
  rcases rowCall caller row with result | ⟨operation, call⟩
  · exact ⟨none, (List.append_nil _).symm⟩
  dsimp only
  rcases (perform (Payments.prepare (services (line settings script)) call) world).1 with
    failure | ⟨request, token⟩
  · exact ⟨none, (List.append_nil _).symm⟩
  · simp only [conclusion, Memory.gateway_settled]
    exact ⟨_, rfl⟩

/-- What passed over the connections so far stays as it is. -/
theorem exists_contacts_run (settings : Settings) (script : Nat → Connection)
    (clock : World Traffic → Timestamp) (credentials : Credentials) (caller : Caller)
    (rows : List (Except Failure Operation)) (world : World Traffic) :
    ∃ contacts : Traffic,
      (run (scripted settings script clock) credentials caller rows world).2.gateway =
        world.gateway ++ contacts := by
  induction rows generalizing world with
  | nil => exact ⟨[], (List.append_nil _).symm⟩
  | cons row rows ih =>
    obtain ⟨contact, hcontact⟩ :=
      exists_contact_ofRow settings script clock credentials caller row world
    obtain ⟨rest, hrest⟩ := ih (Entry.ofRow (scripted settings script clock) credentials
      caller world row).after
    refine ⟨contact.toList ++ rest, ?_⟩
    rw [run_cons, ← List.append_assoc, ← hcontact]
    exact hrest

section TwoRuns

variable (settings : Settings) (script other : Nat → Connection)
  (clock otherClock : World Traffic → Timestamp) (credentials : Credentials) (caller : Caller)

/-- A call comes to the same in two worlds, times aside, if their stores are the same and the
connections that it opens behave the same. -/
theorem alike_conclusion {w v : World Traffic} (hstores : w.stores.timeless = v.stores.timeless)
    (call : Call) (prepared : Except Failure (Request × Option String))
    (hscript : w.gateway.length <
        (conclusion (line settings script) credentials clock call w prepared).2.2.gateway.length →
      script w.gateway.length = other v.gateway.length) :
    Memory.Alike (Twins w v) (conclusion (line settings script) credentials clock call w prepared)
      (conclusion (line settings other) credentials otherClock call v prepared) := by
  rcases prepared with failure | ⟨request, token⟩
  · exact ⟨rfl, rfl, .start hstores⟩
  · simp only [conclusion, Memory.gateway_settled] at hscript ⊢
    generalize request.fields credentials (call.overlay token) = fields at hscript ⊢
    obtain ⟨reply, contact, hline, hother⟩ := Client.exchange_line_congr hscript
    rw [hline, hother]
    exact Memory.alike_settled (fun h hsame => h.append hsame)
      ⟨hstores, contact.toList, rfl, rfl⟩ clock otherClock call fields reply

/-- A row goes the same way in two such worlds. -/
theorem twins_ofRow {w v : World Traffic} (hstores : w.stores.timeless = v.stores.timeless)
    (row : Except Failure Operation) :
    let entry := Entry.ofRow (scripted settings script clock) credentials caller w row
    let again := Entry.ofRow (scripted settings other otherClock) credentials caller v row
    (w.gateway.length < entry.after.gateway.length →
      script w.gateway.length = other v.gateway.length) →
    entry.result.timeless = again.result.timeless ∧ Twins w v entry.after again.after := by
  intro entry again hscript
  have hentry : (entry.result, entry.effects, entry.after) = _ :=
    ofRow_eq (line settings script) clock credentials caller row w
  have hagain : (again.result, again.effects, again.after) = _ :=
    ofRow_eq (line settings other) otherClock credentials caller row v
  cases hrow : rowCall caller row with
  | error result =>
    rw [hrow] at hentry hagain
    simp only [Prod.mk.injEq] at hentry hagain
    rw [hentry.1, hentry.2.2, hagain.1, hagain.2.2]
    exact ⟨rfl, .start hstores⟩
  | ok made =>
    obtain ⟨operation, call⟩ := made
    have hprepare := Memory.prepare_congr (Stores.sameFor_of_timeless_eq hstores call)
      (line settings script) (line settings other)
    rw [hrow] at hentry hagain
    simp only [Prod.mk.injEq] at hentry hagain
    rw [hentry.2.2] at hscript
    rw [← hprepare] at hagain
    have halike :=
      alike_conclusion settings script other clock otherClock credentials hstores call _ hscript
    rw [hentry.1, hentry.2.2, hagain.1, hagain.2.2, RowResult.timeless_ofCall, halike.result,
      ← RowResult.timeless_ofCall]
    exact ⟨rfl, halike.after⟩

/-- A run goes the same way in two such worlds, if all connections that it opens behave the same. -/
theorem twins_run (rows : List (Except Failure Operation)) (w v : World Traffic)
    (hstores : w.stores.timeless = v.stores.timeless) :
    let whole := run (scripted settings script clock) credentials caller rows w
    let again := run (scripted settings other otherClock) credentials caller rows v
    (∀ k, w.gateway.length + k < whole.2.gateway.length →
      script (w.gateway.length + k) = other (v.gateway.length + k)) →
    whole.1.map RowResult.timeless = again.1.map RowResult.timeless ∧
      Twins w v whole.2 again.2 := by
  induction rows generalizing w v with
  | nil =>
    intro whole again hscript
    have hwhole : whole = _ := run_nil _ credentials caller w
    have hagain : again = _ := run_nil _ credentials caller v
    rw [hwhole, hagain]
    exact ⟨rfl, .start hstores⟩
  | cons row rows ih =>
    intro whole again hscript
    let entry := Entry.ofRow (scripted settings script clock) credentials caller w row
    have hwhole : whole = _ := run_cons _ credentials caller row rows w
    have hagain : again = _ := run_cons _ credentials caller row rows v
    rw [hwhole] at hscript
    dsimp only at hscript
    -- The connection of the first row is one of those that the whole run opens.
    obtain ⟨rest, hrest⟩ : ∃ rest : Traffic, _ :=
      exists_contacts_run settings script clock credentials caller rows entry.after
    have hfirst : w.gateway.length < entry.after.gateway.length →
        script w.gateway.length = other v.gateway.length := by
      intro hopened
      apply hscript 0
      rw [hrest, List.length_append]
      omega
    obtain ⟨hresult, htwins⟩ := twins_ofRow settings script other clock
      otherClock credentials caller hstores row hfirst
    obtain ⟨contacts, hcontacts, hcontacts'⟩ := htwins.contacts
    -- Behind the row both runs have moved on by the same contacts.
    obtain ⟨hresults, hrest'⟩ := ih _ _ htwins.stores (by
      intro k hk
      rw [hcontacts, hcontacts', List.length_append, List.length_append, Nat.add_assoc,
        Nat.add_assoc]
      apply hscript
      rw [← Nat.add_assoc, ← List.length_append, ← hcontacts]
      exact hk)
    rw [hwhole, hagain]
    refine ⟨?_, htwins.trans hrest'⟩
    rw [List.map_cons, List.map_cons, hresult, hresults]

/-- A run may skip what led from a world that it met to one where it left, if that wrote nothing.  The
connections up to there and those behind it have to behave the same. -/
theorem twins_run_append (before after : List (Except Failure Operation))
    {world met left : World Traffic}
    (hmet : (run (scripted settings script clock) credentials caller before world).2 = met)
    (hstores : left.stores = met.stores)
    (hbefore : ∀ k, k < met.gateway.length → script k = other k)
    (hbehind : ∀ k, script (left.gateway.length + k) = other (met.gateway.length + k)) :
    let first := run (scripted settings script clock) credentials caller before world
    let last := run (scripted settings script clock) credentials caller after left
    let rest := run (scripted settings other otherClock) credentials caller (before ++ after) world
    (first.1 ++ last.1).map RowResult.timeless = rest.1.map RowResult.timeless ∧
      Twins left met last.2 rest.2 := by
  intro first last rest
  have hrest : rest = _ :=
    run_append (scripted settings other otherClock) credentials caller before after world
  obtain ⟨hfirst, htwins⟩ := twins_run settings script other clock otherClock credentials caller
    before world world rfl (by
      rw [hmet]
      exact fun k hk => hbefore _ hk)
  obtain ⟨contacts, hcontacts, hcontacts'⟩ := htwins.contacts
  have hgateway := hcontacts'.trans hcontacts.symm
  have hbeforeStores := htwins.stores
  rw [hmet] at hgateway hbeforeStores
  obtain ⟨hlast, htwins'⟩ := twins_run settings script other clock otherClock credentials caller
    after left _ ((congrArg Stores.timeless hstores).trans hbeforeStores) (by
      intro k _
      rw [hgateway]
      exact hbehind k)
  obtain ⟨contacts', hend, hend'⟩ := htwins'.contacts
  rw [hrest]
  refine ⟨?_, htwins'.stores, contacts', hend, ?_⟩
  · rw [List.map_append, List.map_append, hfirst, hlast]
  · rw [hend', hgateway]

end TwoRuns

/-! ## What a run prints -/

def printed (results : List RowResult) : CommandLine.Session :=
  { ending := .finished results }

theorem outcomes_timeless (results : List RowResult) :
    (results.map RowResult.timeless).filterMap RowResult.outcome? =
      (results.filterMap RowResult.outcome?).map Outcome.timeless := by
  rw [List.filterMap_map, List.map_filterMap]
  exact congrArg (List.filterMap · results) (funext RowResult.outcome?_timeless)

theorem renderWith_timelessCells (outcomes : List Outcome) :
    OutcomeTable.renderWith OutcomeTable.timelessCells (outcomes.map Outcome.timeless) =
      OutcomeTable.renderWith OutcomeTable.timelessCells outcomes := by
  rw [OutcomeTable.renderWith, OutcomeTable.renderWith, List.isEmpty_map, List.map_map]
  rfl

section Printed

variable {results others : List RowResult}
  (h : results.map RowResult.timeless = others.map RowResult.timeless)
include h

/-- Without the times, what is printed follows from the results without times. -/
theorem output_eq_of_timeless :
    (printed results).outputWith OutcomeTable.timelessCells =
      (printed others).outputWith OutcomeTable.timelessCells := by
  show OutcomeTable.renderWith OutcomeTable.timelessCells (results.filterMap _) =
    OutcomeTable.renderWith OutcomeTable.timelessCells (others.filterMap _)
  rw [← renderWith_timelessCells, ← outcomes_timeless, h, outcomes_timeless,
    renderWith_timelessCells]

theorem messages_eq_of_timeless :
    results.filterMap RowResult.message? = others.filterMap RowResult.message? := by
  have hmessages (results : List RowResult) :
      (results.map RowResult.timeless).filterMap RowResult.message? =
        results.filterMap RowResult.message? := by
    rw [List.filterMap_map]
    exact congrArg (List.filterMap · results) (funext RowResult.message?_timeless)
  rw [← hmessages results, h, hmessages others]

end Printed

/-- A result without an outcome prints nothing. -/
theorem output_append_cons {result : RowResult} (h : result.outcome? = none)
    (earlier later : List RowResult) (row : Outcome → List String) :
    (printed (earlier ++ result :: later)).outputWith row =
      (printed (earlier ++ later)).outputWith row := by
  show OutcomeTable.renderWith row (List.filterMap _ _) =
    OutcomeTable.renderWith row (List.filterMap _ _)
  rw [List.filterMap_append, List.filterMap_cons_none h, ← List.filterMap_append]

/-! ## Without a failing row -/

def Entry.connection? (entry : Entry (World Traffic)) : Option Nat :=
  Client.opened? entry.before.gateway entry.after.gateway

/-- A run without a row and its connection, in which the other rows went as they did before, times
aside. -/
structure Undisturbed (connection? : Option Nat) (others : List RowResult)
    (whole rest : List RowResult × World Traffic) : Prop where
  results : rest.1.map RowResult.timeless = others.map RowResult.timeless
  -- The same requests on the other connections.
  traffic : rest.2.gateway = Client.withoutContact connection? whole.2.gateway
  output : (printed rest.1).outputWith OutcomeTable.timelessCells =
    (printed whole.1).outputWith OutcomeTable.timelessCells
  messages : (printed rest.1).messages = others.filterMap RowResult.message?
  ledger : rest.2.stores.ledger.timeless = whole.2.stores.ledger.timeless

theorem undisturbed_of_failed {settings : Settings} {script : Nat → Connection}
    {clock : World Traffic → Timestamp} {credentials : Credentials} {caller : Caller}
    {rows : List (Except Failure Operation)} {world : World Traffic}
    {earlier later : List (Entry (World Traffic))} {entry : Entry (World Traffic)}
    (hrecord : record (scripted settings script clock) credentials caller world rows =
      earlier ++ entry :: later)
    (hfailed : ∀ outcome, entry.result ≠ .outcome outcome)
    (otherClock : World Traffic → Timestamp) :
    let other := Client.withoutBehaviour entry.connection? script
    Undisturbed entry.connection? ((earlier ++ later).map Entry.result)
      (run (scripted settings script clock) credentials caller rows world)
      (run (scripted settings other otherClock) credentials caller
        ((earlier ++ later).map Entry.row) world) := by
  intro other
  obtain ⟨before, row, after, rfl, hearlier, hmet, hentry, hlater⟩ :=
    exists_rows_of_record _ credentials caller hrecord
  obtain ⟨contact, hcontact⟩ :=
    exists_contact_ofRow settings script clock credentials caller row entry.before
  have hfails := failed_or_reports (Client.honest_line settings script) clock credentials caller row
    entry.before
  rw [hentry] at hcontact hfails
  obtain hfails | ⟨-, outcome, houtcome, -⟩ := hfails
  · -- A failed row wrote nothing, so the rows behind it meet the stores of the rows before it.
    obtain ⟨hothers, htwins⟩ := twins_run_append settings script other clock otherClock credentials
      caller before after hmet hfails.stores
      (fun k hk => (Client.withoutBehaviour_of_lt hk entry.after.gateway script).symm)
      (fun k => (Client.withoutBehaviour_add hcontact script k).symm)
    have hrows : (earlier ++ later).map Entry.row = before ++ after := by
      rw [List.map_append, ← hearlier, ← hlater, rows_record, rows_record]
    have hresults := results_run (scripted settings script clock) credentials caller
      (before ++ row :: after) world
    have hend : (run (scripted settings script clock) credentials caller
        (before ++ row :: after) world).2 =
        (run (scripted settings script clock) credentials caller after entry.after).2 := by
      rw [run_append]
      dsimp only
      rw [run_cons, hmet, hentry]
    rw [hrecord, List.map_append, List.map_cons] at hresults
    rw [results_run, results_run, hearlier, hlater, ← List.map_append] at hothers
    rw [← hend] at htwins
    obtain ⟨contacts, hcontacts, hcontacts'⟩ := htwins.contacts
    rw [hrows]
    refine ⟨hothers.symm, ?_, ?_, (messages_eq_of_timeless hothers).symm,
      (congrArg Stores.ledger htwins.stores).symm⟩
    · rw [hcontacts, hcontacts']
      exact (Client.withoutContact_append hcontact contacts).symm
    · rw [hresults, output_append_cons hfails.outcome, ← List.map_append]
      exact (output_eq_of_timeless hothers).symm
  · exact absurd houtcome (hfailed outcome)

/-- Any row that fails can be left out of a run, with the behaviour of the connection that it opened,
without a change for the other rows.  The output is read as a header and one record for each
operation whose exchange returned a response, in order. -/
theorem run_undisturbed (settings : Settings) (script : Nat → Connection)
    (clock : World Traffic → Timestamp) (credentials : Credentials) (caller : Caller)
    (rows : List (Except Failure Operation)) (world : World Traffic) :
    let whole := run (scripted settings script clock) credentials caller rows world
    let entries := record (scripted settings script clock) credentials caller world rows
    (∀ earlier entry later, entries = earlier ++ entry :: later →
      (∀ outcome, entry.result ≠ .outcome outcome) → ∀ otherClock,
      let other := Client.withoutBehaviour entry.connection? script
      Undisturbed entry.connection? ((earlier ++ later).map Entry.result) whole
        (run (scripted settings other otherClock) credentials caller
          ((earlier ++ later).map Entry.row) world)) ∧
    ∃ outcomes : List Outcome,
      List.Forall₂ (Entry.Reports caller) (entries.filter Entry.isAnswered) outcomes ∧
      OutcomeTable.Prints outcomes (printed whole.1).output := by
  intro whole entries
  refine ⟨?_, _, ?_, OutcomeTable.prints_render _⟩
  · intro earlier entry later hrecord hfailed otherClock
    exact undisturbed_of_failed hrecord hfailed otherClock
  · apply forall₂_outcomes
    intro world row entry
    obtain hfails | ⟨hanswered, outcome, houtcome, hreports⟩ :=
      failed_or_reports (Client.honest_line settings script) clock credentials caller row world
    · exact .inl ⟨hfails.unanswered, hfails.outcome⟩
    · refine .inr ⟨hanswered, outcome, ?_, hreports⟩
      show RowResult.outcome? (Entry.result _) = _
      rw [houtcome]
      rfl

def tokenOperation (kind : CallKind) : Operation :=
  ⟨kind, ⟨.nil, .nil, .nil, .nil⟩, some .zero, some .usd, .ofList [(Property.token.name, "token")]⟩

def refusing : Nat → Connection
  | 0 => { opening := .failed ⟨.connectionRefused, "connection refused"⟩ }
  | _ + 1 => { incoming := [.bytes (Wire.encode Memory.approval)] }

def merchant : Settings := ⟨"merchant", "secret", "gateway", 6050, false, 10, 60⟩

def freshWorld : World Traffic := ⟨[], .empty, .epoch⟩

theorem run_undisturbed_refused :
    let services := scripted merchant refusing World.time
    let caller : Caller := ⟨.nil, none⟩
    let rows : List (Except Failure Operation) :=
      [.ok (tokenOperation .authorize), .ok (tokenOperation .void)]
    let refused := Entry.ofRow services merchant.credentials caller freshWorld
      (.ok (tokenOperation .purchase))
    let later := record services merchant.credentials caller refused.after rows
    let whole := run services merchant.credentials caller (.ok (tokenOperation .purchase) :: rows)
      freshWorld
    refused.connection? = some 0 ∧
      Undisturbed refused.connection? (([] ++ later).map Entry.result) whole
        (run (scripted merchant (Client.withoutBehaviour refused.connection? refusing)
            fun _ => .epoch)
          merchant.credentials caller (([] ++ later).map Entry.row) freshWorld) ∧
      (Csv.records .characters (printed whole.1).output.toList).length = 3 := by
  intro services caller rows refused later whole
  have hconnection : refused.connection? = some 0 := by decide +kernel
  have houtcome : refused.result.outcome? = none := by decide +kernel
  have hfailed : ∀ outcome, refused.result ≠ .outcome outcome := by
    intro outcome h
    rw [h] at houtcome
    cases houtcome
  -- The two rows behind the refused one are answered.
  have hanswered : ((refused :: later).filter Entry.isAnswered).length = 2 := by decide +kernel
  obtain ⟨hundisturbed, outcomes, hreports, hprints⟩ := run_undisturbed merchant refusing World.time
    merchant.credentials caller (.ok (tokenOperation .purchase) :: rows) freshWorld
  refine ⟨hconnection, hundisturbed [] refused later rfl hfailed fun _ => .epoch, ?_⟩
  have hlength : outcomes.length = 2 := hreports.length_eq.symm.trans hanswered
  have hne : outcomes ≠ [] := List.ne_nil_of_length_eq_add_one hlength
  rw [(hprints.table hne).records_eq, List.length_map, List.length_cons, List.length_map, hlength]

end PaymentGateway.Batch
