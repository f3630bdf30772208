import PaymentGateway.Proofs.Batch.Cells

/-!
# Rows by their columns

A row means what its cells say under the names of the header.  So columns may stand in any order,
empty cells at the end may be left out, and cells beyond the header say nothing.
-/

namespace PaymentGateway

theorem Entries.get?_eq_of_perm {entries others : List (String × String)}
    (distinct : (names entries).Nodup) (h : others.Perm entries) (name : String) :
    get? name others = get? name entries := by
  have hothers : (names others).Nodup := (h.map Prod.fst).nodup_iff.mpr distinct
  refine Option.ext fun value => ?_
  rw [get?_eq_some_iff hothers, get?_eq_some_iff distinct, h.mem_iff]

namespace Batch

/-! ## The cells of a row -/

/-- The cell that a row has under a name of its header; one that is missing at the end is empty. -/
def cellUnder? (header row : List String) (name : String) : Option String :=
  if name ∈ header then some (row.getD (header.idxOf name) "") else none

def padded (header row : List String) : List String :=
  row ++ List.replicate (header.length - row.length) ""

theorem names_namedCells (header row : List String) :
    Entries.names (namedCells header row) = header := by
  induction header generalizing row with
  | nil => rfl
  | cons name header ih =>
    cases row with
    | nil => exact congrArg (name :: ·) (ih [])
    | cons cell row => exact congrArg (name :: ·) (ih row)

theorem get?_namedCells (header row : List String) (name : String) :
    Entries.get? name (namedCells header row) = cellUnder? header row name := by
  induction header generalizing row with
  | nil => rfl
  | cons first header ih =>
    have hcell : Entries.get? name (namedCells (first :: header) row) =
        if first = name then some (row.getD 0 "")
        else Entries.get? name (namedCells header row.tail) := by
      cases row <;> rfl
    rw [hcell, ih, cellUnder?, cellUnder?]
    by_cases hname : first = name
    · subst hname
      simp
    · simp [hname, Ne.symm hname, List.idxOf_cons_ne]

/-- Empty cells at the end of a row say nothing that their absence does not say. -/
theorem namedCells_append_replicate (header row : List String) (count : Nat) :
    namedCells header (row ++ List.replicate count "") = namedCells header row := by
  induction header generalizing row count with
  | nil => rfl
  | cons name header ih =>
    cases row with
    | cons cell row => exact congrArg ((name, cell) :: ·) (ih row count)
    | nil =>
      cases count with
      | zero => rfl
      | succ count => exact congrArg ((name, "") :: ·) (ih [] count)

/-- Cells beyond the header say nothing. -/
theorem namedCells_append_of_le {header row : List String} (h : header.length ≤ row.length)
    (extra : List String) : namedCells header (row ++ extra) = namedCells header row := by
  induction header generalizing row with
  | nil => rfl
  | cons name header ih =>
    cases row with
    | nil => cases h
    | cons cell row => exact congrArg ((name, cell) :: ·) (ih (Nat.le_of_succ_le_succ h))

theorem namedCells_padded (header row : List String) :
    namedCells header (padded header row) = namedCells header row :=
  namedCells_append_replicate header row _

theorem length_le_padded (header row : List String) :
    header.length ≤ (padded header row).length := by
  rw [padded, List.length_append, List.length_replicate]
  omega

theorem namedCells_eq_zip {header row : List String} (h : header.length ≤ row.length) :
    namedCells header row = header.zip row := by
  induction header generalizing row with
  | nil => rfl
  | cons name header ih =>
    cases row with
    | nil => cases h
    | cons cell row => exact congrArg ((name, cell) :: ·) (ih (Nat.le_of_succ_le_succ h))

theorem zip_padded (header row : List String) :
    header.zip (padded header row) = namedCells header row := by
  rw [← namedCells_eq_zip (length_le_padded header row), namedCells_padded]

theorem namedCells_map (columns : List (String × String)) :
    namedCells (columns.map Prod.fst) (columns.map Prod.snd) = columns := by
  induction columns with
  | nil => rfl
  | cons column columns ih => exact congrArg (column :: ·) ih

/-! ## What a row is read as -/

namespace Operation

inductive ReadAlike : Except Failure Operation → Except Failure Operation → Prop
  | read {operation other : Operation} (h : operation.Same other) :
      ReadAlike (.ok operation) (.ok other)
  | failed (failure other : Failure) : ReadAlike (.error failure) (.error other)

theorem statedBy_of_ofRow {header : List String} (distinct : header.Nodup) {row : List String}
    {operation : Operation} (h : ofRow header row = .ok operation) :
    operation.StatedBy (cellUnder? header row) := by
  have hnames : (Entries.names (namedCells header row)).Nodup := by rwa [names_namedCells]
  have hstated := statedBy_of_ofCells hnames h
  simpa only [get?_namedCells] using hstated

theorem exists_ofRow_of_statedBy {header : List String} (distinct : header.Nodup)
    {row : List String} {operation : Operation}
    (h : operation.StatedBy (cellUnder? header row)) :
    ∃ read, ofRow header row = .ok read ∧ operation.Same read := by
  have hnames : (Entries.names (namedCells header row)).Nodup := by rwa [names_namedCells]
  have hstated : operation.StatedBy (Entries.get? · (namedCells header row)) := by
    simpa only [get?_namedCells] using h
  obtain ⟨read, hread⟩ := exists_ofCells_of_statedBy hnames hstated
  exact ⟨read, hread, h.same (statedBy_of_ofRow distinct hread)⟩

/-- Rows with the same cells under the same names are read alike. -/
theorem readAlike_of_cellUnder? {header other : List String} (distinct : header.Nodup)
    (hother : other.Nodup) {row cells : List String}
    (h : cellUnder? other cells = cellUnder? header row) :
    ReadAlike (ofRow other cells) (ofRow header row) := by
  cases hread : ofRow other cells with
  | ok operation =>
    have hstated := statedBy_of_ofRow hother hread
    rw [h] at hstated
    obtain ⟨read, hrow, hsame⟩ := exists_ofRow_of_statedBy distinct hstated
    rw [hrow]
    exact .read hsame
  | error failure =>
    cases hrow : ofRow header row with
    | error fault => exact .failed failure fault
    | ok operation =>
      have hstated := statedBy_of_ofRow distinct hrow
      rw [← h] at hstated
      obtain ⟨read, hcells, -⟩ := exists_ofRow_of_statedBy hother hstated
      cases hread.symm.trans hcells

structure ReadByColumns (header row : List String) : Prop where
  stated : ∀ operation, ofRow header row = .ok operation →
    operation.StatedBy (cellUnder? header row)
  read : ∀ operation : Operation, operation.StatedBy (cellUnder? header row) →
    ∃ other, ofRow header row = .ok other ∧ operation.Same other
  alike : ∀ other cells, other.Nodup →
    (∀ name, cellUnder? other cells name = cellUnder? header row name) →
      ReadAlike (ofRow other cells) (ofRow header row)
  permuted : ∀ columns : List (String × String),
    columns.Perm (header.zip (padded header row)) →
      ReadAlike (ofRow (columns.map Prod.fst) (columns.map Prod.snd)) (ofRow header row)
  shortened : ∀ count, ofRow header (row ++ List.replicate count "") = ofRow header row
  extended : ∀ extra, ofRow header (padded header row ++ extra) = ofRow header row

/-- With distinct names in the header a row is read as the operation that its cells state, in
whatever order the columns stand, whether or not empty cells end it and cells follow behind it. -/
theorem readByColumns_of_nodup {header : List String} (distinct : header.Nodup) (row : List String) :
    ReadByColumns header row where
  stated _ h := statedBy_of_ofRow distinct h
  read _ h := exists_ofRow_of_statedBy distinct h
  alike _ _ hother h := readAlike_of_cellUnder? distinct hother (funext h)
  permuted columns h := by
    rw [zip_padded] at h
    have hheader : (columns.map Prod.fst).Perm header := by
      rw [← names_namedCells header row]
      exact h.map Prod.fst
    refine readAlike_of_cellUnder? distinct (hheader.nodup_iff.mpr distinct) (funext fun name => ?_)
    rw [← get?_namedCells, ← get?_namedCells, namedCells_map]
    exact Entries.get?_eq_of_perm (by rwa [names_namedCells]) h name
  shortened count := congrArg ofCells (namedCells_append_replicate header row count)
  extended extra := by
    rw [ofRow, namedCells_append_of_le (length_le_padded header row), namedCells_padded]
    rfl

def purchaseColumns : List (String × String) :=
  [("type", "purchase"), ("account", "00000000-0000-0000-0000-000000000000"),
    ("payment", "00000000-0000-0000-0000-000000000000"),
    ("transaction", "00000000-0000-0000-0000-000000000000"),
    ("payment_method", "00000000-0000-0000-0000-000000000000"), ("amount", "12.50"),
    ("currency", ""), ("zip", "10001"), ("ccType", "")]

/-- A row whose last cells are missing is read like one whose columns stand the other way round. -/
theorem readByColumns_of_nodup_reversed : ∃ operation reversed,
    ofRow (purchaseColumns.map Prod.fst) ((purchaseColumns.map Prod.snd).take 8) = .ok operation ∧
    ofRow (purchaseColumns.reverse.map Prod.fst) (purchaseColumns.reverse.map Prod.snd) =
      .ok reversed ∧
    reversed.Same operation ∧ operation.kind = .purchase ∧ operation.currency = none ∧
    operation.overrides.values.get? "zip" = some "10001" ∧
    operation.overrides.values.get? "ccType" = none := by
  have distinct : (purchaseColumns.map Prod.fst).Nodup := by decide
  have law := readByColumns_of_nodup distinct ((purchaseColumns.map Prod.snd).take 8)
  have hread : ∃ operation, ofRow (purchaseColumns.map Prod.fst)
      ((purchaseColumns.map Prod.snd).take 8) = .ok operation := ⟨_, rfl⟩
  obtain ⟨operation, hread⟩ := hread
  have hstated := law.stated operation hread
  have hkind : (cellUnder? (purchaseColumns.map Prod.fst) ((purchaseColumns.map Prod.snd).take 8)
      "type").bind CallKind.ofWord? = some .purchase := by decide
  have hcurrency := hstated.currency
  have hcell : cellUnder? (purchaseColumns.map Prod.fst) ((purchaseColumns.map Prod.snd).take 8)
      "currency" = some "" := by decide
  rw [hcell] at hcurrency
  have halike := law.permuted purchaseColumns.reverse (List.reverse_perm _)
  rw [hread] at halike
  cases hreversed : ofRow (purchaseColumns.reverse.map Prod.fst)
      (purchaseColumns.reverse.map Prod.snd) with
  | error failure =>
    rw [hreversed] at halike
    cases halike
  | ok reversed =>
    rw [hreversed] at halike
    cases halike with
    | read hsame =>
      exact ⟨operation, reversed, hread, rfl, hsame,
        Option.some.inj (hstated.kind.symm.trans hkind),
        FixedCells.eq_of_map_ok (hcurrency.symm.trans rfl),
        (hstated.property "zip").trans (by decide), (hstated.property "ccType").trans (by decide)⟩

end Operation

end Batch

end PaymentGateway
