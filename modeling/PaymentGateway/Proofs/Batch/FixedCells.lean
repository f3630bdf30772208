import PaymentGateway.Batch.File
import PaymentGateway.Proofs.FieldList.Overlay

/-!
# The fixed cells of a row

Every fixed column has a place of its own.  Among cells with distinct names each place is filled from
the cell of its column, wherever that stands, and the first cell that cannot be read fails the row.
-/

namespace PaymentGateway.Batch

/-! ## Columns and their places -/

namespace Column

theorem ofName?_name (column : Column) : ofName? column.name = some column := by
  cases column <;> rfl

theorem ofName?_eq_some_iff {name : String} {column : Column} :
    ofName? name = some column ↔ column.name = name := by
  constructor
  · intro h
    have hfound := List.find?_some h
    exact beq_iff_eq.mp hfound
  · rintro rfl
    exact column.ofName?_name

theorem name_inj {column other : Column} : column.name = other.name ↔ column = other := by
  rw [← ofName?_eq_some_iff, ofName?_name, Option.some_inj, eq_comm]

def Value : Column → Type
  | .type => CallKind
  | .account | .payment | .transaction | .method => Uuid
  | .amount => Option String
  | .currency => Option Currency

def readCell : (column : Column) → String → Except RowFault column.Value
  | .type => FixedCells.readKind
  | .account | .payment | .transaction | .method => FixedCells.readId
  | .amount => FixedCells.readAmount
  | .currency => FixedCells.readCurrency

end Column

namespace FixedCells

def get (cells : FixedCells) : (column : Column) → Option column.Value
  | .type => cells.kind
  | .account => cells.account
  | .payment => cells.payment
  | .transaction => cells.transaction
  | .method => cells.method
  | .amount => cells.amount
  | .currency => cells.currency

def set (cells : FixedCells) : (column : Column) → column.Value → FixedCells
  | .type, value => { cells with kind := some value }
  | .account, value => { cells with account := some value }
  | .payment, value => { cells with payment := some value }
  | .transaction, value => { cells with transaction := some value }
  | .method, value => { cells with method := some value }
  | .amount, value => { cells with amount := some value }
  | .currency, value => { cells with currency := some value }

@[simp] theorem get_set_self (cells : FixedCells) (column : Column) (value : column.Value) :
    (cells.set column value).get column = some value := by
  cases column <;> rfl

theorem get_set_of_ne {column other : Column} (h : other ≠ column) (cells : FixedCells)
    (value : column.Value) : (cells.set column value).get other = cells.get other := by
  cases column <;> cases other <;> first | rfl | exact absurd rfl h

theorem get_empty (column : Column) : ({} : FixedCells).get column = none := by
  cases column <;> rfl

theorem ext_get {cells other : FixedCells} (h : ∀ column, cells.get column = other.get column) :
    cells = other := by
  obtain ⟨kind, account, payment, transaction, method, amount, currency⟩ := cells
  obtain ⟨_, _, _, _, _, _, _⟩ := other
  cases h .type
  cases h .account
  cases h .payment
  cases h .transaction
  cases h .method
  cases h .amount
  cases h .currency
  rfl

/-- A cell is read into the place of its column, if nothing is there yet. -/
theorem read_eq (cells : FixedCells) (column : Column) (cell : String) :
    cells.read column cell =
      if (cells.get column).isSome then .error (.repeatedColumn column.name)
      else (column.readCell cell).map (cells.set column) := by
  cases column <;> rfl

/-! ## Reading all cells -/

/-- Each place holds what is read of the cell under the name of its column, if there is one. -/
def Holds (row : FixedCells) (cell? : String → Option String) : Prop :=
  ∀ column : Column, (row.get column).map Except.ok = (cell? column.name).map column.readCell

theorem eq_of_map_ok {α ε : Type} {a b : Option α}
    (h : a.map (Except.ok (ε := ε)) = b.map Except.ok) : a = b :=
  Option.map_injective (fun _ _ => Except.ok.inj) h

/-- Cells with distinct names, of columns that have not been read, fill the places of these
columns and leave the others as they are. -/
theorem readAll_eq_ok_iff {cells : List (String × String)}
    (distinct : (Entries.names cells).Nodup) {start : FixedCells}
    (hunread : ∀ column : Column, column.name ∈ Entries.names cells → start.get column = none)
    (row : FixedCells) :
    start.readAll cells = .ok row ↔ ∀ column : Column,
      (row.get column).map Except.ok =
        ((Entries.get? column.name cells).map column.readCell).or
          ((start.get column).map Except.ok) := by
  induction cells generalizing start with
  | nil =>
    constructor
    · intro h column
      cases h
      rfl
    · intro h
      rw [readAll, ext_get fun column => eq_of_map_ok (h column)]
  | cons entry rest ih =>
    obtain ⟨name, cell⟩ := entry
    obtain ⟨absent, hrest⟩ := List.nodup_cons.mp distinct
    rw [readAll]
    -- A cell under another name is passed over; one of a fixed column fills its place, which is
    -- free because the names are distinct.
    cases hname : Column.ofName? name with
    | none =>
      have hother (column : Column) : name ≠ column.name := by
        rintro rfl
        rw [Column.ofName?_name] at hname
        cases hname
      dsimp only
      rw [ih hrest fun column hmem => hunread column (List.mem_cons_of_mem _ hmem)]
      simp only [Entries.get?, if_neg (hother _)]
    | some column =>
      obtain rfl := Column.ofName?_eq_some_iff.mp hname
      have hfree : start.get column = none := hunread column List.mem_cons_self
      have hgone := (Entries.get?_eq_none_iff column.name rest).mpr absent
      dsimp only
      rw [read_eq, hfree]
      cases hread : column.readCell cell with
      | error fault =>
        constructor
        · intro h
          cases h
        · intro h
          have hcolumn := h column
          rw [Entries.get?, if_pos rfl, Option.map_some, hread, Option.some_or] at hcolumn
          obtain ⟨value, -, hvalue⟩ := Option.map_eq_some_iff.mp hcolumn
          cases hvalue
      | ok value =>
        have hset (other : Column) (hne : other ≠ column) :
            (start.set column value).get other = start.get other := get_set_of_ne hne start value
        show readAll (start.set column value) rest = .ok row ↔ _
        rw [ih hrest]
        · -- The column just read has no other cell behind this one, and the other columns are as
          -- they were.
          refine forall_congr' fun other => ?_
          by_cases hne : other = column
          · subst hne
            rw [hgone, get_set_self, Entries.get?, if_pos rfl, Option.map_some, Option.map_some,
              hread, Option.some_or]
            rfl
          · rw [hset other hne, Entries.get?,
              if_neg fun h => hne (Column.name_inj.mp h).symm]
        · intro other hmem
          have hne : other ≠ column := by
            rintro rfl
            exact absent hmem
          rw [hset other hne]
          exact hunread other (List.mem_cons_of_mem _ hmem)

/-- The fixed cells of a row hold what the cells under the names of their columns spell. -/
theorem readAll_eq_ok_iff_holds {cells : List (String × String)}
    (distinct : (Entries.names cells).Nodup) (row : FixedCells) :
    readAll {} cells = .ok row ↔ row.Holds (Entries.get? · cells) := by
  rw [readAll_eq_ok_iff distinct fun column _ => get_empty column]
  simp only [get_empty, Option.map_none, Option.or_none, Holds]

end FixedCells

end PaymentGateway.Batch
