import PaymentGateway.Proofs.Batch.FixedCells

/-!
# What named cells state

Cells with distinct names are read as the operation that they state, and only as that: its kind, its
identifiers, its amount and its currency stand under the names of the fixed columns, and all that the
other cells say are its properties.
-/

namespace PaymentGateway.Batch

/-! ## Operations and the cells that state them -/

def fixedColumns : List String :=
  ["type", "account", "payment", "transaction", "payment_method", "amount", "currency"]

namespace Operation

structure StatedBy (operation : Operation) (cell? : String → Option String) : Prop where
  kind : (cell? "type").bind CallKind.ofWord? = some operation.kind
  account : (cell? "account").bind Uuid.ofText? = some operation.ids.account
  payment : (cell? "payment").bind Uuid.ofText? = some operation.ids.payment
  transaction : (cell? "transaction").bind Uuid.ofText? = some operation.ids.transaction
  method : (cell? "payment_method").bind Uuid.ofText? = some operation.ids.method
  amount : ((cell? "amount").filter (· != "")).map Decimal.read = operation.amount.map .ok
  currency : ((cell? "currency").filter (· != "")).map Currency.read = operation.currency.map .ok
  property : ∀ name, operation.overrides.values.get? name =
    if name ∈ fixedColumns then none else (cell? name).filter (· != "")

/-- Operations that tell apart at most the order of their properties. -/
structure Same (operation other : Operation) : Prop where
  kind : operation.kind = other.kind
  ids : operation.ids = other.ids
  amount : operation.amount = other.amount
  currency : operation.currency = other.currency
  property : ∀ name, operation.overrides.values.get? name = other.overrides.values.get? name

theorem StatedBy.same {operation other : Operation} {cell? : String → Option String}
    (h : operation.StatedBy cell?) (hother : other.StatedBy cell?) : operation.Same other := by
  have hids : operation.ids = other.ids := by
    obtain ⟨kind, ⟨account, payment, transaction, method⟩, _, _, _⟩ := operation
    obtain ⟨_, ⟨_, _, _, _⟩, _, _, _⟩ := other
    cases h.account.symm.trans hother.account
    cases h.payment.symm.trans hother.payment
    cases h.transaction.symm.trans hother.transaction
    cases h.method.symm.trans hother.method
    rfl
  exact {
    kind := Option.some.inj (h.kind.symm.trans hother.kind)
    ids := hids
    amount := FixedCells.eq_of_map_ok (h.amount.symm.trans hother.amount)
    currency := FixedCells.eq_of_map_ok (h.currency.symm.trans hother.currency)
    property := fun name => (h.property name).trans (hother.property name).symm }

end Operation

/-! ## Reading named cells -/

theorem bind_eq_ok_iff {ε α β : Type} {x : Except ε α} {f : α → Except ε β} {b : β} :
    (x >>= f) = .ok b ↔ ∃ a, x = .ok a ∧ f a = .ok b := by
  cases x with
  | error e => exact ⟨nofun, fun ⟨a, ha, _⟩ => nomatch ha⟩
  | ok a => exact ⟨fun h => ⟨a, rfl, h⟩, fun ⟨_, ha, h⟩ => by cases ha; exact h⟩

theorem mapError_eq_ok_iff {ε ε' α : Type} {x : Except ε α} {f : ε → ε'} {a : α} :
    x.mapError f = .ok a ↔ x = .ok a := by
  cases x <;> simp [Except.mapError]

theorem required_eq_ok_iff {α : Type} {column : Column} {cell : Option α} {value : α} :
    required column cell = .ok value ↔ cell = some value := by
  cases cell <;> simp [required]

theorem ofCells_eq_ok_iff {cells : List (String × String)} {operation : Operation} :
    Operation.ofCells cells = .ok operation ↔ ∃ row : FixedCells,
      FixedCells.readAll {} cells = .ok row ∧
      row.kind = some operation.kind ∧
      row.account = some operation.ids.account ∧
      row.payment = some operation.ids.payment ∧
      row.transaction = some operation.ids.transaction ∧
      row.method = some operation.ids.method ∧
      row.amount.join.map Decimal.read = operation.amount.map .ok ∧
      row.currency.join = operation.currency ∧
      operation.overrides = .ofList (propertyCells cells) := by
  unfold Operation.ofCells
  simp only [bind_eq_ok_iff, mapError_eq_ok_iff, required_eq_ok_iff]
  constructor
  · rintro ⟨row, hread, kind, hkind, account, haccount, payment, hpayment, transaction,
      htransaction, method, hmethod, h⟩
    -- The amount is the only cell that is read after the others are known to be there.
    cases hamount : row.amount.join with
    | none =>
      rw [hamount] at h
      cases h
      exact ⟨row, hread, hkind, haccount, hpayment, htransaction, hmethod, by rw [hamount]; rfl,
        rfl, rfl⟩
    | some text =>
      rw [hamount] at h
      cases hdecimal : Decimal.read text with
      | error fault => simp only [hdecimal] at h; cases h
      | ok amount =>
        simp only [hdecimal] at h
        cases h
        exact ⟨row, hread, hkind, haccount, hpayment, htransaction, hmethod,
          by rw [hamount, Option.map_some, hdecimal]; rfl, rfl, rfl⟩
  · rintro ⟨row, hread, hkind, haccount, hpayment, htransaction, hmethod, hamount, hcurrency,
      hoverrides⟩
    obtain ⟨kind, ids, amount, currency, overrides⟩ := operation
    refine ⟨row, hread, _, hkind, _, haccount, _, hpayment, _, htransaction, _, hmethod, ?_⟩
    dsimp only at hamount hcurrency hoverrides ⊢
    rw [hcurrency, ← hoverrides]
    cases hjoin : row.amount.join with
    | none =>
      rw [hjoin] at hamount
      cases amount <;> cases hamount
      rfl
    | some text =>
      rw [hjoin] at hamount
      cases amount with
      | none => cases hamount
      | some amount =>
        have hdecimal : Decimal.read text = .ok amount := Option.some.inj hamount
        simp only [hdecimal]
        rfl

/-! ## From cells to operations and back -/

/-- A place holds what its cell spells. -/
theorem eq_some_iff_of_map_eq {α : Type} {place : Option α} {cell : Option String}
    {read : String → Except RowFault α} {parse? : String → Option α}
    (hread : ∀ text value, read text = .ok value ↔ parse? text = some value)
    (h : place.map .ok = cell.map read) (value : α) :
    place = some value ↔ cell.bind parse? = some value := by
  cases cell with
  | none =>
    cases place with
    | none => exact ⟨nofun, nofun⟩
    | some other => cases h
  | some text =>
    cases place with
    | none => cases h
    | some other =>
      have hother : read text = .ok other := (Option.some.inj h).symm
      rw [Option.bind_some, (hread text other).mp hother]

theorem map_eq_of_bind_eq {α : Type} {cell : Option String} {read : String → Except RowFault α}
    {parse? : String → Option α}
    (hread : ∀ text value, read text = .ok value ↔ parse? text = some value) {value : α}
    (h : cell.bind parse? = some value) : some (.ok value) = cell.map read := by
  obtain ⟨text, rfl, hparse⟩ := Option.bind_eq_some_iff.mp h
  rw [Option.map_some, (hread text value).mpr hparse]

theorem readKind_eq_ok_iff (text : String) (kind : CallKind) :
    FixedCells.readKind text = .ok kind ↔ CallKind.ofWord? text = some kind := by
  unfold FixedCells.readKind
  cases CallKind.ofWord? text <;> simp

theorem readId_eq_ok_iff (text : String) (id : Uuid) :
    FixedCells.readId text = .ok id ↔ Uuid.ofText? text = some id := by
  unfold FixedCells.readId
  cases Uuid.ofText? text <;> simp

/-- The text of an amount is kept, unless it is empty. -/
theorem join_eq_of_map_readAmount {place : Option (Option String)} {cell : Option String}
    (h : place.map .ok = cell.map FixedCells.readAmount) : place.join = cell.filter (· != "") := by
  have hplace : place = cell.map fun text => if text = "" then none else some text := by
    apply FixedCells.eq_of_map_ok
    rw [h, Option.map_map]
    rfl
  rw [hplace]
  cases cell with
  | none => rfl
  | some text => by_cases hempty : text = "" <;> simp [hempty, Option.filter_some]

/-- The currency of a cell is read, unless the cell is empty. -/
theorem map_read_of_map_readCurrency {place : Option (Option Currency)} {cell : Option String}
    (h : place.map .ok = cell.map FixedCells.readCurrency) :
    (cell.filter (· != "")).map Currency.read = place.join.map .ok := by
  cases cell with
  | none =>
    cases place <;> cases h
    rfl
  | some text =>
    cases place with
    | none => cases h
    | some currency =>
      have hread : FixedCells.readCurrency text = .ok currency := (Option.some.inj h).symm
      unfold FixedCells.readCurrency at hread
      -- An empty cell is read as no currency, and so is none at all.
      by_cases hempty : text = ""
      · rw [if_pos hempty] at hread
        cases hread
        simp [hempty]
      · rw [if_neg hempty] at hread
        cases hcurrency : Currency.read text <;> rw [hcurrency] at hread <;> cases hread
        simp [hempty, hcurrency, Option.filter_some]

theorem map_readCurrency_of_map_read {cell : Option String} {currency : Option Currency}
    (h : (cell.filter (· != "")).map Currency.read = currency.map .ok) :
    (cell.map fun text => if text = "" then none else currency).map .ok =
      cell.map FixedCells.readCurrency := by
  cases cell with
  | none => rfl
  | some text =>
    rw [Option.map_some, Option.map_some, Option.map_some, FixedCells.readCurrency]
    by_cases hempty : text = ""
    · rw [if_pos hempty, if_pos hempty]
    · rw [if_neg hempty, if_neg hempty]
      rw [Option.filter_some, if_pos (by simpa using hempty)] at h
      cases currency with
      | none => cases h
      | some currency =>
        have hread : Currency.read text = .ok currency := Option.some.inj h
        rw [hread]

theorem get?_filter {cells : List (String × String)} (distinct : (Entries.names cells).Nodup)
    (keep : String × String → Bool) (name : String) :
    Entries.get? name (cells.filter keep) =
      (Entries.get? name cells).filter fun value => keep (name, value) := by
  induction cells with
  | nil => rfl
  | cons entry rest ih =>
    obtain ⟨other, value⟩ := entry
    obtain ⟨absent, hrest⟩ := List.nodup_cons.mp distinct
    rw [Entries.get?]
    by_cases hname : other = name
    · subst hname
      have hgone := (Entries.get?_eq_none_iff other rest).mpr absent
      rw [if_pos rfl]
      -- A cell that is dropped has no second one behind it that could take its place.
      cases hkeep : keep (other, value) with
      | true =>
        rw [List.filter_cons_of_pos hkeep, Entries.get?, if_pos rfl, Option.filter_some, if_pos hkeep]
      | false =>
        rw [List.filter_cons_of_neg (by simp [hkeep]), ih hrest, hgone, Option.filter_some,
          if_neg (by simp [hkeep]), Option.filter_none]
    · rw [if_neg hname, ← ih hrest]
      cases hkeep : keep (other, value) with
      | true => rw [List.filter_cons_of_pos hkeep, Entries.get?, if_neg hname]
      | false => rw [List.filter_cons_of_neg (by simp [hkeep])]

theorem Column.isNone_ofName?_iff (name : String) :
    (ofName? name).isNone = true ↔ name ∉ fixedColumns := by
  rw [Option.isNone_iff_eq_none]
  constructor
  · intro h hfixed
    obtain ⟨column, -, hcolumn⟩ := List.mem_map.mp (show name ∈ all.map Column.name from hfixed)
    rw [ofName?_eq_some_iff.mpr hcolumn] at h
    cases h
  · intro h
    refine Option.eq_none_iff_forall_ne_some.mpr fun column hcolumn => h ?_
    rw [← ofName?_eq_some_iff.mp hcolumn]
    cases column <;> decide

theorem get?_ofList_propertyCells {cells : List (String × String)}
    (distinct : (Entries.names cells).Nodup) (name : String) :
    (FieldList.ofList (propertyCells cells)).get? name =
      if name ∈ fixedColumns then none else (Entries.get? name cells).filter (· != "") := by
  have hnames : (Entries.names (propertyCells cells)).Nodup :=
    (List.filter_sublist.map Prod.fst).nodup distinct
  rw [FieldList.get?_ofList hnames, propertyCells, get?_filter distinct]
  have hfixed := Column.isNone_ofName?_iff name
  by_cases h : name ∈ fixedColumns
  · have hsome : (Column.ofName? name).isNone = false := by
      rw [← Bool.not_eq_true, hfixed]
      exact not_not_intro h
    simp [h, hsome]
  · simp [h, hfixed.mpr h]

/-- A row of cells with distinct names is read as what they say. -/
theorem Operation.statedBy_of_ofCells {cells : List (String × String)}
    (distinct : (Entries.names cells).Nodup) {operation : Operation}
    (h : ofCells cells = .ok operation) : operation.StatedBy (Entries.get? · cells) := by
  obtain ⟨row, hread, hkind, haccount, hpayment, htransaction, hmethod, hamount, hcurrency,
    hoverrides⟩ := ofCells_eq_ok_iff.mp h
  have holds := (FixedCells.readAll_eq_ok_iff_holds distinct row).mp hread
  exact {
    kind := (eq_some_iff_of_map_eq readKind_eq_ok_iff (holds .type) _).mp hkind
    account := (eq_some_iff_of_map_eq readId_eq_ok_iff (holds .account) _).mp haccount
    payment := (eq_some_iff_of_map_eq readId_eq_ok_iff (holds .payment) _).mp hpayment
    transaction := (eq_some_iff_of_map_eq readId_eq_ok_iff (holds .transaction) _).mp htransaction
    method := (eq_some_iff_of_map_eq readId_eq_ok_iff (holds .method) _).mp hmethod
    amount := join_eq_of_map_readAmount (holds .amount) ▸ hamount
    currency := hcurrency ▸ map_read_of_map_readCurrency (holds .currency)
    property := hoverrides ▸ get?_ofList_propertyCells distinct }

/-- Cells that say what an operation is are read as one. -/
theorem Operation.exists_ofCells_of_statedBy {cells : List (String × String)}
    (distinct : (Entries.names cells).Nodup) {operation : Operation}
    (h : operation.StatedBy (Entries.get? · cells)) : ∃ read, ofCells cells = .ok read := by
  -- What reading the fixed columns comes to is written down, and then shown to be what is read.
  let row : FixedCells :=
    { kind := some operation.kind
      account := some operation.ids.account
      payment := some operation.ids.payment
      transaction := some operation.ids.transaction
      method := some operation.ids.method
      amount := (Entries.get? "amount" cells).map fun text => if text = "" then none else some text
      currency := (Entries.get? "currency" cells).map fun text =>
        if text = "" then none else operation.currency }
  have hamount : row.amount.map .ok =
      (Entries.get? "amount" cells).map FixedCells.readAmount := by
    rw [Option.map_map]
    rfl
  have hcurrency : row.currency.map .ok =
      (Entries.get? "currency" cells).map FixedCells.readCurrency :=
    map_readCurrency_of_map_read h.currency
  have holds : row.Holds (Entries.get? · cells)
    | .type => map_eq_of_bind_eq readKind_eq_ok_iff h.kind
    | .account => map_eq_of_bind_eq readId_eq_ok_iff h.account
    | .payment => map_eq_of_bind_eq readId_eq_ok_iff h.payment
    | .transaction => map_eq_of_bind_eq readId_eq_ok_iff h.transaction
    | .method => map_eq_of_bind_eq readId_eq_ok_iff h.method
    | .amount => hamount
    | .currency => hcurrency
  have hamountStated : row.amount.join.map Decimal.read = operation.amount.map .ok := by
    rw [join_eq_of_map_readAmount hamount]
    exact h.amount
  have hcurrencyStated : row.currency.join = operation.currency :=
    FixedCells.eq_of_map_ok ((map_read_of_map_readCurrency hcurrency).symm.trans h.currency)
  exact ⟨{ operation with overrides := .ofList (propertyCells cells) }, ofCells_eq_ok_iff.mpr
    ⟨row, (FixedCells.readAll_eq_ok_iff_holds distinct row).mpr holds, rfl, rfl, rfl, rfl, rfl,
      hamountStated, hcurrencyStated, rfl⟩⟩

end PaymentGateway.Batch
