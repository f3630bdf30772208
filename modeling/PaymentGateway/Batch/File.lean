import PaymentGateway.Csv.Records
import PaymentGateway.Payments
import PaymentGateway.Text.Characters
import PaymentGateway.Text.Utf8

/-! # Batch.File — the operations of a batch file

A file is read record by record. The first record names its columns: seven names are fixed, and every
other column is a property of the operation. The cells of a row are checked in the order of the columns,
then missing columns are noticed, and the amount is read last. A header that is no text fails the file;
a row that is no text, or no operation, fails alone. -/

namespace PaymentGateway.Batch

/-! ## Operations -/

/-- An operation as a batch file states it. -/
structure Operation where
  kind : CallKind
  ids : Identifiers
  amount : Option Decimal
  currency : Option Currency
  overrides : Overrides
  deriving DecidableEq

namespace Operation

/-- The call that an operation makes. A void carries neither amount nor currency, the other kinds need
both, and a refund is not supported. -/
def call (operation : Operation) (caller : Caller) : Except Failure Call :=
  let call (amount : Option Decimal) (currency : Option Currency) : Call :=
    { operation with caller, amount, currency }
  match operation.kind with
  | .void => .ok (call none none)
  | .refund => .error (.unsupported "refund")
  | .authorize | .capture | .purchase | .credit =>
      match operation.amount with
      | none => .error (.validation (.amountRequired operation.kind))
      | some amount =>
          match operation.currency with
          | none => .error (.validation (.currencyRequired operation.kind))
          | some currency => .ok (call (some amount) (some currency))

def execute {m : Type → Type} [Monad m] (services : Services m) (credentials : Credentials)
    (caller : Caller) (operation : Operation) : Action m Outcome :=
  match operation.call caller with
  | .ok call => Payments.execute services credentials call
  | .error error => throw error

end Operation

/-! ## Operations from the rows of a file -/

inductive Column where
  | type
  | account
  | payment
  | transaction
  | method
  | amount
  | currency
  deriving DecidableEq, Repr

namespace Column

def all : List Column :=
  [.type, .account, .payment, .transaction, .method, .amount, .currency]

def name : Column → String
  | .type => "type"
  | .account => "account"
  | .payment => "payment"
  | .transaction => "transaction"
  | .method => "payment_method"
  | .amount => "amount"
  | .currency => "currency"

def ofName? (name : String) : Option Column :=
  all.find? fun column => column.name == name

end Column

/-- The fixed cells of a row that are read so far. -/
structure FixedCells where
  kind : Option CallKind := none
  account : Option Uuid := none
  payment : Option Uuid := none
  transaction : Option Uuid := none
  method : Option Uuid := none
  amount : Option (Option String) := none
  currency : Option (Option Currency) := none

namespace FixedCells

/-- Stores a cell that is not there yet. -/
def fill {α : Type} (column : Column) (present : Option α) (cell : Except RowFault α)
    (store : α → FixedCells) : Except RowFault FixedCells :=
  if present.isSome then .error (.repeatedColumn column.name) else cell.map store

def readKind (cell : String) : Except RowFault CallKind :=
  match CallKind.ofWord? cell with
  | some kind => .ok kind
  | none => .error (.unknownVariant cell)

def readId (cell : String) : Except RowFault Uuid :=
  match Uuid.ofText? cell with
  | some id => .ok id
  | none => .error .badIdentifier

/-- Reads a currency; an empty cell is none. -/
def readCurrency (cell : String) : Except RowFault (Option Currency) :=
  if cell = "" then .ok none
  else
    match Currency.read cell with
    | .ok currency => .ok (some currency)
    | .error fault => .error (.badCell fault)

/-- Keeps the text of an amount; an empty cell is none. -/
def readAmount (cell : String) : Except RowFault (Option String) :=
  .ok (if cell = "" then none else some cell)

def read (cells : FixedCells) (column : Column) (cell : String) : Except RowFault FixedCells :=
  match column with
  | .type => fill column cells.kind (readKind cell) fun v => { cells with kind := some v }
  | .account => fill column cells.account (readId cell) fun v => { cells with account := some v }
  | .payment => fill column cells.payment (readId cell) fun v => { cells with payment := some v }
  | .transaction =>
      fill column cells.transaction (readId cell) fun v => { cells with transaction := some v }
  | .method => fill column cells.method (readId cell) fun v => { cells with method := some v }
  | .amount => fill column cells.amount (readAmount cell) fun v => { cells with amount := some v }
  | .currency =>
      fill column cells.currency (readCurrency cell) fun v => { cells with currency := some v }

/-- Reads the fixed columns among named cells, in order. -/
def readAll (cells : FixedCells) : List (String × String) → Except RowFault FixedCells
  | [] => .ok cells
  | (name, cell) :: rest =>
      match Column.ofName? name with
      | some column =>
          match cells.read column cell with
          | .ok cells => readAll cells rest
          | .error fault => .error fault
      | none => readAll cells rest

end FixedCells

def required {α : Type} (column : Column) (cell : Option α) : Except RowFault α :=
  match cell with
  | some value => .ok value
  | none => .error (.missingColumn column.name)

/-- The cells of a row under the names of the header; missing cells are empty, cells beyond the header
are dropped. -/
def namedCells : (header cells : List String) → List (String × String)
  | [], _ => []
  | name :: header, [] => (name, "") :: namedCells header []
  | name :: header, cell :: cells => (name, cell) :: namedCells header cells

/-- The properties among named cells: the columns that are not fixed and not empty. -/
def propertyCells (cells : List (String × String)) : List (String × String) :=
  cells.filter fun (name, cell) => (Column.ofName? name).isNone && cell != ""

def Operation.ofCells (cells : List (String × String)) : Except Failure Operation := do
  let row ← (FixedCells.readAll {} cells).mapError .row
  let kind ← (required .type row.kind).mapError .row
  let account ← (required .account row.account).mapError .row
  let payment ← (required .payment row.payment).mapError .row
  let transaction ← (required .transaction row.transaction).mapError .row
  let method ← (required .method row.method).mapError .row
  let amount ← match row.amount.join with
    | none => pure none
    | some text =>
        match Decimal.read text with
        | .ok amount => pure (some amount)
        | .error fault => throw (.validation (.badAmount text fault))
  pure {
    kind
    ids := { account, payment, transaction, method }
    amount
    currency := row.currency.join
    overrides := .ofList (propertyCells cells) }

def Operation.ofRow (header cells : List String) : Except Failure Operation :=
  ofCells (namedCells header cells)

/-! ## Files -/

def byteOrderMark : List UInt8 := [0xEF, 0xBB, 0xBF]

def dropByteOrderMark (bytes : List UInt8) : List UInt8 :=
  if byteOrderMark.isPrefixOf bytes then bytes.drop byteOrderMark.length else bytes

/-- The cells of a record, without the white space at their ends. -/
def cells (record : List (List UInt8)) : Except Failure (List String) :=
  record.mapM fun field =>
    match Text.Utf8.decode field with
    | .ok text => .ok (Text.trim text)
    | .error _ => .error (.row .notText)

/-- The operations of a file, or the reason why a row is none. -/
def readRows (bytes : List UInt8) : Except Failure (List (Except Failure Operation)) :=
  match Csv.records .bytes (dropByteOrderMark bytes) with
  | [] => .ok []
  | first :: rest =>
      (cells first).map fun header =>
        rest.map fun record => (cells record).bind (Operation.ofRow header)

end PaymentGateway.Batch
