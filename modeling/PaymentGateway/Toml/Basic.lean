/-! # Toml.Basic — the values of a settings file

Tables remember how they came about, for that decides what may still be added to them. -/

namespace PaymentGateway

/-- How a table came about. -/
inductive TableOrigin where
  -- By a header of its own.
  | header
  -- As a part of the name in a header.
  | implied
  -- As a part of the name of a value.
  | dotted
  -- As a value between braces.
  | inlined
  deriving DecidableEq, Repr

/-- A value of a settings file. No setting is a floating-point number or a time, so of these nothing is
kept. -/
inductive Toml where
  | text (value : String)
  | integer (value : Int)
  | bool (value : Bool)
  | float
  | moment
  | array (items : List Toml)
  | table (origin : TableOrigin) (entries : List (String × Toml))
  -- The tables under headers in double brackets, the newest first.
  | tables (newestFirst : List (List (String × Toml)))

namespace Toml

def replace (name : String) (value : Toml) (entries : List (String × Toml)) : List (String × Toml) :=
  entries.map fun entry => if entry.1 == name then (name, value) else entry

/-- Adds a value under a name that dots divide into steps. Steps that are not there become tables;
tables with a header of their own are closed to such names, and so are values between braces. -/
def assign (entries : List (String × Toml)) : (steps : List String) → (name : String) → Toml →
    Option (List (String × Toml))
  | [], name, value =>
      if (entries.lookup name).isSome then none else some (entries ++ [(name, value)])
  | step :: steps, name, value =>
      match entries.lookup step with
      | none => do
          let inner ← assign [] steps name value
          pure (entries ++ [(step, .table .dotted inner)])
      | some (.table origin inner) =>
          if origin == .dotted || (origin == .implied && !steps.isEmpty) then do
            let inner ← assign inner steps name value
            pure (replace step (.table origin inner) entries)
          else none
      | some (.tables (newest :: older)) =>
          if steps.isEmpty then none
          else do
            let newest ← assign newest steps name value
            pure (replace step (.tables (newest :: older)) entries)
      | some _ => none

/-- Changes the entries at the end of a path of headers. Steps that are not there become tables, and of
tables in double brackets the newest is meant. -/
def changeAt (change : List (String × Toml) → Option (List (String × Toml)))
    (entries : List (String × Toml)) : (path : List String) → Option (List (String × Toml))
  | [] => change entries
  | step :: path =>
      match entries.lookup step with
      | none => do
          let inner ← changeAt change [] path
          pure (entries ++ [(step, .table .implied inner)])
      | some (.table origin inner) =>
          if origin == .inlined then none
          else do
            let inner ← changeAt change inner path
            pure (replace step (.table origin inner) entries)
      | some (.tables (newest :: older)) => do
          let newest ← changeAt change newest path
          pure (replace step (.tables (newest :: older)) entries)
      | some _ => none

def openTable (name : String) (entries : List (String × Toml)) : Option (List (String × Toml)) :=
  match entries.lookup name with
  | none => some (entries ++ [(name, .table .header [])])
  | some (.table .implied inner) => some (replace name (.table .header inner) entries)
  | some _ => none

/-- Opens one more table under a header in double brackets. -/
def openItem (name : String) (entries : List (String × Toml)) : Option (List (String × Toml)) :=
  match entries.lookup name with
  | none => some (entries ++ [(name, .tables [[]])])
  | some (.tables older) => some (replace name (.tables ([] :: older)) entries)
  | some _ => none

end Toml

end PaymentGateway
