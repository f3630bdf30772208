import PaymentGateway.Date
import PaymentGateway.Decimal.Basic
import PaymentGateway.Field
import PaymentGateway.Text.Quoted
import PaymentGateway.Uuid

/-! # FieldList — named values in the order of their first writing

A field list holds names with their values. Writing an existing name replaces its value in place, so
names stay distinct and keep the order in which they were first written. -/

namespace PaymentGateway

/-! ## Lists of named values -/

namespace Entries

/-- Writes a value under a name: in place if the name is there, else at the end. -/
def put (name value : String) : List (String × String) → List (String × String)
  | [] => [(name, value)]
  | entry :: rest =>
      if entry.1 = name then (name, value) :: rest else entry :: put name value rest

def get? (name : String) : List (String × String) → Option String
  | [] => none
  | entry :: rest => if entry.1 = name then some entry.2 else get? name rest

def names (entries : List (String × String)) : List String :=
  entries.map Prod.fst

theorem names_put (name value : String) (entries : List (String × String)) :
    names (put name value entries) =
      if name ∈ names entries then names entries else names entries ++ [name] := by
  induction entries with
  | nil => simp [put, names]
  | cons entry rest ih =>
    unfold put
    by_cases h : entry.1 = name
    · simp [h, names]
    · have h' : ¬ name = entry.1 := fun e => h e.symm
      rw [if_neg h]
      simp only [names, List.map_cons, List.mem_cons, h', false_or] at ih ⊢
      rw [ih]
      split <;> simp_all

theorem nodup_names_put (name value : String) {entries : List (String × String)}
    (h : (names entries).Nodup) : (names (put name value entries)).Nodup := by
  rw [names_put]
  split
  · exact h
  · rename_i absent
    rw [List.nodup_append]
    refine ⟨h, by simp, ?_⟩
    intro a ha b hb
    simp only [List.mem_singleton] at hb
    subst hb
    intro e
    exact absent (e ▸ ha)

end Entries

/-! ## Field lists -/

/-- Named values with distinct names. -/
structure FieldList where
  entries : List (String × String)
  nodup_names : (Entries.names entries).Nodup
  deriving DecidableEq

/-- A typed value of a field. -/
inductive TypedValue where
  | amount (value : Decimal)
  | flag (value : Bool)
  | day (value : Date)
  | identifier (value : Uuid)
  | text (value : String)
  deriving DecidableEq

namespace TypedValue

def plainText : TypedValue → String
  | .amount value => value.toText
  | .flag value => if value then "true" else "false"
  | .day value => value.toText
  | .identifier value => value.toText
  | .text value => value

/-- A value as the gateway reads it. -/
def wireText : TypedValue → String
  | .amount value => value.moneyText
  | .flag value => if value then "TRUE" else "FALSE"
  | .day value => value.dayFirstText
  | .identifier value => value.toText
  | .text value => value

end TypedValue

namespace FieldList

def empty : FieldList := ⟨[], by simp [Entries.names]⟩

instance : Inhabited FieldList := ⟨empty⟩

def insert (m : FieldList) (name value : String) : FieldList :=
  ⟨Entries.put name value m.entries, Entries.nodup_names_put name value m.nodup_names⟩

/-- Writes a typed value under a field of the catalog. -/
def set (m : FieldList) (field : Field) (value : TypedValue) : FieldList :=
  m.insert field.wireName value.wireText

/-- Writes a value that is there; an absent one leaves no trace. -/
def setOption (m : FieldList) (field : Field) (value : Option TypedValue) : FieldList :=
  match value with
  | some value => m.set field value
  | none => m

def get? (m : FieldList) (name : String) : Option String :=
  Entries.get? name m.entries

def field? (m : FieldList) (field : Field) : Option String :=
  m.get? field.wireName

def contains (m : FieldList) (field : Field) : Bool :=
  (m.field? field).isSome

def names (m : FieldList) : List String :=
  Entries.names m.entries

def size (m : FieldList) : Nat :=
  m.entries.length

def isEmpty (m : FieldList) : Bool :=
  m.entries.isEmpty

def insertAll (m : FieldList) (pairs : List (String × String)) : FieldList :=
  pairs.foldl (fun m pair => m.insert pair.1 pair.2) m

/-- The list that pairs make when written from left to right. -/
def ofList (pairs : List (String × String)) : FieldList :=
  empty.insertAll pairs

/-- Lays a list over another: shared names take the upper value. -/
def merge (m upper : FieldList) : FieldList :=
  m.insertAll upper.entries

/-- Whether two lists hold the same values under the same names, in any order. -/
def sameEntries (m n : FieldList) : Bool :=
  m.size == n.size && m.entries.all fun entry => n.get? entry.1 == some entry.2

def shown (m : FieldList) : String :=
  let pairs := m.entries.map fun entry => s!"{Text.quoted entry.1}: {Text.quoted entry.2}"
  "FieldMap(\x7b" ++ String.intercalate ", " pairs ++ "\x7d)"

end FieldList

end PaymentGateway
