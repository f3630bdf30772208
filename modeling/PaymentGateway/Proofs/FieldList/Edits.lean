import PaymentGateway.Proofs.FieldList.Overlay

/-!
# What can be done to a field list

Every operation on a field list writes some pairs, one after another.  So after any operations each
name stands where it was first written and has the value that was last written under it.  Laying
field lists over one another is associative; neither the empty list nor a list itself changes it.
-/

namespace PaymentGateway

namespace FieldList

/-! ## Operations one after another -/

inductive Edit where
  | set (field : Field) (value : TypedValue)
  | setOption (field : Field) (value : Option TypedValue)
  | insert (name value : String)
  | merge (upper : FieldList)

namespace Edit

def apply (m : FieldList) : Edit → FieldList
  | .set field value => m.set field value
  | .setOption field value => m.setOption field value
  | .insert name value => m.insert name value
  | .merge upper => m.merge upper

def writes : Edit → List (String × String)
  | .set field value => [(field.wireName, value.wireText)]
  | .setOption field value => (value.map fun value => (field.wireName, value.wireText)).toList
  | .insert name value => [(name, value)]
  | .merge upper => upper.entries

theorem apply_eq_insertAll (m : FieldList) (edit : Edit) :
    edit.apply m = m.insertAll edit.writes := by
  cases edit with
  | set field value => rfl
  | setOption field value => cases value <;> rfl
  | insert name value => rfl
  | merge upper => rfl

/-- The field list that operations make of the empty one. -/
def run (edits : List Edit) : FieldList :=
  edits.foldl apply .empty

theorem foldl_apply (edits : List Edit) (m : FieldList) :
    edits.foldl apply m = m.insertAll (edits.flatMap writes) := by
  induction edits generalizing m with
  | nil => rfl
  | cons edit edits ih =>
    rw [List.foldl_cons, List.flatMap_cons, insertAll_append, ← apply_eq_insertAll]
    exact ih (edit.apply m)

theorem run_eq_ofList (edits : List Edit) : run edits = ofList (edits.flatMap writes) :=
  foldl_apply edits .empty

theorem flatMap_writes_insert (pairs : List (String × String)) :
    (pairs.map fun pair => insert pair.1 pair.2).flatMap writes = pairs := by
  induction pairs with
  | nil => rfl
  | cons pair pairs ih =>
    rw [List.map_cons, List.flatMap_cons, ih]
    rfl

end Edit

/-! ## Lists over lists -/

theorem empty_merge (m : FieldList) : empty.merge m = m :=
  ofList_entries m

theorem merge_empty (m : FieldList) : m.merge .empty = m := rfl

theorem merge_self (m : FieldList) : m.merge m = m := by
  apply ext_get?
  · have hnone : m.names.filter (· ∉ m.names) = [] := by simp
    rw [names_merge, hnone, List.append_nil]
  · intro name
    rw [get?_merge, Option.or_self]

/-- The names that two lists add to a third are those that the second adds to it and those that the
first adds to both. -/
theorem filter_names_merge (m n o : FieldList) :
    (n.merge o).names.filter (· ∉ m.names) =
      n.names.filter (· ∉ m.names) ++ o.names.filter (· ∉ (m.merge n).names) := by
  have hnew : ∀ name ∈ o.names, (decide (name ∉ m.names) && decide (name ∉ n.names)) =
      decide (name ∉ (m.merge n).names) := by
    intro name _
    by_cases h : name ∈ m.names <;> simp [names_merge, h]
  rw [names_merge, List.filter_append, List.filter_filter, List.filter_congr hnew]

theorem merge_assoc (m n o : FieldList) : (m.merge n).merge o = m.merge (n.merge o) := by
  apply ext_get?
  · calc ((m.merge n).merge o).names
        = m.names ++ n.names.filter (· ∉ m.names) ++ o.names.filter (· ∉ (m.merge n).names) := by
          rw [names_merge, names_merge m n]
      _ = m.names ++ (n.merge o).names.filter (· ∉ m.names) := by
          rw [filter_names_merge, List.append_assoc]
      _ = (m.merge (n.merge o)).names := (names_merge m _).symm
  · intro name
    rw [get?_merge, get?_merge, get?_merge, get?_merge, Option.or_assoc]

structure MergeLaws (m n o : FieldList) : Prop where
  assoc : (m.merge n).merge o = m.merge (n.merge o)
  empty_left : empty.merge m = m
  empty_right : m.merge .empty = m
  self : m.merge m = m
  names : (m.merge n).names = m.names ++ n.names.filter (· ∉ m.names)
  get? : ∀ name, (m.merge n).get? name = (n.get? name).or (m.get? name)

theorem mergeLaws (m n o : FieldList) : MergeLaws m n o where
  assoc := merge_assoc m n o
  empty_left := empty_merge m
  empty_right := merge_empty m
  self := merge_self m
  names := names_merge m n
  get? := get?_merge m n

/-- Whatever is done to a field list, its names are distinct, each stands where it was first written
and has the value that was last written under it. -/
theorem gathers_run (edits : List Edit) (pairs : List (String × String)) (m n o : FieldList) :
    (Edit.run edits).names.Nodup ∧ (Edit.run edits).Gathers (edits.flatMap Edit.writes) ∧
      ofList pairs = Edit.run (pairs.map fun pair => .insert pair.1 pair.2) ∧
      MergeLaws m n o := by
  refine ⟨(Edit.run edits).nodup_names, ?_, ?_, mergeLaws m n o⟩
  · rw [Edit.run_eq_ofList]
    exact gathers_ofList _
  · rw [Edit.run_eq_ofList, Edit.flatMap_writes_insert]

/-- A name that a field list and its overlay share stays in its place with the value on top. -/
example : (Edit.run [.insert "a" "1", .set .password (.flag true), .setOption .password none,
      .merge (ofList [("b", "2"), ("a", "3")])]).entries =
    [("a", "3"), ("pg_password", "TRUE"), ("b", "2")] := by decide

end FieldList

end PaymentGateway
