import PaymentGateway.Proofs.FieldList.Catalog
import PaymentGateway.Proofs.FieldList.Order

/-!
# Laying one field list over another

The names of the lower list come first and keep their order, then come the names that are new.  The
upper list decides the value of every name that it holds.
-/

namespace PaymentGateway

namespace Entries

theorem get?_append (name : String) (entries more : List (String × String)) :
    get? name (entries ++ more) = (get? name entries).or (get? name more) := by
  induction entries with
  | nil => rfl
  | cons entry rest ih =>
    rw [List.cons_append, get?, get?, ih]
    by_cases h : entry.1 = name
    · rw [if_pos h, if_pos h, Option.some_or]
    · rw [if_neg h, if_neg h]

theorem isSome_get?_iff (name : String) (entries : List (String × String)) :
    (get? name entries).isSome ↔ name ∈ names entries := by
  induction entries with
  | nil => exact ⟨nofun, nofun⟩
  | cons entry rest ih =>
    rw [get?, names, List.map_cons, List.mem_cons]
    by_cases h : entry.1 = name
    · rw [if_pos h]
      exact ⟨fun _ => .inl h.symm, fun _ => rfl⟩
    · rw [if_neg h, ih]
      exact ⟨.inr, fun hmem => hmem.resolve_left fun e => h e.symm⟩

theorem get?_eq_none_iff (name : String) (entries : List (String × String)) :
    get? name entries = none ↔ name ∉ names entries := by
  rw [← Option.not_isSome_iff_eq_none, isSome_get?_iff]

end Entries

theorem Field.wireName_of_ofWireName? {name : String} {field : Field}
    (h : ofWireName? name = some field) : field.wireName = name := by
  have hfound := List.find?_some h
  exact beq_iff_eq.mp hfound

/-- A name stands among the entries of fields only if it is the name of a field. -/
theorem Entries.get?_map_entry_eq_bind (name : String) (pairs : List (Field × String)) :
    get? name (pairs.map Field.entry) = (Field.ofWireName? name).bind (pairs.lookup ·) := by
  cases hname : Field.ofWireName? name with
  | some field =>
    rw [← Field.wireName_of_ofWireName? hname, get?_map_entry]
    rfl
  | none =>
    rw [Option.bind_none, get?_eq_none_iff, names_map_entry]
    intro hmem
    obtain ⟨field, -, rfl⟩ := List.mem_map.mp hmem
    rw [Field.ofWireName?_wireName] at hname
    cases hname

namespace FieldList

theorem isSome_get?_iff (m : FieldList) (name : String) :
    (m.get? name).isSome ↔ name ∈ m.names :=
  Entries.isSome_get?_iff name m.entries

/-- New names follow the names that were there, in the order in which they are written. -/
theorem names_insertAll {pairs : List (String × String)}
    (distinct : (Entries.names pairs).Nodup) (m : FieldList) :
    (m.insertAll pairs).names = m.names ++ (Entries.names pairs).filter (· ∉ m.names) := by
  induction pairs generalizing m with
  | nil => exact (List.append_nil _).symm
  | cons pair pairs ih =>
    obtain ⟨name, value⟩ := pair
    obtain ⟨absent, distinct⟩ := List.nodup_cons.mp distinct
    show (m.insertAll _).names = _ ++ (name :: Entries.names pairs).filter _
    rw [insertAll_cons, ih distinct, names_insert]
    -- A name that is there keeps its place; a new one comes last, and none of the later ones is the
    -- same.
    by_cases h : name ∈ m.names
    · rw [if_pos h, List.filter_cons_of_neg (by simpa using h)]
    · have hrest : (Entries.names pairs).filter (· ∉ m.names ++ [name]) =
          (Entries.names pairs).filter (· ∉ m.names) := by
        refine List.filter_congr fun other hother => ?_
        have hne : other ≠ name := by
          rintro rfl
          exact absent hother
        simp [hne]
      rw [if_neg h, hrest, List.filter_cons_of_pos (by simpa using h), List.append_assoc,
        List.singleton_append]

theorem get?_insertAll {pairs : List (String × String)}
    (distinct : (Entries.names pairs).Nodup) (m : FieldList) (name : String) :
    (m.insertAll pairs).get? name = (Entries.get? name pairs).or (m.get? name) := by
  induction pairs generalizing m with
  | nil => rfl
  | cons pair pairs ih =>
    obtain ⟨other, value⟩ := pair
    obtain ⟨absent, distinct⟩ := List.nodup_cons.mp distinct
    rw [insertAll_cons, ih distinct, get?_insert, Entries.get?]
    by_cases h : other = name
    · subst h
      have hrest := (Entries.get?_eq_none_iff other pairs).mpr absent
      rw [if_pos rfl, if_pos rfl, hrest, Option.none_or, Option.some_or]
    · rw [if_neg h, if_neg h]

theorem names_merge (m upper : FieldList) :
    (m.merge upper).names = m.names ++ upper.names.filter (· ∉ m.names) :=
  names_insertAll upper.nodup_names m

theorem get?_merge (m upper : FieldList) (name : String) :
    (m.merge upper).get? name = (upper.get? name).or (m.get? name) :=
  get?_insertAll upper.nodup_names m name

end FieldList

end PaymentGateway
