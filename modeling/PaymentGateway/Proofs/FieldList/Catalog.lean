import PaymentGateway.Proofs.FieldList.Lookup
import PaymentGateway.RequestCheck

/-!
# Fields of the catalog

No two fields share a wire name, and every wire name can be framed.  So pairs of fields and values
are looked up by field as they are by name.
-/

namespace PaymentGateway

namespace Field

theorem mem_all (field : Field) : field ∈ all := by
  cases field <;> decide +kernel

theorem ofWireName?_wireName (field : Field) : ofWireName? field.wireName = some field := by
  have hall : ∀ field ∈ all, ofWireName? field.wireName = some field := by decide +kernel
  exact hall field field.mem_all

theorem wireName_inj {field other : Field} : field.wireName = other.wireName ↔ field = other := by
  constructor
  · intro h
    have hfield := ofWireName?_wireName field
    rw [h, ofWireName?_wireName other, Option.some_inj] at hfield
    exact hfield.symm
  · exact congrArg wireName

theorem isFramedName_wireName (field : Field) :
    RequestCheck.isFramedName field.wireName = true := by
  cases field <;> decide +kernel

def entry (pair : Field × String) : String × String :=
  (pair.1.wireName, pair.2)

end Field

theorem Entries.names_map_entry (pairs : List (Field × String)) :
    names (pairs.map Field.entry) = (pairs.map Prod.fst).map Field.wireName := by
  rw [names, List.map_map, List.map_map]
  rfl

theorem Entries.nodup_names_map_entry {pairs : List (Field × String)}
    (distinct : (pairs.map Prod.fst).Nodup) : (names (pairs.map Field.entry)).Nodup := by
  rw [names_map_entry]
  exact List.Pairwise.map _ (fun _ _ hne hname => hne (Field.wireName_inj.mp hname)) distinct

theorem Entries.get?_map_entry (field : Field) (pairs : List (Field × String)) :
    get? field.wireName (pairs.map Field.entry) = pairs.lookup field := by
  induction pairs with
  | nil => rfl
  | cons pair pairs ih =>
    obtain ⟨other, value⟩ := pair
    rw [List.map_cons, Field.entry, get?, List.lookup_cons, ih]
    by_cases h : field = other
    · rw [if_pos (congrArg Field.wireName h.symm), beq_iff_eq.mpr h]
    · rw [if_neg (fun hname => h (Field.wireName_inj.mp hname).symm), beq_eq_false_iff_ne.mpr h]

end PaymentGateway
