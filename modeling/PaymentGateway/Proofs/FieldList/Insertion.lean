import PaymentGateway.FieldList

/-!
# Writing into field lists

New names go to the end.  So writing pairs with distinct names gives these pairs, in their order.
-/

namespace PaymentGateway

namespace Entries

theorem put_of_not_mem {name : String} {entries : List (String × String)}
    (absent : name ∉ names entries) (value : String) :
    put name value entries = entries ++ [(name, value)] := by
  induction entries with
  | nil => rfl
  | cons entry rest ih =>
    rw [names, List.map_cons, List.mem_cons, not_or] at absent
    rw [put, if_neg (fun e => absent.1 e.symm), ih absent.2]
    rfl

theorem mem_put {name value : String} {entries : List (String × String)} {entry : String × String}
    (h : entry ∈ put name value entries) : entry = (name, value) ∨ entry ∈ entries := by
  induction entries with
  | nil => exact .inl (List.mem_singleton.mp h)
  | cons first rest ih =>
    rw [put] at h
    split at h
    · rw [List.mem_cons] at h
      exact h.imp_right (List.mem_cons_of_mem _)
    · rw [List.mem_cons] at h
      rcases h with rfl | h
      · exact .inr List.mem_cons_self
      · exact (ih h).imp_right (List.mem_cons_of_mem _)

end Entries

namespace FieldList

theorem ext_entries {m n : FieldList} (h : m.entries = n.entries) : m = n := by
  cases m
  cases n
  simpa using h

theorem insertAll_cons (m : FieldList) (name value : String) (pairs : List (String × String)) :
    m.insertAll ((name, value) :: pairs) = (m.insert name value).insertAll pairs := rfl

theorem entries_insert_of_not_mem {m : FieldList} {name : String} (absent : name ∉ m.names)
    (value : String) : (m.insert name value).entries = m.entries ++ [(name, value)] :=
  Entries.put_of_not_mem absent value

/-- Pairs with distinct new names come to stand behind the fields that were there. -/
theorem entries_insertAll {m : FieldList} {pairs : List (String × String)}
    (distinct : (Entries.names (m.entries ++ pairs)).Nodup) :
    (m.insertAll pairs).entries = m.entries ++ pairs := by
  induction pairs generalizing m with
  | nil => exact (List.append_nil _).symm
  | cons pair pairs ih =>
    obtain ⟨name, value⟩ := pair
    have absent : name ∉ m.names := by
      rw [Entries.names, List.map_append, List.map_cons, List.nodup_append] at distinct
      intro hmem
      exact distinct.2.2 name hmem name List.mem_cons_self rfl
    have moved : m.entries ++ (name, value) :: pairs = (m.insert name value).entries ++ pairs := by
      rw [entries_insert_of_not_mem absent, List.append_assoc]
      rfl
    rw [insertAll_cons, ih (moved ▸ distinct), ← moved]

theorem entries_ofList {pairs : List (String × String)} (distinct : (Entries.names pairs).Nodup) :
    (ofList pairs).entries = pairs :=
  entries_insertAll (m := empty) distinct

theorem ofList_entries (m : FieldList) : ofList m.entries = m :=
  ext_entries (entries_ofList m.nodup_names)

end FieldList

end PaymentGateway
