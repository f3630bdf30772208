import PaymentGateway.Proofs.FieldList.Insertion

/-!
# Looking up what was written

A look-up sees the last value written under its name.  Below an overlay it sees what the overlay
does not name.
-/

namespace PaymentGateway

namespace Entries

theorem get?_put (name value other : String) (entries : List (String × String)) :
    get? other (put name value entries) = if name = other then some value else get? other entries := by
  induction entries with
  | nil => rfl
  | cons entry rest ih =>
    rw [put]
    by_cases hentry : entry.1 = name
    · rw [if_pos hentry, get?, get?, hentry]
      split <;> rfl
    · rw [if_neg hentry, get?, get?, ih]
      by_cases hother : entry.1 = other
      · rw [if_pos hother, if_pos hother, if_neg (fun h => hentry (hother.trans h.symm))]
      · rw [if_neg hother, if_neg hother]

theorem mem_of_get? {name value : String} {entries : List (String × String)}
    (h : get? name entries = some value) : (name, value) ∈ entries := by
  induction entries with
  | nil => cases h
  | cons entry rest ih =>
    rw [get?] at h
    by_cases hname : entry.1 = name
    · rw [if_pos hname, Option.some.injEq] at h
      rw [← hname, ← h]
      exact List.mem_cons_self
    · rw [if_neg hname] at h
      exact List.mem_cons_of_mem _ (ih h)

theorem get?_eq_some_iff {entries : List (String × String)} (distinct : (names entries).Nodup)
    (name value : String) : get? name entries = some value ↔ (name, value) ∈ entries := by
  refine ⟨mem_of_get?, fun hmem => ?_⟩
  induction entries with
  | nil => cases hmem
  | cons entry rest ih =>
    obtain ⟨absent, distinct⟩ := List.nodup_cons.mp distinct
    rw [get?]
    rcases List.mem_cons.mp hmem with rfl | hmem
    · rw [if_pos rfl]
    · have hname : entry.1 ≠ name := by
        rintro rfl
        exact absent (List.mem_map.mpr ⟨_, hmem, rfl⟩)
      rw [if_neg hname, ih distinct hmem]

end Entries

namespace FieldList

theorem get?_insert (m : FieldList) (name value other : String) :
    (m.insert name value).get? other = if name = other then some value else m.get? other :=
  Entries.get?_put name value other m.entries

theorem get?_insertAll_of_not_mem {name : String} {pairs : List (String × String)}
    (absent : name ∉ Entries.names pairs) (m : FieldList) :
    (m.insertAll pairs).get? name = m.get? name := by
  induction pairs generalizing m with
  | nil => rfl
  | cons pair pairs ih =>
    obtain ⟨other, value⟩ := pair
    rw [Entries.names, List.map_cons, List.mem_cons, not_or] at absent
    rw [insertAll_cons, ih absent.2, get?_insert, if_neg (fun h => absent.1 h.symm)]

/-- A name that an overlay does not use keeps its value below it. -/
theorem get?_merge_of_not_mem {name : String} {upper : FieldList} (absent : name ∉ upper.names)
    (m : FieldList) : (m.merge upper).get? name = m.get? name :=
  get?_insertAll_of_not_mem absent m

theorem get?_ofList {pairs : List (String × String)} (distinct : (Entries.names pairs).Nodup)
    (name : String) : (ofList pairs).get? name = Entries.get? name pairs := by
  rw [get?, entries_ofList distinct]

end FieldList

end PaymentGateway
