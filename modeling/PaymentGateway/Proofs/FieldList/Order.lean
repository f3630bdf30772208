import Mathlib.Data.List.Basic
import Mathlib.Data.List.Induction
import PaymentGateway.Proofs.FieldList.Lookup

/-!
# What a field list gathers from pairs

Pairs that are written one after another leave each name at the place where it was first written,
with the value that was last written under it.  Nothing else can be seen of them.
-/

namespace PaymentGateway

namespace Entries

/-- Entries with distinct names are known by these names and their values. -/
theorem eq_filterMap_get? {entries : List (String × String)} (distinct : (names entries).Nodup) :
    entries = (names entries).filterMap fun name =>
      (get? name entries).map fun value => (name, value) := by
  induction entries with
  | nil => rfl
  | cons entry rest ih =>
    obtain ⟨name, value⟩ := entry
    obtain ⟨absent, distinct⟩ := List.nodup_cons.mp distinct
    have hbehind : ∀ other ∈ names rest,
        (get? other ((name, value) :: rest)).map (fun value => (other, value)) =
          (get? other rest).map fun value => (other, value) := by
      intro other hother
      rw [get?, if_neg]
      rintro rfl
      exact absent hother
    show (name, value) :: rest = (name :: names rest).filterMap _
    rw [List.filterMap_cons, get?, if_pos rfl, Option.map_some, List.filterMap_congr hbehind,
      ← ih distinct]

end Entries

namespace FieldList

theorem ext_get? {m n : FieldList} (hnames : m.names = n.names)
    (hget : ∀ name, m.get? name = n.get? name) : m = n := by
  apply ext_entries
  rw [Entries.eq_filterMap_get? m.nodup_names, Entries.eq_filterMap_get? n.nodup_names]
  show m.names.filterMap (fun name => (m.get? name).map _) =
    n.names.filterMap fun name => (n.get? name).map _
  rw [hnames]
  simp only [hget]

theorem insertAll_append (m : FieldList) (pairs more : List (String × String)) :
    m.insertAll (pairs ++ more) = (m.insertAll pairs).insertAll more := List.foldl_append

theorem ofList_concat (pairs : List (String × String)) (name value : String) :
    ofList (pairs ++ [(name, value)]) = (ofList pairs).insert name value :=
  insertAll_append empty pairs [(name, value)]

theorem names_insert (m : FieldList) (name value : String) :
    (m.insert name value).names = if name ∈ m.names then m.names else m.names ++ [name] :=
  Entries.names_put name value m.entries

/-- A field list that holds pairs, each name at the place of its first pair and with the value of
its last one. -/
structure Gathers (m : FieldList) (pairs : List (String × String)) : Prop where
  names : m.names = (pairs.map Prod.fst).eraseDups
  get? : ∀ name, m.get? name = pairs.reverse.lookup name

theorem gathers_ofList (pairs : List (String × String)) : (ofList pairs).Gathers pairs := by
  -- From the end: the last pair decides its value, and its place only if the name is new.
  induction pairs using List.reverseRecOn with
  | nil => exact ⟨rfl, fun _ => rfl⟩
  | append_singleton pairs pair ih =>
    obtain ⟨name, value⟩ := pair
    rw [ofList_concat]
    constructor
    · rw [names_insert, ih.names, List.map_append, List.eraseDups_append, List.map_cons,
        List.map_nil, List.cons_removeAll]
      by_cases h : name ∈ pairs.map Prod.fst
      · simp [h]
      · simp [h, List.eraseDups_cons]
    · intro other
      rw [get?_insert, List.reverse_append, List.reverse_singleton, List.singleton_append,
        List.lookup_cons, ih.get?]
      by_cases h : name = other
      · subst h
        simp
      · rw [if_neg h, beq_eq_false_iff_ne.mpr (Ne.symm h)]

theorem gathers_iff {m : FieldList} {pairs : List (String × String)} :
    m.Gathers pairs ↔ m = ofList pairs := by
  have hself := gathers_ofList pairs
  constructor
  · intro h
    exact ext_get? (h.names.trans hself.names.symm) fun name =>
      (h.get? name).trans (hself.get? name).symm
  · rintro rfl
    exact hself

end FieldList

end PaymentGateway
