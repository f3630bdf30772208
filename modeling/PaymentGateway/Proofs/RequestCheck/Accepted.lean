import PaymentGateway.RequestCheck

/-!
# What an accepted request holds

A request is accepted exactly if the fields of every request and those of its shape are there and
not empty, and if no name and no value disturbs the framing.
-/

namespace PaymentGateway.RequestCheck

theorem require_eq_ok_iff (m : FieldList) (fields : List Field) :
    require m fields = .ok () ↔ ∀ field ∈ fields, isPresent m field = true := by
  unfold require
  cases h : fields.find? fun field => !isPresent m field with
  | none => simpa using h
  | some field =>
    have hmem := List.mem_of_find?_eq_some h
    have habsent : isPresent m field = false := by simpa using List.find?_some h
    constructor
    · intro hok
      cases hok
    · intro hall
      rw [hall field hmem] at habsent
      cases habsent

structure KeepsLine (entry : String × String) : Prop where
  name : isFramedName entry.1 = true
  value : entry.2.toList.any isLineBreak = false

theorem checkFraming_eq_ok_iff (entries : List (String × String)) :
    checkFraming entries = .ok () ↔ ∀ entry ∈ entries, KeepsLine entry := by
  induction entries with
  | nil => simp [checkFraming]
  | cons entry rest ih =>
    rw [List.forall_mem_cons, ← ih, checkFraming]
    cases hname : isFramedName entry.1 with
    | false =>
      rw [Bool.not_false, if_pos rfl]
      exact ⟨nofun, fun h => absurd h.1.name (by simp [hname])⟩
    | true =>
      rw [Bool.not_true, if_neg Bool.false_ne_true]
      cases hvalue : entry.2.toList.any isLineBreak with
      | true =>
        rw [if_pos rfl]
        exact ⟨nofun, fun h => absurd h.1.value (by simp [hvalue])⟩
      | false =>
        rw [if_neg Bool.false_ne_true]
        exact ⟨fun h => ⟨⟨hname, hvalue⟩, h⟩, fun h => h.2⟩

theorem KeepsLine.not_mem_name {entry : String × String} (h : KeepsLine entry) {c : Char}
    (hc : c = '=' ∨ isLineBreak c = true) : c ∉ entry.1.toList := by
  intro hmem
  have hname := h.name
  rw [isFramedName, Bool.and_eq_true, Bool.not_eq_true', Bool.not_eq_true',
    List.any_eq_false] at hname
  exact hname.2 c hmem (by simpa using hc)

theorem KeepsLine.not_mem_value {entry : String × String} (h : KeepsLine entry) {c : Char}
    (hc : isLineBreak c = true) : c ∉ entry.2.toList :=
  fun hmem => List.any_eq_false.mp h.value c hmem hc

theorem check_eq_ok_iff (m : FieldList) :
    check m = .ok () ↔ require m alwaysRequired = .ok () ∧
      require m (shapeRequired m) = .ok () ∧ checkFraming m.entries = .ok () := by
  unfold check
  cases require m alwaysRequired with
  | error fault => exact ⟨nofun, fun h => nomatch h.1⟩
  | ok =>
    cases require m (shapeRequired m) with
    | error fault => exact ⟨nofun, fun h => nomatch h.2.1⟩
    | ok => exact ⟨fun h => ⟨rfl, rfl, h⟩, fun h => h.2.2⟩

theorem keepsLine_of_check {m : FieldList} (h : check m = .ok ()) {entry : String × String}
    (hentry : entry ∈ m.entries) : KeepsLine entry :=
  (checkFraming_eq_ok_iff _).mp ((check_eq_ok_iff m).mp h).2.2 entry hentry

end PaymentGateway.RequestCheck
