import Mathlib.Data.List.Forall2
import PaymentGateway.Proofs.Text.SingleLine
import PaymentGateway.RequestCheck

/-!
# The check does not tell secrets apart

Two secrets that are visible and keep to one line are the same to the check: it finds the same fault
in requests that differ in nothing else.
-/

namespace PaymentGateway

/-! ## Secrets -/

/-- A text that a secret may be. -/
structure Hideable (text : String) : Prop where
  visible : Text.isBlankText text = false
  singleLine : SingleLine text

theorem Hideable.ne_empty {text : String} (h : Hideable text) : text ≠ "" := by
  rintro rfl
  cases h.visible

inductive Veiled : String → String → Prop
  | same (text : String) : Veiled text text
  | secret {text other : String} (h : Hideable text) (hother : Hideable other) :
      Veiled text other

namespace Veiled

variable {text other : String}

theorem isBlankText_eq (h : Veiled text other) :
    Text.isBlankText text = Text.isBlankText other := by
  cases h with
  | same => rfl
  | secret h hother => rw [h.visible, hother.visible]

theorem bne_empty_eq (h : Veiled text other) : (text != "") = (other != "") := by
  cases h with
  | same => rfl
  | secret h hother => rw [bne_iff_ne.mpr h.ne_empty, bne_iff_ne.mpr hother.ne_empty]

theorem any_isLineBreak_eq (h : Veiled text other) :
    text.toList.any RequestCheck.isLineBreak = other.toList.any RequestCheck.isLineBreak := by
  cases h with
  | same => rfl
  | secret h hother =>
    rw [(any_isLineBreak_eq_false_iff _).mpr h.singleLine,
      (any_isLineBreak_eq_false_iff _).mpr hother.singleLine]

end Veiled

theorem rel_veiled_refl (value : Option String) : Option.Rel Veiled value value := by
  cases value with
  | none => exact .none
  | some text => exact .some (.same text)

/-! ## Secrets in field lists -/

def secretNames : List String :=
  ["pg_password", "ecom_payment_card_number", "ecom_payment_check_account"]

/-- Two values under one name, which are the same unless it is the name of a secret. -/
inductive VeiledEntry : String × String → String × String → Prop
  | same (entry : String × String) : VeiledEntry entry entry
  | secret {name text other : String} (hname : name ∈ secretNames) (h : Hideable text)
      (hother : Hideable other) : VeiledEntry (name, text) (name, other)

namespace VeiledEntry

variable {entry other : String × String}

theorem fst_eq (h : VeiledEntry entry other) : entry.1 = other.1 := by
  cases h <;> rfl

theorem snd (h : VeiledEntry entry other) : Veiled entry.2 other.2 := by
  cases h with
  | same => exact .same _
  | secret _ h hother => exact .secret h hother

end VeiledEntry

theorem Veiled.entry {name text other : String} (h : Veiled text other)
    (hname : name ∈ secretNames) : VeiledEntry (name, text) (name, other) := by
  cases h with
  | same => exact .same _
  | secret h hother => exact .secret hname h hother

namespace Entries

variable {entries others : List (String × String)}

theorem rel_get? (h : List.Forall₂ VeiledEntry entries others) (name : String) :
    Option.Rel Veiled (get? name entries) (get? name others) := by
  induction h with
  | nil => exact .none
  | cons hentry _ ih =>
    rw [get?, get?, hentry.fst_eq]
    split
    · exact .some hentry.snd
    · exact ih

theorem checkFraming_eq (h : List.Forall₂ VeiledEntry entries others) :
    RequestCheck.checkFraming entries = RequestCheck.checkFraming others := by
  induction h with
  | nil => rfl
  | cons hentry _ ih =>
    rw [RequestCheck.checkFraming, RequestCheck.checkFraming, hentry.fst_eq,
      hentry.snd.any_isLineBreak_eq, ih]

end Entries

/-- Two field lists with the same names that differ in secrets only. -/
def FieldList.Veils (m n : FieldList) : Prop :=
  List.Forall₂ VeiledEntry m.entries n.entries

namespace FieldList.Veils

variable {m n : FieldList}

theorem isPresent_eq (h : m.Veils n) (field : Field) :
    RequestCheck.isPresent m field = RequestCheck.isPresent n field := by
  have hget : Option.Rel Veiled (m.field? field) (n.field? field) := Entries.rel_get? h _
  unfold RequestCheck.isPresent
  generalize m.field? field = value at hget ⊢
  generalize n.field? field = other at hget ⊢
  cases hget with
  | none => rfl
  | some h => exact h.bne_empty_eq

theorem contains_eq (h : m.Veils n) (field : Field) : m.contains field = n.contains field := by
  have hget : Option.Rel Veiled (m.field? field) (n.field? field) := Entries.rel_get? h _
  unfold contains
  generalize m.field? field = value at hget ⊢
  generalize n.field? field = other at hget ⊢
  cases hget <;> rfl

theorem require_eq (h : m.Veils n) (fields : List Field) :
    RequestCheck.require m fields = RequestCheck.require n fields := by
  have hpresent : RequestCheck.isPresent m = RequestCheck.isPresent n := funext h.isPresent_eq
  rw [RequestCheck.require, RequestCheck.require, hpresent]

theorem shapeRequired_eq (h : m.Veils n) :
    RequestCheck.shapeRequired m = RequestCheck.shapeRequired n := by
  simp only [RequestCheck.shapeRequired, h.contains_eq]

/-- The check comes to the same whatever the secrets are. -/
theorem check_eq (h : m.Veils n) : RequestCheck.check m = RequestCheck.check n := by
  unfold RequestCheck.check
  rw [h.require_eq, h.require_eq, h.shapeRequired_eq, Entries.checkFraming_eq h]

end FieldList.Veils

end PaymentGateway
