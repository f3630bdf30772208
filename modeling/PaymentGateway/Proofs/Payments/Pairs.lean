import Mathlib.Data.List.Forall2
import PaymentGateway.Proofs.Payments.Effects

/-!
# Actions in pairs

Two actions make a pair if from related states they come to related results and related states.  A
pair of programs is built up like the programs are: one rule for each way of putting actions
together, and one for noting what they do.
-/

namespace PaymentGateway

inductive Matched {κ μ α β : Type} (E : κ → μ → Prop) (P : α → β → Prop) :
    Except κ α → Except μ β → Prop
  | ok {a : α} {b : β} (h : P a b) : Matched E P (.ok a) (.ok b)
  | error {error : κ} {other : μ} (h : E error other) : Matched E P (.error error) (.error other)

theorem Matched.refl {κ α : Type} {E : κ → κ → Prop} {P : α → α → Prop} (herror : ∀ e, E e e)
    (hvalue : ∀ a, P a a) (x : Except κ α) : Matched E P x x := by
  cases x with
  | error e => exact .error (herror e)
  | ok a => exact .ok (hvalue a)

theorem Matched.map {κ μ α β δ ε : Type} {E : κ → μ → Prop} {P : α → β → Prop} {Q : δ → ε → Prop}
    {x : Except κ α} {y : Except μ β} {f : α → δ} {g : β → ε} (h : Matched E P x y)
    (hvalue : ∀ a b, P a b → Q (f a) (g b)) : Matched E Q (x.map f) (y.map g) := by
  cases h with
  | ok h => exact .ok (hvalue _ _ h)
  | error h => exact .error h

theorem Matched.imp {κ μ α β : Type} {E F : κ → μ → Prop} {P : α → β → Prop} {x : Except κ α}
    {y : Except μ β} (h : Matched E P x y) (herror : ∀ e f, E e f → F e f) : Matched F P x y := by
  cases h with
  | ok h => exact .ok h
  | error h => exact .error (herror _ _ h)

namespace Action

variable {σ τ α β δ ε : Type} {E : Failure → Failure → Prop} {R : σ → τ → Prop}
  {P : α → β → Prop} {Q : δ → ε → Prop}

/-- Two actions that from related states come to related results and related states. -/
def Paired (E : Failure → Failure → Prop) (R : σ → τ → Prop) (P : α → β → Prop)
    (x : Action (StateM σ) α) (y : Action (StateM τ) β) : Prop :=
  ∀ s t, R s t → Matched E P (perform x s).1 (perform y t).1 ∧ R (perform x s).2 (perform y t).2

namespace Paired

theorem pure {a : α} {b : β} (h : P a b) :
    Paired E R P (pure a : Action (StateM σ) α) (pure b : Action (StateM τ) β) :=
  fun _ _ related => ⟨.ok h, related⟩

theorem throw {failure other : Failure} (h : E failure other) :
    Paired E R P (throw failure : Action (StateM σ) α) (throw other : Action (StateM τ) β) :=
  fun _ _ related => ⟨.error h, related⟩

theorem liftM {step : StateM σ α} {other : StateM τ β}
    (h : ∀ s t, R s t → P (step s).1 (other t).1 ∧ R (step s).2 (other t).2) :
    Paired E R P (liftM step : Action (StateM σ) α) (liftM other : Action (StateM τ) β) :=
  fun s t related => ⟨.ok (h s t related).1, (h s t related).2⟩

theorem bind {x : Action (StateM σ) α} {y : Action (StateM τ) β} {f : α → Action (StateM σ) δ}
    {g : β → Action (StateM τ) ε} (h : Paired E R P x y)
    (hf : ∀ a b, P a b → Paired E R Q (f a) (g b)) : Paired E R Q (x >>= f) (y >>= g) := by
  intro s t related
  obtain ⟨hresult, hafter⟩ := h s t related
  rcases hx : perform x s with ⟨failure | a, s'⟩ <;>
    rcases hy : perform y t with ⟨other | b, t'⟩ <;>
    rw [hx, hy] at hresult hafter <;>
    cases hresult
  · rename_i hfailure
    rw [perform_bind_of_error hx, perform_bind_of_error hy]
    exact ⟨.error hfailure, hafter⟩
  · rename_i hvalue
    rw [perform_bind_of_ok hx, perform_bind_of_ok hy]
    exact hf a b hvalue s' t' hafter

theorem tryCatch {x : Action (StateM σ) α} {y : Action (StateM τ) β}
    {f : Failure → Action (StateM σ) α} {g : Failure → Action (StateM τ) β}
    (h : Paired E R P x y)
    (hf : ∀ failure other, E failure other → Paired E R P (f failure) (g other)) :
    Paired E R P (tryCatch x f) (tryCatch y g) := by
  intro s t related
  obtain ⟨hresult, hafter⟩ := h s t related
  rw [perform_tryCatch, perform_tryCatch]
  rcases hx : perform x s with ⟨failure | a, s'⟩ <;>
    rcases hy : perform y t with ⟨other | b, t'⟩ <;>
    rw [hx, hy] at hresult hafter <;>
    cases hresult
  · rename_i hfailure
    exact hf failure other hfailure s' t' hafter
  · rename_i hvalue
    exact ⟨.ok hvalue, hafter⟩

end Paired

/-! ## Noting what is done -/

def Noted (R : σ → τ → Prop) (V : Effect → Effect → Prop) (s : Observed σ) (t : Observed τ) :
    Prop :=
  R s.1 t.1 ∧ List.Forall₂ V s.2 t.2

theorem Paired.noting {V : Effect → Effect → Prop} {x : Action (StateM σ) α}
    {y : Action (StateM τ) β} {note : Except Failure α → List Effect}
    {other : Except Failure β → List Effect} (h : Paired E R P x y)
    (hnote : ∀ a b, Matched E P a b → List.Forall₂ V (note a) (other b)) :
    Paired E (Noted R V) P (noting note x) (noting other y) := by
  rintro ⟨s, effects⟩ ⟨t, others⟩ ⟨related, heffects⟩
  obtain ⟨hresult, hafter⟩ := h s t related
  rw [perform_noting, perform_noting]
  exact ⟨hresult, hafter, List.rel_append heffects (hnote _ _ hresult)⟩

theorem Paired.silently {V : Effect → Effect → Prop} {x : Action (StateM σ) α}
    {y : Action (StateM τ) β} (h : Paired E R P x y) :
    Paired E (Noted R V) P (silently x) (silently y) :=
  h.noting fun _ _ _ => .nil

end Action

end PaymentGateway
