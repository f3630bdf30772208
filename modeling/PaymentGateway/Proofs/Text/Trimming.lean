import PaymentGateway.Text.Characters

/-!
# What trimming leaves

Trimming drops white space at both ends and nothing else.  What is left begins and ends with a visible
character, and all visible characters are left, in their order.
-/

namespace PaymentGateway.Text

/-- `inner` is what is left of characters without the white space at their ends. -/
structure Trims (cs inner : List Char) : Prop where
  outer : ∃ before behind, cs = before ++ (inner ++ behind) ∧
    (∀ c ∈ before, isBlank c = true) ∧ ∀ c ∈ behind, isBlank c = true
  head : ∀ c ∈ inner.head?, isBlank c = false
  last : ∀ c ∈ inner.getLast?, isBlank c = false

/-- Characters are those that are dropped in front and those that begin with a visible one. -/
theorem exists_trimStart (cs : List Char) :
    ∃ before, cs = before ++ trimStart cs ∧ (∀ c ∈ before, isBlank c = true) ∧
      ∀ c ∈ (trimStart cs).head?, isBlank c = false := by
  refine ⟨cs.takeWhile isBlank, List.takeWhile_append_dropWhile.symm, ?_, ?_⟩
  · exact List.all_eq_true.mp List.all_takeWhile
  · intro c hc
    have hhead := List.head?_dropWhile_not isBlank cs
    rw [show (cs.dropWhile isBlank).head? = some c from hc] at hhead
    exact hhead

theorem reverse_trimEnd (cs : List Char) : (trimEnd cs).reverse = trimStart cs.reverse :=
  List.reverse_reverse _

theorem exists_trimEnd (cs : List Char) :
    ∃ behind, cs = trimEnd cs ++ behind ∧ (∀ c ∈ behind, isBlank c = true) ∧
      ∀ c ∈ (trimEnd cs).getLast?, isBlank c = false := by
  obtain ⟨behind, hcs, hblank, hhead⟩ := exists_trimStart cs.reverse
  rw [← reverse_trimEnd] at hcs hhead
  refine ⟨behind.reverse, ?_, ?_, ?_⟩
  · rw [← List.reverse_inj, hcs, List.reverse_append, List.reverse_reverse]
  · intro c hc
    exact hblank c (List.mem_reverse.mp hc)
  · rwa [List.head?_reverse] at hhead

theorem trims_trimChars (cs : List Char) : Trims cs (trimChars cs) := by
  obtain ⟨before, hcs, hbefore, hhead⟩ := exists_trimStart cs
  obtain ⟨behind, hstart, hbehind, hlast⟩ := exists_trimEnd (trimStart cs)
  refine ⟨⟨before, behind, ?_, hbefore, hbehind⟩, ?_, hlast⟩
  · rw [trimChars, ← hstart]
    exact hcs
  · intro c hc
    -- What ends visibly is not empty, so it begins as it did before its end was trimmed.
    apply hhead
    rw [hstart, List.head?_append]
    show (trimChars cs).head?.or _ = some c
    rw [show (trimChars cs).head? = some c from hc, Option.some_or]

theorem trimStart_of_visible {c : Char} (h : isBlank c = false) (cs : List Char) :
    trimStart (c :: cs) = c :: cs := by
  rw [trimStart, List.dropWhile_cons_of_neg (by rw [h]; decide)]

theorem trimStart_append {before : List Char} (hblank : ∀ c ∈ before, isBlank c = true)
    {cs : List Char} (hhead : ∀ c ∈ cs.head?, isBlank c = false) :
    trimStart (before ++ cs) = cs := by
  rw [trimStart, List.dropWhile_append_of_pos hblank]
  cases cs with
  | nil => rfl
  | cons c cs => exact trimStart_of_visible (hhead c rfl) cs

theorem trimEnd_append {behind : List Char} (hblank : ∀ c ∈ behind, isBlank c = true)
    {cs : List Char} (hlast : ∀ c ∈ cs.getLast?, isBlank c = false) :
    trimEnd (cs ++ behind) = cs := by
  rw [← List.reverse_inj, reverse_trimEnd, List.reverse_append]
  apply trimStart_append
  · intro c hc
    exact hblank c (List.mem_reverse.mp hc)
  · rwa [List.head?_reverse]

namespace Trims

variable {cs inner : List Char}

theorem eq_trimChars (h : Trims cs inner) : inner = trimChars cs := by
  obtain ⟨before, behind, rfl, hbefore, hbehind⟩ := h.outer
  -- If nothing is left, the start takes all; otherwise each end stops at a visible character.
  cases inner with
  | nil =>
    have hblank : ∀ c ∈ before ++ behind, isBlank c = true := by
      intro c hc
      exact (List.mem_append.mp hc).elim (hbefore c) (hbehind c)
    have hstart : trimStart (before ++ behind) = [] := by
      rw [← List.append_nil (before ++ behind)]
      exact trimStart_append hblank (by simp)
    rw [List.nil_append, trimChars, hstart]
    rfl
  | cons c inner =>
    have hhead : ∀ d ∈ (c :: inner ++ behind).head?, isBlank d = false := h.head
    rw [trimChars, trimStart_append hbefore hhead, trimEnd_append hbehind h.last]

/-- No visible character is dropped. -/
theorem filter_eq (h : Trims cs inner) :
    inner.filter (fun c => !isBlank c) = cs.filter fun c => !isBlank c := by
  have hnone : ∀ blank : List Char, (∀ c ∈ blank, isBlank c = true) →
      blank.filter (fun c => !isBlank c) = [] := by
    intro blank hblank
    rw [List.filter_eq_nil_iff]
    intro c hc
    simp [hblank c hc]
  obtain ⟨before, behind, rfl, hbefore, hbehind⟩ := h.outer
  rw [List.filter_append, List.filter_append, hnone before hbefore, hnone behind hbehind,
    List.nil_append, List.append_nil]

end Trims

theorem trims_iff {cs inner : List Char} : Trims cs inner ↔ inner = trimChars cs := by
  constructor
  · exact Trims.eq_trimChars
  · rintro rfl
    exact trims_trimChars cs

theorem trimChars_of_forall {cs : List Char} (h : ∀ c ∈ cs, isBlank c = false) :
    trimChars cs = cs := by
  have hself : Trims cs cs :=
    ⟨⟨[], [], (List.append_nil cs).symm, nofun, nofun⟩, fun c hc => h c (List.mem_of_head? hc),
      fun c hc => h c (List.mem_of_getLast? hc)⟩
  exact hself.eq_trimChars.symm

end PaymentGateway.Text
