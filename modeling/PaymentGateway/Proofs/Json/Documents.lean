import PaymentGateway.Proofs.Json.Texts

/-!
# Reading documents back

A document is made of texts, of nothing, and of objects of documents.  What the writer makes of it
the reader takes apart again, in the same order; the length of what was written bounds its steps.
-/

namespace PaymentGateway.Json

/-- Values without numbers, truth values and arrays, and with all their texts. -/
inductive Document : Json → Prop
  | null : Document .null
  | text (s : String) : Document (.ofText s)
  | object {members : List (String × Json)} (h : ∀ member ∈ members, Document member.2) :
      Document (.ofMembers members)

/-- The reader takes a value off whatever stands behind it. -/
def ReadsBack (value : Json) : Prop :=
  ∀ fuel rest, value.toChars.length ≤ fuel →
    readValue? fuel (value.toChars ++ rest) = some (value, rest)

theorem readsBack_null : ReadsBack .null := by
  intro fuel rest hfuel
  cases fuel with
  | zero => cases hfuel
  | succ fuel => rfl

theorem readsBack_text (s : String) : ReadsBack (.ofText s) := by
  intro fuel rest hfuel
  cases fuel with
  | zero => cases hfuel
  | succ fuel =>
    show (readText? ((s.toList.flatMap escapedChar ++ ['"']) ++ rest)).map _ = _
    rw [List.append_assoc, List.singleton_append, readText?_escaped, String.ofList_toList]
    rfl

theorem exists_quoted (s : String) (rest : List Char) :
    ∃ quoted, textChars s ++ rest = '"' :: quoted ∧ readText? quoted = some (some s, rest) := by
  refine ⟨s.toList.flatMap escapedChar ++ '"' :: rest, ?_, ?_⟩
  · show '"' :: ((s.toList.flatMap escapedChar ++ ['"']) ++ rest) = _
    rw [List.append_assoc, List.singleton_append]
  · rw [readText?_escaped, String.ofList_toList]

theorem readMembers?_last {fuel : Nat} {cs rest : List Char} {value : Json}
    (h : readValue? fuel cs = some (value, '\x7d' :: rest)) (name : String) :
    readMembers? (fuel + 1) (textChars name ++ ':' :: cs) = some ([(some name, value)], rest) := by
  obtain ⟨quoted, hquoted, hname⟩ := exists_quoted name (':' :: cs)
  have hquote : skipSpace ('"' :: quoted) = '"' :: quoted := rfl
  have hcolon : skipSpace (':' :: cs) = ':' :: cs := rfl
  have hbrace : skipSpace ('\x7d' :: rest) = '\x7d' :: rest := rfl
  rw [hquoted]
  simp only [readMembers?, hquote, hname, hcolon, h, hbrace]

theorem readMembers?_cons {fuel : Nat} {cs rest : List Char} {value : Json}
    (h : readValue? fuel cs = some (value, ',' :: rest)) (name : String) :
    readMembers? (fuel + 1) (textChars name ++ ':' :: cs) =
      (readMembers? fuel rest).map fun read => ((some name, value) :: read.1, read.2) := by
  obtain ⟨quoted, hquoted, hname⟩ := exists_quoted name (':' :: cs)
  have hquote : skipSpace ('"' :: quoted) = '"' :: quoted := rfl
  have hcolon : skipSpace (':' :: cs) = ':' :: cs := rfl
  have hcomma : skipSpace (',' :: rest) = ',' :: rest := rfl
  rw [hquoted]
  simp only [readMembers?, hquote, hname, hcolon, h, hcomma]

/-- What is written of members begins with a quote. -/
theorem exists_memberChars (member : Option String × Json) (members : List (Option String × Json)) :
    ∃ behind, memberChars (member :: members) = '"' :: behind := by
  cases members <;> exact ⟨_, rfl⟩

/-- The members of an object are read back up to the brace behind them. -/
theorem readMembers?_memberChars {members : List (Option String × Json)} (hne : members ≠ [])
    (h : ∀ member ∈ members, ∃ name, member.1 = some name ∧ ReadsBack member.2) {fuel : Nat}
    (hfuel : (memberChars members).length ≤ fuel) (rest : List Char) :
    readMembers? fuel (memberChars members ++ '\x7d' :: rest) = some (members, rest) := by
  induction members generalizing fuel with
  | nil => exact absurd rfl hne
  | cons member members ih =>
    obtain ⟨name?, value⟩ := member
    obtain ⟨name, hname, hvalue⟩ := h _ List.mem_cons_self
    dsimp only at hname hvalue
    subst hname
    -- One unit of fuel for a member; its text alone is longer than that.
    cases fuel with
    | zero =>
      obtain ⟨behind, hbehind⟩ := exists_memberChars (some name, value) members
      rw [hbehind] at hfuel
      cases hfuel
    | succ fuel =>
      -- The last member ends at the closing brace, any other one at a comma.
      cases members with
      | nil =>
        have hlength : (textChars name ++ ':' :: value.toChars).length ≤ fuel + 1 := hfuel
        rw [List.length_append, List.length_cons] at hlength
        have hread := hvalue fuel ('\x7d' :: rest) (by omega)
        show readMembers? (fuel + 1) ((textChars name ++ ':' :: value.toChars) ++ '\x7d' :: rest) = _
        rw [List.append_assoc, List.cons_append, readMembers?_last hread]
      | cons next members =>
        have hlength : (textChars name ++ ':' :: value.toChars ++
            ',' :: memberChars (next :: members)).length ≤ fuel + 1 := hfuel
        rw [List.length_append, List.length_append, List.length_cons, List.length_cons] at hlength
        have hread := hvalue fuel (',' :: (memberChars (next :: members) ++ '\x7d' :: rest))
          (by omega)
        have hrest : readMembers? fuel (memberChars (next :: members) ++ '\x7d' :: rest) =
            some (next :: members, rest) :=
          ih (List.cons_ne_nil _ _) (fun m hm => h m (List.mem_cons_of_mem _ hm)) (by omega)
        show readMembers? (fuel + 1) ((textChars name ++ ':' :: value.toChars ++
          ',' :: memberChars (next :: members)) ++ '\x7d' :: rest) = _
        rw [List.append_assoc, List.append_assoc, List.cons_append, List.cons_append,
          readMembers?_cons hread, hrest, Option.map_some]

theorem readsBack_object {members : List (Option String × Json)}
    (h : ∀ member ∈ members, ∃ name, member.1 = some name ∧ ReadsBack member.2) :
    ReadsBack (.object members) := by
  intro fuel rest hfuel
  have hchars : (Json.object members).toChars ++ rest =
      '\x7b' :: (memberChars members ++ '\x7d' :: rest) := by
    show '\x7b' :: ((memberChars members ++ ['\x7d']) ++ rest) = _
    rw [List.append_assoc, List.singleton_append]
  -- The two braces are two characters that the members do not need fuel for.
  have hlength : (memberChars members).length + 2 ≤ fuel := by
    have hall : ('\x7b' :: (memberChars members ++ ['\x7d'])).length ≤ fuel := hfuel
    rw [List.length_cons, List.length_append, List.length_singleton] at hall
    exact hall
  rw [hchars]
  cases fuel with
  | zero => exact absurd hlength (by omega)
  | succ fuel =>
    cases members with
    | nil => rfl
    | cons member members =>
      have hfuel : (memberChars (member :: members)).length ≤ fuel := by omega
      have hread := readMembers?_memberChars (List.cons_ne_nil member members) h hfuel rest
      obtain ⟨behind, hbehind⟩ := exists_memberChars member members
      rw [hbehind] at hread ⊢
      show (readMembers? fuel ('"' :: behind ++ '\x7d' :: rest)).map _ = _
      rw [hread]
      rfl

/-- A document is read off whatever stands behind it. -/
theorem Document.readsBack {value : Json} (h : Document value) : ReadsBack value := by
  induction h with
  | null => exact readsBack_null
  | text s => exact readsBack_text s
  | object h ih =>
    apply readsBack_object
    intro member hmember
    obtain ⟨⟨name, value⟩, hmem, rfl⟩ := List.mem_map.mp hmember
    exact ⟨name, rfl, ih _ hmem⟩

/-- A document that was written is read back. -/
theorem Document.read?_toText {value : Json} (h : Document value) :
    read? value.toText = some value := by
  have hread := h.readsBack (2 * value.toChars.length + 2) [] (by omega)
  rw [List.append_nil] at hread
  unfold read? toText
  rw [String.toList_ofList, readChars?, hread]
  rfl

end PaymentGateway.Json
