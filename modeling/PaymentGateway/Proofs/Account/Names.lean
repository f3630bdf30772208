import PaymentGateway.Account
import PaymentGateway.Proofs.Text.Trimming

/-!
# The two names of an account

The first name is cut from the last name at a byte of the whole name, and that byte is found by
counting characters.  So it never lies inside a character, whatever the text and the count.  Each
name is one side of the cut without the white space at its ends, and between them they keep every
visible character of the whole name.
-/

namespace PaymentGateway

namespace Text

/-! ## Bytes and characters -/

/-- The byte at which each character begins, the first of them at `start`. -/
def charStarts (start : Nat) : List Char → List Nat
  | [] => []
  | c :: cs => start :: charStarts (start + c.utf8Size) cs

/-- The byte behind the first `count` characters of a text, its end if it has no more. -/
def boundary (text : String) (count : Nat) : String.Pos.Raw :=
  ⟨(charStarts 0 text.toList)[count]?.getD text.utf8ByteSize⟩

/-- What stands before a byte, unless that byte lies inside a character or behind the text. -/
def before? (text : String) (place : String.Pos.Raw) : Option String :=
  if h : place.IsValid text then some (text.sliceTo (text.pos place h)).copy else none

def behind? (text : String) (place : String.Pos.Raw) : Option String :=
  if h : place.IsValid text then some (text.sliceFrom (text.pos place h)).copy else none

theorem utf8ByteSize_ofList_cons (c : Char) (cs : List Char) :
    (String.ofList (c :: cs)).utf8ByteSize = c.utf8Size + (String.ofList cs).utf8ByteSize := by
  rw [String.ofList_cons, String.utf8ByteSize_append, String.utf8ByteSize_singleton]

theorem getD_charStarts (start count : Nat) (cs : List Char) :
    (charStarts start cs)[count]?.getD (start + (String.ofList cs).utf8ByteSize) =
      start + (String.ofList (cs.take count)).utf8ByteSize := by
  induction cs generalizing start count with
  | nil => rw [List.take_nil]; rfl
  | cons c cs ih =>
    cases count with
    | zero => rfl
    | succ count =>
      have hrest := ih (start + c.utf8Size) count
      rw [List.take_succ_cons, utf8ByteSize_ofList_cons, utf8ByteSize_ofList_cons,
        ← Nat.add_assoc, ← Nat.add_assoc]
      exact hrest

theorem byteIdx_boundary (text : String) (count : Nat) :
    (boundary text count).byteIdx = (String.ofList (text.toList.take count)).utf8ByteSize := by
  have hstarts := getD_charStarts 0 count text.toList
  rw [String.ofList_toList, Nat.zero_add, Nat.zero_add] at hstarts
  exact hstarts

theorem isValid_boundary (text : String) (count : Nat) : (boundary text count).IsValid text :=
  String.Pos.Raw.isValid_iff_exists_take_toList.mpr ⟨count, byteIdx_boundary text count⟩

theorem splits_boundary (text : String) (count : Nat) :
    (text.pos (boundary text count) (isValid_boundary text count)).Splits
      (String.ofList (text.toList.take count)) (String.ofList (text.toList.drop count)) where
  eq_append := by
    rw [← String.ofList_append, List.take_append_drop, String.ofList_toList]
  offset_eq_rawEndPos := by
    apply String.Pos.Raw.ext
    exact byteIdx_boundary text count

theorem before?_boundary (text : String) (count : Nat) :
    before? text (boundary text count) = some (String.ofList (text.toList.take count)) := by
  rw [before?, dif_pos (isValid_boundary text count), (splits_boundary text count).copy_sliceTo_eq]

theorem behind?_boundary (text : String) (count : Nat) :
    behind? text (boundary text count) = some (String.ofList (text.toList.drop count)) := by
  rw [behind?, dif_pos (isValid_boundary text count),
    (splits_boundary text count).copy_sliceFrom_eq]

theorem boundary_zero (text : String) : boundary text 0 = 0 := by
  apply String.Pos.Raw.ext
  rw [byteIdx_boundary, List.take_zero]
  rfl

end Text

namespace Account

/-! ## Names cut from bytes -/

def cutFirstName? (a : Account) : Option (Option String) :=
  match a.firstNameLength with
  | some length =>
      (Text.before? a.name (Text.boundary a.name length)).map fun text => visible? text.toList
  | none => some none

def cutLastName? (a : Account) : Option (Option String) :=
  let place := (a.firstNameLength.map (Text.boundary a.name)).getD 0
  (Text.behind? a.name place).map fun text => visible? text.toList

theorem cutFirstName?_eq (a : Account) : a.cutFirstName? = some a.firstName := by
  unfold cutFirstName? firstName
  cases a.firstNameLength with
  | none => rfl
  | some length =>
    show (Text.before? a.name _).map _ = _
    rw [Text.before?_boundary, Option.map_some, String.toList_ofList]

theorem cutLastName?_eq (a : Account) : a.cutLastName? = some a.lastName := by
  have hplace : (a.firstNameLength.map (Text.boundary a.name)).getD 0 =
      Text.boundary a.name (a.firstNameLength.getD 0) := by
    cases a.firstNameLength with
    | none => exact (Text.boundary_zero a.name).symm
    | some length => rfl
  unfold cutLastName? lastName
  show (Text.behind? a.name _).map _ = _
  rw [hplace, Text.behind?_boundary, Option.map_some, String.toList_ofList]

/-! ## What the names hold -/

theorem visible?_eq_some_iff (cs : List Char) (name : String) :
    visible? cs = some name ↔ name ≠ "" ∧ Text.Trims cs name.toList := by
  rw [Text.trims_iff, ne_eq, ← String.toList_eq_nil_iff]
  unfold visible?
  cases htrimmed : Text.trimChars cs with
  | nil => simp
  | cons c trimmed =>
    show some (String.ofList (c :: trimmed)) = some name ↔ _
    rw [Option.some_inj]
    constructor
    · rintro rfl
      rw [String.toList_ofList]
      exact ⟨List.cons_ne_nil c trimmed, rfl⟩
    · rintro ⟨-, hname⟩
      rw [← hname, String.ofList_toList]

theorem visible?_eq_none_iff (cs : List Char) : visible? cs = none ↔ Text.Trims cs [] := by
  rw [Text.trims_iff]
  unfold visible?
  cases Text.trimChars cs <;> simp

theorem filter_visible? (cs : List Char) :
    ((visible? cs).getD "").toList.filter (fun c => !Text.isBlank c) =
      cs.filter fun c => !Text.isBlank c := by
  cases hname : visible? cs with
  | none => exact ((visible?_eq_none_iff cs).mp hname).filter_eq
  | some name => exact ((visible?_eq_some_iff cs name).mp hname).2.filter_eq

structure NamesApart (a : Account) : Prop where
  boundary : ∀ length, a.firstNameLength = some length →
    (Text.boundary a.name length).IsValid a.name
  cutFirst : a.cutFirstName? = some a.firstName
  cutLast : a.cutLastName? = some a.lastName
  first : ∀ name, a.firstName = some name ↔ ∃ length, a.firstNameLength = some length ∧
    name ≠ "" ∧ Text.Trims (a.name.toList.take (min length a.name.length)) name.toList
  noFirst : a.firstName = none ↔ ∀ length, a.firstNameLength = some length →
    Text.Trims (a.name.toList.take (min length a.name.length)) []
  last : ∀ name, a.lastName = some name ↔ name ≠ "" ∧
    Text.Trims (a.name.toList.drop (min (a.firstNameLength.getD 0) a.name.length)) name.toList
  noLast : a.lastName = none ↔
    Text.Trims (a.name.toList.drop (min (a.firstNameLength.getD 0) a.name.length)) []
  visible : ((a.firstName.getD "").toList ++ (a.lastName.getD "").toList).filter
      (fun c => !Text.isBlank c) = a.name.toList.filter fun c => !Text.isBlank c

theorem take_min_length (name : String) (count : Nat) :
    name.toList.take (min count name.length) = name.toList.take count := by
  rw [← String.length_toList]
  exact List.take_eq_take_min.symm

theorem drop_min_length (name : String) (count : Nat) :
    name.toList.drop (min count name.length) = name.toList.drop count := by
  rw [← String.length_toList]
  exact List.drop_eq_drop_min.symm

/-- The names of an account are cut between characters, and nothing but white space is lost. -/
theorem namesApart (a : Account) : a.NamesApart where
  boundary length _ := Text.isValid_boundary a.name length
  cutFirst := a.cutFirstName?_eq
  cutLast := a.cutLastName?_eq
  first name := by
    unfold firstName
    cases a.firstNameLength with
    | none => simp
    | some length => simp [take_min_length, visible?_eq_some_iff]
  noFirst := by
    unfold firstName
    cases a.firstNameLength with
    | none => simp
    | some length => simp [take_min_length, visible?_eq_none_iff]
  last name := by
    rw [drop_min_length, lastName, visible?_eq_some_iff]
  noLast := by
    rw [drop_min_length, lastName, visible?_eq_none_iff]
  visible := by
    -- Trimming takes away no visible character, and the two names are cut from one text.
    rw [List.filter_append, lastName, filter_visible?]
    unfold firstName
    cases a.firstNameLength with
    | none => rfl
    | some length =>
      show ((visible? (a.name.toList.take length)).getD "").toList.filter _ ++
        (a.name.toList.drop length).filter _ = _
      rw [filter_visible?, ← List.filter_append, List.take_append_drop]

end Account

end PaymentGateway
