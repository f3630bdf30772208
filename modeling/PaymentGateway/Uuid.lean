import PaymentGateway.Text.Characters

/-! # Uuid — identifiers of 128 bits

A UUID is its 32 hexadecimal digits. It is written in lower case in groups of 8, 4, 4, 4 and 12; it is
read in four forms. -/

namespace PaymentGateway

/-- An identifier of 32 hexadecimal digits. -/
structure Uuid where
  digits : List (Fin 16)
  length_digits : digits.length = 32
  deriving DecidableEq

namespace Uuid

def nil : Uuid := ⟨List.replicate 32 ⟨0, by decide⟩, by decide⟩

instance : Inhabited Uuid := ⟨nil⟩

def toChars (u : Uuid) : List Char :=
  let hex := u.digits.map Text.hexChar
  hex.take 8 ++ '-' :: (hex.drop 8).take 4 ++ '-' :: (hex.drop 12).take 4 ++
    '-' :: (hex.drop 16).take 4 ++ '-' :: hex.drop 20

def toText (u : Uuid) : String :=
  String.ofList u.toChars

def ofHex? (cs : List Char) : Option Uuid :=
  match cs.mapM Text.hexValue? with
  | some digits => if h : digits.length = 32 then some ⟨digits, h⟩ else none
  | none => none

def ofGroups? (cs : List Char) : Option Uuid :=
  if cs.length = 36 ∧ cs[8]? = some '-' ∧ cs[13]? = some '-' ∧ cs[18]? = some '-' ∧
      cs[23]? = some '-' then
    ofHex? (cs.take 8 ++ (cs.drop 9).take 4 ++ (cs.drop 14).take 4 ++ (cs.drop 19).take 4 ++
      cs.drop 24)
  else none

/-- The name space that may stand before the groups, in either case. -/
def namespaceMark : List Char := "urn:uuid:".toList

/-- The identifier that a list of characters spells: 32 digits; five groups; five groups between
braces; or five groups after the name space. -/
def ofChars? (cs : List Char) : Option Uuid :=
  if cs.length = 32 then ofHex? cs
  else if cs.length = 36 then ofGroups? cs
  else if cs.length = 38 ∧ cs.head? = some '\x7b' ∧ cs.getLast? = some '\x7d' then
    ofGroups? ((cs.drop 1).take 36)
  else if (cs.take 9).map Char.toLower = namespaceMark then ofGroups? (cs.drop 9)
  else none

def ofText? (s : String) : Option Uuid :=
  ofChars? s.toList

end Uuid

end PaymentGateway
