import PaymentGateway.Toml.Scalar

/-! # Toml.Document — reading a settings file

A file is a list of statements: headers and assignments. Its entries follow from them in order, and a
statement that contradicts an earlier one makes the file none. -/

namespace PaymentGateway.Toml.Grammar

open Text (Reader)
open Text.Reader

/-! ## Names -/

def nameStep : Reader String := do
  blanks
  let chars ← basicText <|> literalText <|> (do
    let first ← satisfy isBareCharacter
    let rest ← takeWhile isBareCharacter
    pure (first :: rest))
  blanks
  pure (String.ofList chars)
where
  -- Whether a character needs no quotes in a name.
  isBareCharacter (c : Char) : Bool :=
    c.isAlphanum || c == '_' || c == '-'

/-- The number of steps or levels that is too many. -/
def depthLimit : Nat := 80

/-- Takes a name: steps with dots between them. -/
def name : Reader (List String) := do
  let steps ← separated (mark '.') nameStep
  if steps.length < depthLimit then pure steps else failure

/-! ## Values -/

/-- Takes an array, given how to take its items. -/
def array (item : Reader Toml) : Reader Toml := do
  mark '['
  let items ← optional (do
    let items ← separated (mark ',') (do gap; let item ← item; gap; pure item)
    let _ ← optional (mark ',')
    pure items)
  gap
  mark ']'
  pure (.array (items.getD []))

def assignment (value : Reader Toml) : Reader (List String × Toml) := do
  let steps ← name
  mark '='
  blanks
  let value ← value
  pure (steps, value)

def assignName (entries : List (String × Toml)) (assignment : List String × Toml) :
    Option (List (String × Toml)) := do
  let last ← assignment.1.getLast?
  assign entries assignment.1.dropLast last assignment.2

/-- Takes a table between braces, given how to take its values. -/
def inlineTable (value : Reader Toml) : Reader Toml := do
  mark '\x7b'
  let assignments ← optional <| separated (mark ',') (do
    let pair ← assignment value
    blanks
    pure pair)
  blanks
  mark '\x7d'
  let entries ← liftM ((assignments.getD []).foldlM assignName [])
  pure (.table .inlined entries)

/-- Takes a value with at most a given number of levels inside. -/
def value : (depth : Nat) → Reader Toml
  | 0 => scalar
  | depth + 1 => scalar <|> array (value depth) <|> inlineTable (value depth)

/-! ## Statements -/

inductive Statement where
  | header (path : List String)
  -- A header in double brackets.
  | itemHeader (path : List String)
  | assignment (name : List String) (value : Toml)

def header : Reader Statement :=
  (do
    word ['[', '[']
    let path ← name
    word [']', ']']
    pure (.itemHeader path)) <|> (do
    mark '['
    let path ← name
    mark ']'
    pure (.header path))

/-- Takes a statement up to the end of its line. -/
def statement : Reader Statement := do
  let statement ← header <|> (do
    let (name, value) ← assignment (value (depthLimit - 1))
    pure (.assignment name value))
  lineRest
  pure statement

/-- Takes one line: a statement, or nothing but blanks and a comment. -/
def line : Reader (Option Statement) :=
  (do
    blanks
    (do newline; pure none) <|> (do comment; newline <|> endOfText; pure none) <|>
      some <$> statement)

def statements : Reader (List Statement) := do
  let _ ← optional (mark '\ufeff')
  let lines ← many line
  blanks
  pure (lines.filterMap id)

end PaymentGateway.Toml.Grammar

namespace PaymentGateway.Toml

open Grammar

/-! ## Files -/

/-- The entries of a file so far, and the header under which assignments stand. -/
structure Document where
  entries : List (String × Toml) := []
  path : List String := []

/-- The document after one more statement, unless it contradicts an earlier one. -/
def Document.add (document : Document) : Statement → Option Document
  | .header path => do
      let entries ← changeAt (openTable (path.getLastD "")) document.entries path.dropLast
      pure ⟨entries, path⟩
  | .itemHeader path => do
      let entries ← changeAt (openItem (path.getLastD "")) document.entries path.dropLast
      pure ⟨entries, path⟩
  | .assignment name value => do
      let entries ← changeAt (assignName · (name, value)) document.entries document.path
      pure { document with entries }

def read? (text : String) : Option (List (String × Toml)) := do
  let statements ← Text.Reader.readAll statements text.toList
  let document ← statements.foldlM Document.add {}
  pure document.entries

end PaymentGateway.Toml
