/-! # Text.Reader — taking values off the front of some characters

A reader looks at the characters that are left and either takes some of them for a value or fails. A
choice gives its second reader the characters that its first one saw. -/

namespace PaymentGateway.Text

/-- Takes a value off the front of the characters that are left. -/
abbrev Reader := StateT (List Char) Option

namespace Reader

variable {α : Type}

def satisfy (test : Char → Bool) : Reader Char
  | [] => none
  | c :: cs => if test c then some (c, cs) else none

def mark (c : Char) : Reader Unit := do
  let _ ← satisfy (· == c)

def word : List Char → Reader Unit
  | [] => pure ()
  | c :: cs => do
      mark c
      word cs

def takeWhile (test : Char → Bool) : Reader (List Char) := fun cs =>
  some (cs.takeWhile test, cs.dropWhile test)

def endOfText : Reader Unit
  | [] => some ((), [])
  | _ :: _ => none

/-- Takes at most a given number of values, as long as they are there. -/
def atMost (read : Reader α) : Nat → Reader (List α)
  | 0 => pure []
  | count + 1 => do
      match ← optional read with
      | none => pure []
      | some a => do
          let rest ← atMost read count
          pure (a :: rest)

/-- Takes values as long as they are there. No value is empty, so there are at most as many values as
characters. -/
def many (read : Reader α) : Reader (List α) := fun cs =>
  atMost read cs.length cs

def exactly (read : Reader α) : Nat → Reader (List α)
  | 0 => pure []
  | count + 1 => do
      let a ← read
      let rest ← exactly read count
      pure (a :: rest)

/-- Takes values with a separator between them, at least one. -/
def separated (separator : Reader Unit) (read : Reader α) : Reader (List α) := do
  let first ← read
  let rest ← many (do separator; read)
  pure (first :: rest)

/-- The value that all characters are, if a reader takes them all. -/
def readAll (read : Reader α) (cs : List Char) : Option α :=
  match read cs with
  | some (a, []) => some a
  | _ => none

end Reader

end PaymentGateway.Text
