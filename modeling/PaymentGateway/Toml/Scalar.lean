import PaymentGateway.Text.Characters
import PaymentGateway.Text.Reader
import PaymentGateway.Toml.Basic

/-! # Toml.Scalar — reading texts, numbers, truth values and times of a settings file -/

namespace PaymentGateway.Toml.Grammar

open Text (Reader)
open Text.Reader

/-! ## Blanks and lines -/

def isBlank (c : Char) : Bool :=
  c == ' ' || c == '\t'

/-- Whether a character may stand in comments and texts: all but the control characters. -/
def isPlain (c : Char) : Bool :=
  c == '\t' || (0x20 ≤ c.toNat && c.toNat != 0x7F)

def blanks : Reader Unit := do
  let _ ← takeWhile isBlank

def newline : Reader Unit :=
  mark '\n' <|> word ['\r', '\n']

def comment : Reader Unit := do
  mark '#'
  let _ ← takeWhile isPlain

/-- Takes what may follow on a line: blanks, a comment and the end. -/
def lineRest : Reader Unit := do
  blanks
  let _ ← optional comment
  newline <|> endOfText

/-- Takes blanks, comments and line ends. -/
def gap : Reader Unit := do
  let _ ← many ((do let _ ← satisfy isBlank) <|> newline <|> (do comment; newline))

/-! ## Texts -/

/-- Takes a given number of hexadecimal digits as a character. -/
def codePoint (count : Nat) : Reader Char := do
  let chars ← exactly (satisfy fun c => (Text.hexValue? c).isSome) count
  let n := Text.hexNumber (chars.filterMap Text.hexValue?)
  if n.isValidChar then pure (Char.ofNat n) else failure

def escape : Reader Char := do
  mark '\\'
  match ← satisfy fun _ => true with
  | 'b' => pure '\x08'
  | 't' => pure '\t'
  | 'n' => pure '\n'
  | 'f' => pure '\x0c'
  | 'r' => pure '\r'
  | '"' => pure '"'
  | '\\' => pure '\\'
  | 'u' => codePoint 4
  | 'U' => codePoint 8
  | _ => failure

/-- Takes a text between quotes, in which a backslash begins an escape. -/
def basicText : Reader (List Char) := do
  mark '"'
  let chars ← many (satisfy (fun c => isPlain c && c != '"' && c != '\\') <|> escape)
  mark '"'
  pure chars

/-- Takes a text between apostrophes, in which nothing is escaped. -/
def literalText : Reader (List Char) := do
  mark '\''
  let chars ← takeWhile fun c => isPlain c && c != '\''
  mark '\''
  pure chars

/-- Takes a backslash at the end of a line with all blanks and line ends behind it. -/
def lineJoin : Reader (List Char) := do
  mark '\\'
  blanks
  newline
  let _ ← many (newline <|> (do let _ ← satisfy isBlank))
  pure []

/-- Takes the end of a line as a line feed. -/
def innerNewline : Reader (List Char) := do
  newline
  pure ['\n']

/-- Takes one or two quotes that do not end a text of several lines. -/
def innerQuotes (quote : Char) : Reader (List Char) := do
  let quotes ← takeWhile (· == quote)
  if quotes.length == 1 || quotes.length == 2 then pure quotes else failure

/-- Takes the quotes that end a text of several lines; up to two more before them belong to it. -/
def closingQuotes (quote : Char) : Reader (List Char) := do
  let quotes ← takeWhile (· == quote)
  if 3 ≤ quotes.length && quotes.length ≤ 5 then pure (quotes.drop 3) else failure

/-- Takes a text of several lines, given what it consists of besides quotes. A line end right behind
the opening quotes does not belong to it. -/
def multilineText (quote : Char) (part : Reader (List Char)) : Reader (List Char) := do
  word [quote, quote, quote]
  let _ ← optional newline
  let parts ← many (part <|> innerQuotes quote)
  let last ← closingQuotes quote
  pure (parts.flatten ++ last)

def single (read : Reader Char) : Reader (List Char) := do
  let c ← read
  pure [c]

def multilineBasicText : Reader (List Char) :=
  multilineText '"' <|
    single (satisfy fun c => isPlain c && c != '"' && c != '\\') <|> lineJoin <|> single escape <|>
      innerNewline

def multilineLiteralText : Reader (List Char) :=
  multilineText '\'' <| single (satisfy fun c => isPlain c && c != '\'') <|> innerNewline

def text : Reader Toml := do
  let chars ← multilineBasicText <|> basicText <|> multilineLiteralText <|> literalText
  pure (.text (String.ofList chars))

/-! ## Numbers -/

/-- Takes digits, between which single underscores may stand. -/
def digits (isDigit : Char → Bool) : Reader (List Char) := do
  let first ← satisfy isDigit
  let rest ← many (satisfy isDigit <|> (do mark '_'; satisfy isDigit))
  pure (first :: rest)

/-- Takes a sign, if there is one, and says whether it is a minus. -/
def sign : Reader Bool := do
  match ← optional (satisfy fun c => c == '+' || c == '-') with
  | some '-' => pure true
  | _ => pure false

/-- Takes a whole number in decimal digits without leading zeros. -/
def wholeDigits : Reader (List Char) :=
  (do mark '0'; pure ['0']) <|> (do
    let first ← satisfy fun c => c.isDigit && c != '0'
    let rest ← many (satisfy Char.isDigit <|> (do mark '_'; satisfy Char.isDigit))
    pure (first :: rest))

/-- A whole number, if it fits 64 bits. -/
def integerOf (n : Int) : Reader Toml :=
  let bound : Int := Nat.pow 2 63
  if -bound ≤ n && n < bound then pure (.integer n) else failure

def ofBase (base : Nat) (chars : List Char) : Nat :=
  (chars.filterMap Text.hexValue?).foldl (fun n d => n * base + d.val) 0

/-- Takes a whole number behind the mark of its base. -/
def basedInteger (letter : Char) (base : Nat) : Reader Toml := do
  word ['0', letter]
  let chars ← digits fun c =>
    match Text.hexValue? c with
    | some d => d.val < base
    | none => false
  integerOf (ofBase base chars)

def decimalInteger : Reader Toml := do
  let negative ← sign
  let chars ← wholeDigits
  let n : Int := ofBase 10 chars
  integerOf (if negative then -n else n)

def integer : Reader Toml :=
  basedInteger 'x' 16 <|> basedInteger 'o' 8 <|> basedInteger 'b' 2 <|> decimalInteger

def exponent : Reader Int := do
  let _ ← satisfy fun c => c == 'e' || c == 'E'
  let negative ← sign
  let n : Int := ofBase 10 (← digits Char.isDigit)
  pure (if negative then -n else n)

def fraction : Reader (List Char) := do
  mark '.'
  digits Char.isDigit

/-- Whether a number rounds to infinity in double precision: that begins halfway between the largest
finite number and the next power of two. -/
def isInfinite (coefficient : Nat) (exponent : Int) : Bool :=
  let bound := Nat.pow 2 1024 - Nat.pow 2 970
  let length := (Text.decimalDigits coefficient).length + exponent
  if coefficient == 0 || length < 300 then false
  else if length > 320 then true
  else if 0 ≤ exponent then bound ≤ coefficient * Nat.pow 10 exponent.toNat
  else bound * Nat.pow 10 (-exponent).toNat ≤ coefficient

/-- Takes a number with a fraction or an exponent, unless it is too large. -/
def decimalFloat : Reader Toml := do
  let negative ← sign
  let whole ← wholeDigits
  let (behind, power) ←
    (do let power ← exponent; pure ([], power)) <|>
    (do let behind ← fraction; let power ← optional exponent; pure (behind, power.getD 0))
  if !negative && isInfinite (ofBase 10 (whole ++ behind)) (power - behind.length) then failure
  else pure .float

/-- Takes infinity or a value that is no number. -/
def specialFloat : Reader Toml := do
  let _ ← sign
  word ['i', 'n', 'f'] <|> word ['n', 'a', 'n']
  pure .float

def truth : Reader Toml :=
  (do word ['t', 'r', 'u', 'e']; pure (.bool true)) <|>
  (do word ['f', 'a', 'l', 's', 'e']; pure (.bool false))

/-! ## Times -/

/-- Takes a number of a fixed number of digits within bounds. -/
def fixedNumber (count low high : Nat) : Reader Nat := do
  let n := ofBase 10 (← exactly (satisfy Char.isDigit) count)
  if low ≤ n && n ≤ high then pure n else failure

def monthLength (year month : Nat) : Nat :=
  match month with
  | 2 => if year % 4 == 0 && (year % 100 != 0 || year % 400 == 0) then 29 else 28
  | 4 | 6 | 9 | 11 => 30
  | _ => 31

def calendarDay : Reader Unit := do
  let year ← fixedNumber 4 0 9999
  mark '-'
  let month ← fixedNumber 2 1 12
  mark '-'
  let _ ← fixedNumber 2 1 (monthLength year month)

def clockTime : Reader Unit := do
  let _ ← fixedNumber 2 0 23
  mark ':'
  let _ ← fixedNumber 2 0 59
  mark ':'
  let _ ← fixedNumber 2 0 60
  let _ ← optional (do
    mark '.'
    let _ ← satisfy Char.isDigit
    takeWhile Char.isDigit)

def offset : Reader Unit :=
  (do let _ ← satisfy fun c => c == 'Z' || c == 'z') <|> (do
    let _ ← satisfy fun c => c == '+' || c == '-'
    let _ ← fixedNumber 2 0 23
    mark ':'
    let _ ← fixedNumber 2 0 59)

/-- Takes a day, a time, or both with an offset if there is one. -/
def moment : Reader Toml := do
  (do
    calendarDay
    let _ ← optional (do
      let _ ← satisfy fun c => c == 'T' || c == 't' || c == ' '
      clockTime
      optional offset)) <|> clockTime
  pure .moment

/-- Takes any value that holds no other values. -/
def scalar : Reader Toml :=
  text <|> moment <|> decimalFloat <|> specialFloat <|> integer <|> truth

end PaymentGateway.Toml.Grammar
