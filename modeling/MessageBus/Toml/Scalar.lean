import MessageBus.Settings.Variable
import MessageBus.Text.Hex
import MessageBus.Time.Calendar
/-!
The parts of a TOML document that hold no values themselves: gaps and comments, string literals,
numbers, and dates with times of day. Each reader takes what it reads off the front of a text and
leaves the rest. A date or time is kept as its text in normal form.
-/

set_option autoImplicit false
set_option relaxedAutoImplicit false

namespace MessageBus.Toml

def isGap (c : Char) : Bool := c = ' ' || c = '\t'

def skipGap (s : List Char) : List Char := s.dropWhile isGap

/-- Reads the end of a line. -/
def newline? : List Char → Option (List Char)
  | '\n' :: rest => some rest
  | '\r' :: '\n' :: rest => some rest
  | _ => none

/-- Whether a character may stand for itself in comments and literals. -/
def isPlain (c : Char) : Bool := c = '\t' || (0x20 ≤ c.toNat && c.toNat ≠ 0x7f)

def skipComment : List Char → List Char
  | '#' :: rest => rest.dropWhile isPlain
  | s => s

/-- Reads what may follow the last token of a line. -/
def endOfLine? (s : List Char) : Option (List Char) :=
  match skipComment (skipGap s) with
  | [] => some []
  | s => newline? s

/-- Skips gaps, comments and ends of lines. -/
def skipLines : Nat → List Char → List Char
  | 0, s => s
  | fuel + 1, s =>
    match skipComment (skipGap s) with
    | '\n' :: rest => skipLines fuel rest
    | '\r' :: '\n' :: rest => skipLines fuel rest
    | s => s

/-- Skips gaps and ends of lines. -/
def skipBlankLines : Nat → List Char → List Char
  | 0, s => s
  | fuel + 1, s =>
    match skipGap s with
    | '\n' :: rest => skipBlankLines fuel rest
    | '\r' :: '\n' :: rest => skipBlankLines fuel rest
    | s => s

/-- Reads the number of hexadecimal digits of an escape, and the character that they denote. -/
def codePoint? (digits : Nat) (s : List Char) : Option (Char × List Char) := do
  let run := s.take digits
  let n ← Hex.toNat? run
  if run.length = digits ∧ n.isValidChar then some (Char.ofNat n, s.drop digits) else none

/-- Reads an escape after its backslash. -/
def escape? : List Char → Option (Char × List Char)
  | 'b' :: rest => some ('\x08', rest)
  | 't' :: rest => some ('\t', rest)
  | 'n' :: rest => some ('\n', rest)
  | 'f' :: rest => some ('\x0c', rest)
  | 'r' :: rest => some ('\r', rest)
  | '"' :: rest => some ('"', rest)
  | '\\' :: rest => some ('\\', rest)
  | 'u' :: rest => codePoint? 4 rest
  | 'U' :: rest => codePoint? 8 rest
  | _ => none

/-- Reads the rest of a basic string up to its quote. -/
def basic? : Nat → List Char → Option (List Char × List Char)
  | _, '"' :: rest => some ([], rest)
  | fuel + 1, '\\' :: s => do
    let (c, rest) ← escape? s
    (basic? fuel rest).map fun (cs, rest) ↦ (c :: cs, rest)
  | fuel + 1, c :: rest =>
    if isPlain c then (basic? fuel rest).map fun (cs, rest) ↦ (c :: cs, rest) else none
  | _, _ => none

/-- Reads the rest of a literal string up to its quote. -/
def literal? (s : List Char) : Option (List Char × List Char) :=
  let run := s.takeWhile fun c ↦ isPlain c && c ≠ '\''
  match s.drop run.length with
  | '\'' :: rest => some (run, rest)
  | _ => none

/-- Reads three quotes or more that close a string over several lines, of which at most two belong
to the string. -/
def closing? (quote : Char) (s : List Char) : Option (List Char × List Char) :=
  let run := s.takeWhile fun c ↦ c = quote
  if 3 ≤ run.length ∧ run.length ≤ 5 then
    some (List.replicate (run.length - 3) quote, s.drop run.length)
  else none

/-- Reads the rest of a basic string over several lines. -/
def multilineBasic? : Nat → List Char → Option (List Char × List Char)
  | 0, _ => none
  | fuel + 1, s =>
    match s with
    | '"' :: '"' :: '"' :: _ => closing? '"' s
    | '\\' :: rest =>
      match newline? (skipGap rest) with
      | some rest => multilineBasic? fuel (skipBlankLines rest.length rest)
      | none =>
        match escape? rest with
        | some (c, rest) => (multilineBasic? fuel rest).map fun (cs, rest) ↦ (c :: cs, rest)
        | none => none
    | '\r' :: '\n' :: rest => (multilineBasic? fuel rest).map fun (cs, rest) ↦ ('\n' :: cs, rest)
    | c :: rest =>
      if isPlain c || c = '\n' then
        (multilineBasic? fuel rest).map fun (cs, rest) ↦ (c :: cs, rest)
      else none
    | [] => none

/-- Reads the rest of a literal string over several lines. -/
def multilineLiteral? : Nat → List Char → Option (List Char × List Char)
  | 0, _ => none
  | fuel + 1, s =>
    match s with
    | '\'' :: '\'' :: '\'' :: _ => closing? '\'' s
    | '\r' :: '\n' :: rest => (multilineLiteral? fuel rest).map fun (cs, rest) ↦ ('\n' :: cs, rest)
    | c :: rest =>
      if isPlain c || c = '\n' then
        (multilineLiteral? fuel rest).map fun (cs, rest) ↦ (c :: cs, rest)
      else none
    | [] => none

/-- A line that ends right after the opening quotes is no part of the string. -/
def dropNewline (s : List Char) : List Char := (newline? s).getD s

/-- Reads a string literal of any kind. -/
def string? (s : List Char) : Option (String × List Char) :=
  let read :=
    match s with
    | '"' :: '"' :: '"' :: rest =>
      let rest := dropNewline rest
      multilineBasic? (rest.length + 1) rest
    | '\'' :: '\'' :: '\'' :: rest =>
      let rest := dropNewline rest
      multilineLiteral? (rest.length + 1) rest
    | '"' :: rest => basic? rest.length rest
    | '\'' :: rest => literal? rest
    | _ => none
  read.map fun (cs, rest) ↦ (String.ofList cs, rest)

/-- Whether underscores stand between digits only. -/
def wellSeparated (isDigit : Char → Bool) : List Char → Bool
  | [] => false
  | [c] => isDigit c
  | c :: '_' :: rest => isDigit c && wellSeparated isDigit rest
  | c :: rest => isDigit c && wellSeparated isDigit rest

def isHexDigit (c : Char) : Bool := (Hex.value? c).isSome

def isOctalDigit (c : Char) : Bool := '0' ≤ c && c ≤ '7'

def isBinaryDigit (c : Char) : Bool := c = '0' || c = '1'

/-- The number of separated digits in some base. -/
def digits? (base : Nat) (isDigit : Char → Bool) (s : List Char) : Option Nat :=
  if wellSeparated isDigit s then
    some ((s.filter (· ≠ '_')).foldl (fun n c ↦ base * n + (Hex.value? c).getD 0) 0)
  else none

def inRange (n : Int) : Option Int :=
  if Setting.minInteger ≤ n ∧ n ≤ Setting.maxInteger then some n else none

/-- Splits a sign off. -/
def sign : List Char → Bool × List Char
  | '-' :: rest => (true, rest)
  | '+' :: rest => (false, rest)
  | s => (false, s)

/-- Whether decimal digits have no leading zero. -/
def isWhole (s : List Char) : Bool :=
  wellSeparated Decimal.isDigit s && (s.length = 1 || s.head? ≠ some '0')

def integer? (s : List Char) : Option Int :=
  match s with
  | '0' :: 'x' :: rest => (digits? 16 isHexDigit rest).bind fun n ↦ inRange n
  | '0' :: 'o' :: rest => (digits? 8 isOctalDigit rest).bind fun n ↦ inRange n
  | '0' :: 'b' :: rest => (digits? 2 isBinaryDigit rest).bind fun n ↦ inRange n
  | _ =>
    let (negative, run) := sign s
    if isWhole run then
      (digits? 10 Decimal.isDigit run).bind fun n ↦ inRange (if negative then -(n : Int) else n)
    else none

/-- Whether the parts of a floating point number are well formed. -/
def isReal (s : List Char) : Bool :=
  let isMark (c : Char) : Bool := c = 'e' || c = 'E'
  let mantissa := s.takeWhile fun c ↦ !isMark c
  let whole := mantissa.takeWhile (· ≠ '.')
  let fractionOk := match mantissa.drop whole.length with
    | [] => true
    | _ :: fraction => wellSeparated Decimal.isDigit fraction
  let exponentOk := match s.drop mantissa.length with
    | [] => true
    | _ :: exponent => wellSeparated Decimal.isDigit (sign exponent).2
  isWhole whole && fractionOk && exponentOk && (whole.length < s.length)

/-- A floating point number; one that is too large is none, though a negative one is. -/
def real? (s : List Char) : Option Binary64 :=
  let (negative, run) := sign s
  if run = ['i', 'n', 'f'] then some (.infinite negative)
  else if run = ['n', 'a', 'n'] then some .nan
  else if isReal run then
    (Setting.decimal? negative (run.filter (· ≠ '_'))).filter (· ≠ .infinite false)
  else none

/-- Reads a number of exactly `count` digits. -/
def fixed? (count : Nat) (s : List Char) : Option (Nat × List Char) :=
  let run := s.take count
  if run.length = count ∧ run.all Decimal.isDigit then some (Decimal.value run, s.drop count)
  else none

def mark? (c : Char) : List Char → Option (List Char)
  | d :: rest => if d = c then some rest else none
  | [] => none

/-- Reads a date of the calendar. -/
def date? (s : List Char) : Option (List Char × List Char) := do
  let (year, s) ← fixed? 4 s
  let s ← mark? '-' s
  let (month, s) ← fixed? 2 s
  let s ← mark? '-' s
  let (day, s) ← fixed? 2 s
  if (Date.mk year month day).IsValid then
    some (Decimal.padded 4 year ++ '-' :: Decimal.padded 2 month ++ '-' :: Decimal.padded 2 day, s)
  else none

/-- The digits of a fraction of a second that count: nine at most, and no zeros at the end. -/
def fractionText (run : List Char) : List Char :=
  match ((run.take 9).reverse.dropWhile (· = '0')).reverse with
  | [] => []
  | digits => '.' :: digits

/-- Reads a time of day. -/
def time? (s : List Char) : Option (List Char × List Char) := do
  let (hour, s) ← fixed? 2 s
  let s ← mark? ':' s
  let (minute, s) ← fixed? 2 s
  let s ← mark? ':' s
  let (second, s) ← fixed? 2 s
  if hour ≤ 23 ∧ minute ≤ 59 ∧ second ≤ 60 then
    let clock := Decimal.padded 2 hour ++ ':' :: Decimal.padded 2 minute
      ++ ':' :: Decimal.padded 2 second
    match s with
    | '.' :: rest =>
      let run := rest.takeWhile Decimal.isDigit
      if run = [] then some (clock, s)
      else some (clock ++ fractionText run, rest.dropWhile Decimal.isDigit)
    | s => some (clock, s)
  else none

/-- Reads an offset from universal time. -/
def offset? : List Char → Option (List Char × List Char)
  | 'Z' :: rest => some (['Z'], rest)
  | 'z' :: rest => some (['Z'], rest)
  | c :: s => do
    if c = '+' ∨ c = '-' then
      let (hour, s) ← fixed? 2 s
      let s ← mark? ':' s
      let (minute, s) ← fixed? 2 s
      if hour ≤ 23 ∧ minute ≤ 59 then
        let sign := if hour = 0 ∧ minute = 0 then '+' else c
        some (sign :: Decimal.padded 2 hour ++ ':' :: Decimal.padded 2 minute, s)
      else none
    else none
  | [] => none

/-- Reads a date, a time of day, or both with an offset or without. -/
def moment? (s : List Char) : Option (List Char × List Char) :=
  match date? s with
  | none => time? s
  | some (date, rest) =>
    match rest with
    | [] => some (date, rest)
    | c :: later =>
      if c = 'T' ∨ c = 't' ∨ c = ' ' then
        match time? later with
        | none => some (date, rest)
        | some (clock, later) =>
          match offset? later with
          | none => some (date ++ 'T' :: clock, later)
          | some (offset, later) => some (date ++ 'T' :: clock ++ offset, later)
      else some (date, rest)

def isNumberChar (c : Char) : Bool :=
  ('0' ≤ c && c ≤ '9') || ('a' ≤ c && c ≤ 'z') || ('A' ≤ c && c ≤ 'Z') || c = '_' || c = '.'
    || c = '+' || c = '-'

/-- Reads a number, a truth value, a date or a time. -/
def word? (s : List Char) : Option (Setting × List Char) :=
  match moment? s with
  | some (text, rest) => some (.text (String.ofList text), rest)
  | none =>
    let run := s.takeWhile isNumberChar
    let rest := s.dropWhile isNumberChar
    if run = ['t', 'r', 'u', 'e'] then some (.bool true, rest)
    else if run = ['f', 'a', 'l', 's', 'e'] then some (.bool false, rest)
    else
      match integer? run with
      | some n => some (.integer n, rest)
      | none => (real? run).map fun x ↦ (.real x, rest)

end MessageBus.Toml
