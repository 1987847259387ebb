import MessageBus.Json.Text
import MessageBus.Text.Hex
/-!
Reading JSON texts: the strict grammar, with no comments, no trailing commas and nothing after the
value. The reader decides the grammar only; what a tree denotes is asked of the tree.
-/

set_option autoImplicit false
set_option relaxedAutoImplicit false

namespace MessageBus.JsonText

def isGap (c : Char) : Bool := c = ' ' || c = '\t' || c = '\n' || c = '\r'

def skipGap (s : List Char) : List Char := s.dropWhile isGap

/-- Reads digits, at least one. -/
def digits? (s : List Char) : Option (List Char × List Char) :=
  let run := s.takeWhile Decimal.isDigit
  if run = [] then none else some (run, s.dropWhile Decimal.isDigit)

def fraction? : List Char → Option (Option (List Char) × List Char)
  | '.' :: s => (digits? s).map fun (run, rest) ↦ (some run, rest)
  | s => some (none, s)

def exponent? : List Char → Option (Option (Bool × List Char) × List Char)
  | c :: s =>
    if c = 'e' ∨ c = 'E' then
      match s with
      | '+' :: s => (digits? s).map fun (run, rest) ↦ (some (false, run), rest)
      | '-' :: s => (digits? s).map fun (run, rest) ↦ (some (true, run), rest)
      | s => (digits? s).map fun (run, rest) ↦ (some (false, run), rest)
    else some (none, c :: s)
  | [] => some (none, [])

def unsigned? (negative : Bool) (s : List Char) : Option (Numeral × List Char) := do
  let (whole, s) ← digits? s
  if whole.length > 1 ∧ whole.head? = some '0' then none
  else
    let (fraction, s) ← fraction? s
    let (exponent, s) ← exponent? s
    some (⟨negative, whole, fraction, exponent⟩, s)

def numeral? : List Char → Option (Numeral × List Char)
  | '-' :: s => unsigned? true s
  | s => unsigned? false s

def codeUnit? (a b c d : Char) : Option Nat := Hex.toNat? [a, b, c, d]

def isLeading (unit : Nat) : Bool := 0xd800 ≤ unit && unit < 0xdc00

def isTrailing (unit : Nat) : Bool := 0xdc00 ≤ unit && unit < 0xe000

def pair (leading trailing : Nat) : Char :=
  Char.ofNat (0x10000 + (leading - 0xd800) * 0x400 + (trailing - 0xdc00))

/-- The character that a one-letter escape stands for. -/
def escaped? (c : Char) : Option Char :=
  if c = '"' ∨ c = '\\' ∨ c = '/' then some c
  else if c = 'b' then some '\x08'
  else if c = 'f' then some '\x0c'
  else if c = 'n' then some '\n'
  else if c = 'r' then some '\r'
  else if c = 't' then some '\t'
  else none

/-- Reads a string literal after its opening quote. The text read so far stands reversed; it is lost
at an unpaired surrogate. -/
def literal? (text : Option (List Char)) : List Char → Option (Option String × List Char)
  | [] => none
  | '"' :: rest => some (text.map fun t ↦ String.ofList t.reverse, rest)
  | '\\' :: 'u' :: a :: b :: c :: d :: rest =>
    match codeUnit? a b c d with
    | none => none
    | some unit =>
      if isLeading unit then
        match rest with
        | '\\' :: 'u' :: a :: b :: c :: d :: rest =>
          match codeUnit? a b c d with
          | none => none
          | some next =>
            if isTrailing next then literal? (text.map (pair unit next :: ·)) rest
            else literal? none rest
        | rest => literal? none rest
      else if isTrailing unit then literal? none rest
      else literal? (text.map (Char.ofNat unit :: ·)) rest
  | '\\' :: c :: rest =>
    match escaped? c with
    | none => none
    | some c => literal? (text.map (c :: ·)) rest
  | c :: rest => if c.toNat < 0x20 ∨ c = '\\' then none else literal? (text.map (c :: ·)) rest

mutual

/-- Reads a value and leaves the rest; `fuel` bounds the number of values read. -/
def value? : Nat → List Char → Option (JsonText × List Char)
  | 0, _ => none
  | fuel + 1, s =>
    match skipGap s with
    | '"' :: rest => (literal? (some []) rest).map fun (text, rest) ↦ (string text, rest)
    | '[' :: rest =>
      match skipGap rest with
      | ']' :: rest => some (array [], rest)
      | rest => (elements? fuel rest).map fun (xs, rest) ↦ (array xs, rest)
    | '\x7b' :: rest =>
      match skipGap rest with
      | '\x7d' :: rest => some (object [], rest)
      | rest => (members? fuel rest).map fun (ms, rest) ↦ (object ms, rest)
    | 'n' :: 'u' :: 'l' :: 'l' :: rest => some (null, rest)
    | 't' :: 'r' :: 'u' :: 'e' :: rest => some (bool true, rest)
    | 'f' :: 'a' :: 'l' :: 's' :: 'e' :: rest => some (bool false, rest)
    | rest => (numeral? rest).map fun (n, rest) ↦ (number n, rest)

/-- Reads the elements of an array up to its closing bracket. -/
def elements? : Nat → List Char → Option (List JsonText × List Char)
  | 0, _ => none
  | fuel + 1, s =>
    match value? fuel s with
    | none => none
    | some (x, rest) =>
      match skipGap rest with
      | ',' :: rest => (elements? fuel rest).map fun (xs, rest) ↦ (x :: xs, rest)
      | ']' :: rest => some ([x], rest)
      | _ => none

/-- Reads the members of an object up to its closing brace. -/
def members? : Nat → List Char → Option (List (Option String × JsonText) × List Char)
  | 0, _ => none
  | fuel + 1, s =>
    match skipGap s with
    | '"' :: rest =>
      match literal? (some []) rest with
      | none => none
      | some (key, rest) =>
        match skipGap rest with
        | ':' :: rest =>
          match value? fuel rest with
          | none => none
          | some (x, rest) =>
            match skipGap rest with
            | ',' :: rest => (members? fuel rest).map fun (ms, rest) ↦ ((key, x) :: ms, rest)
            | '\x7d' :: rest => some ([(key, x)], rest)
            | _ => none
        | _ => none
    | _ => none

end

/-- Reads a whole text. Every value read takes a character, so its length bounds the fuel. -/
def read? (text : String) : Option JsonText :=
  let s := text.toList
  match value? (s.length + 1) s with
  | some (t, rest) => if skipGap rest = [] then some t else none
  | none => none

/-- Reads a text that denotes a value. -/
def readValue? (text : String) : Option JsonText :=
  (read? text).filter denotesValue

end MessageBus.JsonText
