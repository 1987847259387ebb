import MessageBus.Demo.Pattern.Options
import MessageBus.Text.Hex
/-!
The atoms of a pattern, and which of them a pattern can hold under its options. Sets of characters
beyond ASCII are not known, so what would need one is refused: letters in either case, shorthands
and boundaries of words in a pattern about characters, and what could match half a character in a
pattern about bytes.
-/

set_option autoImplicit false
set_option relaxedAutoImplicit false

namespace MessageBus.Demo.Pattern

inductive Atom where
  /-- A character, and whether it is written as a byte. -/
  | character (c : Char) (asByte : Bool)
  /-- A letter for a class, such as `\d`, or for all that is not in it, such as `\D`. -/
  | shorthand (negated : Bool)
  /-- The beginning or the end of the text. -/
  | edge
  /-- The boundary of a word, or a place that is none. -/
  | boundary
deriving DecidableEq, Repr

namespace Options

/-- Whether an atom can stand in a pattern. -/
def allows (o : Options) : Atom → Bool
  | .character c asByte =>
    if o.unicode then !o.insensitive else c.toNat < 0x80 || (!asByte && !o.insensitive)
  | .shorthand negated => !o.unicode && !negated
  | .edge => true
  | .boundary => !o.unicode

/-- Whether an atom can be a member of a class. -/
def allowsMember (o : Options) : Atom → Bool
  | .character c _ => if o.unicode then !o.insensitive else c.toNat < 0x80
  | .shorthand negated => !o.unicode && !negated
  | .edge | .boundary => false

/-- Whether a named class can be a member of a class. -/
def allowsNamed (o : Options) (negated : Bool) : Bool :=
  if o.unicode then !o.insensitive else !negated

/-- Whether any character can be asked for. -/
def allowsDot (o : Options) : Bool := o.unicode

/-- Whether a class can be negated. -/
def allowsNegation (o : Options) : Bool := o.unicode

end Options

namespace Atom

/-- Whether a character stands for itself behind a backslash. -/
def isPlain (c : Char) : Bool := c.toNat < 0x80 && !c.isAlphanum && c ≠ '<' && c ≠ '>'

/-- The characters that a letter stands for behind a backslash. -/
def controls : List (Char × Char) :=
  [('a', '\x07'), ('f', '\x0c'), ('t', '\t'), ('n', '\n'), ('r', '\r'), ('v', '\x0b')]

/-- Reads so many hexadecimal digits, between which there may be gaps. -/
def digits? (o : Options) : Nat → List Char → Option (List Char × List Char)
  | 0, s => some ([], s)
  | n + 1, s =>
    match o.skip s with
    | [] => none
    | c :: s =>
      if (Hex.value? c).isNone then none
      else do
        let (digits, rest) ← digits? o n s
        return (c :: digits, rest)

/-- Reads a character from so many hexadecimal digits. -/
def codePoint? (o : Options) (count : Nat) (asByte : Bool) (s : List Char) :
    Option (Atom × List Char) := do
  let (digits, rest) ← digits? o count s
  let n ← Hex.toNat? digits
  if n.isValidChar then some (.character (Char.ofNat n) asByte, rest) else none

/-- Reads an escape behind its backslash. -/
def escape? (o : Options) : List Char → Option (Atom × List Char)
  | [] => none
  | c :: s =>
    if isPlain c then some (.character c false, s)
    else
      match c with
      | 'x' => codePoint? o 2 true s
      | 'u' => codePoint? o 4 false s
      | 'U' => codePoint? o 8 false s
      | 'd' | 's' | 'w' => some (.shorthand false, s)
      | 'D' | 'S' | 'W' => some (.shorthand true, s)
      | 'A' | 'z' => some (.edge, s)
      | 'b' | 'B' | '<' | '>' => some (.boundary, s)
      | c => (controls.find? (·.1 = c)).map fun control ↦ (.character control.2 false, s)

/-- Reads a member of a class. -/
def member? (o : Options) : List Char → Option (Atom × List Char)
  | '\\' :: s => escape? o s
  | c :: s => some (.character c false, s)
  | [] => none

end Atom

end MessageBus.Demo.Pattern
