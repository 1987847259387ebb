import MessageBus.Json.Reader
/-!
The grammar of JSON texts. A text is one value with gaps around it (`JsonText.IsText`). How each
kind of value is written is said without saying how it is read, and a value may be written in many
ways: with gaps between its tokens, with characters escaped or not.
-/

set_option autoImplicit false
set_option relaxedAutoImplicit false

namespace MessageBus.JsonText

section Grammar

def IsGap (s : List Char) : Prop := ∀ c ∈ s, isGap c

def IsDigits (s : List Char) : Prop := s ≠ [] ∧ ∀ c ∈ s, Decimal.isDigit c

inductive IsFraction : Option (List Char) → List Char → Prop
  | none : IsFraction none []
  | some {digits : List Char} (h : IsDigits digits) : IsFraction (some digits) ('.' :: digits)

/-- How the sign of an exponent is written, and whether it makes the exponent negative. -/
def exponentSigns : List (List Char × Bool) := [([], false), (['+'], false), (['-'], true)]

inductive IsExponent : Option (Bool × List Char) → List Char → Prop
  | none : IsExponent none []
  | some {mark : Char} {sign digits : List Char} {negative : Bool}
    (hmark : mark = 'e' ∨ mark = 'E') (hsign : (sign, negative) ∈ exponentSigns)
    (h : IsDigits digits) : IsExponent (some (negative, digits)) (mark :: (sign ++ digits))

/-- How a numeral is written: without leading zeros, and with a sign only if it is negative. -/
inductive IsNumeral : Numeral → List Char → Prop
  | intro {whole : List Char} {fraction : Option (List Char)} {exponent : Option (Bool × List Char)}
    {f e : List Char} (negative : Bool) (hwhole : IsDigits whole)
    (hzero : whole.head? = some '0' → whole = ['0']) (hfraction : IsFraction fraction f)
    (hexponent : IsExponent exponent e) :
    IsNumeral ⟨negative, whole, fraction, exponent⟩
      ((if negative then ['-'] else []) ++ (whole ++ (f ++ e)))

/-- A piece of a string literal: a character, or a code unit that is written in hexadecimal. -/
inductive Piece where
  | char (c : Char)
  | unit (u : Nat)

/-- The escapes of one letter, and the characters that they stand for. -/
def escapes : List (Char × Char) :=
  [('"', '"'), ('\\', '\\'), ('/', '/'), ('b', '\x08'), ('f', '\x0c'), ('n', '\n'), ('r', '\r'),
    ('t', '\t')]

/-- How the pieces of a literal are written. -/
inductive Spells : List Piece → List Char → Prop
  | nil : Spells [] []
  | plain {c : Char} {ps : List Piece} {s : List Char} (hcontrol : 0x20 ≤ c.toNat)
    (hquote : c ≠ '"') (hbackslash : c ≠ '\\') (h : Spells ps s) : Spells (.char c :: ps) (c :: s)
  | escape {e c : Char} {ps : List Piece} {s : List Char} (he : (e, c) ∈ escapes)
    (h : Spells ps s) : Spells (.char c :: ps) ('\\' :: e :: s)
  | unit {a b c d : Char} {u : Nat} {ps : List Piece} {s : List Char}
    (hunit : codeUnit? a b c d = some u) (h : Spells ps s) :
    Spells (.unit u :: ps) ('\\' :: 'u' :: a :: b :: c :: d :: s)

/-- The characters that pieces denote. A leading surrogate makes one character with a trailing one
behind it; surrogates denote nothing otherwise. -/
def denoted? : List Piece → Option (List Char)
  | [] => some []
  | .char c :: ps => (denoted? ps).map (c :: ·)
  | .unit u :: .unit v :: ps =>
    if isLeading u && isTrailing v then (denoted? ps).map (pair u v :: ·)
    else if isLeading u || isTrailing u then none
    else (denoted? (.unit v :: ps)).map (Char.ofNat u :: ·)
  | .unit u :: ps =>
    if isLeading u || isTrailing u then none else (denoted? ps).map (Char.ofNat u :: ·)

inductive IsLiteral : Option String → List Char → Prop
  | intro {ps : List Piece} {s : List Char} (h : Spells ps s) :
    IsLiteral ((denoted? ps).map String.ofList) ('"' :: (s ++ ['"']))

mutual

/-- How a value is written, without gaps around it. -/
inductive IsWritten : JsonText → List Char → Prop
  | null : IsWritten null ['n', 'u', 'l', 'l']
  | bool_true : IsWritten (bool true) ['t', 'r', 'u', 'e']
  | bool_false : IsWritten (bool false) ['f', 'a', 'l', 's', 'e']
  | number {n : Numeral} {s : List Char} (h : IsNumeral n s) : IsWritten (number n) s
  | string {text : Option String} {s : List Char} (h : IsLiteral text s) :
    IsWritten (string text) s
  | empty_array {gap : List Char} (hgap : IsGap gap) : IsWritten (array []) ('[' :: (gap ++ [']']))
  | array {xs : List JsonText} {s : List Char} (h : AreElements xs s) :
    IsWritten (array xs) ('[' :: (s ++ [']']))
  | empty_object {gap : List Char} (hgap : IsGap gap) :
    IsWritten (object []) ('\x7b' :: (gap ++ ['\x7d']))
  | object {ms : List (Option String × JsonText)} {s : List Char} (h : AreMembers ms s) :
    IsWritten (object ms) ('\x7b' :: (s ++ ['\x7d']))

/-- How a value is written with gaps around it. -/
inductive IsPadded : JsonText → List Char → Prop
  | intro {t : JsonText} {before s after : List Char} (hbefore : IsGap before)
    (h : IsWritten t s) (hafter : IsGap after) : IsPadded t (before ++ (s ++ after))

/-- How elements are written, at least one. -/
inductive AreElements : List JsonText → List Char → Prop
  | last {x : JsonText} {s : List Char} (h : IsPadded x s) : AreElements [x] s
  | cons {x : JsonText} {xs : List JsonText} {s s' : List Char} (h : IsPadded x s)
    (hrest : AreElements xs s') : AreElements (x :: xs) (s ++ ',' :: s')

/-- How a member of an object is written. -/
inductive IsMember : Option String × JsonText → List Char → Prop
  | intro {key : Option String} {x : JsonText} {before k after s : List Char}
    (hbefore : IsGap before) (hkey : IsLiteral key k) (hafter : IsGap after) (h : IsPadded x s) :
    IsMember (key, x) (before ++ (k ++ (after ++ ':' :: s)))

/-- How members are written, at least one. -/
inductive AreMembers : List (Option String × JsonText) → List Char → Prop
  | last {m : Option String × JsonText} {s : List Char} (h : IsMember m s) : AreMembers [m] s
  | cons {m : Option String × JsonText} {ms : List (Option String × JsonText)} {s s' : List Char}
    (h : IsMember m s) (hrest : AreMembers ms s') : AreMembers (m :: ms) (s ++ ',' :: s')

end

/-- Whether a text is a JSON text that writes a value. -/
def IsText (t : JsonText) (text : String) : Prop := IsPadded t text.toList

end Grammar

end MessageBus.JsonText
