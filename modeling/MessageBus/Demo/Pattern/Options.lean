import MessageBus.Text.Blank
/-!
The options of a pattern, which hold from where they are set to the end of the group around them.
With the option for spaced patterns, blanks and comments between the signs of a pattern have no
meaning; a comment runs from `#` to the end of its line.
-/

set_option autoImplicit false
set_option relaxedAutoImplicit false

namespace MessageBus.Demo.Pattern

structure Options where
  /-- Whether letters match in either case. -/
  insensitive : Bool := false
  /-- Whether a pattern is about characters, and not about bytes. -/
  unicode : Bool := true
  spaced : Bool := false
deriving DecidableEq, Repr

namespace Options

/-- The letters of all options, of which some make no difference to what a pattern is. -/
def letters : List Char := ['i', 'm', 's', 'U', 'u', 'R', 'x']

def set (o : Options) (letter : Char) (on : Bool) : Options :=
  match letter with
  | 'i' => { o with insensitive := on }
  | 'u' => { o with unicode := on }
  | 'x' => { o with spaced := on }
  | _ => o

/-- Reads letters of options, of which those behind a hyphen are turned off. There is at most one of
each sign, and a hyphen has letters behind it. -/
def read? (o : Options) (signs : List Char) : Option Options :=
  if signs.all (fun c ↦ c = '-' || letters.contains c) ∧ signs.Nodup
      ∧ signs.getLast? ≠ some '-' then
    let on := signs.takeWhile (· ≠ '-')
    let off := signs.drop (on.length + 1)
    some (off.foldl (fun o c ↦ o.set c false) (on.foldl (fun o c ↦ o.set c true) o))
  else none

/-- Drops blanks and comments; `inComment` tells whether the text begins within a comment. -/
def dropGaps (inComment : Bool) : List Char → List Char
  | [] => []
  | c :: s =>
    if inComment then dropGaps (c ≠ '\n') s
    else if isBlank c then dropGaps false s
    else if c = '#' then dropGaps true s
    else c :: s

/-- What is left of a text from its next sign on. -/
def skip (o : Options) (s : List Char) : List Char := if o.spaced then dropGaps false s else s

/-- The sign that is looked at behind a hyphen in a class. Of a comment, which is not passed over
here, it is the first character that is not blank. -/
def peek? (o : Options) (s : List Char) : Option Char :=
  if o.spaced then
    let next := match trimStart s with
      | '#' :: comment => trimStart comment
      | next => next
    next.head? <|> s.head?
  else s.head?

end Options

end MessageBus.Demo.Pattern
