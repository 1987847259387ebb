import MessageBus.Settings.Layer
/-!
Settings in environment variables. A variable whose name starts with `bus__`, in any case, sets the
value under the path that the rest of the name spells, with two underscores between the levels. Its
text is read as a truth value, a whole number or a floating point number if it spells one.
-/

set_option autoImplicit false
set_option relaxedAutoImplicit false

namespace MessageBus

abbrev Environment := List (String × String)

namespace Environment

def find? (env : Environment) (name : String) : Option String :=
  (List.find? (fun e ↦ e.1 = name) env).map Prod.snd

def nameStart : List Char := ['b', 'u', 's', '_', '_']

/-- The text after `start`, if it begins so. -/
def stripStart (start s : List Char) : Option (List Char) :=
  if start.isPrefixOf s then some (s.drop start.length) else none

def splitLevels : List Char → List Char
  | '_' :: '_' :: rest => '.' :: splitLevels rest
  | c :: rest => c :: splitLevels rest
  | [] => []

/-- The path that the name of a variable spells. -/
def path? (name : String) : Option String :=
  (stripStart nameStart name.toLower.toList).map fun rest ↦ String.ofList (splitLevels rest)

end Environment

namespace Setting

def minInteger : Int := -0x8000000000000000

def maxInteger : Int := 0x7fffffffffffffff

def integer? (s : List Char) : Option Int :=
  (Decimal.toInt? s).filter fun n ↦ minInteger ≤ n ∧ n ≤ maxInteger

/-- The number of a text of digits with a point and an exponent. -/
def decimal? (negative : Bool) (s : List Char) : Option Binary64 :=
  let whole := s.takeWhile Decimal.isDigit
  let rest := s.dropWhile Decimal.isDigit
  let (fraction, rest) :=
    match rest with
    | '.' :: rest => (rest.takeWhile Decimal.isDigit, rest.dropWhile Decimal.isDigit)
    | rest => ([], rest)
  let digits := whole ++ fraction
  let number (exponent : Int) :=
    Binary64.ofDecimal negative (digits.map Decimal.digitValue) (exponent - fraction.length)
  if digits = [] then none
  else
    match rest with
    | [] => some (number 0)
    | e :: rest =>
      if e = 'e' ∨ e = 'E' then (Decimal.toInt? rest).map number else none

/-- The floating point number that a text spells. -/
def real? (s : List Char) : Option Binary64 :=
  let (negative, s) :=
    match s with
    | '-' :: rest => (true, rest)
    | '+' :: rest => (false, rest)
    | s => (false, s)
  let word := (String.ofList s).toLower
  if word = "inf" ∨ word = "infinity" then some (.infinite negative)
  else if word = "nan" then some .nan
  else decimal? negative s

/-- The value of a variable. -/
def ofVariable (s : String) : Setting :=
  if s.toLower = "true" then bool true
  else if s.toLower = "false" then bool false
  else
    match integer? s.toList with
    | some n => integer n
    | none =>
      match real? s.toList with
      | some x => real x
      | none => text s

end Setting

/-- The layer of an environment. -/
def Environment.layer (env : Environment) : List (String × Setting) :=
  env.filterMap fun e ↦ (Environment.path? e.1).map fun path ↦ (path, Setting.ofVariable e.2)

end MessageBus
