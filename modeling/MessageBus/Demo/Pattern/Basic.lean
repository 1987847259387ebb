import MessageBus.Demo.Pattern.CharClass
import MessageBus.Text.Alphanumeric
import MessageBus.Text.Decimal
/-!
Which texts are patterns. A pattern is built from atoms, classes, groups, alternatives and
repetitions; what is repeated stands in front of the sign. Counts in braces are not part of the
language, groups have different names, and the parts of a pattern do not lie deeper within each
other than `maxDepth`.
-/

set_option autoImplicit false
set_option relaxedAutoImplicit false

namespace MessageBus.Demo.Pattern

def maxDepth : Nat := 250

/-- A group that is open, or the whole pattern. -/
structure OpenGroup where
  /-- The options that hold behind the group. -/
  optionsAfter : Options := {}
  /-- The depth of the finished alternatives, if there are any. -/
  alternatives : Option Nat := none
  /-- The depths of the parts of the last alternative, the last one first. -/
  parts : List Nat := []
  /-- Whether the last part can be repeated. -/
  repeatable : Bool := false

namespace OpenGroup

def add (depth : Nat) (g : OpenGroup) : OpenGroup :=
  { g with parts := depth :: g.parts, repeatable := true }

/-- Adds a setting of options, which is a part that cannot be repeated. -/
def addOptions (g : OpenGroup) : OpenGroup :=
  { g with parts := 0 :: g.parts, repeatable := false }

def repeatLast (g : OpenGroup) : OpenGroup :=
  match g.parts with
  | [] => g
  | depth :: parts => { g with parts := (depth + 1) :: parts }

/-- Ends an alternative. -/
def alternate (g : OpenGroup) : OpenGroup :=
  { g with
    alternatives := some (max (g.alternatives.getD 0) (sequenceDepth g.parts))
    parts := []
    repeatable := false }

/-- The depth of what is in the group. -/
def depth (g : OpenGroup) : Nat := joinedDepth g.alternatives (sequenceDepth g.parts)

end OpenGroup

/-- What a parenthesis opens: a group with options of its own and perhaps a name, or options for
the rest of the group around it. -/
inductive Opening where
  | group (o : Options) (name : Option String)
  | options (o : Options)

def isGroupName : List Char → Bool
  | [] => false
  | c :: s => (c = '_' || isLetter c)
    && s.all fun c ↦ ['_', '.', '[', ']'].contains c || isAlphanumeric c

def groupName? (o : Options) (s : List Char) : Option (Opening × List Char) :=
  let name := s.takeWhile (· ≠ '>')
  match s.drop name.length with
  | _ :: rest =>
    if isGroupName name then some (.group o (some (String.ofList name)), rest) else none
  | [] => none

/-- Reads what follows an opening parenthesis up to the content of the group. -/
def opening? (o : Options) (s : List Char) : Option (Opening × List Char) :=
  match o.skip s with
  | '?' :: 'P' :: '<' :: s => groupName? o s
  | '?' :: '<' :: s => groupName? o s
  | '?' :: s =>
    let signs := s.takeWhile fun c ↦ c ≠ ':' && c ≠ ')'
    match s.drop signs.length with
    | ':' :: rest => (o.read? signs).map fun inner ↦ (.group inner none, rest)
    | ')' :: rest =>
      if signs = [] then none else (o.read? signs).map fun o ↦ (.options o, rest)
    | _ => none
  | s => some (.group o none, s)

/-- Whether a text is the rest of a pattern, within groups of which the innermost one is `g`, and
behind groups with these names. Every step takes a character. -/
def isRest (fuel : Nat) (o : Options) (names : List String) (g : OpenGroup)
    (around : List OpenGroup) (s : List Char) : Bool :=
  match fuel, o.skip s with
  | _, [] => around.isEmpty && g.depth ≤ maxDepth
  | 0, _ => false
  | fuel + 1, '(' :: s =>
    match opening? o s with
    | some (.group inner none, s) => isRest fuel inner names { optionsAfter := o } (g :: around) s
    | some (.group inner (some name), s) =>
      !names.contains name
        && isRest fuel inner (name :: names) { optionsAfter := o } (g :: around) s
    | some (.options o, s) => isRest fuel o names g.addOptions around s
    | none => false
  | fuel + 1, ')' :: s =>
    match around with
    | [] => false
    | outer :: around => isRest fuel g.optionsAfter names (outer.add (1 + g.depth)) around s
  | fuel + 1, '|' :: s => isRest fuel o names g.alternate around s
  | fuel + 1, '[' :: s =>
    match class? o s with
    | some (depth, s) => isRest fuel o names (g.add depth) around s
    | none => false
  | fuel + 1, '\\' :: s =>
    match Atom.escape? o s with
    | some (atom, s) => o.allows atom && isRest fuel o names (g.add 0) around s
    | none => false
  | _ + 1, '\x7b' :: _ => false
  | fuel + 1, c :: s =>
    if c = '*' ∨ c = '+' ∨ c = '?' then
      let s := if ['?'].isPrefixOf s then s.drop 1 else s
      g.repeatable && isRest fuel o names g.repeatLast around s
    else if c = '.' then o.allowsDot && isRest fuel o names (g.add 0) around s
    else if c = '^' ∨ c = '$' then isRest fuel o names (g.add 0) around s
    else o.allows (.character c false) && isRest fuel o names (g.add 0) around s

end Pattern

def isPattern (s : List Char) : Bool := Pattern.isRest s.length {} [] {} [] s

end MessageBus.Demo
