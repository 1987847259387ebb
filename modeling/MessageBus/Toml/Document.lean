import MessageBus.Toml.Scalar
/-!
TOML documents. A document is read line by line into a tree of tables that remember how they came
about, because that decides how they may grow: a table that a header defines is defined once, a
table that only lies on the way of a header may be defined later, and a table made by a dotted key
grows by dotted keys alone. What is read is then a plain tree of settings.
-/

set_option autoImplicit false
set_option relaxedAutoImplicit false

namespace MessageBus.Toml

/-- How a table came about. -/
inductive Origin where
  | header
  | implied
  | dotted
deriving DecidableEq, Repr

inductive Node where
  | value (v : Setting)
  | table (origin : Origin) (members : List (String × Node))
  /-- The tables of an array of tables, the latest one first. -/
  | tables (elements : List (List (String × Node)))
deriving Inhabited

abbrev Members := List (String × Node)

namespace Node

mutual

def setting : Node → Setting
  | value v => v
  | table _ members => .table (settings members)
  | tables elements => .list (settingTables elements).reverse

def settings : List (String × Node) → List (String × Setting)
  | [] => []
  | (key, n) :: rest => (key, n.setting) :: settings rest

def settingTables : List (List (String × Node)) → List Setting
  | [] => []
  | members :: rest => .table (settings members) :: settingTables rest

end

end Node

namespace Members

def find? (key : String) : Members → Option Node
  | [] => none
  | (k, n) :: rest => if k = key then some n else find? key rest

def put (key : String) (n : Node) : Members → Members
  | [] => [(key, n)]
  | (k, m) :: rest => if k = key then (k, n) :: rest else (k, m) :: put key n rest

/-- Changes the table at the end of a path of headers; tables on the way that are not there are
implied. -/
def within (f : Members → Option Members) : List String → Members → Option Members
  | [], members => f members
  | key :: path, members => do
    match members.find? key with
    | none => some (members.put key (.table .implied (← within f path [])))
    | some (.table origin inner) =>
      some (members.put key (.table origin (← within f path inner)))
    | some (.tables (latest :: earlier)) =>
      some (members.put key (.tables ((← within f path latest) :: earlier)))
    | _ => none

/-- Defines a value under a dotted key. -/
def define (v : Setting) : String → List String → Members → Option Members
  | key, [], members =>
    match members.find? key with
    | none => some (members.put key (.value v))
    | some _ => none
  | key, next :: path, members => do
    match members.find? key with
    | none => some (members.put key (.table .dotted (← define v next path [])))
    | some (.table .dotted inner) =>
      some (members.put key (.table .dotted (← define v next path inner)))
    | some (.table .implied inner) =>
      if path = [] then none
      else some (members.put key (.table .implied (← define v next path inner)))
    | some (.tables (latest :: earlier)) =>
      if path = [] then none
      else some (members.put key (.tables ((← define v next path latest) :: earlier)))
    | _ => none

/-- Defines a table by its header. -/
def defineTable (key : String) (members : Members) : Option Members :=
  match members.find? key with
  | none => some (members.put key (.table .header []))
  | some (.table .implied inner) => some (members.put key (.table .header inner))
  | _ => none

/-- Appends a table to an array of tables by its header. -/
def appendTable (key : String) (members : Members) : Option Members :=
  match members.find? key with
  | none => some (members.put key (.tables [[]]))
  | some (.tables elements) => some (members.put key (.tables ([] :: elements)))
  | _ => none

end Members

/-- Arrays, tables and dotted keys nest less deep than this. -/
def depthBound : Nat := 80

def isBareKeyChar (c : Char) : Bool :=
  ('0' ≤ c && c ≤ '9') || ('a' ≤ c && c ≤ 'z') || ('A' ≤ c && c ≤ 'Z') || c = '_' || c = '-'

def simpleKey? (s : List Char) : Option (String × List Char) :=
  match s with
  | '"' :: rest => (basic? rest.length rest).map fun (cs, rest) ↦ (String.ofList cs, rest)
  | '\'' :: rest => (literal? rest).map fun (cs, rest) ↦ (String.ofList cs, rest)
  | s =>
    let run := s.takeWhile isBareKeyChar
    if run = [] then none else some (String.ofList run, s.dropWhile isBareKeyChar)

/-- Reads the parts of a dotted key, with the gaps around it. -/
def keyParts? : Nat → List Char → Option (List String × List Char)
  | 0, _ => none
  | fuel + 1, s => do
    let (part, rest) ← simpleKey? (skipGap s)
    match skipGap rest with
    | '.' :: rest => (keyParts? fuel rest).map fun (parts, rest) ↦ (part :: parts, rest)
    | rest => some ([part], rest)

/-- Reads a dotted key, as its first part and the others. -/
def key? (s : List Char) : Option (String × List String × List Char) := do
  match ← keyParts? (s.length + 1) s with
  | (part :: parts, rest) =>
    if parts.length + 1 < depthBound then some (part, parts, rest) else none
  | _ => none

mutual

/-- Reads a value; `depth` is how much deeper values may nest. -/
def value? : Nat → Nat → List Char → Option (Setting × List Char)
  | 0, _, _ => none
  | fuel + 1, depth, s =>
    match s with
    | '[' :: rest =>
      if depth ≤ 1 then none
      else (elements? fuel (depth - 1) rest).map fun (vs, rest) ↦ (.list vs, rest)
    | '\x7b' :: rest =>
      if depth ≤ 1 then none
      else
        match skipGap rest with
        | '\x7d' :: rest => some (.table [], rest)
        | _ =>
          (inlineMembers? fuel (depth - 1) [] rest).map fun (members, rest) ↦
            (.table (Node.settings members), rest)
    | '"' :: _ => (string? s).map fun (text, rest) ↦ (.text text, rest)
    | '\'' :: _ => (string? s).map fun (text, rest) ↦ (.text text, rest)
    | _ => word? s

/-- Reads the elements of an array up to its bracket. -/
def elements? : Nat → Nat → List Char → Option (List Setting × List Char)
  | 0, _, _ => none
  | fuel + 1, depth, s =>
    match skipLines s.length s with
    | ']' :: rest => some ([], rest)
    | s => do
      let (v, rest) ← value? fuel depth s
      match skipLines rest.length rest with
      | ',' :: rest => (elements? fuel depth rest).map fun (vs, rest) ↦ (v :: vs, rest)
      | ']' :: rest => some ([v], rest)
      | _ => none

/-- Reads the members of an inline table up to its brace. -/
def inlineMembers? : Nat → Nat → Members → List Char → Option (Members × List Char)
  | 0, _, _, _ => none
  | fuel + 1, depth, members, s => do
    let (key, path, rest) ← key? s
    let rest ← mark? '=' rest
    let (v, rest) ← value? fuel depth (skipGap rest)
    let members ← members.define v key path
    match skipGap rest with
    | ',' :: rest => inlineMembers? fuel depth members rest
    | '\x7d' :: rest => some (members, rest)
    | _ => none

end

/-- A document while it is read: what is defined so far, and the path of the table that the next
keys are defined in. -/
structure Draft where
  members : Members := []
  path : List String := []

namespace Draft

def addHeader (d : Draft) (define : String → Members → Option Members) (key : String)
    (path : List String) : Option Draft :=
  let all := key :: path
  (d.members.within (define (all.getLast?.getD key)) all.dropLast).map fun members ↦
    { members := members, path := all }

/-- Reads one line. -/
def line? (d : Draft) (s : List Char) : Option (Draft × List Char) :=
  match skipGap s with
  | [] => some (d, [])
  | '[' :: '[' :: rest => do
    let (key, path, rest) ← key? rest
    let rest ← (mark? ']' rest) >>= mark? ']'
    some (← d.addHeader Members.appendTable key path, ← endOfLine? rest)
  | '[' :: rest => do
    let (key, path, rest) ← key? rest
    let rest ← mark? ']' rest
    some (← d.addHeader Members.defineTable key path, ← endOfLine? rest)
  | s =>
    match endOfLine? s with
    | some rest => some (d, rest)
    | none => do
      let (key, path, rest) ← key? s
      let rest ← mark? '=' rest
      let (v, rest) ← value? (s.length + 1) depthBound (skipGap rest)
      let members ← d.members.within (Members.define v key path) d.path
      some ({ d with members := members }, ← endOfLine? rest)

/-- Reads line after line; every line takes a character, so the length bounds the fuel. -/
def lines? : Nat → Draft → List Char → Option Draft
  | _, d, [] => some d
  | 0, _, _ => none
  | fuel + 1, d, s => do
    let (d, rest) ← d.line? s
    lines? fuel d rest

end Draft

/-- The tables and values of a document. -/
def read? (text : String) : Option (List (String × Setting)) :=
  let s := match text.toList with
    | '\ufeff' :: rest => rest
    | s => s
  (Draft.lines? s.length {} s).map fun d ↦ Node.settings d.members

end MessageBus.Toml
