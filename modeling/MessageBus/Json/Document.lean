import MessageBus.Json.Text
import MessageBus.Text.Hex
/-!
The JSON that the bus writes: documents of strings, lists and objects, in compact form. Only quotes,
backslashes and control characters are escaped in a string. A document is also a tree of the kind
that the reader yields.
-/

set_option autoImplicit false
set_option relaxedAutoImplicit false

namespace MessageBus

inductive JsonDocument where
  | null
  | string (text : String)
  | array (elements : List JsonDocument)
  | object (members : List (String × JsonDocument))
deriving Repr, Inhabited

namespace JsonDocument

def escape (c : Char) : List Char :=
  if c = '"' then ['\\', '"']
  else if c = '\\' then ['\\', '\\']
  else if c = '\x08' then ['\\', 'b']
  else if c = '\t' then ['\\', 't']
  else if c = '\n' then ['\\', 'n']
  else if c = '\x0c' then ['\\', 'f']
  else if c = '\r' then ['\\', 'r']
  else if c.toNat < 0x20 then ['\\', 'u'] ++ Hex.padded 4 c.toNat
  else [c]

def literal (text : String) : List Char := '"' :: text.toList.flatMap escape ++ ['"']

mutual

def write : JsonDocument → List Char
  | null => ['n', 'u', 'l', 'l']
  | string text => literal text
  | array elements => '[' :: writeElements elements ++ [']']
  | object members => '\x7b' :: writeMembers members ++ ['\x7d']

def writeElements : List JsonDocument → List Char
  | [] => []
  | [x] => x.write
  | x :: y :: rest => x.write ++ ',' :: writeElements (y :: rest)

def writeMembers : List (String × JsonDocument) → List Char
  | [] => []
  | [(key, x)] => literal key ++ ':' :: x.write
  | (key, x) :: m :: rest => literal key ++ ':' :: x.write ++ ',' :: writeMembers (m :: rest)

end

def text (d : JsonDocument) : String := String.ofList d.write

mutual

def tree : JsonDocument → JsonText
  | null => .null
  | string text => .string (some text)
  | array elements => .array (treeElements elements)
  | object members => .object (treeMembers members)

def treeElements : List JsonDocument → List JsonText
  | [] => []
  | x :: rest => x.tree :: treeElements rest

def treeMembers : List (String × JsonDocument) → List (Option String × JsonText)
  | [] => []
  | (key, x) :: rest => (some key, x.tree) :: treeMembers rest

end

end JsonDocument

end MessageBus
