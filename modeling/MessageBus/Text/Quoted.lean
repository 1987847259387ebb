import MessageBus.Text.Hex
import MessageBus.Text.Hidden
/-!
Quoted text for diagnostics: double quotes around the text, with quotes, backslashes and the usual
control characters escaped by a letter, and every other hidden character by its code point.
-/

set_option autoImplicit false
set_option relaxedAutoImplicit false

namespace MessageBus.Quoted

def escape (c : Char) : List Char :=
  if c = '\x00' then ['\\', '0']
  else if c = '\t' then ['\\', 't']
  else if c = '\r' then ['\\', 'r']
  else if c = '\n' then ['\\', 'n']
  else if c = '"' then ['\\', '"']
  else if c = '\\' then ['\\', '\\']
  else if isHidden c then ['\\', 'u', '\x7b'] ++ Hex.ofNat c.toNat ++ ['\x7d']
  else [c]

def text (s : String) : String :=
  String.ofList ('"' :: s.toList.flatMap escape ++ ['"'])

end MessageBus.Quoted
