/-!
The failures that a caller of the bus can see. An error has a kind, which labels counters, and a
text, which is what a reader of a log sees. A transport error also names the broker operation that
failed.
-/

set_option autoImplicit false
set_option relaxedAutoImplicit false

namespace MessageBus

inductive ErrorKind where
  | encode
  | decode
  | resolution
  | transport
  | handler
  | configuration
deriving DecidableEq, Repr

def ErrorKind.label : ErrorKind → String
  | .encode => "encode"
  | .decode => "decode"
  | .resolution => "resolution"
  | .transport => "transport"
  | .handler => "handler"
  | .configuration => "configuration"

inductive Error where
  /-- A payload could not be put into an envelope. -/
  | encode (text : String)
  /-- A received body is not an envelope of the expected payload type. -/
  | decode (text : String)
  /-- A topic or queue could not be determined or provisioned. -/
  | resolution (text : String)
  /-- A broker operation failed. -/
  | transport (operation text : String)
  /-- A message handler failed. -/
  | handler (text : String)
  /-- A setting is missing, unreadable or out of range. -/
  | configuration (text : String)
deriving DecidableEq, Repr

namespace Error

def kind : Error → ErrorKind
  | .encode _ => .encode
  | .decode _ => .decode
  | .resolution _ => .resolution
  | .transport _ _ => .transport
  | .handler _ => .handler
  | .configuration _ => .configuration

def message : Error → String
  | .encode text => "Encode error: " ++ text
  | .decode text => "Decode error: " ++ text
  | .resolution text => "Resolution failed: " ++ text
  | .transport operation text => "Transport error (" ++ operation ++ "): " ++ text
  | .handler text => "Handler error: " ++ text
  | .configuration text => "Configuration error: " ++ text

/-- The error of resolving the `what` called `name`: a resolution error stands as it is, any other
is reported as the reason why the resolution failed. -/
def asResolution (what name : String) : Error → Error
  | .resolution text => .resolution text
  | e => .resolution (what ++ " " ++ name ++ ": " ++ e.message)

end Error

end MessageBus
