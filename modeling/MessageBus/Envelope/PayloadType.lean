import MessageBus.Wire.Message
/-!
Payload types: a message type of a schema together with the full name it goes by and the URL that
envelopes carry for it.
-/

set_option autoImplicit false
set_option relaxedAutoImplicit false

namespace MessageBus

structure PayloadType where
  fullName : String
  typeUrl : String
  schema : Wire.Schema
  /-- The name of the message type in the schema. -/
  root : String

namespace PayloadType

def spec (p : PayloadType) : Wire.MessageSpec := p.schema.type p.root

/-- A payload type whose URL is a slash and its full name. -/
def ofSchema (fullName : String) (schema : Wire.Schema) (root : String) : PayloadType where
  fullName := fullName
  typeUrl := "/" ++ fullName
  schema := schema
  root := root

end PayloadType

abbrev Payload := Wire.Message

end MessageBus
