import MessageBus.Time.Instant
/-!
What an envelope says about its payload: an identifier, the full name of the payload type, a
correlation identifier and a time. All but the type may be overridden when an envelope is made; an
empty identifier does not override the generated one.
-/

set_option autoImplicit false
set_option relaxedAutoImplicit false

namespace MessageBus

structure Metadata where
  id : String
  messageType : String
  correlationId : String
  timestamp : Instant
deriving DecidableEq, Repr

/-- The identifier and the time that are generated for an envelope. -/
structure Stamp where
  id : String
  time : Instant
deriving DecidableEq, Repr

def Metadata.generate (stamp : Stamp) (messageType : String) : Metadata where
  id := stamp.id
  messageType := messageType
  correlationId := ""
  timestamp := stamp.time

structure MetadataOverrides where
  id : Option String := none
  correlationId : Option String := none
  timestamp : Option Instant := none
deriving DecidableEq, Repr

namespace MetadataOverrides

def withId (o : MetadataOverrides) (id : String) : MetadataOverrides := { o with id := some id }

def withCorrelationId (o : MetadataOverrides) (correlationId : String) : MetadataOverrides :=
  { o with correlationId := some correlationId }

def withTimestamp (o : MetadataOverrides) (timestamp : Instant) : MetadataOverrides :=
  { o with timestamp := some timestamp }

def apply (o : MetadataOverrides) (m : Metadata) : Metadata where
  id := (o.id.filter (· ≠ "")).getD m.id
  messageType := m.messageType
  correlationId := o.correlationId.getD m.correlationId
  timestamp := o.timestamp.getD m.timestamp

end MetadataOverrides

end MessageBus
