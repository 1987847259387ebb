import MessageBus.Registry.Basic
/-!
A subscriber has checked settings and a resolver, which leads to the queue of a payload type when a
subscription starts.
-/

set_option autoImplicit false
set_option relaxedAutoImplicit false

namespace MessageBus

structure Subscriber where
  settings : SubscriberSettings
  resolver : Option Resolver
deriving DecidableEq, Repr

namespace Subscriber

/-- A subscriber whose settings are in range. -/
def make (settings : SubscriberSettings) (resolver : Option Resolver) : Except Error Subscriber :=
  Violation.check settings.violation? ⟨settings, resolver⟩

def noResolver (typeName : String) : Error :=
  .resolution ("no queue resolver configured for " ++ typeName)

/-- The queue that a subscription to a payload type polls. -/
def queueUrl (s : Subscriber) (typeName : String) : Attempt String :=
  match s.resolver with
  | none => .fail (noResolver typeName)
  | some resolver => resolver.queue typeName

end Subscriber

end MessageBus
