import MessageBus.Registry.Provisioning
import MessageBus.Settings.Basic
/-!
A registry leads from payload types to the addresses of their topics and queues. Names come from a
naming; what is not in the store yet is provisioned, and its address kept there. To resolve a queue
is to resolve the topic first.
-/

set_option autoImplicit false
set_option relaxedAutoImplicit false

namespace MessageBus

structure Registry where
  naming : Naming
  settings : RegistrySettings
  store : StoreName
deriving DecidableEq, Repr

namespace Registry

/-- A registry whose settings are in range. -/
def make (naming : Naming) (settings : RegistrySettings) (store : StoreName) :
    Except Error Registry :=
  Violation.check settings.violation? ⟨naming, settings, store⟩

/-- A registry whose naming and settings are in range. -/
def ofSettings (naming : Naming) (settings : RegistrySettings) (store : StoreName) :
    Except Error Registry := do
  let naming ← Violation.check naming.violation? naming
  make naming settings store

def resolveTopic (r : Registry) (typeName : String) : Attempt String :=
  let name := r.naming.topicName typeName
  (Attempt.getOrSet r.store ⟨.topic, name⟩ (Provisioning.ensureTopic name)).mapError
    (Error.asResolution "topic" name)

def resolveQueue (r : Registry) (typeName : String) : Attempt String := do
  let topicArn ← r.resolveTopic typeName
  let names := r.naming.resourceNames typeName
  (Attempt.getOrSet r.store ⟨.queue, names.queue⟩
    (Provisioning.ensureSubscription topicArn names.queue names.errorQueue
      r.settings.maxReceiveCount)).mapError (Error.asResolution "queue" names.queue)

end Registry

/-- Where the address of a topic or queue comes from. -/
inductive Resolver where
  | registry (r : Registry)
  | fixed (address : String)
deriving DecidableEq, Repr

namespace Resolver

def topic : Resolver → String → Attempt String
  | registry r, typeName => r.resolveTopic typeName
  | fixed address, _ => return address

def queue : Resolver → String → Attempt String
  | registry r, typeName => r.resolveQueue typeName
  | fixed address, _ => return address

end Resolver

end MessageBus
