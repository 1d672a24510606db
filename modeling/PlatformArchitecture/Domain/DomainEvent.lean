import PlatformArchitecture.Foundations.Json

/-!
# The event envelope

The envelope of every event that crosses the outbox, the inbox and the event
bus.
-/

namespace PlatformArchitecture.Domain

open PlatformArchitecture.Foundations

structure DomainEvent where
  eventId : String
  eventType : String
  eventVersion : JsNumber
  timestamp : String
  tenantId : String
  workspaceId : Option String
  correlationId : String
  causationId : Option String
  source : String
  data : Json
  deriving DecidableEq

end PlatformArchitecture.Domain
