import ServiceHost.Settings.Basic

/-!
# Services

A host asks its service to start and to stop. What matters to the host is whether the service
does so.
-/

namespace ServiceHost

/-- A service that a host starts and stops. -/
structure Service where
  /-- The service starts when it is asked to. -/
  starts : Bool := true
  /-- The service stops when it is asked to. -/
  stops : Bool := true
  deriving DecidableEq, Repr, Inhabited

/-- What makes a service from the settings of its host. -/
abbrev ServiceFactory := Settings → Service

end ServiceHost
