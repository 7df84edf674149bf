import ServiceHost.Environment.Basic

/-!
# A service manager in memory

The environment keeps a table of the installed services and records every call, also one that
it refuses.

## Main definitions

* `ServiceTable` : which services are installed, and which of them run.
* `MemoryEnvironment` : the table with the rights of the host and the calls so far.
-/

namespace ServiceHost

/-- The installed services, each with whether it runs. -/
structure ServiceTable where
  /-- The names of the services and whether they run. -/
  entries : List (String × Bool) := []
  deriving DecidableEq, Repr, Inhabited

namespace ServiceTable

/-- Whether the service of this name runs, if it is installed. -/
def get? (table : ServiceTable) (name : String) : Option Bool := table.entries.lookup name

/-- The service of this name is installed. -/
def contains (table : ServiceTable) (name : String) : Bool := (table.get? name).isSome

/-- The table without the service of this name. -/
def erase (table : ServiceTable) (name : String) : ServiceTable :=
  ⟨table.entries.filter fun (entry, _) ↦ entry != name⟩

/-- The table in which the service of this name runs or does not run. -/
def insert (table : ServiceTable) (name : String) (running : Bool) : ServiceTable :=
  ⟨(name, running) :: (table.erase name).entries⟩

end ServiceTable

/-- A call that the environment has recorded. -/
inductive EnvironmentCall where
  | install (serviceName : String) (startMode : StartMode)
  | uninstall (serviceName : String)
  | start (serviceName : String)
  | stop (serviceName : String)
  | elevate
  | waitForShutdown
  deriving DecidableEq, Repr

/-- A service manager in memory. -/
structure MemoryEnvironment where
  /-- The host has administrator rights. -/
  administrator : Bool := true
  /-- The host can be launched again with administrator rights. -/
  canElevate : Bool := false
  /-- The installed services. -/
  services : ServiceTable := ⟨[]⟩
  /-- The services that refuse to start and to stop. -/
  failing : List String := []
  /-- The calls so far. -/
  calls : List EnvironmentCall := []
  deriving DecidableEq, Repr, Inhabited

namespace MemoryEnvironment

/-- An environment without administrator rights. -/
def unprivileged (canElevate : Bool) : MemoryEnvironment :=
  { administrator := false, canElevate }

/-- The environment with one more installed service. -/
def withService (env : MemoryEnvironment) (name : String) (running : Bool) : MemoryEnvironment :=
  { env with services := env.services.insert name running }

/-- The environment in which the service refuses to start and to stop. -/
def withFailing (env : MemoryEnvironment) (name : String) : MemoryEnvironment :=
  { env with failing := name :: env.failing }

/-- The service of this name is installed and runs. -/
def isRunning (env : MemoryEnvironment) (name : String) : Bool :=
  (env.services.get? name).getD false

/-- The environment after one more call. -/
def record (env : MemoryEnvironment) (call : EnvironmentCall) : MemoryEnvironment :=
  { env with calls := env.calls ++ [call] }

/-- Makes an installed service run or not, unless it refuses. -/
def setRunning (env : MemoryEnvironment) (name : String) (running : Bool) :
    Except EnvironmentError Unit × MemoryEnvironment :=
  if env.failing.contains name then
    (.error (.failed ("service '" ++ name ++ "' refused the request")), env)
  else if env.services.contains name then
    (.ok (), { env with services := env.services.insert name running })
  else (.error (.notInstalled name), env)

/-- Adds a service that does not run. -/
def addService (env : MemoryEnvironment) (name : String) :
    Except EnvironmentError Unit × MemoryEnvironment :=
  if env.services.contains name then (.error (.alreadyInstalled name), env)
  else (.ok (), { env with services := env.services.insert name false })

/-- Removes a service. -/
def removeService (env : MemoryEnvironment) (name : String) :
    Except EnvironmentError Unit × MemoryEnvironment :=
  if env.services.contains name then
    (.ok (), { env with services := env.services.erase name })
  else (.error (.notInstalled name), env)

instance : Environment MemoryEnvironment where
  isAdministrator env := env.administrator
  isInstalled env name := env.services.contains name
  isStopped env name := env.services.get? name == some false
  install env settings :=
    (env.record (.install settings.host.serviceName settings.startMode)).addService
      settings.host.serviceName
  uninstall env settings :=
    (env.record (.uninstall settings.serviceName)).removeService settings.serviceName
  start env name _ := (env.record (.start name)).setRunning name true
  stop env name _ := (env.record (.stop name)).setRunning name false
  elevate env := (env.canElevate, env.record .elevate)
  waitForShutdown env := env.record .waitForShutdown

end MemoryEnvironment

end ServiceHost
