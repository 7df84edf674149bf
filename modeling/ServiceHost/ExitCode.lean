/-!
# Exit codes

A host run ends with an exit code. The numbers are part of the contract with the caller of the
process.
-/

namespace ServiceHost

/-- How a host run ended. -/
inductive ExitCode where
  | ok
  | abnormalExit
  | sudoRequired
  | serviceAlreadyInstalled
  | serviceNotInstalled
  | startServiceFailed
  | stopServiceFailed
  | serviceAlreadyRunning
  | unhandledServiceException
  | serviceNotRunning
  | sendCommandFailed
  deriving DecidableEq, Repr, Inhabited

namespace ExitCode

/-- All exit codes in the order of their numbers. -/
def all : List ExitCode :=
  [ok, abnormalExit, sudoRequired, serviceAlreadyInstalled, serviceNotInstalled,
    startServiceFailed, stopServiceFailed, serviceAlreadyRunning, unhandledServiceException,
    serviceNotRunning, sendCommandFailed]

/-- The status of a process that ends with the code. -/
def status : ExitCode → Nat
  | ok => 0
  | abnormalExit => 1
  | sudoRequired => 2
  | serviceAlreadyInstalled => 3
  | serviceNotInstalled => 4
  | startServiceFailed => 5
  | stopServiceFailed => 6
  | serviceAlreadyRunning => 7
  | unhandledServiceException => 8
  | serviceNotRunning => 9
  | sendCommandFailed => 10

/-- The name of an exit code in words joined by hyphens. -/
def name : ExitCode → String
  | ok => "ok"
  | abnormalExit => "abnormal-exit"
  | sudoRequired => "sudo-required"
  | serviceAlreadyInstalled => "service-already-installed"
  | serviceNotInstalled => "service-not-installed"
  | startServiceFailed => "start-service-failed"
  | stopServiceFailed => "stop-service-failed"
  | serviceAlreadyRunning => "service-already-running"
  | unhandledServiceException => "unhandled-service-exception"
  | serviceNotRunning => "service-not-running"
  | sendCommandFailed => "send-command-failed"

/-- The title of an exit code. -/
def title : ExitCode → String
  | ok => "Ok"
  | abnormalExit => "AbnormalExit"
  | sudoRequired => "SudoRequired"
  | serviceAlreadyInstalled => "ServiceAlreadyInstalled"
  | serviceNotInstalled => "ServiceNotInstalled"
  | startServiceFailed => "StartServiceFailed"
  | stopServiceFailed => "StopServiceFailed"
  | serviceAlreadyRunning => "ServiceAlreadyRunning"
  | unhandledServiceException => "UnhandledServiceException"
  | serviceNotRunning => "ServiceNotRunning"
  | sendCommandFailed => "SendCommandFailed"

/-- The title and the number. -/
def text (code : ExitCode) : String := code.title ++ " (" ++ toString code.status ++ ")"

/-- The run ended well. -/
def isOk (code : ExitCode) : Bool := code == .ok

end ExitCode

end ServiceHost
