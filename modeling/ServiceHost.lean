import ServiceHost.Environment.Scripted
import ServiceHost.Main
import ServiceHost.Proofs.Configuration.CommandLine
import ServiceHost.Proofs.Configuration.Validation
import ServiceHost.Proofs.Invocation.Join
import ServiceHost.Proofs.Token.Coverage
import ServiceHost.Proofs.Token.Rendering
import ServiceHost.Proofs.Environment.Replay
import ServiceHost.Proofs.Host.Session
import ServiceHost.Proofs.Configuration.Handlers
import ServiceHost.Proofs.Token.Concatenation
import ServiceHost.Proofs.Configuration.LastValue
import ServiceHost.Proofs.Input.Position
import ServiceHost.Proofs.Grammar.Registration
import ServiceHost.Proofs.Grammar.Spelling
import ServiceHost.Proofs.Configuration.Building
import ServiceHost.Proofs.Grammar.Storage
import ServiceHost.Proofs.CommandLine.Interpretation
import ServiceHost.Proofs.Pattern.Findings
import ServiceHost.Proofs.Token.Rereading
import ServiceHost.Proofs.Grammar.Order
import ServiceHost.Proofs.Grammar.Unknown
import ServiceHost.Proofs.Invocation.Program
import ServiceHost.Proofs.Configuration.Inertness
import ServiceHost.Proofs.Defaults.Precedence
import ServiceHost.Proofs.Invocation.Refusal
import ServiceHost.Proofs.Settings.DisplayName
import ServiceHost.Proofs.Input.Translation
