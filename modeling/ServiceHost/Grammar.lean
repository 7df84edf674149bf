import ServiceHost.Directive
import ServiceHost.Pattern
import ServiceHost.Token.Lexer
import ServiceHost.Token.Matching

/-!
# The grammar of invocations

A grammar knows the built-in options and those that a caller has registered. Its patterns stand
in a fixed order.

* The leading mode keyword.
* The definitions that name the service, and the switches for the start mode and for
  administrator rights.
* The registered switches and definitions, in the order of their registration.
* A leading argument that is no keyword, then every switch and definition left over.

An argument after the first token is claimed by none of them and is dropped.

## Main definitions

* `Registration` : a switch or definition that a caller adds to the grammar.
* `Grammar` : the registrations, with their compiled form once it was needed.
* `Grammar.parse` : the directives of an invocation.
-/

namespace ServiceHost

/-- A switch or definition that a caller adds to the grammar. -/
inductive Registration where
  /-- A switch, named in any letter case. -/
  | switch (name : String)
  /-- A definition, named exactly. -/
  | definition (key : String)
  deriving DecidableEq, Repr

namespace Registration

/-- The name of the switch or the key of the definition. -/
def name : Registration → String
  | switch name => name
  | definition key => key

/-- The key of a definition. -/
def definitionKey? : Registration → Option String
  | switch _ => none
  | definition key => some key

/-- The pattern that claims the tokens of a registered option. -/
def pattern : Registration → Pattern Directive
  | switch name => ⟨name, Directive.customSwitch name <$> Token.switchNamed name⟩
  | definition key => ⟨key, Directive.customDefinition key <$> Token.definitionNamed key⟩

end Registration

namespace Grammar

open ServiceHost.Parser

/-- The keys of the built-in definitions and the directives that they yield. -/
def builtinDefinitions : List (String × (String → Directive)) :=
  [("servicename", .serviceName), ("instance", .instanceName),
    ("displayname", .displayName), ("description", .description)]

/-- The names of the built-in switches and the directives that they yield. -/
def builtinSwitches : List (String × Directive) :=
  [("autostart", .startMode .automatic), ("manual", .startMode .manual),
    ("disabled", .startMode .disabled), ("delayed", .startMode .automaticDelayed),
    ("sudo", .allowElevation)]

/-- Reads the leading mode keyword. -/
def modePattern : Pattern Directive :=
  ⟨"mode", do
    let _ ← atStart
    let mode ← firstMatch (Mode.keywords.map fun (word, mode) ↦
      (fun _ ↦ mode) <$> Token.argumentNamed word)
    return .mode mode⟩

/-- Reads a leading argument that is not empty. -/
def unknownCommandPattern : Pattern Directive :=
  ⟨"unknown-command", Directive.unknownCommand <$>
    (do let _ ← atStart; Token.anyArgument : Parser Token String).filter fun text ↦
      !text.isEmpty⟩

/-- Reads any switch or definition. -/
def unknownPattern : Pattern Directive :=
  ⟨"unknown", (fun token ↦ Directive.unknown token.render) <$>
    any.filter fun token : Token ↦ !token.isArgument⟩

/-- The patterns before those of the registered options. -/
def builtinPatterns : List (Pattern Directive) :=
  modePattern ::
    builtinDefinitions.map (fun (key, directive) ↦
      ⟨key, directive <$> Token.definitionNamed key⟩) ++
    builtinSwitches.map fun (name, directive) ↦
      ⟨name, (fun _ ↦ directive) <$> Token.switchNamed name⟩

/-- The patterns after those of the registered options. -/
def catchAllPatterns : List (Pattern Directive) := [unknownCommandPattern, unknownPattern]

/-- What a grammar needs to read an invocation. -/
structure Compiled where
  /-- The keys whose value may stand apart. -/
  keys : List String
  /-- The patterns in the order in which they are tried. -/
  patterns : List (Pattern Directive)

/-- The definition keys under the given registrations: the built-in ones, then the registered
ones in order. -/
def definitionKeys (registrations : List Registration) : List String :=
  builtinDefinitions.map Prod.fst ++ registrations.filterMap Registration.definitionKey?

/-- Puts the keys and patterns for the registrations together. -/
def compile (registrations : List Registration) : Compiled where
  keys := definitionKeys registrations
  patterns := builtinPatterns ++ registrations.map Registration.pattern ++ catchAllPatterns

/-- The directives of an invocation. -/
def Compiled.parse (compiled : Compiled) (text : String) : List Directive :=
  Pattern.resolve compiled.patterns (Token.read compiled.keys text)

end Grammar

/-- The registered options and, once it was needed, their compiled form. -/
structure Grammar where
  /-- The registered options in the order of their registration. -/
  registrations : List Registration := []
  /-- The compiled form of these registrations, if it is kept. -/
  kept : Option { compiled : Grammar.Compiled // compiled = Grammar.compile registrations } := none

namespace Grammar

/-- A grammar with the given registrations. -/
def ofRegistrations (registrations : List Registration) : Grammar := ⟨registrations, none⟩

instance : Inhabited Grammar := ⟨ofRegistrations []⟩

/-- Registers one more option. The compiled form no longer holds and is dropped. -/
def register (g : Grammar) (registration : Registration) : Grammar :=
  ofRegistrations (g.registrations ++ [registration])

/-- Registers a switch. -/
def addSwitch (g : Grammar) (name : String) : Grammar := g.register (.switch name)

/-- Registers a definition. -/
def addDefinition (g : Grammar) (key : String) : Grammar := g.register (.definition key)

/-- The compiled form of the grammar, the kept one if there is one. -/
def compiled (g : Grammar) : Compiled :=
  match g.kept with
  | some kept => kept.val
  | none => compile g.registrations

/-- Keeps the compiled form for later use. -/
def prepare (g : Grammar) : Grammar :=
  match g.kept with
  | some _ => g
  | none => ⟨g.registrations, some ⟨compile g.registrations, rfl⟩⟩

/-- The names of the patterns in the order in which they are tried. -/
def patternNames (g : Grammar) : List String := g.compiled.patterns.map Pattern.name

/-- The definition keys, each once, in the order of their characters. -/
def keySet (g : Grammar) : List String :=
  g.compiled.keys.eraseDups.mergeSort fun a b ↦ decide (a ≤ b)

/-- The tokens of an invocation with the ranges they were read from. -/
def tokenize (g : Grammar) (text : String) : List (Spanned Token) :=
  Token.tokenize g.compiled.keys text

/-- The directives that the grammar finds in the tokens. -/
def resolve (g : Grammar) (tokens : List Token) : List Directive :=
  Pattern.resolve g.compiled.patterns tokens

/-- The directives of an invocation. -/
def parse (g : Grammar) (text : String) : List Directive := g.compiled.parse text

/-- The kept form is the one that compiling yields. -/
theorem compiled_eq (g : Grammar) : g.compiled = compile g.registrations := by
  rw [compiled]
  split
  · rename_i kept _
    exact kept.property
  · rfl

end Grammar

end ServiceHost
