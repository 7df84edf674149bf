import ServiceHost.CommandLine
import ServiceHost.Json.Printer
import ServiceHost.Proofs.CommandLine.Reports
import ServiceHost.Proofs.Configuration.Building
import ServiceHost.Proofs.Configuration.CommandLine
import ServiceHost.Proofs.Defaults.Precedence
import ServiceHost.Proofs.Invocation.Join

/-!
# From the options of the program to its end

An invocation passes four stages before anything is printed. The defaults are loaded, the arguments
are joined to one line, the directives of the line are applied, and the host is built. The first
stage that fails ends the program with its error. If no stage fails, the report tells what the host
was built from, in lines of text or as a JSON value. The host then runs, if at all, in an
environment without services, so that the status of the program depends on nothing but the mode.
All of this holds whatever library loads the defaults and whatever printer writes JSON values.

## Main definitions

* `CommandLine.Interpretation` : an invocation that passes all stages.
* `CommandLine.FirstFailure` : the error of the first stage that an invocation does not pass.
* `CommandLine.Interpretation.lines`, `CommandLine.Interpretation.json` : what the report says.
* `CommandLine.Interpretation.remainder` : what is printed after the report.

## Main results

* `Host.BuiltFrom.code_runIn`, `Host.BuiltFrom.printed_runIn` : how a host of the program ends, and
  what it prints.
* `CommandLine.interpret_eq_error` : an invocation is refused for exactly the first failure.
* `CommandLine.run_cases` : how the program ends.
-/

namespace ServiceHost

namespace Configuration

/-! ### What directives leave alone -/

theorem factory_apply (c : Configuration) (directive : Directive) :
    (c.apply directive).configuration.factory = c.factory := by
  cases directive with
  | mode mode =>
    rw [apply]
    split_ifs <;> rfl
  | _ => rfl

/-- Directives do not change what makes the service. -/
theorem factory_applyAll (c : Configuration) (directives : List Directive) :
    (c.applyAll directives).configuration.factory = c.factory := by
  induction directives generalizing c with
  | nil => rfl
  | cons directive directives ih =>
    rw [applyAll]
    cases (c.apply directive).error? with
    | some _ => exact c.factory_apply directive
    | none => exact (ih _).trans (c.factory_apply directive)

/-- The configuration that keeps the compiled form of its grammar. -/
def prepared (c : Configuration) : Configuration := { c with grammar := c.grammar.prepare }

/-- A command line has the effect of its directives. -/
theorem applyCommandLine_eq (c : Configuration) (text : String) :
    (c.applyCommandLine text).configuration =
        (c.prepared.applyAll (c.prepared.grammar.parse text)).configuration ∧
      (c.applyCommandLine text).error? =
        (c.prepared.applyAll (c.prepared.grammar.parse text)).error? := by
  rw [applyCommandLine]
  dsimp only
  split <;> exact ⟨rfl, rfl⟩

theorem factory_applyCommandLine (c : Configuration) (text : String) :
    (c.applyCommandLine text).configuration.factory = c.factory := by
  rw [(c.applyCommandLine_eq text).1]
  exact c.prepared.factory_applyAll _

end Configuration

namespace Host

/-! ### The host of the program -/

/-- The environment in which the program runs a host. -/
def emptyEnvironment : MemoryEnvironment := ⟨true, false, ⟨[]⟩, [], []⟩

section BuiltFrom

variable {c : Configuration} {host : Host} {service : Service}

/-- The service of the program starts and stops. -/
theorem eq_of_made (hfactory : c.factory = some fun _ ↦ ⟨true, true⟩)
    (hmade : c.factory.map (· c.settings) = some service) : ⟨true, true⟩ = service := by
  rw [hfactory] at hmade
  exact Option.some.inj hmade

/-- A host of the program misses its service if it is to remove, start or stop it, since no service
is installed. It ends well otherwise. -/
theorem BuiltFrom.code_runIn (h : host.BuiltFrom c)
    (hfactory : c.factory = some fun _ ↦ ⟨true, true⟩) :
    (host.runIn emptyEnvironment).code =
      if c.mode ∈ [.uninstall, .start, .stop] then .serviceNotInstalled else .ok := by
  rw [← h.mode_eq]
  cases host with
  | run settings service | test settings service =>
    obtain rfl := eq_of_made hfactory h.2.2
    rfl
  | _ => rfl

/-- What a host prints that shows the usage of its service. -/
def usage : Host → String
  | help _ introduction custom => Usage.render introduction custom ++ "\n"
  | _ => ""

/-- A host of the program prints nothing but the usage. -/
theorem BuiltFrom.printed_runIn (h : host.BuiltFrom c)
    (hfactory : c.factory = some fun _ ↦ ⟨true, true⟩) :
    CommandLine.printed (host.runIn emptyEnvironment).events = host.usage := by
  cases host with
  | run settings service | test settings service =>
    obtain rfl := eq_of_made hfactory h.2.2
    rfl
  | help settings introduction custom => exact String.empty_append
  | _ => rfl

end BuiltFrom

end Host

namespace CommandLine

/-! ### The stages -/

variable {library : SettingsLibrary} {printer : Json → Except String String} {files : Files}
  {o : Options} {error : ConfigurationError}

/-- An invocation that passes all stages. -/
structure Interpretation (library : SettingsLibrary) (files : Files) (o : Options) where
  /-- The defaults. -/
  defaults : Defaults
  /-- The line to which the arguments of the invocation are joined. -/
  text : String
  /-- The host of the service. -/
  host : Host
  /-- The defaults are loaded. -/
  loadDefaults_eq : loadDefaults library files o = .ok defaults
  /-- The arguments are joined. -/
  join_eq : Invocation.join o.invocation = .ok text
  /-- The directives of the line are applied. -/
  error?_eq : ((initial defaults).applyCommandLine text).error? = none
  /-- The host is built. -/
  host_eq : ((initial defaults).applyCommandLine text).configuration.build.host = .ok host

/-- The errors of the stages. Each of them counts only if the stages before it are passed. -/
inductive FirstFailure (library : SettingsLibrary) (files : Files) (o : Options) :
    ConfigurationError → Prop where
  /-- The defaults are not loaded. -/
  | defaults {error : DefaultsError} (h : loadDefaults library files o = .error error) :
    FirstFailure library files o (.defaults error)
  /-- The arguments are not joined. -/
  | arguments {defaults : Defaults} {error : ConfigurationError}
    (hdefaults : loadDefaults library files o = .ok defaults)
    (h : Invocation.join o.invocation = .error error) : FirstFailure library files o error
  /-- A directive of the line is not applied. -/
  | directives {defaults : Defaults} {text : String} {error : ConfigurationError}
    (hdefaults : loadDefaults library files o = .ok defaults)
    (htext : Invocation.join o.invocation = .ok text)
    (h : ((initial defaults).applyCommandLine text).error? = some error) :
    FirstFailure library files o error
  /-- The host is not built, for the first obstacle that the configuration meets. -/
  | host {defaults : Defaults} {text : String} {error : ConfigurationError}
    (hdefaults : loadDefaults library files o = .ok defaults)
    (htext : Invocation.join o.invocation = .ok text)
    (happlied : ((initial defaults).applyCommandLine text).error? = none)
    (h : ((initial defaults).applyCommandLine text).configuration.Obstacle error) :
    FirstFailure library files o error

/-- The layers of defaults that the options name. -/
def Options.layers {α : Type} (ofText : String → α) (o : Options) : List (Layer α) :=
  (o.config.map .file).toList ++ (o.name.map fun name ↦ .override "name" (ofText name)).toList

/-- The defaults are those of the layers that the options name. -/
theorem loadDefaults_eq_loadLayers (library : SettingsLibrary) (files : Files) (o : Options) :
    loadDefaults library files o = Loader.loadLayers files (o.layers library.ofText) := by
  have hname (l : Loader library) (name : String) :
      [Layer.override "name" (library.ofText name)].foldlM Loader.add l =
        l.setOverride "name" (library.ofText name) := bind_pure _
  rw [loadDefaults, Options.layers, Loader.loadLayers, Loader.ofLayers, List.foldlM_append]
  cases o.config <;> cases o.name with
  | none => rfl
  | some name => exact congrArg (· >>= _) (hname _ name).symm

namespace Interpretation

/-- The configuration before the directives are applied. It has what the defaults state, and a
service that starts and stops. -/
def before (i : Interpretation library files o) : Configuration where
  name := i.defaults.name
  displayName := i.defaults.displayName
  description := i.defaults.description
  instanceName := i.defaults.instanceName
  startMode := i.defaults.startMode
  startTimeout := .ofSeconds i.defaults.startTimeoutSeconds
  stopTimeout := .ofSeconds i.defaults.stopTimeoutSeconds
  factory := some fun _ ↦ ⟨true, true⟩

/-- The configuration from which the host is built. -/
def configuration (i : Interpretation library files o) : Configuration :=
  ((initial i.defaults).applyCommandLine i.text).configuration

/-- The directives of the line. -/
def directives (i : Interpretation library files o) : List Directive :=
  (initial i.defaults).grammar.parse i.text

/-- What is reported of the invocation. -/
def report (i : Interpretation library files o) : Report :=
  ⟨i.configuration.mode, i.directives, i.configuration.installSettings⟩

/-- What the report says in lines. -/
def lines (i : Interpretation library files o) : List String :=
  let settings := i.configuration.settings
  ["mode:          " ++ i.configuration.mode.name,
    "name:          " ++ settings.name,
    "service name:  " ++ settings.serviceName,
    "display name:  " ++ settings.displayName,
    "description:   " ++ settings.description,
    "instance:      " ++ settings.instanceName,
    "start mode:    " ++ i.configuration.startMode.title,
    "sudo:          " ++ toString i.configuration.mayElevate,
    "timeouts:      start " ++ toString settings.startTimeout.seconds ++ "s, stop " ++
      toString settings.stopTimeout.seconds ++ "s"] ++
    i.directives.map fun directive ↦ "option:        " ++ directive.text

/-- What the report says as a JSON value. -/
def json (i : Interpretation library files o) : Json :=
  let settings := i.configuration.settings
  .object [("mode", .string i.configuration.mode.name),
    ("options", .array (i.directives.map Directive.toJson)),
    ("settings", .object [("name", .string settings.name),
      ("display_name", .string settings.displayName),
      ("description", .string settings.description),
      ("instance_name", .string settings.instanceName),
      ("service_name", .string settings.serviceName),
      ("start_timeout", .float settings.startTimeout.toFloat),
      ("stop_timeout", .float settings.stopTimeout.toFloat),
      ("start_mode", .string i.configuration.startMode.name),
      ("sudo", .bool i.configuration.mayElevate)])]

/-- What is printed after the report. -/
def remainder (i : Interpretation library files o) : String :=
  if o.execute then
    i.host.usage ++ if i.configuration.mode ∈ [.uninstall, .start, .stop]
      then "exit: ServiceNotInstalled (4)\n" else "exit: Ok (0)\n"
  else ""

theorem text_report (i : Interpretation library files o) :
    i.report.text = String.join (i.lines.map (· ++ "\n")) := rfl

theorem toJson_report (i : Interpretation library files o) : i.report.toJson = i.json := rfl

end Interpretation

/-- An invocation passes all stages, or there is a first one that it does not pass. -/
theorem firstFailure_or_interpretation (library : SettingsLibrary) (files : Files) (o : Options) :
    (∃ error, FirstFailure library files o error) ∨ Nonempty (Interpretation library files o) := by
  cases hdefaults : loadDefaults library files o with
  | error error => exact .inl ⟨_, .defaults hdefaults⟩
  | ok defaults =>
    cases htext : Invocation.join o.invocation with
    | error error => exact .inl ⟨_, .arguments hdefaults htext⟩
    | ok text =>
      cases happlied : ((initial defaults).applyCommandLine text).error? with
      | some error => exact .inl ⟨_, .directives hdefaults htext happlied⟩
      | none =>
        cases hhost : ((initial defaults).applyCommandLine text).configuration.build.host with
        | error error =>
          have hobstacle := Configuration.build_eq_error.mp hhost
          exact .inl ⟨_, .host hdefaults htext happlied hobstacle⟩
        | ok host => exact .inr ⟨⟨defaults, text, host, hdefaults, htext, happlied, hhost⟩⟩

theorem prepare_of_firstFailure (h : FirstFailure library files o error) :
    prepare library files o = .error error := by
  cases h with
  | defaults h =>
    rw [prepare, h]
    rfl
  | arguments hdefaults h =>
    rw [prepare, hdefaults, h]
    rfl
  | directives hdefaults htext h =>
    rw [prepare, hdefaults, htext]
    simp only [Except.mapError, h, bind, Except.bind]
    rfl
  | host hdefaults htext happlied h =>
    rw [prepare, hdefaults, htext]
    simp only [Except.mapError, happlied, Configuration.build_eq_error.mpr h, bind, Except.bind]

theorem Interpretation.prepare_eq (i : Interpretation library files o) :
    prepare library files o = .ok (i.report, i.host) := by
  rw [prepare, i.loadDefaults_eq, i.join_eq]
  simp only [Except.mapError, i.error?_eq, i.host_eq, bind, Except.bind]
  rfl

/-- The service of the program is always made. -/
theorem FirstFailure.ne_missingServiceFactory (h : FirstFailure library files o error) :
    error ≠ .missingServiceFactory := by
  rintro rfl
  cases h with
  | arguments _ h =>
    obtain ⟨argument, -, herror⟩ := Invocation.error_of_join h
    cases herror
  | directives _ _ h =>
    rw [(Configuration.applyCommandLine_eq _ _).2, Configuration.error?_applyAll] at h
    obtain ⟨word, -, herror⟩ := Option.map_eq_some_iff.mp h
    cases herror
  | host _ _ _ h =>
    cases h with
    | factory _ _ _ h =>
      rw [Configuration.factory_applyCommandLine] at h
      cases h

/-! ### The end of the program -/

namespace Interpretation

theorem builtFrom (i : Interpretation library files o) : i.host.BuiltFrom i.configuration :=
  Configuration.builtFrom_of_build i.host_eq

theorem code_runIn (i : Interpretation library files o) :
    (i.host.runIn Host.emptyEnvironment).code =
      if i.configuration.mode ∈ [.uninstall, .start, .stop] then .serviceNotInstalled else .ok :=
  i.builtFrom.code_runIn (Configuration.factory_applyCommandLine _ _)

theorem printed_runIn (i : Interpretation library files o) :
    printed (i.host.runIn Host.emptyEnvironment).events = i.host.usage :=
  i.builtFrom.printed_runIn (Configuration.factory_applyCommandLine _ _)

/-- The directives of the line do not depend on what the grammar keeps. -/
theorem directives_eq (i : Interpretation library files o) :
    i.directives = i.before.prepared.grammar.parse i.text := by
  rw [directives, Configuration.prepared, Grammar.parse, Grammar.parse, Grammar.compiled_eq,
    Grammar.compiled_eq, Grammar.registrations_prepare]
  rfl

/-- The directives of the line are applied, all of them and in their order. -/
theorem configuration_eq (i : Interpretation library files o) :
    (i.before.prepared.applyAll i.directives).error? = none ∧
      i.configuration = (i.before.prepared.applyAll i.directives).configuration := by
  obtain ⟨hconfiguration, herror⟩ := i.before.applyCommandLine_eq i.text
  rw [directives_eq, ← herror]
  exact ⟨i.error?_eq, hconfiguration⟩

/-- A report that the printer refuses is all that is complained of. -/
theorem interpret_of_refused (i : Interpretation library files o) {detail : String}
    (h : render printer o i.report = .error detail) : interpret library printer files o =
      .ok ⟨.abnormalExit, "", some ("Serialization error: " ++ detail)⟩ := by
  rw [interpret, i.prepare_eq]
  simp only [bind, Except.bind, h]
  rfl

/-- The report is printed before what the run prints. -/
theorem interpret_of_printed (i : Interpretation library files o) {text : String}
    (h : render printer o i.report = .ok text) : interpret library printer files o =
      .ok ⟨if o.execute ∧ i.configuration.mode ∈ [.uninstall, .start, .stop]
        then .serviceNotInstalled else .ok, text ++ i.remainder, none⟩ := by
  have hcode := i.code_runIn
  have hprinted := i.printed_runIn
  have htexts : "exit: " ++ ExitCode.serviceNotInstalled.text ++ "\n" =
      "exit: ServiceNotInstalled (4)\n" ∧
      "exit: " ++ ExitCode.ok.text ++ "\n" = "exit: Ok (0)\n" := by decide +kernel
  rw [Host.emptyEnvironment] at hcode hprinted
  rw [interpret, i.prepare_eq, remainder]
  simp only [bind, Except.bind, h, hcode, hprinted]
  cases o.execute with
  | false => simp [pure, Except.pure]
  | true =>
    by_cases hmode : i.configuration.mode ∈ [.uninstall, .start, .stop]
    · simp [hmode, pure, Except.pure, String.append_assoc, ← htexts.1]
    · simp [hmode, pure, Except.pure, String.append_assoc, ← htexts.2]

end Interpretation

/-- An invocation is refused for exactly the first failure. -/
theorem interpret_eq_error :
    interpret library printer files o = .error error ↔ FirstFailure library files o error := by
  have hfailure {found : ConfigurationError} (h : FirstFailure library files o found) :
      interpret library printer files o = .error found := by
    rw [interpret, prepare_of_firstFailure h]
    rfl
  refine ⟨fun h ↦ ?_, hfailure⟩
  rcases firstFailure_or_interpretation library files o with ⟨found, hfound⟩ | ⟨⟨i⟩⟩
  · rw [hfailure hfound] at h
    exact Except.error.inj h ▸ hfound
  · cases hreport : render printer o i.report with
    | error detail =>
      rw [i.interpret_of_refused hreport] at h
      cases h
    | ok text =>
      rw [i.interpret_of_printed hreport] at h
      cases h

/-- The defaults are those of the file and the name in the options. An invocation passes all stages,
or its first failure is all that is said, which is never that nothing makes the service. If all
stages are passed, the report is printed first, with the mode and the settings of the host and with
the directives that led to them. The status is then zero, unless the host is run to remove, start or
stop its service, which is not installed. Different directives are reported differently. -/
theorem run_cases (library : SettingsLibrary) (printer : Json → Except String String)
    (files : Files) (o : Options) :
    loadDefaults library files o = Loader.loadLayers files (o.layers library.ofText) ∧
    ((∃ error, FirstFailure library files o error) ∨ Nonempty (Interpretation library files o)) ∧
    (∀ error, interpret library printer files o = .error error ↔
      FirstFailure library files o error) ∧
    (∀ error, FirstFailure library files o error → error ≠ .missingServiceFactory ∧
      run library printer files o = ⟨1, "", some ("Error: " ++ error.message)⟩) ∧
    (∀ i : Interpretation library files o,
      let status := if o.execute ∧ i.configuration.mode ∈ [.uninstall, .start, .stop] then 4 else 0
      (o.format ≠ some .json → run library printer files o =
        ⟨status, String.join (i.lines.map (· ++ "\n")) ++ i.remainder, none⟩) ∧
      (o.format = some .json → ∀ text, printer i.json = .ok text →
        run library printer files o = ⟨status, text ++ "\n" ++ i.remainder, none⟩) ∧
      (o.format = some .json → ∀ detail, printer i.json = .error detail →
        run library printer files o = ⟨1, "", some ("Serialization error: " ++ detail)⟩) ∧
      (o.execute = false → i.remainder = "") ∧
      i.host.mode = i.configuration.mode ∧ i.host.settings = i.configuration.settings ∧
      i.host.BuiltFrom i.configuration ∧
      i.directives = i.before.prepared.grammar.parse i.text ∧
      (i.before.prepared.applyAll i.directives).error? = none ∧
      i.configuration = (i.before.prepared.applyAll i.directives).configuration) ∧
    Function.Injective Directive.text ∧ Function.Injective Directive.toJson := by
  refine ⟨loadDefaults_eq_loadLayers library files o,
    firstFailure_or_interpretation library files o, fun error ↦ interpret_eq_error,
    fun error h ↦ ⟨h.ne_missingServiceFactory, ?failure⟩,
    fun i ↦ ⟨fun hformat ↦ ?text, fun hformat text htext ↦ ?json,
      fun hformat detail hdetail ↦ ?refused, fun hexecute ↦ ?silent, i.builtFrom.mode_eq,
      i.builtFrom.settings_eq, i.builtFrom, i.directives_eq, i.configuration_eq.1,
      i.configuration_eq.2⟩, Directive.text_injective, Directive.toJson_injective⟩
  case failure =>
    rw [run, interpret_eq_error.mpr h]
    rfl
  case text =>
    have hrender : render printer o i.report = .ok i.report.text := by
      rw [render]
      cases hoption : o.format with
      | none => rfl
      | some format =>
        cases format with
        | text => rfl
        | json => exact absurd hoption hformat
    rw [run, i.interpret_of_printed hrender, i.text_report]
    split_ifs <;> rfl
  case json =>
    have hrender : render printer o i.report = .ok (text ++ "\n") := by
      rw [render, hformat, i.toJson_report]
      simp only [Option.getD_some, htext, Except.map]
    rw [run, i.interpret_of_printed hrender]
    split_ifs <;> rfl
  case refused =>
    have hrender : render printer o i.report = .error detail := by
      rw [render, hformat, i.toJson_report]
      simp only [Option.getD_some, hdetail, Except.map]
    rw [run, i.interpret_of_refused hrender]
    rfl
  case silent =>
    rw [Interpretation.remainder, hexecute]
    rfl

/-! ### A service that is not installed -/

/-- The options under which the service Joe is to be removed. -/
def removal (format : Option Format) : Options := ⟨none, "Joe", format, true, ["uninstall"]⟩

theorem loadDefaults_removal (format : Option Format) :
    loadDefaults (Document.library id) (fun _ ↦ none) (removal format) =
      .ok { Defaults.builtin with name := "Joe" } := by
  let layers : List (Layer (Document.library id).Value) := [.override "name" (.string "Joe")]
  have hlawful : (Document.view id).IsLawful := Document.isLawful_view .refl
  have hoverrides (key : String) :
      overridesFor key layers = if "name" = key then [("name", .string "Joe")] else [] := by
    have hfilter : overridesFor key layers = [("name", .string "Joe")].filter fun override ↦
      decide (Text.lower override.1 = key) := rfl
    simp [hfilter, List.filter_cons, Loader.lower_spellings.2]
  have hspelled (s : Setting) : IsSpelledAlike s.key layers := by
    rw [IsSpelledAlike, hoverrides]
    split_ifs <;> simp
  have hload : Loader.loadLayers (fun _ ↦ none) layers =
      .ok { Defaults.builtin with name := "Joe" } := by
    refine (Loader.loadLayers_eq_ok hlawful (by decide +kernel) hspelled).mpr
      ⟨by decide, fun s ↦ ?_⟩
    rw [SettingsLibrary.View.layeredValue, hoverrides]
    cases s <;> rfl
  exact (loadDefaults_eq_loadLayers _ _ _).trans hload

/-- The removal passes all stages. -/
def interpretationRemoval (format : Option Format) :
    Interpretation (Document.library id) (fun _ ↦ none) (removal format) where
  defaults := { Defaults.builtin with name := "Joe" }
  text := "uninstall"
  host := .uninstall ⟨"Joe", "Joe", "", "", "Joe", .ofSeconds 10, .ofSeconds 10⟩ false
  loadDefaults_eq := loadDefaults_removal format
  join_eq := show Invocation.join ["uninstall"] = .ok "uninstall" by decide +kernel
  error?_eq := by decide +kernel
  host_eq := by decide +kernel

theorem mode_interpretationRemoval (format : Option Format) :
    (interpretationRemoval format).configuration.mode = .uninstall :=
  show ((initial { Defaults.builtin with name := "Joe" }).applyCommandLine
    "uninstall").configuration.mode = .uninstall by decide +kernel

theorem remainder_interpretationRemoval (format : Option Format) :
    (interpretationRemoval format).remainder = "exit: ServiceNotInstalled (4)\n" := by
  rw [Interpretation.remainder, mode_interpretationRemoval]
  exact String.empty_append

/-- A service that is not installed cannot be removed, which is found after the report was printed
in lines or as a JSON value. An unknown command is found before it is found that the service has no
name. -/
theorem run_cases_uninstall :
    let printer : Json → Except String String := fun value ↦ .ok value.pretty
    (∃ i : Interpretation (Document.library id) (fun _ ↦ none) (removal none),
      run (Document.library id) printer (fun _ ↦ none) (removal none) =
        ⟨4, String.join (i.lines.map (· ++ "\n")) ++ "exit: ServiceNotInstalled (4)\n", none⟩ ∧
      i.lines = ["mode:          uninstall", "name:          Joe", "service name:  Joe",
        "display name:  Joe", "description:   ", "instance:      ", "start mode:    Automatic",
        "sudo:          false", "timeouts:      start 10s, stop 10s",
        "option:        Mode(Uninstall)"]) ∧
    (∃ i : Interpretation (Document.library id) (fun _ ↦ none) (removal (some .json)),
      run (Document.library id) printer (fun _ ↦ none) (removal (some .json)) =
        ⟨4, i.json.pretty ++ "\n" ++ "exit: ServiceNotInstalled (4)\n", none⟩) ∧
    run (Document.library id) printer (fun _ ↦ none) ⟨none, none, none, false, ["Joe"]⟩ =
      ⟨1, "", some "Error: unknown command-line argument: Joe"⟩ := by
  intro printer
  have hrun (format : Option Format) := (run_cases (Document.library id) printer (fun _ ↦ none)
    (removal format)).2.2.2.2.1 (interpretationRemoval format)
  have hstatus (format : Option Format) : (removal format).execute = true ∧
      (interpretationRemoval format).configuration.mode ∈ [.uninstall, .start, .stop] :=
    ⟨rfl, by rw [mode_interpretationRemoval]; decide⟩
  simp only [hstatus, remainder_interpretationRemoval] at hrun
  have hlawful : (Document.view id).IsLawful := Document.isLawful_view .refl
  have hdefaults := (loadDefaults_eq_loadLayers (Document.library id) (fun _ ↦ none)
    ⟨none, none, none, false, ["Joe"]⟩).trans (Loader.loadLayers_nil hlawful _)
  have herror : FirstFailure (Document.library id) (fun _ ↦ none) ⟨none, none, none, false, ["Joe"]⟩
      (.unknownCommand "Joe") :=
    .directives hdefaults (show Invocation.join ["Joe"] = .ok "Joe" by decide +kernel)
      (show ((initial Defaults.builtin).applyCommandLine "Joe").error? = _ by decide +kernel)
  refine ⟨⟨interpretationRemoval none, (hrun none).1 (by decide), by decide +kernel⟩,
    ⟨interpretationRemoval (some .json), (hrun (some .json)).2.1 rfl _ rfl⟩, ?_⟩
  exact ((run_cases _ printer _ _).2.2.2.1 _ herror).2

end CommandLine

end ServiceHost
