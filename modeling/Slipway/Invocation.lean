import Slipway.CommandLine
import Slipway.Config.Reader
import Slipway.Remote
import Slipway.Report
import Slipway.Session

/-
  Carrying out a command line against the cluster API, from its words to what is shown.
-/

namespace Slipway

/-- What a run finds around it. -/
structure Surroundings where
  lookup : String → Option String
  files : Files
  /-- The namespace of the client, which counts where the configuration has none. -/
  ownNamespace : String := "default"

/-- What a run shows in the end. -/
structure Outcome where
  code : UInt32
  output : String := ""
  errors : String := ""
  deriving DecidableEq, Repr

namespace Invocation

/-- The lines that a run shows, or the report of its failure. -/
abbrev Shown := Except Report (List String)

def versionText : String := "ph-deployer 0.1.0\n"

def helpText : String :=
  "Usage: ph-deployer [--config <file>] <command>\n\n" ++
  "  deploy       Build if needed and deploy a long-running application\n" ++
  "  launch       Build if needed and run a one-shot task\n" ++
  "  undeploy     Remove the deployments, services and routes of an application\n" ++
  "  status       Show the state of an application\n" ++
  "  task-status  Show the state of a task\n" ++
  "  cancel       Delete the pod of a task\n"

def usageText (message : String) : String :=
  "error: " ++ message ++ "\n\nFor more information, try '--help'.\n"

/-- What is shown where no command is carried out. -/
def misused : CommandLine.Misuse → Outcome
  | .help => { code := 0, output := helpText }
  | .version => { code := 0, output := versionText }
  | .empty => { code := 2, errors := helpText }
  | .noCommand => { code := 2, errors := usageText "a command is required but none was given" }
  | .unknownCommand => { code := 2, errors := usageText "there is no such command" }
  | .unknownArgument => { code := 2, errors := usageText "an argument was not expected" }
  | .noValue => { code := 2, errors := usageText "a value is required but none was given" }
  | .badValue message => { code := 2, errors := usageText message }
  | .unwantedValue => { code := 2, errors := usageText "a switch does not take a value" }
  | .repeated => { code := 2, errors := usageText "an option cannot be used several times" }
  | .missingArgument => { code := 2, errors := usageText "required arguments were not given" }

def quoted (s : String) : String := "'" ++ s ++ "'"

def shown (context : Option String) (write : α → List String) : Result α → Shown
  | .ok a => .ok (write a)
  | .error failure => .error { context, failure }

def deployed (o : DeployOutcome) : List String :=
  ("Deployed " ++ quoted o.id.text ++ ": " ++ o.state.display) ::
    o.instances.map fun i => "  " ++ i.text

def instanceLine (i : InstanceStatus) : String :=
  "  " ++ i.name ++ " " ++ Text.signedDecimal i.available.toInt ++ "/" ++
    Text.signedDecimal i.replicas.toInt ++ " available"

def taskLine (id : AppId) (state : PipelineState) : String :=
  "Task " ++ quoted id.text ++ ": " ++ state.display

variable {σ : Type} [Platform σ]

/-- Runs an action and shows what comes of it. -/
def show? (context : Option String) (write : α → List String) (a : Action α) (s : σ) :
    Option Shown × σ :=
  let (r, s) := a.run s
  (r.map (shown context write), s)

/-- Waits for a launched task until its pod is created. -/
def await (l : Launched) (s : σ) : Option (Result PipelineState) × σ :=
  match l.pending with
  | none => (some (.ok l.state), s)
  | some p =>
    match p.watch.follow (Platform.backlog s + 1) s with
    | (.pending, s) => (none, s)
    | (.failed e, s) => (some (.error e), s)
    | (.completed b, s) => (do pure (stateOfPod (← p.afterBuild b)) : Action PipelineState).run s

def launch (d : Deployer) (r : Request) (detach : Bool) (s : σ) : Option Shown × σ :=
  match (d.launch r).run s with
  | (none, s) => (none, s)
  | (some (.error failure), s) =>
    (some (.error { context := some ("Failed to launch " ++ quoted r.name), failure }), s)
  | (some (.ok l), s) =>
    let write (state : PipelineState) := [taskLine l.id state]
    if detach then (some (.ok (write l.state)), s)
    else
      let (r, s) := await l s
      (r.map (shown (some ("Task " ++ quoted l.id.text ++ " did not start")) write), s)

/-- Carries out a command. -/
def carryOut (d : Deployer) (c : CommandLine.Command) (s : σ) : Option Shown × σ :=
  match c with
  | .deploy form =>
    match form.request with
    | .error failure => (some (.error { context := none, failure }), s)
    | .ok r => show? (some ("Failed to deploy " ++ quoted r.name)) deployed (d.deploy r) s
  | .launch form detach =>
    match form.request with
    | .error failure => (some (.error { context := none, failure }), s)
    | .ok r => launch d r detach s
  | .undeploy form =>
    show? (some ("Failed to undeploy " ++ quoted form.name))
      (fun _ => ["Undeployed " ++ quoted form.name]) (Deployer.undeploy form.appId) s
  | .status form =>
    show? none (fun a => ("App " ++ quoted form.name ++ ": " ++ a.state.name) ::
      a.instances.map instanceLine) (Deployer.status form.appId) s
  | .taskStatus form =>
    show? none (fun t => ["Task " ++ quoted form.name ++ ": " ++ t.name])
      (Deployer.taskStatus form.appId) s
  | .cancel form =>
    show? none (fun _ => ["Cancelled " ++ quoted form.name]) (Deployer.cancel form.appId) s

def ended : Shown → Outcome
  | .ok lines => { code := 0, output := String.join (lines.map fun l => l ++ "\n") }
  | .error report => { code := 1, errors := report.text ++ "\n" }

/-- Carries out the words after the name of the program. There is no outcome if a request is never
    answered. The second part is what is left of the network, and what was sent. -/
def run (around : Surroundings) (network : Network) (words : List String) :
    Option Outcome × Connection :=
  let idle : Connection := { targetNamespace := around.ownNamespace, network }
  match CommandLine.parse words with
  | .error m => (some (misused m), idle)
  | .ok line =>
    match Config.load around.files around.lookup line.config with
    | .error failure =>
      (some (ended (.error { context := some "Failed to load configuration", failure })), idle)
    | .ok config =>
      let targetNamespace := config.targetNamespace.getD around.ownNamespace
      let d : Deployer := {
        config
        resolver := Resolver.ofFiles around.files config.mavenLocalRepository
        files := around.files
        targetNamespace }
      let s : Remote := { connection := { targetNamespace, network } }
      let (r, s) := carryOut d line.command s
      (r.map ended, s.connection)

/-! ## What a run reads -/

/-- The file that the configuration is in. -/
def configPath? (words : List String) : Option String :=
  (CommandLine.parse words).toOption.bind (·.config)

/-- The request that a command carries. -/
def request? : CommandLine.Command → Option Request
  | .deploy form => form.request.toOption
  | .launch form _ => form.request.toOption
  | _ => none

/-- The other files that may be read, once the configuration has been: the artifact, and the
    Dockerfile that a property names. -/
def furtherPaths (around : Surroundings) (words : List String) : List String :=
  let paths : Option (List String) := do
    let line ← (CommandLine.parse words).toOption
    let config ← (Config.load around.files around.lookup line.config).toOption
    let r ← request? line.command
    let artifact := (Resolver.locate config.mavenLocalRepository r.artifact).toOption
    pure (artifact.toList ++ (r.nonEmptyProperty Keys.dockerfile).toList)
  paths.getD []

end Invocation

end Slipway
