import Introspection.Command.Arguments
import Introspection.Config
import Introspection.Declaration.Reader
import Introspection.Emission.Element
import Introspection.Log.Journal
import Introspection.Recovery.Tree
import Introspection.Stub.Output

/-!
# Running a command

A run has three phases. First the journal is configured, which may make the log file. Then
everything is read and worked out: the configuration, the input, the fragments or the stub files.
This phase is a function of the disk and leaves it alone, so a command that fails in it has changed
no file but the log. Only a command that has its whole result in hand writes.

Failures that a user can mend are told in a sentence, and the exit code is one. Everything else,
such as a directory in the place of a file, breaks the run off.

How documents are loaded and how the templates of users are rendered is left open. A run is given
tools for both, and has no say in what comes of them.

## Main definitions

* `Command.Tools`
* `Command.Exit`, `Command.Outcome`
* `Command.emission`, `Command.stubFiles` — what the commands work out from the disk
* `Command.EmitFault.verdict`, `Command.StubsFault.verdict` — which failures are told
* `Command.emit`, `Command.stubs`, `Command.run`
-/

namespace Introspection.Command

open Log (Journal)

/-- What a run is given besides its disk: what loads documents in YAML, what renders the templates
of users, and the directory of the packs, below which another pack may be. -/
structure Tools where
  yaml : Yaml.Loader
  engine : Emission.Engine
  packs : Path

/-- What breaks a run off. -/
inductive Breakdown where
  | disk (path : Path) (fault : Disk.Fault)
  | scalar (fault : Yaml.ScalarFault)
  | emission (fault : Emission.Fault)
  /-- A switch has no argument where something is wanted of its path. -/
  | blank (wanted : String)
deriving Inhabited

/-- The wording of a breakdown. -/
def Breakdown.message : Breakdown → String
  | .disk path fault => fault.message path
  | .scalar fault => fault.message
  | .emission fault => fault.message
  | .blank wanted => "'list' object has no attribute " ++ Text.quoted wanted

/-- How a run ends. -/
inductive Exit where
  | finished
  | failed
  | broken (breakdown : Breakdown)
deriving Inhabited

/-- How a run ended, what it printed, and the journal with the console and the disk. -/
structure Outcome where
  exit : Exit
  printed : String := ""
  journal : Journal

/-- What a failure means for the run. -/
inductive Verdict where
  /-- The failure is told on the console. -/
  | told (text : String)
  | broken (breakdown : Breakdown)
deriving Inhabited

/-- A failure told as it is. -/
def plainly (message : String) : Verdict :=
  .told (message ++ "\n")

/-- A failure told as that of a command, with advice. -/
def withAdvice (command message : String) : Verdict :=
  .told ("stubsmith " ++ command ++ " failed: " ++ message ++
    "\nRun with --verbose for more details.\n")

/-- A missing file is told, any other trouble with the disk is not. -/
def diskVerdict (path : Path) (fault : Disk.Fault) : Verdict :=
  match fault with
  | .notFound => plainly (fault.message path)
  | fault => .broken (.disk path fault)

/-- Ends a run by a verdict. -/
def Verdict.conclude (verdict : Verdict) (journal : Journal) : Outcome :=
  match verdict with
  | .told text => { exit := .failed, journal := journal.say text }
  | .broken breakdown => { exit := .broken breakdown, journal }

/-- What a failed configuration means. -/
def configVerdict : Config.Fault → Verdict
  | .unreadable path fault => .broken (.disk path fault)
  | .scalar fault => .broken (.scalar fault)
  | fault => plainly fault.message

/-- Applies a change to the disk of a journal. -/
def onDisk {α : Type} (journal : Journal) (change : Disk.Change α) :
    Except Disk.Fault α × Journal :=
  match change journal.disk with
  | .ok value disk => (.ok value, { journal with disk })
  | .error fault disk => (.error fault, { journal with disk })

/-! ### Emitting fragments -/

/-- The directories that templates are looked up in: that of the user, and that of the pack unless
the pack is known. -/
def templateDirectories (tools : Tools) (config : Config.Emission) : List Path :=
  config.templatesDirectory.toList ++
    match Emission.pack? (.ofText config.templatePack) with
    | some _ => []
    | none => [tools.packs.child config.templatePack]

/-- The emitter of a configuration, with the templates of the user. -/
def emitterOf (tools : Tools) (disk : Disk) (config : Config.Emission) : Emission.Emitter where
  names := config.names
  templates := .ofFiles tools.engine
    { pack := config.templatePack
      file? := fun name => (templateDirectories tools config).findSome? fun directory =>
        (disk.read (directory.child name)).toOption }

/-- Why nothing can be emitted. -/
inductive EmitFault where
  | unreadable (path : Path) (fault : Disk.Fault)
  | declarations (fault : Declaration.LoadFault)
  | emission (fault : Emission.Fault)
deriving Inhabited

/-- What a failed emission means. -/
def EmitFault.verdict : EmitFault → Verdict
  | .unreadable path fault => diskVerdict path fault
  | .declarations (.undecodable fault) => plainly fault.message
  | .declarations (.scalar fault) => .broken (.scalar fault)
  | .declarations fault => withAdvice "emit" fault.message
  | .emission (.template (.engine (.undecodable fault))) => plainly fault.message
  | .emission (.template (.engine (.failed message))) =>
    .broken (.emission (.template (.engine (.failed message))))
  | .emission (.metadata (.unsupported value)) => .broken (.emission (.metadata (.unsupported value)))
  | .emission (.counter fault) => .broken (.emission (.counter fault))
  | .emission fault => withAdvice "emit" fault.message

/-- The sources of emitted elements, with a blank line between them. -/
def sources (elements : List Emission.Element) : String :=
  "\n".intercalate (elements.map (·.source))

/-- The source text for the declarations in a file, and what is reported on the way. -/
def emission (tools : Tools) (disk : Disk) (config : Config) (declarations : Path) :
    Except EmitFault String × List Log.Record :=
  match disk.read declarations with
  | .error fault => (.error (.unreadable declarations fault), [])
  | .ok bytes =>
    match Declaration.load tools.yaml declarations.name bytes with
    | .error fault => (.error (.declarations fault), [])
    | .ok declared =>
      match Emission.emit (emitterOf tools disk config.emission) declared {} with
      | .ok elements state => (.ok (sources elements), state.log)
      | .error fault state => (.error (.emission fault), state.log)

/-- The report of a written file of fragments. -/
def writtenRecord (path : Path) : Log.Record :=
  ⟨.info, Log.loggerName (some "cli"), "Fragments written to " ++ path.text⟩

/-- Writes a text to a file, after the directories around it. -/
def writeText (path : Path) (text : String) : Disk.Change Unit := do
  Disk.ensureDirectory path.parent
  Disk.write path text.toUTF8

/-- Emits the fragments of a declarations file to a file, or prints them. -/
def emit (tools : Tools) (stamp : String) (journal : Journal) (config : Config)
    (declarations : Path) (output : Supplied Path) : Outcome :=
  let (result, log) := emission tools journal.disk config declarations
  let journal := journal.deliverAll stamp log
  match result, output with
  | .error fault, _ => fault.verdict.conclude journal
  | .ok text, .nothing => { exit := .finished, printed := text, journal }
  | .ok _, .blank => { exit := .broken (.blank "parent"), journal }
  | .ok text, .argument path =>
    match onDisk journal (writeText path text) with
    | (.error fault, journal) => { exit := .broken (.disk path fault), journal }
    | (.ok (), journal) =>
      { exit := .finished, journal := journal.deliver stamp (writtenRecord path) }

/-! ### Generating stub files -/

/-- Why there are no stub files. -/
inductive StubsFault where
  | unreadable (path : Path) (fault : Disk.Fault)
  | undecodable (fault : Utf8.Fault)
  | recovery (fault : Recovery.Fault)
deriving Inhabited

/-- What it means that there are no stub files. -/
def StubsFault.verdict : StubsFault → Verdict
  | .unreadable path fault => diskVerdict path fault
  | .undecodable fault => plainly fault.message
  | .recovery fault => withAdvice "stubs" fault.message

/-- The root to look for: the one asked for, unless it is empty, or the one configured. -/
def rootName (root : Option String) (config : Config) : Option String :=
  match root with
  | some name => if name.isEmpty then config.resolution.root else some name
  | none => config.resolution.root

/-- The stub files for a recovered document, and what is reported on the way. -/
def stubFiles (disk : Disk) (config : Config) (document : Path) (root : Option String) :
    Except StubsFault Stub.Files × List Log.Record :=
  match disk.read document with
  | .error fault => (.error (.unreadable document fault), [])
  | .ok bytes =>
    match Utf8.decode bytes with
    | .error fault => (.error (.undecodable fault), [])
    | .ok text =>
      match Recovery.recover (String.ofList (Text.unifyNewlines text)) (rootName root config)
          config.resolution.onDuplicateId with
      | (.error fault, log) => (.error (.recovery fault), log)
      | (.ok module, log) => (.ok (Stub.files module config.stubs.suffix), log)

/-- The paths of written files, one a line, as seen from the working directory. -/
def listing (working : Path.Location) (paths : List Path) : String :=
  String.join (paths.map fun path => (path.relativeTo (.ofLocation working)).text ++ "\n")

/-- Generates the stub files for a recovered document and prints their paths. -/
def stubs (stamp : String) (journal : Journal) (config : Config) (document : Path)
    (output : Option Path) (root : Option String) : Outcome :=
  let directory := output.getD config.stubs.outputDirectory
  let (result, log) := stubFiles journal.disk config document root
  let journal := journal.deliverAll stamp log
  match result with
  | .error fault => fault.verdict.conclude journal
  | .ok files =>
    match onDisk journal (Stub.write files directory) with
    | (.error fault, journal) => (diskVerdict directory fault).conclude journal
    | (.ok paths, journal) =>
      { exit := .finished
        printed := listing journal.disk.working paths
        journal := journal.deliver stamp (Stub.writtenRecord paths directory) }

/-! ### Both -/

/-- Does a task under a configuration. -/
def perform (tools : Tools) (stamp : String) (journal : Journal) (config : Config) : Task → Outcome
  | .emit declarations output => emit tools stamp journal config declarations output
  | .stubs document output root => stubs stamp journal config document output root

/-- The log file of a run. A blank one is noticed when the console is set up already. -/
def configureJournal (verbose : Bool) (logFile : Supplied Path) (disk : Disk) :
    Except Breakdown Unit × Journal :=
  match Journal.configure verbose logFile.value? { disk }, logFile with
  | .ok () journal, .blank => (.error (.blank "parent"), journal)
  | .ok () journal, _ => (.ok (), journal)
  | .error fault journal, _ =>
    (.error (.disk (logFile.value?.getD Path.here) fault), journal)

/-- The configuration of a run: that of the working directory, if no other is asked for. -/
def configOf (tools : Tools) (disk : Disk) : Supplied Path → Except Verdict Config
  | .nothing => (Config.load tools.yaml disk Path.here).mapError configVerdict
  | .blank => .error (.broken (.blank "expanduser"))
  | .argument path => (Config.load tools.yaml disk path).mapError configVerdict

/-- Runs a command on a disk. Lines in a log file start with the stamp. -/
def run (tools : Tools) (stamp : String) (arguments : Arguments) (disk : Disk) : Outcome :=
  let (result, journal) := configureJournal arguments.verbose arguments.logFile disk
  match result with
  | .error breakdown => { exit := .broken breakdown, journal }
  | .ok () =>
    match configOf tools journal.disk arguments.config with
    | .error verdict => verdict.conclude journal
    | .ok config => perform tools stamp journal config arguments.task

end Introspection.Command
