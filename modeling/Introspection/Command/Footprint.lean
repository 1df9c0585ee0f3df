import Introspection.Command.Run

/-!
# What a run looks at

A run works on a disk that is a value, and needs of the real one only what it looks at. Which
paths these are depends on what is found at some of them: the configuration names the directory of
the templates and that of the stub files, and the document decides what the stub files are called.
So the footprint of a run is asked for, loaded, and asked for again on the disk with more on it;
after three rounds it is complete, if the engine reads no other file than the template.

## Main definitions

* `Command.footprint` — the paths that a run looks at, as far as the disk tells
* `Command.trail` — the places on the way to what a path names
-/

namespace Introspection.Command

open Introspection.Path (Location)

/-- The input of a task and the file it may write. -/
def Task.paths : Task → List Path
  | .emit declarations output => declarations :: output.value?.toList
  | .stubs document _ _ => [document]

/-- The paths that a task looks at under a configuration. -/
def Task.configuredPaths (tools : Tools) (task : Task) (config : Config) (disk : Disk) : List Path :=
  match task with
  | .emit _ _ =>
    (templateDirectories tools config.emission).flatMap fun directory =>
      Emission.TemplateName.all.map fun name => directory.child name.file
  | .stubs document output root =>
    let directory := output.getD config.stubs.outputDirectory
    match (stubFiles disk config document root).1 with
    | .error _ => [directory]
    | .ok files => files.map fun file => directory.join file.1

/-- The paths that a run looks at, as far as the disk tells. -/
def footprint (tools : Tools) (arguments : Arguments) (disk : Disk) : List Path :=
  let logFiles := arguments.logFile.value?.toList.flatMap fun path =>
    [path, .ofLocation (path.resolve disk.working)]
  let config := arguments.config.value?.getD Path.here
  let expanded := (disk.expanded config).toOption.getD config
  let configs := [expanded, .ofLocation (expanded.resolve disk.working),
    .ofLocation ((expanded.child Config.fileName).resolve disk.working)]
  logFiles ++ configs ++ arguments.task.paths ++
    match Config.load tools.yaml disk config with
    | .error _ => []
    | .ok config => arguments.task.configuredPaths tools config disk

/-- The places on the way from a place down some parts. -/
def trailFrom (here : Location) : List String → List Location
  | [] => [here]
  | part :: rest =>
    here :: trailFrom (if part = ".." then here.dropLast else here ++ [part]) rest

/-- The places on the way to what a path names. -/
def trail (path : Path) (working : Location) : List Location :=
  trailFrom (path.start working) path.parts

end Introspection.Command
