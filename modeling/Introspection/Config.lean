import Introspection.Disk.Basic
import Introspection.Emission.Fragment
import Introspection.Recovery.Arena
import Introspection.Text.Blank
import Introspection.Text.Lines
import Introspection.Text.LowerCase
import Introspection.Text.Utf8
import Introspection.Yaml.Fault

/-!
# Configuration

The configuration of a project stands in one YAML file with three sections: how fragments are
emitted, where stub files go, and how recovered documents are resolved. Everything has a default,
and reading is lenient: a section that is no mapping counts as missing, and so does a setting that
is no scalar or, where an empty text makes no sense, is empty. Numbers and truth values are taken
as the texts that they are displayed as.

There are only a few ways to go wrong: a file that is not UTF-8, a file that is not YAML, a file
that holds something else than a mapping, a policy for duplicate ids that does not exist, a
scalar without a value or a text, and a file that cannot be reached. What is YAML, and what it
describes, is up to the loader that is given.
Each section is read by a function of its own, from its own entry and nothing else, so no section
can disturb another.

Paths in the configuration start at the directory of the file, which is the root of the project.

## Main definitions

* `Config`, `Config.Emission`, `Config.Stubs`, `Config.Resolution`
* `Config.Fault`
* `Config.ofDocument`, `Config.ofText`, `Config.ofBytes` — the configuration of a file
* `Config.locate`, `Config.load` — finding the file
-/

namespace Introspection

open Yaml (Value Places Document)
open Recovery (DuplicatePolicy)

/-- How fragments are emitted. -/
structure Config.Emission where
  names : Emission.Names := {}
  templatePack : String := "rust"
  templatesDirectory : Option Path := none
deriving Inhabited

/-- Where stub files go. -/
structure Config.Stubs where
  outputDirectory : Path
  suffix : String := ".pyi"
deriving DecidableEq, Inhabited, Repr

/-- How recovered documents are resolved. -/
structure Config.Resolution where
  root : Option String := none
  onDuplicateId : DuplicatePolicy := .error
deriving DecidableEq, Inhabited, Repr

/-- The configuration of the project in a directory. -/
structure Config where
  root : Path
  emission : Config.Emission := {}
  stubs : Config.Stubs
  resolution : Config.Resolution := {}
deriving Inhabited

namespace Config

/-- The name of the configuration file. -/
def fileName : String := ".stubsmith.yml"

/-- The directory of the stub files below the root, where none is configured. -/
def defaultOutput : String := "stubs"

/-- The configuration without any settings. -/
def default (root : Path) : Config where
  root := root
  stubs := { outputDirectory := root.child defaultOutput }

/-- Why a configuration cannot be loaded. -/
inductive Fault where
  | notUtf8 (file : String) (fault : Utf8.Fault)
  /-- The file of a name is not one YAML document. -/
  | unparsable (file : String)
  | notAMapping
  | unknownPolicy (policy : String)
  /-- A scalar of the document has no value, or one that is a setting has no text. -/
  | scalar (fault : Yaml.ScalarFault)
  | unreadable (path : Path) (fault : Disk.Fault)
deriving Inhabited

/-- The policies in messages. -/
def policyNames : String :=
  ", ".intercalate [DuplicatePolicy.error.name, DuplicatePolicy.warn.name]

/-- The wording of a fault. -/
def Fault.message : Fault → String
  | .notUtf8 file fault => file ++ " is not valid UTF-8: " ++ fault.message
  | .unparsable file => "Failed to parse " ++ file
  | .notAMapping => fileName ++ " must contain a mapping at the root"
  | .unknownPolicy policy =>
    "resolve.on_duplicate_id must be one of " ++ policyNames ++ "; got " ++ Text.quoted policy
  | .scalar fault => fault.message
  | .unreadable path fault => fault.message path

/-! ### Settings -/

/-- The entries of a mapping. -/
abbrev Fields := List (Value × Value)

/-- The entries of a section; what is no mapping has none. -/
def sectionOf (places : Places) (fields : Fields) (name : String) : Fields :=
  match (Value.get? fields name).map (Value.content places) with
  | some (.map entries) => entries
  | _ => []

/-- The text of an integer. -/
def numeral (value : Int) : Except Fault String :=
  (Yaml.numeral value).mapError .scalar

/-- The text of a scalar. Bytes and times are none here. -/
def scalarText (value : Value) : Except Fault (Option String) :=
  match value with
  | .str _ | .int _ | .float _ | .notANumber _ | .bool _ => some <$> value.plainText numeral #[]
  | _ => return none

/-- The text of a setting, if it is a scalar. -/
def setting? (fields : Fields) (name : String) : Except Fault (Option String) :=
  match Value.get? fields name with
  | some value => scalarText value
  | none => return none

/-- The text of a setting, if it is a scalar and not empty. -/
def filled? (fields : Fields) (name : String) : Except Fault (Option String) := do
  return (← setting? fields name).filter fun text => !text.isEmpty

/-! ### Sections -/

/-- The section on emission. -/
def emissionOf (root : Path) (fields : Fields) : Except Fault Config.Emission := do
  let plain : Config.Emission := {}
  let cratePath ← filled? fields "crate_path"
  let templatePack ← filled? fields "template_pack"
  let templatesDirectory ← filled? fields "templates_dir"
  let fragmentStart ← filled? fields "fragment_prefix"
  let idConstant ← filled? fields "id_constant"
  return {
    names :=
      { cratePath := cratePath.getD plain.names.cratePath
        fragmentStart := fragmentStart.getD plain.names.fragmentStart
        idConstant := idConstant.getD plain.names.idConstant }
    templatePack := templatePack.getD plain.templatePack
    templatesDirectory := templatesDirectory.map root.child }

/-- A suffix, with a dot in front. -/
def dotted (suffix : String) : String :=
  if suffix.toList.head? = some '.' then suffix else "." ++ suffix

/-- The section on stub files. -/
def stubsOf (root : Path) (fields : Fields) : Except Fault Config.Stubs := do
  let outputDirectory ← filled? fields "output_dir"
  let suffix ← filled? fields "suffix"
  return {
    outputDirectory := root.child (outputDirectory.getD defaultOutput)
    suffix := (suffix.map dotted).getD ".pyi" }

/-- The policy of a name, in any case and between any white space. -/
def policyOf (text : String) : Except Fault DuplicatePolicy :=
  let name := Text.lowerCase (Text.trimmed text)
  if name = DuplicatePolicy.error.name then .ok .error
  else if name = DuplicatePolicy.warn.name then .ok .warn
  else .error (.unknownPolicy name)

/-- The section on resolution of a root and the text of a policy. -/
def resolutionWith (root policy : Option String) : Except Fault Config.Resolution := do
  match policy with
  | none => return { root }
  | some text => return { root, onDuplicateId := ← policyOf text }

/-- The section on resolution. -/
def resolutionOf (fields : Fields) : Except Fault Config.Resolution := do
  let root ← setting? fields "root"
  let policy ← setting? fields "on_duplicate_id"
  resolutionWith root policy

/-! ### Files -/

/-- The configuration that a document describes. One that counts as false is an empty one. -/
def ofDocument (root : Path) (document : Document) : Except Fault Config :=
  let places := document.orEmpty.places
  match document.orEmpty.root.content places with
  | .map fields => do
    let emission ← emissionOf root (sectionOf places fields "emit")
    let stubs ← stubsOf root (sectionOf places fields "stubs")
    let resolution ← resolutionOf (sectionOf places fields "resolve")
    return { root, emission, stubs, resolution }
  | _ => throw .notAMapping

/-- The fault of a configuration whose file has a fault as YAML. -/
def Fault.ofYaml (file : String) : Yaml.Fault → Fault
  | .malformed => .unparsable file
  | .scalar fault => .scalar fault

/-- The configuration of a text. A blank one has no settings. -/
def ofText (yaml : Yaml.Loader) (root : Path) (file : String) (text : List Char) :
    Except Fault Config :=
  if Text.trim text = [] then ofDocument root { root := .map [] }
  else
    match yaml text with
    | .ok document => ofDocument root document
    | .error fault => .error (.ofYaml file fault)

/-- The configuration of the bytes of a file. -/
def ofBytes (yaml : Yaml.Loader) (root : Path) (file : String) (bytes : ByteArray) :
    Except Fault Config :=
  match Utf8.decode bytes with
  | .ok text => ofText yaml root file (Text.unifyNewlines text)
  | .error fault => .error (.notUtf8 file fault)

/-- The place of the configuration file that a path names, home directories spelled out: the path
itself, or in a directory the file of the usual name. -/
def locate (disk : Disk) (path : Path) : Except Disk.Fault Path :=
  match disk.expanded path with
  | .error fault => .error fault
  | .ok path =>
    match disk.isDirectory path with
    | .error fault => .error fault
    | .ok inside =>
      if path.hasNull then .error .nullCharacter
      else
        let path := if inside then path.child fileName else path
        .ok (.ofLocation (path.resolve disk.working))

/-- The configuration in a file. Where there is no file, there are no settings. -/
def read (yaml : Yaml.Loader) (disk : Disk) (file : Path) : Except Fault Config :=
  match disk.isThere file with
  | .error fault => .error (.unreadable file fault)
  | .ok false => .ok (default file.parent)
  | .ok true =>
    match disk.read file with
    | .error fault => .error (.unreadable file fault)
    | .ok bytes => ofBytes yaml file.parent file.name bytes

/-- The configuration that a path names. -/
def load (yaml : Yaml.Loader) (disk : Disk) (path : Path) : Except Fault Config :=
  match locate disk path with
  | .error fault => .error (.unreadable path fault)
  | .ok file => read yaml disk file

end Config

end Introspection
