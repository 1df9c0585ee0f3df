import Introspection.Path
import Introspection.Stub.Line

/-!
# Layout of stub files

The root module and every module with submodules have a directory and in it a file of their own
for what they declare themselves; a submodule without submodules is a file beside that of its
parent. The files of a tree are the texts in order of appearance; of two texts for one path the
later one stands.

## Main definitions

* `Stub.initName` — the name of a module's own file
* `Stub.texts` — all texts of a tree with their paths
* `Stub.files` — one text per path
-/

namespace Introspection.Stub

open Introspection.Api

/-- The name, without suffix, of the file in which a module with a directory declares its own
members. -/
def initName : String := "__init__"

mutual

/-- The texts of a module with a directory and of everything below it. -/
def texts (suffix : String) (directory : Path) : Module → List (Path × String)
  | ⟨name, modules, classes, functions⟩ =>
    (directory.child (initName ++ suffix), moduleText ⟨name, modules, classes, functions⟩) ::
      submoduleTexts suffix directory modules

/-- The texts of the submodules of the module of a directory. -/
def submoduleTexts (suffix : String) (directory : Path) : List Module → List (Path × String)
  | [] => []
  | module :: rest =>
    (match module with
      | ⟨name, [], classes, functions⟩ =>
        [(directory.child (name ++ suffix), moduleText ⟨name, [], classes, functions⟩)]
      | ⟨name, first :: others, classes, functions⟩ =>
        texts suffix (directory.child name) ⟨name, first :: others, classes, functions⟩) ++
      submoduleTexts suffix directory rest

end

/-- Files by path. -/
abbrev Files := List (Path × String)

/-- Sets the text of a path, in its place if it has one. -/
def Files.put (files : Files) (path : Path) (text : String) : Files :=
  match files with
  | [] => [(path, text)]
  | (other, old) :: rest =>
    if other = path then (other, text) :: rest else (other, old) :: put rest path text

/-- The files of some texts, a later one standing in for an earlier one of the same path. -/
def Files.ofTexts (texts : List (Path × String)) : Files :=
  texts.foldl (fun files entry => files.put entry.1 entry.2) []

/-- The stub files of a module tree. -/
def files (module : Module) (suffix : String) : Files :=
  Files.ofTexts (texts suffix Path.here module)

/-- Files in the order of their paths. -/
def Files.sorted (files : Files) : Files :=
  files.mergeSort fun first second => first.1.le second.1

end Introspection.Stub
