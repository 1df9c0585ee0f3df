import Introspection.Disk.Basic
import Introspection.Json.Literal
import Introspection.Text.Blank
import Introspection.Text.Lines
import Introspection.Text.Utf8

/-!
# Templates of emitted source

Three texts are rendered: a fragment, an id constant, and the scope that a module's constant and
fragment share. Each comes from a template of its own, looked up first among the user's templates
and then in the selected pack. There is one pack, for sources in Rust. It is
selected by any path that leads to it from the directory of the packs, so a walk through
directories that do not exist selects nothing.

What is rendered loses the white space at its end and gets one line feed.

Users write their templates in a language of their own, which an engine knows. It may be any
function of the template, the files around it and the values that it is given; whatever else its
texts depend on, such as a source of random numbers, belongs to the engine. It has no part in the pack,
unless a user's template refers to it.

The scope of a module indents the body line by line. The lines of the body are split at every line
end of a text, not only at line feeds.

## Main definitions

* `Emission.TemplateName`, `Emission.Request` — what is rendered, and with which values
* `Emission.pack?` — the pack that a path leads to
* `Emission.TemplateFiles`, `Emission.Engine` — the user's templates and what renders them
* `Emission.Templates` — the texts of the user's templates, and a pack
* `Emission.TemplateFault`
* `Emission.Templates.render`
-/

namespace Introspection.Emission

/-- The templates. -/
inductive TemplateName where
  | fragment
  | idConstant
  | moduleScope
deriving DecidableEq, Inhabited, Repr

/-- The file of a template. -/
def TemplateName.file : TemplateName → String
  | .fragment => "fragment.j2"
  | .idConstant => "id_constant.j2"
  | .moduleScope => "module_scope.j2"

/-- All templates. -/
def TemplateName.all : List TemplateName := [.fragment, .idConstant, .moduleScope]

/-- Something to render, with its values. -/
inductive Request where
  | fragment (staticName expression : String)
  | idConstant (elementType ident constantName value : String)
  | moduleScope (ident body : String)
deriving DecidableEq, Inhabited, Repr

/-- The template of a request. -/
def Request.template : Request → TemplateName
  | .fragment .. => .fragment
  | .idConstant .. => .idConstant
  | .moduleScope .. => .moduleScope

/-- A text without the line feeds at its end. -/
def withoutFinalFeeds (text : String) : String :=
  String.ofList (text.toList.reverse.dropWhile (· == '\n')).reverse

/-- The values of a request by their names. The body of a scope comes without the line feeds at its
end. -/
def Request.values : Request → List (String × String)
  | .fragment staticName expression => [("static_name", staticName), ("expression", expression)]
  | .idConstant elementType ident constantName value =>
    [("element_type", elementType), ("ident", ident), ("id_constant", constantName), ("value", value)]
  | .moduleScope ident body => [("ident", ident), ("body", withoutFinalFeeds body)]

/-! ### The pack for Rust -/

/-- A body indented by four spaces: its first line, and every other line that is not empty. -/
def indented (body : String) : String :=
  let indent (line : List Char) : List Char := ' ' :: ' ' :: ' ' :: ' ' :: line
  match Text.splitLines (body.toList ++ ['\n']) with
  | [] => ""
  | first :: rest =>
    String.ofList (Text.joinLines
      (indent first :: rest.map fun line => if line.isEmpty then line else indent line))

/-- A request as source text in Rust. -/
def rust : Request → String
  | .fragment staticName expression =>
    "const _: () = \x7b\n    #[used]\n    #[no_mangle]\n    static " ++ staticName ++
      ": &'static str = " ++ expression ++ ";\n\x7d;"
  | .idConstant elementType ident constantName value =>
    let constant := "pub const " ++ constantName ++ ": &'static str = " ++
      Json.markupLiteral value ++ ";\n"
    if elementType = "class" then
      "impl " ++ ident ++ " \x7b\n    #[doc(hidden)]\n    " ++ constant ++ "\x7d\n"
    else if elementType = "function" then
      "#[doc(hidden)]\npub mod " ++ ident ++ " \x7b\n    " ++ constant ++ "\x7d\n"
    else "#[doc(hidden)]\n" ++ constant
  | .moduleScope ident body =>
    "#[doc(hidden)]\npub mod " ++ ident ++ " \x7b\n    use super::*;\n\n" ++
      indented (withoutFinalFeeds body) ++ "\n\x7d"

/-- The directory of the packs. What is above the library is not known by name. -/
def packDirectory : Path.Location := ["", "stubsmith", "metadata", "templates"]

/-- The packs by the names of their directories. -/
def packs : List (String × (Request → String)) := [("rust", rust)]

/-- The directories around the packs, and those of the packs themselves. -/
def packDisk : Disk where
  entries :=
    (((List.range packDirectory.length).map fun depth => packDirectory.take (depth + 1)) ++
      packs.map fun pack => packDirectory ++ [pack.1]).map fun location => (location, .directory)
  working := packDirectory

/-- The pack that a path leads to. -/
def pack? (path : Path) : Option (Request → String) :=
  match path.root, packDisk.locate path with
  | .relative, .ok location =>
    (packs.find? fun pack => location = packDirectory ++ [pack.1]).map Prod.snd
  | _, _ => none

/-! ### Templates of the user -/

/-- Why an engine cannot render a template. -/
inductive EngineFault where
  /-- A file that is read for it is no text. -/
  | undecodable (fault : Utf8.Fault)
  /-- Anything else, in the words of the engine. -/
  | failed (message : String)
deriving DecidableEq, Inhabited, Repr

/-- The wording of a fault. -/
def EngineFault.message : EngineFault → String
  | .undecodable fault => fault.message
  | .failed message => message

/-- What an engine finds templates in: the files of the user by their names, and a pack. -/
structure TemplateFiles where
  pack : String := "rust"
  file? : String → Option ByteArray

/-- What renders the template of a name, found in some files, with values by their names. -/
abbrev Engine :=
  TemplateFiles → (template : String) → List (String × String) → Except EngineFault String

/-! ### Looking templates up -/

/-- Why a request cannot be rendered. -/
inductive TemplateFault where
  | missing (template : TemplateName) (pack : String)
  | engine (fault : EngineFault)
deriving DecidableEq, Inhabited, Repr

/-- The wording of a fault. -/
def TemplateFault.message : TemplateFault → String
  | .missing template pack =>
    "Template " ++ Text.quoted template.file ++ " not found in pack " ++ Text.quoted pack
  | .engine fault => fault.message

/-- What the templates of the user make of requests, as far as there are any, and the path of a
pack. -/
structure Templates where
  pack : String := "rust"
  user : Request → Option (Except EngineFault String) := fun _ => none

/-- The templates in some files, rendered by an engine. -/
def Templates.ofFiles (engine : Engine) (files : TemplateFiles) : Templates where
  pack := files.pack
  user request :=
    (files.file? request.template.file).map fun _ =>
      engine files request.template.file request.values

/-- What a template renders before the end of the text is trimmed. -/
def Templates.raw (templates : Templates) (request : Request) : Except TemplateFault String :=
  match templates.user request with
  | some result => result.mapError .engine
  | none =>
    match pack? (.ofText templates.pack) with
    | some render => .ok (render request)
    | none => .error (.missing request.template templates.pack)

/-- The source text of a request: no white space at the end but one line feed. -/
def Templates.render (templates : Templates) (request : Request) : Except TemplateFault String :=
  match templates.raw request with
  | .error fault => .error fault
  | .ok text => .ok (Text.trimmedRight text ++ "\n")

end Introspection.Emission
