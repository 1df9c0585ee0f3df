import Introspection.Emission.Template
import Introspection.Text.Mark
import Introspection.Text.Word

/-!
# Templates with slots

The engine of the outer program. It knows only a small part of what a template language offers: its
templates are text with slots, each a name between double braces, and everything else in them is
copied. A slot stands for the value of its name, or for a thing that every template knows; a slot of
any other name is empty. Line ends of the template are unified and its final one is dropped.

Nothing that is said about rendering depends on this engine. It is one of those that a run may be
given.

## Main definitions

* `Emission.Slots.Segment`, `Emission.Slots.segments` — the parts of a template
* `Emission.Slots.fill` — a template filled in
* `Emission.Slots.engine`
-/

namespace Introspection.Emission.Slots

/-- A part of a template. -/
inductive Segment where
  | text (c : Char)
  | slot (name : String)
deriving DecidableEq, Repr

/-- Whether a character may stand in the name of a slot. -/
def isNameChar (c : Char) : Bool :=
  Text.isWord c || Text.isMark c

/-- The name in a slot and what follows it, behind its opening braces. -/
def slot? (text : List Char) : Option (String × List Char) :=
  let inside := text.dropWhile Text.isBlank
  let name := inside.takeWhile isNameChar
  match name, (inside.dropWhile isNameChar).dropWhile Text.isBlank with
  | _ :: _, '\x7d' :: '\x7d' :: rest => some (String.ofList name, rest)
  | _, _ => none

theorem length_slot? {text rest : List Char} {name : String} (h : slot? text = some (name, rest)) :
    rest.length < text.length := by
  unfold slot? at h
  simp only at h
  split at h
  · next c cs tail hname htail =>
    simp only [Option.some.injEq, Prod.mk.injEq] at h
    rw [← h.2]
    have h₁ := (List.dropWhile_sublist Text.isBlank (l := text)).length_le
    have h₂ := (List.dropWhile_sublist isNameChar (l := text.dropWhile Text.isBlank)).length_le
    have h₃ := (List.dropWhile_sublist Text.isBlank
      (l := (text.dropWhile Text.isBlank).dropWhile isNameChar)).length_le
    rw [htail, List.length_cons, List.length_cons] at h₃
    omega
  · cases h

/-- The parts of a template. -/
def segments (text : List Char) : List Segment :=
  match text with
  | [] => []
  | '\x7b' :: '\x7b' :: rest =>
    match h : slot? rest with
    | some (name, after) =>
      have := length_slot? h
      .slot name :: segments after
    | none => .text '\x7b' :: segments ('\x7b' :: rest)
  | c :: rest => .text c :: segments rest
termination_by text.length
decreasing_by all_goals simp only [List.length_cons]; omega

/-- The words that stand for themselves in a slot, whatever the values are. -/
def constants : List (String × String) :=
  [("true", "True"), ("True", "True"), ("false", "False"), ("False", "False"), ("none", "None"),
    ("None", "None")]

/-- The things that every template knows besides its values, as they show themselves: some makers
of other things, and the template itself. -/
def surroundings (template : String) : List (String × String) :=
  [("range", "<class 'range'>"), ("dict", "<class 'dict'>"),
    ("cycler", "<class 'jinja2.utils.Cycler'>"), ("joiner", "<class 'jinja2.utils.Joiner'>"),
    ("namespace", "<class 'jinja2.utils.Namespace'>"),
    ("self", "<TemplateReference '" ++ template ++ "'>")]

/-- The text of a part, given what the names of slots stand for. -/
def Segment.render (words : List (String × String)) : Segment → List Char
  | .text c => [c]
  | .slot name => ((words.lookup name).getD "").toList

/-- The source of a template: line ends unified, the final one dropped. -/
def templateText (source : List Char) : List Char :=
  let text := Text.unifyNewlines source
  if text.getLast? = some '\n' then text.dropLast else text

/-- A template filled in. -/
def fill (source : List Char) (words : List (String × String)) : String :=
  String.ofList ((segments (templateText source)).flatMap (Segment.render words))

/-- The engine of templates with slots. What a name stands for first counts. -/
def engine : Engine := fun files template values =>
  match files.file? template with
  | none => .error (.failed template)
  | some bytes =>
    match Utf8.decode bytes with
    | .error fault => .error (.undecodable fault)
    | .ok source => .ok (fill source (constants ++ values ++ surroundings template))

end Introspection.Emission.Slots
