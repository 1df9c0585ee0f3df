import Introspection.Proofs.Text.Trimming
import Introspection.Rust.Lifetime

/-!
# Types and how they are written

A type is a path whose segments may have generic arguments, a reference, a tuple, a slice, an array
or a trait object with a lifetime bound. It is written in one way, with single blanks where there
have to be some. Lifetimes stand in three kinds of places: behind the ampersand of a reference,
among generic arguments, and behind a trait bound. Only the first of these may be left out.

Changing the lifetimes of a type keeps everything else, and it is done by two functions, one for
references and one for all other lifetimes. `TypeExpr.erased` is the change that erasing lifetimes
is meant to make.

## Main definitions

* `Rust.Name` — an identifier, or the word of a lifetime
* `Rust.ArrayLength` — the length of an array type
* `Rust.TypeExpr`, `Rust.Argument`, `Rust.Path` — the grammar
* `Rust.TypeExpr.text` — how a type is written
* `Rust.TypeExpr.mapLifetimes`, `Rust.TypeExpr.erased`

## Main results

* `Rust.TypeExpr.starts_text` — what a type starts with
* `Rust.TypeExpr.mapLifetimes_mapLifetimes` — two changes of lifetimes are one
-/

namespace Introspection.Rust

open Introspection.Text (isBlank isWord isWordStart)

/-! ### The grammar -/

/-- An identifier, or the word of a lifetime: an ASCII letter or an underscore, and word characters
behind it. Every ASCII identifier is one. -/
structure Name where
  first : Char
  rest : List Char
  isWordStart_first : isWordStart first = true
  isWord_rest : ∀ c ∈ rest, isWord c = true

/-- The word of a lifetime without a name. -/
def Name.unnamed : Name where
  first := '_'
  rest := []
  isWordStart_first := rfl
  isWord_rest := by simp

/-- The length of an array: a number or a constant, without lifetimes and character constants. -/
structure ArrayLength where
  text : List Char
  noApostrophe : '\'' ∉ text

/-- A length that is a number. -/
def ArrayLength.ofNat (length : Nat) : ArrayLength where
  text := Nat.toDigits 10 length
  noApostrophe hmem := by
    have hdigit := Nat.isDigit_of_mem_toDigits (by decide) (by decide) hmem
    cases hdigit

mutual

/-- A type. -/
inductive TypeExpr where
  | path (value : Path)
  | reference (lifetime : Option Name) (mutable : Bool) (target : TypeExpr)
  | tuple (items : List TypeExpr)
  | slice (item : TypeExpr)
  | array (item : TypeExpr) (length : ArrayLength)
  /-- A trait object, in brackets. -/
  | dynamic (bound : Path) (lifetime : Name)

/-- A generic argument. -/
inductive Argument where
  | lifetime (name : Name)
  | type (value : TypeExpr)

/-- Identifiers one after another, each with its generic arguments if it has some. -/
inductive Path where
  | last (name : Name) (arguments : List Argument)
  | step (name : Name) (arguments : List Argument) (rest : Path)

end

/-! ### How types are written -/

/-- A name as it is written. -/
def Name.text (name : Name) : List Char :=
  name.first :: name.rest

/-- A lifetime as it is written. -/
def lifetimeText (name : Name) : List Char :=
  '\'' :: name.text

/-- The ampersand of a reference, with its lifetime and the blank behind that. -/
def referenceText : Option Name → List Char
  | none => ['&']
  | some name => '&' :: (lifetimeText name ++ [' '])

/-- What is between the ampersand and the target of a reference that can be written to. -/
def mutableText (mutable : Bool) : List Char :=
  if mutable then ['m', 'u', 't', ' '] else []

/-- The inside of a tuple. A single item has a comma behind it. -/
def tupleText : List (List Char) → List Char
  | [item] => item ++ [',']
  | items => [',', ' '].intercalate items

/-- Generic arguments between angle brackets, if there are some. -/
def genericText : List (List Char) → List Char
  | [] => []
  | arguments => '<' :: ([',', ' '].intercalate arguments ++ ['>'])

mutual

/-- A type as it is written. -/
def TypeExpr.text : TypeExpr → List Char
  | .path value => value.text
  | .reference lifetime mutable target =>
    referenceText lifetime ++ (mutableText mutable ++ target.text)
  | .tuple items => '(' :: (tupleText (itemTexts items) ++ [')'])
  | .slice item => '[' :: (item.text ++ [']'])
  | .array item length => '[' :: (item.text ++ ';' :: ' ' :: (length.text ++ [']']))
  | .dynamic bound lifetime =>
    ['(', 'd', 'y', 'n', ' '] ++
      (bound.text ++ ' ' :: '+' :: ' ' :: (lifetimeText lifetime ++ [')']))

/-- The items of a tuple. -/
def itemTexts : List TypeExpr → List (List Char)
  | [] => []
  | item :: items => item.text :: itemTexts items

/-- A generic argument as it is written. -/
def Argument.text : Argument → List Char
  | .lifetime name => lifetimeText name
  | .type value => value.text

/-- The generic arguments of an identifier. -/
def argumentTexts : List Argument → List (List Char)
  | [] => []
  | argument :: arguments => argument.text :: argumentTexts arguments

/-- A path as it is written. -/
def Path.text : Path → List Char
  | .last name arguments => name.text ++ genericText (argumentTexts arguments)
  | .step name arguments rest =>
    name.text ++ (genericText (argumentTexts arguments) ++ ':' :: ':' :: rest.text)

end

/-- A text starts with something that is neither a blank nor an apostrophe. -/
def Starts (text : List Char) : Prop :=
  ∃ c rest, text = c :: rest ∧ isBlank c = false ∧ c ≠ '\''

theorem ne_of_isWordStart {c d : Char} (h : isWordStart c = true) (hd : isWordStart d = false) :
    c ≠ d := by
  rintro rfl
  rw [h] at hd
  cases hd

theorem isBlank_of_isWordStart {c : Char} (h : isWordStart c = true) : isBlank c = false := by
  rcases (Bool.or_eq_true _ _).mp h with hletter | hline
  · exact Text.isBlank_of_isAlphanum ((Bool.or_eq_true _ _).mpr (.inl hletter))
  · rw [eq_of_beq hline]
    rfl

theorem Name.starts_text (name : Name) (rest : List Char) : Starts (name.text ++ rest) :=
  ⟨name.first, name.rest ++ rest, rfl, isBlank_of_isWordStart name.isWordStart_first,
    ne_of_isWordStart name.isWordStart_first rfl⟩

theorem Path.starts_text (path : Path) (rest : List Char) : Starts (path.text ++ rest) := by
  cases path with
  | last name arguments =>
    rw [Path.text, List.append_assoc]
    exact name.starts_text _
  | step name arguments path =>
    rw [Path.text, List.append_assoc]
    exact name.starts_text _

/-- A type starts with a letter, an underscore, an ampersand or a bracket. -/
theorem TypeExpr.starts_text (type : TypeExpr) (rest : List Char) : Starts (type.text ++ rest) := by
  cases type with
  | path value =>
    rw [TypeExpr.text]
    exact value.starts_text rest
  | reference lifetime mutable target =>
    rw [TypeExpr.text]
    cases lifetime <;> exact ⟨'&', _, rfl, rfl, by decide⟩
  | tuple items =>
    rw [TypeExpr.text]
    exact ⟨'(', _, rfl, rfl, by decide⟩
  | slice item =>
    rw [TypeExpr.text]
    exact ⟨'[', _, rfl, rfl, by decide⟩
  | array item length =>
    rw [TypeExpr.text]
    exact ⟨'[', _, rfl, rfl, by decide⟩
  | dynamic bound lifetime =>
    rw [TypeExpr.text]
    exact ⟨'(', _, rfl, rfl, by decide⟩

/-- So does the rest of a reference behind its ampersand and its lifetime. -/
theorem TypeExpr.starts_mutableText (mutable : Bool) (target : TypeExpr) (rest : List Char) :
    Starts (mutableText mutable ++ target.text ++ rest) := by
  cases mutable with
  | false => exact target.starts_text rest
  | true => exact ⟨'m', _, rfl, rfl, by decide⟩

/-! ### Other lifetimes -/

section MapLifetimes

variable (reference : Option Name → Option Name) (other : Name → Name)

mutual

/-- The same type with other lifetimes, those of references changed in one way and all others in
another. -/
def TypeExpr.mapLifetimes : TypeExpr → TypeExpr
  | .path value => .path value.mapLifetimes
  | .reference lifetime mutable target =>
    .reference (reference lifetime) mutable target.mapLifetimes
  | .tuple items => .tuple (mapItems items)
  | .slice item => .slice item.mapLifetimes
  | .array item length => .array item.mapLifetimes length
  | .dynamic bound lifetime => .dynamic bound.mapLifetimes (other lifetime)

def mapItems : List TypeExpr → List TypeExpr
  | [] => []
  | item :: items => item.mapLifetimes :: mapItems items

def Argument.mapLifetimes : Argument → Argument
  | .lifetime name => .lifetime (other name)
  | .type value => .type value.mapLifetimes

def mapArguments : List Argument → List Argument
  | [] => []
  | argument :: arguments => argument.mapLifetimes :: mapArguments arguments

def Path.mapLifetimes : Path → Path
  | .last name arguments => .last name (mapArguments arguments)
  | .step name arguments rest => .step name (mapArguments arguments) rest.mapLifetimes

end

end MapLifetimes

/-- The type without the lifetimes of its references, every other lifetime being unnamed. -/
def TypeExpr.erased (type : TypeExpr) : TypeExpr :=
  type.mapLifetimes (fun _ => none) fun _ => .unnamed

section Compose

variable (reference reference' : Option Name → Option Name) (other other' : Name → Name)

mutual

/-- Two changes of lifetimes are one. -/
theorem TypeExpr.mapLifetimes_mapLifetimes : ∀ type : TypeExpr,
    (type.mapLifetimes reference other).mapLifetimes reference' other' =
      type.mapLifetimes (reference' ∘ reference) (other' ∘ other)
  | .path value => by
    simp only [TypeExpr.mapLifetimes, value.mapLifetimes_mapLifetimes]
  | .reference _ _ target => by
    simp only [TypeExpr.mapLifetimes, target.mapLifetimes_mapLifetimes, Function.comp_apply]
  | .tuple items => by
    simp only [TypeExpr.mapLifetimes, mapItems_mapItems items]
  | .slice item => by
    simp only [TypeExpr.mapLifetimes, item.mapLifetimes_mapLifetimes]
  | .array item _ => by
    simp only [TypeExpr.mapLifetimes, item.mapLifetimes_mapLifetimes]
  | .dynamic bound _ => by
    simp only [TypeExpr.mapLifetimes, bound.mapLifetimes_mapLifetimes, Function.comp_apply]

theorem mapItems_mapItems : ∀ items : List TypeExpr,
    mapItems reference' other' (mapItems reference other items) =
      mapItems (reference' ∘ reference) (other' ∘ other) items
  | [] => rfl
  | item :: items => by
    simp only [mapItems, item.mapLifetimes_mapLifetimes, mapItems_mapItems items]

theorem Argument.mapLifetimes_mapLifetimes : ∀ argument : Argument,
    (argument.mapLifetimes reference other).mapLifetimes reference' other' =
      argument.mapLifetimes (reference' ∘ reference) (other' ∘ other)
  | .lifetime _ => rfl
  | .type value => by
    simp only [Argument.mapLifetimes, value.mapLifetimes_mapLifetimes]

theorem mapArguments_mapArguments : ∀ arguments : List Argument,
    mapArguments reference' other' (mapArguments reference other arguments) =
      mapArguments (reference' ∘ reference) (other' ∘ other) arguments
  | [] => rfl
  | argument :: arguments => by
    simp only [mapArguments, argument.mapLifetimes_mapLifetimes,
      mapArguments_mapArguments arguments]

theorem Path.mapLifetimes_mapLifetimes : ∀ path : Path,
    (path.mapLifetimes reference other).mapLifetimes reference' other' =
      path.mapLifetimes (reference' ∘ reference) (other' ∘ other)
  | .last _ arguments => by
    simp only [Path.mapLifetimes, mapArguments_mapArguments arguments]
  | .step _ arguments rest => by
    simp only [Path.mapLifetimes, mapArguments_mapArguments arguments,
      rest.mapLifetimes_mapLifetimes]

end

end Compose

end Introspection.Rust
