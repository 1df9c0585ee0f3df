import Introspection.Json.Literal

/-!
# Concatenations of literal and computed text

The text of a metadata fragment is only partly known when it is emitted: the rest are values of
expressions that the build of the extension computes. A concatenation is what has been pushed so
far, in order, and nothing else. Its *pieces* are the normal form of that run: adjacent literals
merged, empty ones dropped. All that a reader of a concatenation sees goes through its pieces, so
how the literal text was cut up on its way in can never matter.

## Main definitions

* `Metadata.Piece` — a literal text or a computed expression
* `Metadata.Piece.merge` — the normal form of a run of pieces
* `Metadata.Concatenation`, with `pieces`, `expression` and `evaluate`

## Main results

* `Metadata.Piece.merge_append` — the normal form of a run depends only on that of its parts
-/

namespace Introspection.Metadata

/-- A part of a concatenation. -/
inductive Piece where
  /-- Text known now. -/
  | literal (text : String)
  /-- An expression whose value is known only when the extension is built. -/
  | computed (expression : String)
deriving DecidableEq, Repr

namespace Piece

/-- Puts a literal in front of a run in normal form. -/
def consLiteral (text : String) : List Piece → List Piece
  | .literal next :: rest => .literal (text ++ next) :: rest
  | rest => if text.isEmpty then rest else .literal text :: rest

/-- Puts a piece in front of a run in normal form. -/
def cons : Piece → List Piece → List Piece
  | .literal text, rest => consLiteral text rest
  | .computed expression, rest => .computed expression :: rest

/-- The normal form of a run: no empty literal, no two literals side by side. -/
def merge (run : List Piece) : List Piece :=
  run.foldr cons []

/-- A piece as an operand of the concatenation macro. -/
def operand : Piece → String
  | .literal text => Json.literal text
  | .computed expression => expression

/-- The text of a piece, given the values of expressions. -/
def value (valueOf : String → String) : Piece → String
  | .literal text => text
  | .computed expression => valueOf expression

end Piece

/-- A text under construction: the pieces pushed so far, in order. -/
structure Concatenation where
  run : List Piece
deriving DecidableEq, Repr

namespace Concatenation

/-- Nothing pushed yet. -/
def empty : Concatenation := ⟨[]⟩

/-- The concatenation in normal form. -/
def pieces (concatenation : Concatenation) : List Piece :=
  Piece.merge concatenation.run

/-- The path of the concatenation macro below the binding crate. -/
def macroPath : String := "::impl_::concat::const_concat!"

/-- The expression that concatenates the pieces when the extension is built. -/
def expression (concatenation : Concatenation) (cratePath : String) : String :=
  cratePath ++ macroPath ++ "(" ++
    String.join (concatenation.pieces.map fun piece => piece.operand ++ ", ") ++ ")"

/-- The text that the concatenation stands for, given the values of expressions. -/
def evaluate (concatenation : Concatenation) (valueOf : String → String) : String :=
  String.join (concatenation.pieces.map (Piece.value valueOf))

end Concatenation

/-! ### Lemmas -/

namespace Piece

@[simp] theorem merge_nil : merge [] = [] := rfl

@[simp] theorem merge_cons (piece : Piece) (run : List Piece) :
    merge (piece :: run) = cons piece (merge run) := rfl

theorem consLiteral_empty (run : List Piece) : consLiteral "" run = run := by
  unfold consLiteral
  split <;> simp

/-- Two literals in front of a run are one. -/
theorem consLiteral_append (first second : String) (run : List Piece) :
    consLiteral (first ++ second) run = consLiteral first (consLiteral second run) := by
  by_cases h : second = ""
  · subst h
    rw [consLiteral_empty, String.append_empty]
  · cases run with
    | nil => simp [consLiteral, h]
    | cons piece rest =>
      cases piece with
      | literal next => simp [consLiteral, String.append_assoc]
      | computed expression => simp [consLiteral, h]

/-- A literal in front of a run is a literal in front of what the run makes of a tail. -/
theorem foldr_cons_consLiteral (text : String) (run tail : List Piece) :
    (consLiteral text run).foldr cons tail = consLiteral text (run.foldr cons tail) := by
  by_cases h : text = ""
  · subst h
    rw [consLiteral_empty, consLiteral_empty]
  · cases run with
    | nil => simp only [consLiteral, String.isEmpty_iff, h, if_false, List.foldr_cons, List.foldr_nil, cons]
    | cons piece rest =>
      cases piece with
      | literal next =>
        exact consLiteral_append text next (rest.foldr cons tail)
      | computed expression => simp [consLiteral, cons, h]

/-- Merging what stands in front first changes nothing. -/
theorem foldr_cons_merge (run tail : List Piece) :
    (merge run).foldr cons tail = run.foldr cons tail := by
  induction run with
  | nil => rfl
  | cons piece run ih =>
    rw [merge_cons, List.foldr_cons, ← ih]
    cases piece with
    | computed expression => rfl
    | literal text => exact foldr_cons_consLiteral text (merge run) tail

/-- The normal form of a run depends only on the normal forms of its parts. -/
theorem merge_append (first second : List Piece) :
    merge (first ++ second) = merge (merge first ++ merge second) := by
  have key : ∀ run : List Piece, merge run = run.foldr cons [] := fun _ => rfl
  rw [key, key (merge first ++ merge second), List.foldr_append, List.foldr_append,
    foldr_cons_merge, ← key (merge second), ← key second, key (merge second), foldr_cons_merge, ← key]

end Piece

end Introspection.Metadata
