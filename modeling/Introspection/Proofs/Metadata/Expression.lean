import Introspection.Proofs.Json.Literal
import Introspection.Proofs.Metadata.Building
import Introspection.Proofs.Metadata.Operands

/-!
# The expression of a builder

The expression that a builder is rendered to denotes its pieces. Two readers say what that means,
for two questions. Read as JSON strings the literals give back any text, control characters
included, so the operands are the pieces for every builder. But the literals are compiled as Rust,
which has other escapes than JSON. Where these differ there would have to be a control character,
and in what is serialized there is none: a text with one is refused while it is written. So the
literals of a tree have no escapes but those of the quote and of the backslash, which are the same
in both languages.

## Main definitions

* `Json.literals` — the literals of JSON

## Main results

* `Json.reads_literals` — every text comes back from its JSON literal
* `Metadata.Builder.readExpression_builder` — reading the expression of a builder gives its pieces
* `Metadata.Builder.clean_of_write` — literals that are written have no control characters
* `Metadata.Builder.expression_denotes`
-/

namespace Introspection

namespace Json

/-- A text behind the opening quote of its literal, and what follows the closing one. -/
def readLiteral? (text : List Char) : Option (String × List Char) :=
  match readUnits text text with
  | .ok (units, rest) => some (String.ofList (unitsText units), rest)
  | .error _ => none

/-- The string literals of JSON. -/
def literals : Metadata.LiteralReader where
  read := readLiteral?
  shorter h := by
    rw [readLiteral?] at h
    split at h
    · next hread =>
      obtain ⟨-, rfl⟩ := (Prod.mk.injEq ..).mp (Option.some.inj h)
      exact (length_readUnits hread).le
    · cases h

/-- Every text comes back from its JSON literal. -/
theorem reads_literals (value : String) : literals.Reads value := by
  intro rest
  obtain ⟨units, hread, htext⟩ := readUnits_escaped value.toList
    (escaped value.toList ++ '"' :: rest) rest
  show readLiteral? _ = _
  rw [readLiteral?, hread]
  dsimp only
  rw [htext, String.ofList_toList]

end Json

namespace Metadata.Builder

variable {builder : Builder} {node : Node} {idConstant : String}

theorem toList_expression_builder (builder : Builder) (cratePath : String) :
    (builder.expression cratePath).toList =
      (cratePath ++ Concatenation.macroPath ++ "(").toList ++
        (operandsText builder.pieces ++ [')']) := by
  simp [expression, operandsText, String.toList_append, String.toList_join, List.flatMap_map]

/-- Reading the expression of a builder gives its pieces, whatever the literals are. -/
theorem readExpression_builder
    (operands : ∀ expression, .computed expression ∈ builder.pieces → IsOperand expression)
    (cratePath : String) :
    readExpression Json.literals cratePath (builder.expression cratePath).toList =
      some builder.pieces := by
  rw [toList_expression_builder]
  refine readExpression_operandsText (fun piece hpiece => ?_) cratePath
  cases piece with
  | literal value => exact Json.reads_literals value
  | computed expression => exact operands expression hpiece

/-- Literals that are written have no control characters. -/
theorem clean_of_write (h : write idConstant node {} = .ok () builder) {value : String}
    (hvalue : .literal value ∈ builder.pieces) : Clean value := by
  obtain ⟨content, hserialize, rfl⟩ := write_eq_ok_iff.mp h
  rw [pieces_push] at hvalue
  exact clean_of_mem_pieces hserialize hvalue

/-- The literal of a text without control characters has no escapes but those of the quote and of
the backslash. -/
theorem toList_literal_of_clean {value : String} (h : Clean value) :
    (Json.literal value).toList = '"' :: (escapedInside value.toList ++ ['"']) := by
  rw [Json.literal, String.toList_ofList, escaped_of_clean h]

/-- **The expression of a builder denotes its pieces.**

Its operands are read back as the pieces for every builder whose expressions can be told apart from
literals and commas. What a node is serialized to has no control character in its literals, so these
have two escapes only, and they mean the same text as literals of Rust. -/
theorem expression_denotes :
    (∀ builder : Builder,
      (∀ expression, .computed expression ∈ builder.pieces → IsOperand expression) →
        ∀ cratePath, readExpression Json.literals cratePath
          (builder.expression cratePath).toList = some builder.pieces) ∧
    ∀ node idConstant builder, write idConstant node {} = .ok () builder →
      ∀ value, .literal value ∈ builder.pieces →
        (∀ c ∈ value.toList, 0x20 ≤ c.toNat) ∧
        (Json.literal value).toList = '"' :: (escapedInside value.toList ++ ['"']) ∧
        Rust.literals.Reads value := by
  refine ⟨fun builder operands => readExpression_builder operands, ?_⟩
  intro node idConstant builder h value hvalue
  have clean := clean_of_write h hvalue
  exact ⟨clean, toList_literal_of_clean clean, reads_of_clean clean⟩

/-- A quoted text with an escape, and an id between quotes. -/
def quotedNode : Node :=
  .object [("na\"me", .str "a\\b"), ("id", .ref none)]

/-- What a builder holds of `quotedNode`. -/
def quotedBuilder : Builder :=
  reached [.node quotedNode "ID"]

theorem expression_denotes_quoted :
    write "ID" quotedNode {} = .ok () quotedBuilder ∧
    quotedBuilder.pieces =
      [.literal "\x7b\"na\\\"me\":\"a\\\\b\",\"id\":\"", .computed "ID", .literal "\"\x7d"] ∧
    readExpression Json.literals "pyo3" (quotedBuilder.expression "pyo3").toList =
      some quotedBuilder.pieces ∧
    ∀ value, .literal value ∈ quotedBuilder.pieces → Rust.literals.Reads value := by
  obtain ⟨operands, literals⟩ := expression_denotes
  have hwrite : write "ID" quotedNode {} = .ok () quotedBuilder := rfl
  have hpieces : quotedBuilder.pieces =
      [.literal "\x7b\"na\\\"me\":\"a\\\\b\",\"id\":\"", .computed "ID",
        .literal "\"\x7d"] := by decide
  have hoperands : ∀ expression, .computed expression ∈ quotedBuilder.pieces →
      IsOperand expression := by
    intro expression h
    simp only [hpieces, List.mem_cons, List.not_mem_nil, reduceCtorEq, false_or, or_false,
      Piece.computed.injEq] at h
    subst h
    decide
  exact ⟨hwrite, hpieces, operands quotedBuilder hoperands "pyo3",
    fun value hvalue => (literals quotedNode "ID" quotedBuilder hwrite value hvalue).2.2⟩

end Metadata.Builder

end Introspection
