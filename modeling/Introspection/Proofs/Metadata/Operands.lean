import Introspection.Proofs.Metadata.Characters

/-!
# Reading a concatenation expression

The expression of a concatenation is the macro and its operands, each with a comma and a blank
behind it. An operand that starts with a quote is a string literal; any other runs up to the next
comma with a blank. How literals are read is a matter of its own, and so the reader of literals is
a parameter here.

The literals of a serialized tree have no control characters, so only quotes and backslashes are
escaped in them, and both by a backslash. This is the same in many languages, in Rust among them.

## Main definitions

* `Metadata.LiteralReader` — a way to read string literals
* `Rust.literals` — the literals of Rust, without those that spell a character by its number
* `Metadata.readExpression` — the pieces of a concatenation expression
* `Metadata.IsOperand` — the expressions that can be told apart from literals and commas

## Main results

* `Metadata.readExpression_expression` — reading gives the pieces back
* `Metadata.readExpression_of_serialize` — so it does for every tree whose expressions are operands
* `Metadata.mem_expression_iff` — which characters an expression has
-/

namespace Introspection

/-! ### Literals -/

/-- A way to read string literals: from behind the opening quote to behind the closing one. -/
structure Metadata.LiteralReader where
  read : List Char → Option (String × List Char)
  shorter : ∀ {text rest : List Char} {value : String},
    read text = some (value, rest) → rest.length ≤ text.length

namespace Rust

/-- The character that is written by another one behind a backslash. -/
def escapeValue? : Char → Option Char
  | '"' => some '"'
  | '\'' => some '\''
  | '\\' => some '\\'
  | 'n' => some '\n'
  | 'r' => some '\r'
  | 't' => some '\t'
  | '0' => some '\x00'
  | _ => none

/-- The inside of a string literal, and what follows its closing quote. -/
def readInside : List Char → Option (List Char × List Char)
  | [] => none
  | '"' :: rest => some ([], rest)
  | '\\' :: c :: rest =>
    match escapeValue? c, readInside rest with
    | some value, some (inside, rest) => some (value :: inside, rest)
    | _, _ => none
  | c :: rest => (readInside rest).map fun (inside, rest) => (c :: inside, rest)

theorem length_readInside {text inside rest : List Char}
    (h : readInside text = some (inside, rest)) : rest.length ≤ text.length := by
  induction text using readInside.induct generalizing inside with
  | case1 => cases h
  | case2 tail =>
    obtain ⟨-, rfl⟩ := (Prod.mk.injEq ..).mp (Option.some.inj h)
    exact Nat.le_succ _
  | case3 c tail value inside' rest' hinside hvalue ih =>
    rw [readInside, hvalue, hinside] at h
    obtain ⟨-, rfl⟩ := (Prod.mk.injEq ..).mp (Option.some.inj h)
    exact Nat.le_add_right_of_le (Nat.le_add_right_of_le (ih hinside))
  | case4 c tail hnone ih =>
    rw [readInside] at h
    split at h
    · next value inside' rest' hvalue hinside =>
      exact absurd hinside (hnone value inside' rest' hvalue)
    · cases h
  | case5 c tail hquote hbackslash ih =>
    rw [readInside.eq_4 _ _ hquote hbackslash, Option.map_eq_some_iff] at h
    obtain ⟨⟨inside', rest'⟩, hinside, heq⟩ := h
    obtain ⟨-, rfl⟩ := (Prod.mk.injEq ..).mp heq
    exact Nat.le_add_right_of_le (ih hinside)

/-- The string literals of Rust. -/
def literals : Metadata.LiteralReader where
  read text := (readInside text).map fun (inside, rest) => (String.ofList inside, rest)
  shorter h := by
    obtain ⟨⟨inside, rest⟩, hinside, heq⟩ := Option.map_eq_some_iff.mp h
    obtain ⟨-, rfl⟩ := (Prod.mk.injEq ..).mp heq
    exact length_readInside hinside

end Rust

namespace Metadata

/-- A text comes back from its literal, whatever follows. -/
def LiteralReader.Reads (literals : LiteralReader) (value : String) : Prop :=
  ∀ rest, literals.read (Json.escaped value.toList ++ '"' :: rest) = some (value, rest)

/-- Where there are no control characters, only quotes and backslashes are escaped. -/
theorem escaped_of_clean {value : String} (h : Clean value) :
    Json.escaped value.toList = escapedInside value.toList := by
  refine List.flatMap_congr fun c hc => ?_
  have hcontrol : ¬ c.toNat < 0x20 := Nat.not_lt.mpr (h c hc)
  have hne (control : Char) (hlt : control.toNat < 0x20) : c ≠ control := by
    rintro rfl
    exact hcontrol hlt
  by_cases hquote : c = '"'
  · subst hquote
    rfl
  by_cases hbackslash : c = '\\'
  · subst hbackslash
    rfl
  · simp [Json.escapedChar, hquote, hbackslash, hcontrol, hne '\x08' (by decide),
      hne '\x0C' (by decide), hne '\n' (by decide), hne '\r' (by decide), hne '\t' (by decide)]

theorem readInside_escapedInside (text rest : List Char) :
    Rust.readInside (escapedInside text ++ '"' :: rest) = some (text, rest) := by
  induction text with
  | nil => rfl
  | cons c text ih =>
    rw [escapedInside, List.flatMap_cons, ← escapedInside, List.append_assoc]
    by_cases hbackslash : c = '\\'
    · subst hbackslash
      simp [Rust.readInside, Rust.escapeValue?, ih]
    by_cases hquote : c = '"'
    · subst hquote
      simp [Rust.readInside, Rust.escapeValue?, ih]
    · simp [Rust.readInside, hbackslash, hquote, ih]

theorem reads_of_clean {value : String} (h : Clean value) : Rust.literals.Reads value := by
  intro rest
  show (Rust.readInside _).map _ = _
  rw [escaped_of_clean h, readInside_escapedInside, Option.map_some]
  dsimp only
  rw [String.ofList_toList]

/-! ### Operands -/

/-- An expression up to the next comma with a blank behind it, and what follows these. -/
def readComputed : List Char → Option (List Char × List Char)
  | [] => none
  | ',' :: ' ' :: rest => some ([], rest)
  | c :: rest => (readComputed rest).map fun (expression, rest) => (c :: expression, rest)

theorem length_readComputed {text expression rest : List Char}
    (h : readComputed text = some (expression, rest)) : rest.length < text.length := by
  induction text using readComputed.induct generalizing expression with
  | case1 => cases h
  | case2 tail =>
    obtain ⟨-, rfl⟩ := (Prod.mk.injEq ..).mp (Option.some.inj h)
    exact Nat.lt_succ_of_lt (Nat.lt_succ_self _)
  | case3 c tail hcomma ih =>
    rw [readComputed.eq_3 _ _ hcomma, Option.map_eq_some_iff] at h
    obtain ⟨⟨expression', rest'⟩, hexpression, heq⟩ := h
    obtain ⟨-, rfl⟩ := (Prod.mk.injEq ..).mp heq
    exact Nat.lt_succ_of_lt (ih hexpression)

/-- The operands of the macro up to its closing bracket, which ends the text. -/
def readOperands (literals : LiteralReader) (text : List Char) : Option (List Piece) :=
  match text with
  | [')'] => some []
  | '"' :: inside =>
    match h : literals.read inside with
    | some (value, ',' :: ' ' :: rest) =>
      have := literals.shorter h
      (readOperands literals rest).map (.literal value :: ·)
    | _ => none
  | text =>
    match h : readComputed text with
    | some (expression, rest) =>
      have := length_readComputed h
      (readOperands literals rest).map (.computed (String.ofList expression) :: ·)
    | none => none
termination_by text.length
decreasing_by
  · simp only [List.length_cons] at this ⊢
    omega
  · assumption

/-- The pieces of a concatenation expression. -/
def readExpression (literals : LiteralReader) (cratePath : String) (text : List Char) :
    Option (List Piece) :=
  let start := (cratePath ++ Concatenation.macroPath ++ "(").toList
  if start.isPrefixOf text then readOperands literals (text.drop start.length) else none

/-- An expression can be told apart from literals, and from the comma behind it. -/
def IsOperand (expression : String) : Prop :=
  expression ≠ "" ∧ ∀ c ∈ expression.toList, c ≠ '"' ∧ c ≠ ','

instance (expression : String) : Decidable (IsOperand expression) :=
  have : Decidable (∀ c ∈ expression.toList, c ≠ '"' ∧ c ≠ ',') := List.decidableBAll _ _
  inferInstanceAs (Decidable (_ ∧ _))

/-- A piece comes back from its operand. -/
def Piece.Readable (literals : LiteralReader) : Piece → Prop
  | .literal value => literals.Reads value
  | .computed expression => IsOperand expression

/-- The operands of pieces, each with a comma and a blank. -/
def operandsText (pieces : List Piece) : List Char :=
  pieces.flatMap fun piece => piece.operand.toList ++ [',', ' ']

theorem toList_expression (content : Concatenation) (cratePath : String) :
    (content.expression cratePath).toList =
      (cratePath ++ Concatenation.macroPath ++ "(").toList ++
        (operandsText content.pieces ++ [')']) := by
  simp [Concatenation.expression, operandsText, String.toList_append, String.toList_join,
    List.flatMap_map]

theorem readComputed_append {expression : List Char} (h : ',' ∉ expression) (rest : List Char) :
    readComputed (expression ++ ',' :: ' ' :: rest) = some (expression, rest) := by
  induction expression with
  | nil => rfl
  | cons c expression ih =>
    rw [List.mem_cons, not_or] at h
    rw [List.cons_append, readComputed.eq_3 _ _ fun _ hc => absurd hc.symm h.1, ih h.2]
    rfl

variable {literals : LiteralReader}

theorem readOperands_of_readComputed {text expression rest : List Char}
    (h : readComputed text = some (expression, rest)) (hquote : ∀ inside, text ≠ '"' :: inside)
    (hend : text ≠ [')']) :
    readOperands literals text =
      (readOperands literals rest).map (.computed (String.ofList expression) :: ·) := by
  rw [readOperands.eq_def]
  split
  · exact absurd rfl hend
  · exact absurd rfl (hquote _)
  · split
    · next expression' rest' heq =>
      obtain ⟨rfl, rfl⟩ := (Prod.mk.injEq ..).mp (Option.some.inj (heq.symm.trans h))
      rfl
    · next heq => rw [h] at heq; cases heq

theorem readOperands_of_read {inside rest : List Char} {value : String}
    (h : literals.read inside = some (value, ',' :: ' ' :: rest)) :
    readOperands literals ('"' :: inside) =
      (readOperands literals rest).map (.literal value :: ·) := by
  rw [readOperands]
  split
  · next value' rest' heq =>
    obtain ⟨rfl, hrest⟩ := (Prod.mk.injEq ..).mp (Option.some.inj (heq.symm.trans h))
    obtain rfl : rest' = rest := by simpa using hrest
    rfl
  · next hnone => exact absurd h (hnone value rest)

theorem readOperands_computed {expression : String} (h : IsOperand expression)
    (rest : List Char) :
    readOperands literals (expression.toList ++ ',' :: ' ' :: rest) =
      (readOperands literals rest).map (.computed expression :: ·) := by
  obtain ⟨hne, hmarks⟩ := h
  have hread := readComputed_append (fun hcomma => (hmarks _ hcomma).2 rfl) rest
  obtain ⟨c, tail, htext⟩ := List.exists_cons_of_ne_nil fun hnil => hne (String.toList_inj.mp hnil)
  have hquote : c ≠ '"' := (hmarks c (htext ▸ List.mem_cons_self)).1
  rw [readOperands_of_readComputed hread, String.ofList_toList]
  · intro inside heq
    rw [htext] at heq
    exact hquote (List.cons.inj heq).1
  · intro heq
    have hlength := congrArg List.length heq
    simp only [List.length_append, List.length_cons, List.length_nil] at hlength
    omega

theorem readOperands_literal {value : String} (h : literals.Reads value) (rest : List Char) :
    readOperands literals ((Json.literal value).toList ++ ',' :: ' ' :: rest) =
      (readOperands literals rest).map (.literal value :: ·) := by
  have htext : (Json.literal value).toList ++ ',' :: ' ' :: rest =
      '"' :: (Json.escaped value.toList ++ '"' :: ',' :: ' ' :: rest) := by
    simp [Json.literal]
  rw [htext, readOperands_of_read (h _)]

/-- Reading the operands of pieces gives the pieces back. -/
theorem readOperands_operandsText {pieces : List Piece}
    (h : ∀ piece ∈ pieces, piece.Readable literals) :
    readOperands literals (operandsText pieces ++ [')']) = some pieces := by
  induction pieces with
  | nil => rw [operandsText, List.flatMap_nil, List.nil_append, readOperands]
  | cons piece pieces ih =>
    obtain ⟨hpiece, hpieces⟩ := List.forall_mem_cons.mp h
    have htext : operandsText (piece :: pieces) ++ [')'] =
        piece.operand.toList ++ ',' :: ' ' :: (operandsText pieces ++ [')']) := by
      simp [operandsText]
    rw [htext]
    cases piece with
    | literal value => rw [Piece.operand, readOperands_literal hpiece, ih hpieces, Option.map_some]
    | computed expression =>
      rw [Piece.operand, readOperands_computed hpiece, ih hpieces, Option.map_some]

/-- Reading the macro with the operands of pieces gives the pieces back. -/
theorem readExpression_operandsText {pieces : List Piece}
    (h : ∀ piece ∈ pieces, piece.Readable literals) (cratePath : String) :
    readExpression literals cratePath
        ((cratePath ++ Concatenation.macroPath ++ "(").toList ++ (operandsText pieces ++ [')'])) =
      some pieces := by
  rw [readExpression, if_pos (List.isPrefixOf_iff_prefix.mpr (List.prefix_append _ _)),
    List.drop_left, readOperands_operandsText h]

/-- Reading the expression of a concatenation gives its pieces back. -/
theorem readExpression_expression {content : Concatenation}
    (h : ∀ piece ∈ content.pieces, piece.Readable literals) (cratePath : String) :
    readExpression literals cratePath (content.expression cratePath).toList =
      some content.pieces := by
  rw [toList_expression, readExpression_operandsText h]

/-! ### The expression of a tree -/

variable {node : Node} {idConstant : String} {content : Concatenation}

/-- The expression of a tree gives back what was serialized. -/
theorem readExpression_of_serialize (h : node.serialize idConstant = .ok content)
    (operands : ∀ expression ∈ node.expressions idConstant, IsOperand expression)
    (cratePath : String) :
    readExpression Rust.literals cratePath (content.expression cratePath).toList =
      some content.pieces := by
  refine readExpression_expression (fun piece hpiece => ?_) cratePath
  cases piece with
  | literal value => exact reads_of_clean (clean_of_mem_pieces h hpiece)
  | computed expression => exact operands expression ((computed_mem_pieces_iff h).mp hpiece)

/-- The characters of an expression that are no printable ones of ASCII are those of the path of
the crate, of the texts of the tree and of its expressions. -/
theorem mem_expression_iff (h : node.serialize idConstant = .ok content) {c : Char}
    (hc : Unwritten c) (cratePath : String) :
    c ∈ (content.expression cratePath).toList ↔
      c ∈ cratePath.toList ∨ (∃ value ∈ node.texts, c ∈ value.toList) ∨
        ∃ expression ∈ node.expressions idConstant, c ∈ expression.toList := by
  have hmacro : c ∉ Concatenation.macroPath.toList := hc.not_mem (by decide)
  have hopen : c ∉ "(".toList := hc.not_mem (by decide)
  have hclose : c ∉ [')'] := hc.not_mem (by decide)
  have hbehind : c ∉ [',', ' '] := hc.not_mem (by decide)
  have hoperands : c ∈ operandsText content.pieces ↔
      (∃ value, .literal value ∈ content.pieces ∧ c ∈ value.toList) ∨
        ∃ expression, .computed expression ∈ content.pieces ∧ c ∈ expression.toList := by
    have hliteral {value : String} (hvalue : .literal value ∈ content.pieces) :
        c ∈ (Json.literal value).toList ↔ c ∈ value.toList := by
      rw [Json.literal, String.toList_ofList, mem_quoted hc,
        escaped_of_clean (clean_of_mem_pieces h hvalue), mem_escapedInside hc]
    simp only [operandsText, List.mem_flatMap, List.mem_append, or_iff_left hbehind]
    constructor
    · rintro ⟨piece, hpiece, hmem⟩
      cases piece with
      | literal value => exact .inl ⟨value, hpiece, (hliteral hpiece).mp hmem⟩
      | computed expression => exact .inr ⟨expression, hpiece, hmem⟩
    · rintro (⟨value, hpiece, hmem⟩ | ⟨expression, hpiece, hmem⟩)
      · exact ⟨_, hpiece, (hliteral hpiece).mpr hmem⟩
      · exact ⟨_, hpiece, hmem⟩
  rw [toList_expression, List.mem_append, List.mem_append, or_iff_left hclose, hoperands,
    mem_literal_iff h hc]
  simp only [String.toList_append, List.mem_append, or_iff_left hopen, or_iff_left hmacro,
    computed_mem_pieces_iff h]

end Metadata

end Introspection
