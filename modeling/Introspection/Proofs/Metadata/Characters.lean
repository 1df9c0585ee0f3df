import Introspection.Proofs.Lists
import Introspection.Proofs.Metadata.Meaning

/-!
# The characters of a serialized tree

Serializing a tree adds syntax, words and backslashes, and all of these are printable ASCII. So any
other character of what is written comes from the tree: from one of its texts, or from the value of
one of its expressions. Control characters come from the values alone, as texts with one of them
cannot be written.

The expressions themselves are found in the same way. A value that is marked by a control character
shows where it went, so the expressions that were pushed are those of the tree.

## Main definitions

* `Metadata.Node.texts` — the texts and keys of a tree
* `Metadata.Unwritten` — the characters that serializing adds nowhere
* `Metadata.Printable` — the texts without such characters

## Main results

* `Metadata.mem_of_denotes` — where such a character comes from
* `Metadata.clean_of_mem_pieces` — literal pieces are free of control characters
* `Metadata.mem_literal_iff`, `Metadata.computed_mem_pieces_iff` — what the pieces of a tree hold
-/

namespace Introspection.Metadata

namespace Node

mutual

/-- The texts of a tree, its keys among them. -/
def texts : Node → List String
  | .str value => [value]
  | .object entries => memberTexts entries
  | .array items => itemTexts items
  | .bool _ | .ref _ | .computed _ | .foreign _ => []

/-- The texts in the items of an array. -/
def itemTexts : List Node → List String
  | [] => []
  | item :: items => texts item ++ itemTexts items

/-- The keys and texts of the members of an object. -/
def memberTexts : List (String × Node) → List String
  | [] => []
  | (key, value) :: entries => key :: (texts value ++ memberTexts entries)

end

end Node

theorem mem_itemTexts_iff {text : String} {items : List Node} :
    text ∈ Node.itemTexts items ↔ ∃ item ∈ items, text ∈ item.texts := by
  induction items with
  | nil => simp [Node.itemTexts]
  | cons item items ih => simp [Node.itemTexts, ih]

/-- A character that is no printable one of ASCII. Serializing adds none of these. -/
def Unwritten (c : Char) : Prop :=
  c.toNat < 0x20 ∨ 0x7F ≤ c.toNat

instance (c : Char) : Decidable (Unwritten c) :=
  inferInstanceAs (Decidable (_ ∨ _))

variable {valueOf : String → String} {idConstant : String} {c : Char}

/-- A text that serializing can add. -/
def Printable (text : List Char) : Prop :=
  ∀ c ∈ text, ¬ Unwritten c

instance (text : List Char) : Decidable (Printable text) :=
  List.decidableBAll _ _

theorem Unwritten.ne (hc : Unwritten c) {written : Char} (h : ¬ Unwritten written) :
    c ≠ written := by
  rintro rfl
  exact h hc

theorem Unwritten.not_mem (hc : Unwritten c) {text : List Char} (h : Printable text) :
    c ∉ text :=
  fun hmem => h c hmem hc

theorem mem_escapedInside (hc : Unwritten c) {text : List Char} :
    c ∈ escapedInside text ↔ c ∈ text := by
  have hbackslash : c ≠ '\\' := hc.ne (by decide)
  rw [escapedInside, List.mem_flatMap]
  constructor
  · rintro ⟨d, hd, hmem⟩
    split at hmem
    · rcases List.mem_cons.mp hmem with heq | hmem
      · exact absurd heq hbackslash
      · rwa [List.mem_singleton.mp hmem]
    · rwa [List.mem_singleton.mp hmem]
  · refine fun hmem => ⟨c, hmem, ?_⟩
    split <;> simp

theorem mem_quoted (hc : Unwritten c) {inside : List Char} :
    c ∈ '"' :: (inside ++ ['"']) ↔ c ∈ inside := by
  have hquote : c ≠ '"' := hc.ne (by decide)
  simp [hquote]

/-- Brackets and commas add nothing. -/
theorem mem_enclosed (hc : Unwritten c) {opening closing : List Char}
    (hopening : Printable opening) (hclosing : Printable closing)
    {texts : List (List Char)} :
    c ∈ opening ++ ([','].intercalate texts ++ closing) ↔ ∃ text ∈ texts, c ∈ text := by
  rw [List.mem_append, List.mem_append, or_iff_right (hc.not_mem hopening),
    or_iff_left (hc.not_mem hclosing), mem_intercalate (hc.ne (by decide))]

/-- The characters that come from a list of texts and of values of expressions. -/
def FromTree (valueOf : String → String) (c : Char) (texts expressions : List String) : Prop :=
  (∃ value ∈ texts, c ∈ value.toList) ∨ ∃ expression ∈ expressions, c ∈ (valueOf expression).toList

theorem fromTree_append {texts texts' expressions expressions' : List String} :
    FromTree valueOf c (texts ++ texts') (expressions ++ expressions') ↔
      FromTree valueOf c texts expressions ∨ FromTree valueOf c texts' expressions' := by
  simp only [FromTree, List.mem_append, or_and_right, exists_or]
  exact or_or_or_comm

mutual

/-- **A character that serializing does not add comes from the tree.** -/
theorem mem_of_denotes (hc : Unwritten c) : ∀ {node : Node} {text : List Char},
    (node.written idConstant).Denotes valueOf text →
      (c ∈ text ↔ FromTree valueOf c node.texts (node.expressions idConstant))
  | .bool value, text, h => by
    rw [Node.written, Written.denotes_text_iff] at h
    subst h
    have hwords : c ∉ (if value then "true" else "false").toList := by
      cases value <;> exact hc.not_mem (by decide)
    simp [hwords, FromTree, Node.texts, Node.expressions]
  | .str value, text, h => by
    rw [Node.written, Written.denotes_string_iff] at h
    obtain ⟨-, rfl⟩ := h
    rw [mem_quoted hc, mem_escapedInside hc]
    simp [FromTree, Node.texts, Node.expressions]
  | .ref target, text, h => by
    rw [Node.written, Written.denotes_computed_iff] at h
    subst h
    rw [mem_quoted hc]
    simp [FromTree, Node.texts, Node.expressions]
  | .computed expression, text, h => by
    rw [Node.written, Written.denotes_computed_iff] at h
    subst h
    rw [mem_quoted hc]
    simp [FromTree, Node.texts, Node.expressions]
  | .object entries, text, h => by
    simp only [Node.written, Written.denotes_andThen_iff, Written.denotes_text_iff,
      Written.denotes_separated_iff] at h
    obtain ⟨-, -, rfl, ⟨-, -, ⟨texts, h, rfl⟩, rfl, rfl⟩, rfl⟩ := h
    rw [mem_enclosed hc (by decide) (by decide)]
    exact mem_of_denotes_members hc h
  | .array items, text, h => by
    simp only [Node.written, Written.denotes_andThen_iff, Written.denotes_text_iff,
      Written.denotes_separated_iff] at h
    obtain ⟨-, -, rfl, ⟨-, -, ⟨texts, h, rfl⟩, rfl, rfl⟩, rfl⟩ := h
    rw [mem_enclosed hc (by decide) (by decide)]
    exact mem_of_denotes_items hc h
  | .foreign value, text, h => absurd h Written.not_denotes_failure

theorem mem_of_denotes_items (hc : Unwritten c) :
    ∀ {items : List Node} {texts : List (List Char)},
      List.Forall₂ (Written.Denotes valueOf) (Node.writtenItems idConstant items) texts →
        ((∃ text ∈ texts, c ∈ text) ↔
          FromTree valueOf c (Node.itemTexts items) (Node.itemExpressions idConstant items))
  | [], texts, h => by
    rw [Node.writtenItems, List.forall₂_nil_left_iff] at h
    subst h
    simp [FromTree, Node.itemTexts, Node.itemExpressions]
  | item :: items, texts, h => by
    rw [Node.writtenItems] at h
    obtain ⟨text, texts, hitem, hitems, rfl⟩ := List.forall₂_cons_left_iff.mp h
    rw [List.exists_mem_cons_iff, mem_of_denotes hc hitem, mem_of_denotes_items hc hitems,
      Node.itemTexts, Node.itemExpressions, fromTree_append]

theorem mem_of_denotes_members (hc : Unwritten c) :
    ∀ {entries : List (String × Node)} {texts : List (List Char)},
      List.Forall₂ (Written.Denotes valueOf) (Node.writtenEntries idConstant entries) texts →
        ((∃ text ∈ texts, c ∈ text) ↔
          FromTree valueOf c (Node.memberTexts entries)
            (Node.memberExpressions idConstant entries))
  | [], texts, h => by
    rw [Node.writtenEntries, List.forall₂_nil_left_iff] at h
    subst h
    simp [FromTree, Node.memberTexts, Node.memberExpressions]
  | (key, value) :: entries, texts, h => by
    rw [Node.writtenEntries] at h
    obtain ⟨text, texts, hentry, hentries, rfl⟩ := List.forall₂_cons_left_iff.mp h
    simp only [Written.denotes_andThen_iff, Written.denotes_text_iff,
      Written.denotes_string_iff] at hentry
    obtain ⟨-, -, ⟨-, rfl⟩, ⟨-, valueText, rfl, hvalue, rfl⟩, rfl⟩ := hentry
    have hcolon : c ∉ ":".toList := hc.not_mem (by decide)
    have hkey : FromTree valueOf c (key :: (value.texts ++ Node.memberTexts entries))
        (value.expressions idConstant ++ Node.memberExpressions idConstant entries) ↔
          c ∈ key.toList ∨ FromTree valueOf c (value.texts ++ Node.memberTexts entries)
            (value.expressions idConstant ++ Node.memberExpressions idConstant entries) := by
      rw [FromTree, List.exists_mem_cons_iff, or_assoc, FromTree]
    rw [List.exists_mem_cons_iff, List.mem_append, List.mem_append, or_iff_right hcolon,
      mem_quoted hc, mem_escapedInside hc, mem_of_denotes hc hvalue,
      mem_of_denotes_members hc hentries, Node.memberTexts, Node.memberExpressions, hkey,
      fromTree_append, or_assoc]

end

mutual

/-- A tree that was written has no text with a control character. -/
theorem clean_of_denotes : ∀ {node : Node} {text : List Char},
    (node.written idConstant).Denotes valueOf text → ∀ value ∈ node.texts, Clean value
  | .bool _, _, _ => by simp [Node.texts]
  | .str value, text, h => by
    rw [Node.written, Written.denotes_string_iff] at h
    exact List.forall_mem_singleton.mpr h.1
  | .ref _, _, _ => by simp [Node.texts]
  | .computed _, _, _ => by simp [Node.texts]
  | .object entries, text, h => by
    simp only [Node.written, Written.denotes_andThen_iff, Written.denotes_separated_iff] at h
    obtain ⟨-, -, -, ⟨-, -, ⟨texts, h, -⟩, -⟩, -⟩ := h
    exact clean_of_denotes_members h
  | .array items, text, h => by
    simp only [Node.written, Written.denotes_andThen_iff, Written.denotes_separated_iff] at h
    obtain ⟨-, -, -, ⟨-, -, ⟨texts, h, -⟩, -⟩, -⟩ := h
    exact clean_of_denotes_items h
  | .foreign _, _, h => absurd h Written.not_denotes_failure

theorem clean_of_denotes_items : ∀ {items : List Node} {texts : List (List Char)},
    List.Forall₂ (Written.Denotes valueOf) (Node.writtenItems idConstant items) texts →
      ∀ value ∈ Node.itemTexts items, Clean value
  | [], _, _ => by simp [Node.itemTexts]
  | item :: items, texts, h => by
    rw [Node.writtenItems] at h
    obtain ⟨text, texts, hitem, hitems, rfl⟩ := List.forall₂_cons_left_iff.mp h
    exact List.forall_mem_append.mpr ⟨clean_of_denotes hitem, clean_of_denotes_items hitems⟩

theorem clean_of_denotes_members : ∀ {entries : List (String × Node)} {texts : List (List Char)},
    List.Forall₂ (Written.Denotes valueOf) (Node.writtenEntries idConstant entries) texts →
      ∀ value ∈ Node.memberTexts entries, Clean value
  | [], _, _ => by simp [Node.memberTexts]
  | (key, value) :: entries, texts, h => by
    rw [Node.writtenEntries] at h
    obtain ⟨text, texts, hentry, hentries, rfl⟩ := List.forall₂_cons_left_iff.mp h
    simp only [Written.denotes_andThen_iff, Written.denotes_string_iff] at hentry
    obtain ⟨-, -, ⟨hkey, -⟩, ⟨-, valueText, -, hvalue, -⟩, -⟩ := hentry
    exact List.forall_mem_cons.mpr ⟨hkey, List.forall_mem_append.mpr
      ⟨clean_of_denotes hvalue, clean_of_denotes_members hentries⟩⟩

end

/-! ### The pieces of a tree -/

variable {node : Node} {content : Concatenation}

/-- The text of a concatenation is made of its pieces. -/
theorem mem_evaluate_iff :
    c ∈ (content.evaluate valueOf).toList ↔
      (∃ value, .literal value ∈ content.pieces ∧ c ∈ value.toList) ∨
        ∃ expression, .computed expression ∈ content.pieces ∧ c ∈ (valueOf expression).toList := by
  rw [Concatenation.evaluate, String.toList_join, List.flatMap_map, List.mem_flatMap]
  constructor
  · rintro ⟨piece, hpiece, hc⟩
    cases piece with
    | literal value => exact .inl ⟨value, hpiece, hc⟩
    | computed expression => exact .inr ⟨expression, hpiece, hc⟩
  · rintro (⟨value, hpiece, hc⟩ | ⟨expression, hpiece, hc⟩)
    · exact ⟨_, hpiece, hc⟩
    · exact ⟨_, hpiece, hc⟩

/-- The characters of literal pieces that serializing does not add are those of the texts. -/
theorem mem_literal_iff (h : node.serialize idConstant = .ok content) (hc : Unwritten c) :
    (∃ value, .literal value ∈ content.pieces ∧ c ∈ value.toList) ↔
      ∃ value ∈ node.texts, c ∈ value.toList := by
  have hmem := mem_of_denotes hc (denotes_of_serialize (fun _ => "") h)
  simpa [mem_evaluate_iff, FromTree] using hmem

/-- Literal pieces are free of control characters. -/
theorem clean_of_mem_pieces (h : node.serialize idConstant = .ok content) {value : String}
    (hvalue : .literal value ∈ content.pieces) : Clean value := by
  intro c hc
  by_contra hcontrol
  have hunwritten : Unwritten c := .inl (by omega)
  obtain ⟨text, htext, hmem⟩ := (mem_literal_iff h hunwritten).mp ⟨value, hvalue, hc⟩
  exact hcontrol (clean_of_denotes (denotes_of_serialize (fun _ => "") h) text htext c hmem)

/-- The computed pieces are the expressions of the tree. -/
theorem computed_mem_pieces_iff (h : node.serialize idConstant = .ok content)
    {expression : String} :
    .computed expression ∈ content.pieces ↔ expression ∈ node.expressions idConstant := by
  -- Only this expression has a value with a null character, which no literal piece has.
  let mark (other : String) : String := if other = expression then "\x00" else ""
  have hmark (other : String) : '\x00' ∈ (mark other).toList ↔ other = expression := by
    by_cases heq : other = expression <;> simp [mark, heq]
  have hliteral : ¬ ∃ value, .literal value ∈ content.pieces ∧ '\x00' ∈ value.toList := by
    rintro ⟨value, hvalue, hnull⟩
    exact absurd (clean_of_mem_pieces h hvalue _ hnull) (by decide)
  have htexts : ¬ ∃ value ∈ node.texts, '\x00' ∈ value.toList :=
    fun hnull => hliteral ((mem_literal_iff h (by decide)).mpr hnull)
  have hmem := mem_of_denotes (c := '\x00') (by decide) (denotes_of_serialize mark h)
  rw [mem_evaluate_iff, FromTree, or_iff_right hliteral, or_iff_right htexts] at hmem
  simpa [hmark] using hmem

end Introspection.Metadata
