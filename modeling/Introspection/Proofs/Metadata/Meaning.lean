import Introspection.Metadata.Node
import Introspection.Proofs.Json.Reading

/-!
# What a metadata tree means

Serializing a tree writes JSON with holes, and the build of the extension fills the holes with
texts. This module says which JSON value comes out, by recursion on the tree and without writing
anything, and proves that reading what was written gives that value.

## The premise on computed texts

A computed text stands between quotes and is not escaped, as it is not known when the quotes are
written. So what the build computes has to be `Plain`: no quote, no backslash, no control
character. Only the expressions that stand in the tree matter. Nothing is asked of the texts in the
tree itself; those that cannot be written make the serialization fail, and `Clean` trees are the
ones without them.

## Main definitions

* `Metadata.runText` — the text that a run of pieces stands for
* `Metadata.Written.Denotes` — a stretch of writing came to its end and stands for a text
* `Metadata.Plain` — a text that may stand between quotes as it is
* `Metadata.Node.meaning` — the JSON value of a tree
* `Metadata.Node.Clean` — a tree that can be serialized

## Main results

* `Metadata.toList_evaluate` — merging pieces does not change the text
* `Metadata.Written.denotes_andThen_iff`, `denotes_separated_iff` — stretches and their texts
* `Metadata.reads_of_denotes` — the text of a tree is read as its meaning in front of anything
* `Metadata.parse_evaluate_of_serialize`
-/

namespace Introspection.Metadata

open Introspection.Json (Answers Reads ReadsMember ReadsString)

/-! ### The text of a run -/

/-- The text that a run of pieces stands for. -/
def runText (valueOf : String → String) (run : List Piece) : List Char :=
  run.flatMap fun piece => (piece.value valueOf).toList

variable {valueOf : String → String}

@[simp] theorem runText_nil : runText valueOf [] = [] := rfl

theorem runText_cons (piece : Piece) (run : List Piece) :
    runText valueOf (piece :: run) = (piece.value valueOf).toList ++ runText valueOf run := rfl

theorem runText_append (first second : List Piece) :
    runText valueOf (first ++ second) = runText valueOf first ++ runText valueOf second :=
  List.flatMap_append

theorem runText_consLiteral (text : String) (run : List Piece) :
    runText valueOf (Piece.consLiteral text run) = text.toList ++ runText valueOf run := by
  rw [Piece.consLiteral.eq_def]
  split
  · next next rest =>
    rw [runText_cons, runText_cons, Piece.value, Piece.value, String.toList_append,
      List.append_assoc]
  · next rest =>
    split
    · next hempty =>
      rw [String.isEmpty_iff.mp hempty]
      rfl
    · rfl

/-- Merging does not change what a run stands for. -/
theorem runText_merge (run : List Piece) :
    runText valueOf (Piece.merge run) = runText valueOf run := by
  induction run with
  | nil => rfl
  | cons piece run ih =>
    rw [Piece.merge_cons, runText_cons, ← ih]
    cases piece with
    | literal text => exact runText_consLiteral text (Piece.merge run)
    | computed expression => rfl

theorem toList_evaluate (concatenation : Concatenation) :
    (concatenation.evaluate valueOf).toList = runText valueOf concatenation.run := by
  rw [← runText_merge, Concatenation.evaluate, String.toList_join, List.flatMap_map]
  rfl

/-! ### Stretches of writing -/

namespace Written

/-- A stretch of writing came to its end and stands for a text. -/
def Denotes (valueOf : String → String) (written : Written) (text : List Char) : Prop :=
  written.fault = none ∧ runText valueOf written.pushed = text

theorem denotes_text_iff {value : String} {text : List Char} :
    (Written.text value).Denotes valueOf text ↔ text = value.toList := by
  simp [Denotes, Written.text, runText_cons, Piece.value, eq_comm]

theorem denotes_computed_iff {expression : String} {text : List Char} :
    (computed expression).Denotes valueOf text ↔
      text = '"' :: ((valueOf expression).toList ++ ['"']) := by
  simp [Denotes, computed, runText_cons, Piece.value, eq_comm]

theorem not_denotes_failure {fault : Fault} {text : List Char} :
    ¬ (failure fault).Denotes valueOf text := by
  rintro ⟨h, -⟩
  cases h

/-- One stretch after another stands for the one text behind the other. -/
theorem denotes_andThen_iff {first second : Written} {text : List Char} :
    (first.andThen second).Denotes valueOf text ↔
      ∃ before after, first.Denotes valueOf before ∧ second.Denotes valueOf after ∧
        text = before ++ after := by
  cases hfault : first.fault with
  | some fault =>
    have heq : first.andThen second = first := by rw [andThen, hfault]
    rw [heq]
    constructor
    · rintro ⟨h, -⟩
      rw [hfault] at h
      cases h
    · rintro ⟨before, after, ⟨h, -⟩, -⟩
      rw [hfault] at h
      cases h
  | none =>
    have heq : first.andThen second = ⟨first.pushed ++ second.pushed, second.fault⟩ := by
      rw [andThen, hfault]
    rw [heq]
    constructor
    · rintro ⟨h, rfl⟩
      exact ⟨_, _, ⟨hfault, rfl⟩, ⟨h, rfl⟩, runText_append _ _⟩
    · rintro ⟨before, after, ⟨-, rfl⟩, ⟨h, rfl⟩, rfl⟩
      exact ⟨h, runText_append _ _⟩

/-- Separated stretches stand for their texts with commas in between. -/
theorem denotes_separated_iff {stretches : List Written} {text : List Char} :
    (separated stretches).Denotes valueOf text ↔
      ∃ texts, List.Forall₂ (Denotes valueOf) stretches texts ∧ text = [','].intercalate texts := by
  induction stretches generalizing text with
  | nil => simp [separated, Denotes, nothing, eq_comm]
  | cons first rest ih =>
    cases rest with
    | nil =>
      constructor
      · intro h
        exact ⟨[text], .cons h .nil, by rw [List.intercalate_singleton]⟩
      · rintro ⟨texts, h, rfl⟩
        obtain ⟨only, texts', hfirst, hnil, rfl⟩ := List.forall₂_cons_left_iff.mp h
        rw [List.forall₂_nil_left_iff.mp hnil, List.intercalate_singleton]
        exact hfirst
    | cons second rest =>
      rw [show separated (first :: second :: rest) =
          first.andThen ((Written.text ",").andThen (separated (second :: rest))) from rfl,
        denotes_andThen_iff]
      simp only [denotes_andThen_iff, denotes_text_iff, ih]
      constructor
      · rintro ⟨before, -, hfirst, ⟨-, -, rfl, ⟨texts, h, rfl⟩, rfl⟩, rfl⟩
        obtain ⟨text', texts', -, -, rfl⟩ := List.forall₂_cons_left_iff.mp h
        exact ⟨before :: text' :: texts', .cons hfirst h, by simp⟩
      · rintro ⟨texts, h, rfl⟩
        obtain ⟨before, texts', hfirst, hrest, rfl⟩ := List.forall₂_cons_left_iff.mp h
        obtain ⟨text', texts', -, -, rfl⟩ := List.forall₂_cons_left_iff.mp hrest
        exact ⟨before, _, hfirst, ⟨_, _, rfl, ⟨_, hrest, rfl⟩, rfl⟩, by simp⟩

end Written

/-! ### Strings -/

/-- The inside of a string literal for a text without control characters. -/
def escapedInside (text : List Char) : List Char :=
  text.flatMap fun c => if c == '\\' || c == '"' then ['\\', c] else [c]

theorem escapeText_eq_ok_iff {value escaped : String} :
    escapeText value = .ok escaped ↔
      (∀ c ∈ value.toList, 0x20 ≤ c.toNat) ∧
        escaped = String.ofList (escapedInside value.toList) := by
  rw [escapeText]
  split
  · next c h =>
    have hc := List.find?_some h
    constructor
    · intro h'
      cases h'
    · rintro ⟨hclean, -⟩
      have := hclean c (List.mem_of_find?_eq_some h)
      simp only [decide_eq_true_eq] at hc
      omega
  · next h =>
    have hclean : ∀ c ∈ value.toList, 0x20 ≤ c.toNat := by simpa using h
    constructor
    · intro h'
      cases h'
      exact ⟨hclean, rfl⟩
    · rintro ⟨-, rfl⟩
      rfl

theorem Written.denotes_string_iff {value : String} {text : List Char} :
    (Written.string value).Denotes valueOf text ↔
      (∀ c ∈ value.toList, 0x20 ≤ c.toNat) ∧
        text = '"' :: (escapedInside value.toList ++ ['"']) := by
  rw [Written.string, denotes_andThen_iff]
  cases h : escapeText value with
  | error fault =>
    constructor
    · rintro ⟨before, after, -, hfailure, -⟩
      exact absurd hfailure not_denotes_failure
    · rintro ⟨hclean, -⟩
      rw [escapeText_eq_ok_iff.mpr ⟨hclean, rfl⟩] at h
      cases h
  | ok escaped =>
    obtain ⟨hclean, rfl⟩ := escapeText_eq_ok_iff.mp h
    simp only [denotes_andThen_iff, denotes_text_iff]
    constructor
    · rintro ⟨-, -, rfl, ⟨-, -, rfl, rfl, rfl⟩, rfl⟩
      exact ⟨hclean, by simp⟩
    · rintro ⟨-, rfl⟩
      exact ⟨_, _, rfl, ⟨_, _, rfl, rfl, rfl⟩, by simp⟩

theorem unitsText_map_inr (text : List Char) : Json.unitsText (text.map .inr) = text := by
  induction text with
  | nil => rfl
  | cons c text ih => rw [List.map_cons, Json.unitsText, ih]

/-- Reading back what was escaped. -/
theorem readUnits_escapedInside {text : List Char} (hclean : ∀ c ∈ text, 0x20 ≤ c.toNat)
    (start rest : List Char) :
    Json.readUnits start (escapedInside text ++ '"' :: rest) = .ok (text.map .inr, rest) := by
  induction text with
  | nil => simp [escapedInside, Json.readUnits]
  | cons c text ih =>
    obtain ⟨hc, hclean⟩ := List.forall_mem_cons.mp hclean
    have ih := ih hclean
    rw [escapedInside, List.flatMap_cons, ← escapedInside, List.append_assoc]
    by_cases hbackslash : c = '\\'
    · subst hbackslash
      simp [Json.readUnits, Json.escapeValue?, ih]
    by_cases hquote : c = '"'
    · subst hquote
      simp [Json.readUnits, Json.escapeValue?, ih]
    · have hn : ¬ c.toNat < 0x20 := by omega
      simp [Json.readUnits, hbackslash, hquote, ih, hn]

theorem readsString_escapedInside {value : String} (hclean : ∀ c ∈ value.toList, 0x20 ≤ c.toNat) :
    ReadsString (escapedInside value.toList) value := by
  intro start rest
  have := Json.readString_answers (readUnits_escapedInside hclean start rest)
  rwa [unitsText_map_inr, String.ofList_toList] at this

/-- A text that may stand between quotes as it is. -/
def Plain (text : String) : Prop :=
  ∀ c ∈ text.toList, c ≠ '"' ∧ c ≠ '\\' ∧ 0x20 ≤ c.toNat

instance (text : String) : Decidable (Plain text) :=
  List.decidableBAll _ _

/-- Escaping leaves a plain text as it is. -/
theorem escapedInside_of_plain {text : String} (h : Plain text) :
    escapedInside text.toList = text.toList := by
  rw [escapedInside, List.flatMap_congr (g := fun c => [c]), List.flatMap_singleton']
  intro c hc
  simp [(h c hc).1, (h c hc).2.1]

theorem readsString_of_plain {text : String} (h : Plain text) : ReadsString text.toList text := by
  have := readsString_escapedInside fun c hc => (h c hc).2.2
  rwa [escapedInside_of_plain h] at this

/-! ### The meaning of a tree -/

namespace Node

mutual

/-- The JSON value of a tree, given the values of expressions. A value that is no node has none,
and cannot be serialized either. -/
def meaning (idConstant : String) (valueOf : String → String) : Node → Json
  | .bool value => .bool value
  | .str value => .str value
  | .ref target => .str (valueOf (idAccess target idConstant))
  | .computed expression => .str (valueOf expression)
  | .object entries => .object (Json.collected (memberMeanings idConstant valueOf entries))
  | .array items => .array (itemMeanings idConstant valueOf items)
  | .foreign _ => .null

/-- The values of the items of an array. -/
def itemMeanings (idConstant : String) (valueOf : String → String) : List Node → List Json
  | [] => []
  | item :: items => meaning idConstant valueOf item :: itemMeanings idConstant valueOf items

/-- The members of an object with their values. -/
def memberMeanings (idConstant : String) (valueOf : String → String) :
    List (String × Node) → List (String × Json)
  | [] => []
  | (key, value) :: entries =>
    (key, meaning idConstant valueOf value) :: memberMeanings idConstant valueOf entries

end

mutual

/-- The expressions whose values stand in a tree. -/
def expressions (idConstant : String) : Node → List String
  | .ref target => [idAccess target idConstant]
  | .computed expression => [expression]
  | .object entries => memberExpressions idConstant entries
  | .array items => itemExpressions idConstant items
  | .bool _ | .str _ | .foreign _ => []

/-- The expressions in the items of an array. -/
def itemExpressions (idConstant : String) : List Node → List String
  | [] => []
  | item :: items => expressions idConstant item ++ itemExpressions idConstant items

/-- The expressions in the members of an object. -/
def memberExpressions (idConstant : String) : List (String × Node) → List String
  | [] => []
  | (_, value) :: entries => expressions idConstant value ++ memberExpressions idConstant entries

end

end Node

theorem mem_itemExpressions_iff {idConstant expression : String} {items : List Node} :
    expression ∈ Node.itemExpressions idConstant items ↔
      ∃ item ∈ items, expression ∈ item.expressions idConstant := by
  induction items with
  | nil => simp [Node.itemExpressions]
  | cons item items ih => simp [Node.itemExpressions, ih]

mutual

/-- **What a tree is written as is read as its meaning**, whatever follows it. -/
theorem reads_of_denotes {idConstant : String} : ∀ {node : Node} {text : List Char},
    (∀ expression ∈ node.expressions idConstant, Plain (valueOf expression)) →
      (node.written idConstant).Denotes valueOf text → Reads text (node.meaning idConstant valueOf)
  | .bool value, text, _, h => by
    rw [Node.written, Written.denotes_text_iff] at h
    subst h
    exact Json.reads_bool value
  | .str value, text, _, h => by
    rw [Node.written, Written.denotes_string_iff] at h
    obtain ⟨hclean, rfl⟩ := h
    exact Json.reads_str (readsString_escapedInside hclean)
  | .ref target, text, hplain, h => by
    rw [Node.written, Written.denotes_computed_iff] at h
    subst h
    exact Json.reads_str (readsString_of_plain (hplain _ (List.mem_singleton_self _)))
  | .computed expression, text, hplain, h => by
    rw [Node.written, Written.denotes_computed_iff] at h
    subst h
    exact Json.reads_str (readsString_of_plain (hplain _ (List.mem_singleton_self _)))
  | .object entries, text, hplain, h => by
    simp only [Node.written, Written.denotes_andThen_iff, Written.denotes_text_iff,
      Written.denotes_separated_iff] at h
    obtain ⟨-, -, rfl, ⟨-, -, ⟨texts, h, rfl⟩, rfl, rfl⟩, rfl⟩ := h
    exact Json.reads_object (readsMembers_of_denotes hplain h)
  | .array items, text, hplain, h => by
    simp only [Node.written, Written.denotes_andThen_iff, Written.denotes_text_iff,
      Written.denotes_separated_iff] at h
    obtain ⟨-, -, rfl, ⟨-, -, ⟨texts, h, rfl⟩, rfl, rfl⟩, rfl⟩ := h
    exact Json.reads_array (readsItems_of_denotes hplain h)
  | .foreign value, text, _, h => absurd h Written.not_denotes_failure

theorem readsItems_of_denotes {idConstant : String} :
    ∀ {items : List Node} {texts : List (List Char)},
      (∀ expression ∈ Node.itemExpressions idConstant items, Plain (valueOf expression)) →
        List.Forall₂ (Written.Denotes valueOf) (Node.writtenItems idConstant items) texts →
          List.Forall₂ Reads texts (Node.itemMeanings idConstant valueOf items)
  | [], texts, _, h => by
    rw [Node.writtenItems, List.forall₂_nil_left_iff] at h
    subst h
    exact .nil
  | item :: items, texts, hplain, h => by
    rw [Node.writtenItems] at h
    obtain ⟨text, texts, hitem, hitems, rfl⟩ := List.forall₂_cons_left_iff.mp h
    obtain ⟨hplain, hplains⟩ := List.forall_mem_append.mp hplain
    exact .cons (reads_of_denotes hplain hitem) (readsItems_of_denotes hplains hitems)

theorem readsMembers_of_denotes {idConstant : String} :
    ∀ {entries : List (String × Node)} {texts : List (List Char)},
      (∀ expression ∈ Node.memberExpressions idConstant entries, Plain (valueOf expression)) →
        List.Forall₂ (Written.Denotes valueOf) (Node.writtenEntries idConstant entries) texts →
          List.Forall₂ ReadsMember texts (Node.memberMeanings idConstant valueOf entries)
  | [], texts, _, h => by
    rw [Node.writtenEntries, List.forall₂_nil_left_iff] at h
    subst h
    exact .nil
  | (key, value) :: entries, texts, hplain, h => by
    rw [Node.writtenEntries] at h
    obtain ⟨text, texts, hentry, hentries, rfl⟩ := List.forall₂_cons_left_iff.mp h
    simp only [Written.denotes_andThen_iff, Written.denotes_text_iff,
      Written.denotes_string_iff] at hentry
    obtain ⟨-, -, ⟨hclean, rfl⟩, ⟨-, valueText, rfl, hvalue, rfl⟩, rfl⟩ := hentry
    obtain ⟨hplain, hplains⟩ := List.forall_mem_append.mp hplain
    refine .cons ⟨_, valueText, by simp, readsString_escapedInside hclean, ?_⟩
      (readsMembers_of_denotes hplains hentries)
    exact reads_of_denotes hplain hvalue

end

/-- A serialized tree stands for a text, once the expressions have values. -/
theorem denotes_of_serialize {node : Node} {idConstant : String} {content : Concatenation}
    (valueOf : String → String) (h : node.serialize idConstant = .ok content) :
    (node.written idConstant).Denotes valueOf (content.evaluate valueOf).toList := by
  rw [Node.serialize, Written.toExcept] at h
  split at h
  · cases h
  · next hfault =>
    cases h
    exact ⟨hfault, (toList_evaluate ⟨_⟩).symm⟩

/-! ### Trees that can be serialized -/

/-- A text without control characters. -/
def Clean (text : String) : Prop :=
  ∀ c ∈ text.toList, 0x20 ≤ c.toNat

instance (text : String) : Decidable (Clean text) :=
  List.decidableBAll _ _

mutual

/-- All texts and keys of a tree can be written, and everything in it is a node. -/
def Node.Clean : Node → Prop
  | .bool _ | .ref _ | .computed _ => True
  | .str value => Metadata.Clean value
  | .object entries => MembersClean entries
  | .array items => ItemsClean items
  | .foreign _ => False

/-- All items of an array can be written. -/
def ItemsClean : List Node → Prop
  | [] => True
  | item :: items => item.Clean ∧ ItemsClean items

/-- All members of an object can be written. -/
def MembersClean : List (String × Node) → Prop
  | [] => True
  | (key, value) :: entries => Metadata.Clean key ∧ value.Clean ∧ MembersClean entries

end

/-- What is asked of the items of an array is asked of each of them. -/
theorem itemsClean_iff {items : List Node} :
    ItemsClean items ↔ ∀ item ∈ items, item.Clean := by
  induction items with
  | nil => simp [ItemsClean]
  | cons item items ih => simp [ItemsClean, ih]

mutual

theorem Node.Clean.exists_denotes (idConstant : String) (valueOf : String → String) :
    ∀ {node : Node}, node.Clean → ∃ text, (node.written idConstant).Denotes valueOf text
  | .bool value, _ => ⟨_, Written.denotes_text_iff.mpr rfl⟩
  | .str value, h => ⟨_, Written.denotes_string_iff.mpr ⟨h, rfl⟩⟩
  | .ref target, _ => ⟨_, Written.denotes_computed_iff.mpr rfl⟩
  | .computed expression, _ => ⟨_, Written.denotes_computed_iff.mpr rfl⟩
  | .object entries, h => by
    obtain ⟨texts, hentries⟩ := MembersClean.exists_denotes idConstant valueOf h
    simp only [Node.written, Written.denotes_andThen_iff, Written.denotes_text_iff,
      Written.denotes_separated_iff]
    exact ⟨_, _, _, rfl, ⟨_, _, ⟨texts, hentries, rfl⟩, rfl, rfl⟩, rfl⟩
  | .array items, h => by
    obtain ⟨texts, hitems⟩ := ItemsClean.exists_denotes idConstant valueOf h
    simp only [Node.written, Written.denotes_andThen_iff, Written.denotes_text_iff,
      Written.denotes_separated_iff]
    exact ⟨_, _, _, rfl, ⟨_, _, ⟨texts, hitems, rfl⟩, rfl, rfl⟩, rfl⟩
  | .foreign _, h => h.elim

theorem ItemsClean.exists_denotes (idConstant : String) (valueOf : String → String) :
    ∀ {items : List Node}, ItemsClean items →
      ∃ texts, List.Forall₂ (Written.Denotes valueOf) (Node.writtenItems idConstant items) texts
  | [], _ => ⟨[], .nil⟩
  | _ :: _, ⟨hitem, hitems⟩ => by
    obtain ⟨text, htext⟩ := hitem.exists_denotes idConstant valueOf
    obtain ⟨texts, htexts⟩ := ItemsClean.exists_denotes idConstant valueOf hitems
    exact ⟨text :: texts, .cons htext htexts⟩

theorem MembersClean.exists_denotes (idConstant : String) (valueOf : String → String) :
    ∀ {entries : List (String × Node)}, MembersClean entries →
      ∃ texts, List.Forall₂ (Written.Denotes valueOf) (Node.writtenEntries idConstant entries) texts
  | [], _ => ⟨[], .nil⟩
  | (key, value) :: _, ⟨hkey, hvalue, hentries⟩ => by
    obtain ⟨text, htext⟩ := hvalue.exists_denotes idConstant valueOf
    obtain ⟨texts, htexts⟩ := MembersClean.exists_denotes idConstant valueOf hentries
    obtain ⟨member, hmember⟩ : ∃ member, ((Written.string key).andThen
        ((Written.text ":").andThen (value.written idConstant))).Denotes valueOf member := by
      simp only [Written.denotes_andThen_iff, Written.denotes_text_iff, Written.denotes_string_iff]
      exact ⟨_, _, _, ⟨hkey, rfl⟩, ⟨_, _, rfl, htext, rfl⟩, rfl⟩
    exact ⟨member :: texts, .cons hmember htexts⟩

end

/-- A clean tree can be serialized. -/
theorem Node.Clean.exists_serialize {node : Node} (h : node.Clean) (idConstant : String) :
    ∃ content, node.serialize idConstant = .ok content := by
  obtain ⟨text, hfault, -⟩ := h.exists_denotes idConstant id
  exact ⟨_, by rw [Node.serialize, Written.toExcept, hfault]⟩

/-- The text of an object stands between braces. -/
theorem exists_inside_of_serialize {entries : List (String × Node)} {idConstant : String}
    {content : Concatenation} (valueOf : String → String)
    (h : (Node.object entries).serialize idConstant = .ok content) :
    ∃ inside, (content.evaluate valueOf).toList = '\x7b' :: (inside ++ ['\x7d']) := by
  have hdenotes := denotes_of_serialize valueOf h
  simp only [Node.written, Written.denotes_andThen_iff, Written.denotes_text_iff] at hdenotes
  obtain ⟨-, -, rfl, ⟨inside, -, -, rfl, rfl⟩, heq⟩ := hdenotes
  exact ⟨inside, heq⟩

/-! ### The round trip -/

/-- **Serialization is JSON that means the tree.** Where a tree can be serialized and the build
computes plain texts, the text is a JSON document for the meaning of the tree; in front of other
text it is taken whole, and nothing behind it. -/
theorem parse_evaluate_of_serialize {node : Node} {idConstant : String} {content : Concatenation}
    (hplain : ∀ expression, Plain (valueOf expression))
    (h : node.serialize idConstant = .ok content) :
    Json.parse (content.evaluate valueOf).toList = .ok (node.meaning idConstant valueOf) ∧
      ∀ rest, Answers (Json.readValue ((content.evaluate valueOf).toList ++ rest))
        (node.meaning idConstant valueOf) rest := by
  have hreads := reads_of_denotes (fun expression _ => hplain expression)
    (denotes_of_serialize valueOf h)
  exact ⟨hreads.parse, hreads.answers⟩

theorem parse_evaluate_of_serialize_gadget :
    let tree : Node := .object [("a\"b", .str "x\\y"),
      ("all", .array [.bool true, .ref none, .array []]), ("a\"b", .computed "T::NAME"),
      ("é", .ref (some "Gadget"))]
    let valueOf (expression : String) := if expression = "T::NAME" then "int | None" else "17"
    (∀ expression, Plain (valueOf expression)) ∧
      ∃ content, tree.serialize "ID" = .ok content ∧
        Json.parse (content.evaluate valueOf).toList = .ok (.object [("a\"b", .str "int | None"),
          ("all", .array [.bool true, .str "17", .array []]), ("é", .str "17")]) := by
  intro tree valueOf
  have hplain (expression : String) : Plain (valueOf expression) := by
    show Plain (if expression = "T::NAME" then "int | None" else "17")
    split <;> decide
  have hserialize : tree.serialize "ID" = .ok _ := rfl
  exact ⟨hplain, _, hserialize, (parse_evaluate_of_serialize hplain hserialize).1⟩

end Introspection.Metadata
