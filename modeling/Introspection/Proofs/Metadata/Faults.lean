import Introspection.Proofs.Metadata.Meaning

/-!
# What ends a serialization

A serialization ends at the first thing that cannot be written, and the order in which things are
written is that of the document: a key before its value, siblings from left to right, and what is
inside before what comes after. Two kinds of things cannot be written, a text with a control
character and a value that is no node. What is between them, braces and commas and expressions, can
always be.

So the fault of a serialization is found in the tree alone, without writing anything.

## Main definitions

* `Metadata.textFault?` — what forbids a text
* `Metadata.Node.fault?` — the first fault of a tree, in the order of the document

## Main results

* `Metadata.Node.fault_written` — the fault that ends the writing is the first one of the tree
* `Metadata.Node.serialize_eq_error_iff`
* `Metadata.findSome?_textFault?_eq_some_iff` — the first of some texts that cannot be written
-/

namespace Introspection.Metadata

/-- What forbids a text: its first control character. -/
def textFault? (text : String) : Option Fault :=
  (text.toList.find? (·.toNat < 0x20)).map (.controlCharacter · text)

namespace Node

mutual

/-- The first thing in a tree that cannot be written, in the order of the document. -/
def fault? : Node → Option Fault
  | .bool _ | .ref _ | .computed _ => none
  | .str value => textFault? value
  | .object entries => membersFault? entries
  | .array items => itemsFault? items
  | .foreign value => some (.unsupported value)

/-- The first fault in the items of an array. -/
def itemsFault? : List Node → Option Fault
  | [] => none
  | item :: items => item.fault?.or (itemsFault? items)

/-- The first fault in the members of an object. -/
def membersFault? : List (String × Node) → Option Fault
  | [] => none
  | (key, value) :: entries => (textFault? key).or (value.fault?.or (membersFault? entries))

end

end Node

/-! ### Stretches of writing -/

theorem findSome?_cons_eq_or {α β : Type} (f : α → Option β) (first : α) (rest : List α) :
    (first :: rest).findSome? f = (f first).or (rest.findSome? f) := by
  rw [List.findSome?_cons]
  cases f first <;> rfl

namespace Written

/-- Of two stretches, the first one that fails counts. -/
theorem fault_andThen (first second : Written) :
    (first.andThen second).fault = first.fault.or second.fault := by
  rw [andThen]
  cases h : first.fault with
  | none => rfl
  | some fault => exact h

@[simp] theorem fault_text (value : String) : (text value).fault = none := rfl

theorem fault_separated (stretches : List Written) :
    (separated stretches).fault = stretches.findSome? (·.fault) := by
  induction stretches with
  | nil => rfl
  | cons first rest ih =>
    cases rest with
    | nil => simp [separated]
    | cons second rest =>
      rw [show separated (first :: second :: rest) =
          first.andThen ((text ",").andThen (separated (second :: rest))) from rfl,
        fault_andThen, fault_andThen, ih, fault_text, Option.none_or,
        findSome?_cons_eq_or _ first]

theorem fault_string (value : String) : (string value).fault = textFault? value := by
  rw [string, fault_andThen, fault_text, Option.none_or, escapeText, textFault?]
  cases value.toList.find? (·.toNat < 0x20) with
  | none => rfl
  | some c => rfl

end Written

/-! ### Trees -/

namespace Node

mutual

/-- The writing of a tree ends with its first fault. -/
theorem fault_written (idConstant : String) : ∀ node : Node,
    (node.written idConstant).fault = node.fault?
  | .bool _ => by rw [written, fault?]; rfl
  | .str value => by rw [written, fault?, Written.fault_string]
  | .ref _ => by rw [written, fault?]; rfl
  | .computed _ => by rw [written, fault?]; rfl
  | .object entries => by
    rw [written, fault?, Written.fault_andThen, Written.fault_andThen, Written.fault_text,
      Written.fault_text, Option.none_or, Option.or_none, Written.fault_separated,
      fault_writtenEntries idConstant entries]
  | .array items => by
    rw [written, fault?, Written.fault_andThen, Written.fault_andThen, Written.fault_text,
      Written.fault_text, Option.none_or, Option.or_none, Written.fault_separated,
      fault_writtenItems idConstant items]
  | .foreign _ => by rw [written, fault?]; rfl

theorem fault_writtenItems (idConstant : String) : ∀ items : List Node,
    (writtenItems idConstant items).findSome? (·.fault) = itemsFault? items
  | [] => by rw [writtenItems, itemsFault?]; rfl
  | item :: items => by
    rw [writtenItems, itemsFault?, findSome?_cons_eq_or, fault_written idConstant item,
      fault_writtenItems idConstant items]

theorem fault_writtenEntries (idConstant : String) : ∀ entries : List (String × Node),
    (writtenEntries idConstant entries).findSome? (·.fault) = membersFault? entries
  | [] => by rw [writtenEntries, membersFault?]; rfl
  | (key, value) :: entries => by
    rw [writtenEntries, membersFault?, findSome?_cons_eq_or, Written.fault_andThen,
      Written.fault_andThen, Written.fault_string, Written.fault_text, Option.none_or,
      fault_written idConstant value, fault_writtenEntries idConstant entries, Option.or_assoc]

end

theorem serialize_eq_error_iff {node : Node} {idConstant : String} {fault : Fault} :
    node.serialize idConstant = .error fault ↔ node.fault? = some fault := by
  rw [serialize, Written.toExcept, ← fault_written idConstant]
  cases (node.written idConstant).fault <;> simp

/-- What is first in an array is found item by item. -/
theorem itemsFault?_eq_findSome? (items : List Node) :
    itemsFault? items = items.findSome? fault? := by
  induction items with
  | nil => rw [itemsFault?]; rfl
  | cons item items ih =>
    rw [itemsFault?, ih, findSome?_cons_eq_or]

end Node

/-! ### Texts -/

theorem textFault?_eq_none_iff {text : String} : textFault? text = none ↔ Clean text := by
  simp [textFault?, Clean]

/-- The first of some texts that cannot be written, and its first control character. -/
theorem findSome?_textFault?_eq_some_iff {texts : List String} {fault : Fault} :
    texts.findSome? textFault? = some fault ↔
      ∃ before text after c, texts = before ++ text :: after ∧ (∀ earlier ∈ before, Clean earlier) ∧
        text.toList.find? (·.toNat < 0x20) = some c ∧ fault = .controlCharacter c text := by
  rw [List.findSome?_eq_some_iff]
  simp only [textFault?_eq_none_iff]
  constructor
  · rintro ⟨before, text, after, rfl, hfault, hclean⟩
    obtain ⟨c, hc, rfl⟩ := Option.map_eq_some_iff.mp hfault
    exact ⟨before, text, after, c, rfl, hclean, hc, rfl⟩
  · rintro ⟨before, text, after, c, rfl, hclean, hc, rfl⟩
    exact ⟨before, text, after, rfl, by rw [textFault?, hc]; rfl, hclean⟩

end Introspection.Metadata
