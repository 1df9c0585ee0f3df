import Introspection.Proofs.Lists
import Introspection.Proofs.Metadata.Building
import Introspection.Proofs.Metadata.Faults

/-!
# Where a serialization stops

The text of a tree is a sequence of places in the order of the document: a key before its value,
siblings from left to right, and what is inside an object or an array between its braces or
brackets. A place is a text that is always the same, such as a comma, or a text of the tree, or an
expression, or a value that is no node.

Writing goes from place to place. It stops at the first one that cannot be written, and the builder
keeps the rendering of all places before it. Of the last place it keeps the opening quote if that is
a text, and nothing if it is no node. Expressions are not looked at, so they never stop it.

What stops a serialization is said twice here. `Node.Holds` says what is somewhere in the tree and
knows of no order; it is enough to tell whether the writing fails. `Node.places` has the order, and
with it the fault and what is left behind.

## Main definitions

* `Metadata.Place`, `Metadata.Place.fault?`, `Metadata.Place.rendering`
* `Metadata.Node.places` — the places of a tree, in the order of the document
* `Metadata.Node.Holds` — a text, a key or a value that is no node is in a tree
* `Metadata.Node.redirect` — other expressions in the same tree

## Main results

* `Metadata.Node.written_eq` — a tree is written place by place
* `Metadata.Written.ofPlaces_append` — one fault ends the writing, with what was written before it
* `Metadata.Node.mem_places_iff` — the places that cannot be written are what the tree holds
* `Metadata.Builder.step_node_exact`
-/

namespace Introspection.Metadata

open Builder (andThen_assoc andThen_nothing nothing_andThen)

/-! ### Places -/

/-- A part of the text of a tree. -/
inductive Place where
  /-- A brace, a bracket, a comma, a colon or a truth value. -/
  | fixed (text : String)
  /-- A text or a key. -/
  | string (value : String)
  /-- The expression of a reference or of a computed text. -/
  | hole (expression : String)
  /-- A value that is no node. -/
  | foreign (value : Datum)

namespace Place

/-- What forbids a place. -/
def fault? : Place → Option Fault
  | .fixed _ | .hole _ => none
  | .string value => textFault? value
  | .foreign value => some (.unsupported value)

/-- What is written of a place that can be written. -/
def rendering : Place → List Piece
  | .fixed text => [.literal text]
  | .string value =>
    [.literal "\"", .literal (String.ofList (escapedInside value.toList)), .literal "\""]
  | .hole expression => [.literal "\"", .computed expression, .literal "\""]
  | .foreign _ => []

/-- What is written of a place that cannot be written. -/
def opening : Place → List Piece
  | .string _ => [.literal "\""]
  | .fixed _ | .hole _ | .foreign _ => []

/-- Writing a place. -/
def written : Place → Written
  | .fixed text => .text text
  | .string value => .string value
  | .hole expression => .computed expression
  | .foreign value => .failure (.unsupported value)

theorem written_of_none {place : Place} (h : place.fault? = none) :
    place.written = ⟨place.rendering, none⟩ := by
  cases place with
  | fixed text => rfl
  | hole expression => rfl
  | foreign value => cases h
  | string value =>
    have hescape := escapeText_eq_ok_iff.mpr ⟨textFault?_eq_none_iff.mp h, rfl⟩
    rw [written, Written.string, hescape]
    rfl

theorem written_of_some {place : Place} {fault : Fault} (h : place.fault? = some fault) :
    place.written = ⟨place.opening, some fault⟩ := by
  cases place with
  | fixed text => cases h
  | hole expression => cases h
  | foreign value =>
    cases h
    rfl
  | string value =>
    obtain ⟨c, hc, rfl⟩ := Option.map_eq_some_iff.mp h
    rw [written, Written.string, escapeText, hc]
    rfl

theorem ne_fixed_of_some {place : Place} {fault : Fault} (h : place.fault? = some fault)
    (text : String) : place ≠ .fixed text := by
  rintro rfl
  cases h

end Place

namespace Node

mutual

/-- The places of a tree, in the order of the document. -/
def places (idConstant : String) : Node → List Place
  | .bool value => [.fixed (if value then "true" else "false")]
  | .str value => [.string value]
  | .ref target => [.hole (idAccess target idConstant)]
  | .computed expression => [.hole expression]
  | .object entries =>
    .fixed "\x7b" :: ([.fixed ","].intercalate (membersPlaces idConstant entries) ++
      [.fixed "\x7d"])
  | .array items =>
    .fixed "[" :: ([.fixed ","].intercalate (itemsPlaces idConstant items) ++ [.fixed "]"])
  | .foreign value => [.foreign value]

/-- The places of each item of an array. -/
def itemsPlaces (idConstant : String) : List Node → List (List Place)
  | [] => []
  | item :: items => item.places idConstant :: itemsPlaces idConstant items

/-- The places of each member of an object: its key, a colon, its value. -/
def membersPlaces (idConstant : String) : List (String × Node) → List (List Place)
  | [] => []
  | (key, value) :: entries =>
    (.string key :: .fixed ":" :: value.places idConstant) :: membersPlaces idConstant entries

end

/-- A tree holds a text, as a node or as a key, or a value that is no node. -/
inductive Holds : Node → Place → Prop
  | str {value : String} : Holds (.str value) (.string value)
  | foreign {value : Datum} : Holds (.foreign value) (.foreign value)
  | key {entries : List (String × Node)} {entry : String × Node} (mem : entry ∈ entries) :
      Holds (.object entries) (.string entry.1)
  | member {entries : List (String × Node)} {entry : String × Node} {place : Place}
      (mem : entry ∈ entries) (holds : Holds entry.2 place) : Holds (.object entries) place
  | item {items : List Node} {item : Node} {place : Place} (mem : item ∈ items)
      (holds : Holds item place) : Holds (.array items) place

mutual

/-- The same tree with other references and other computed texts. -/
def redirect (target : Option String → Option String) (expression : String → String) : Node → Node
  | .bool value => .bool value
  | .str value => .str value
  | .ref old => .ref (target old)
  | .computed old => .computed (expression old)
  | .object entries => .object (redirectMembers target expression entries)
  | .array items => .array (redirectItems target expression items)
  | .foreign value => .foreign value

/-- The items of an array with other expressions. -/
def redirectItems (target : Option String → Option String) (expression : String → String) :
    List Node → List Node
  | [] => []
  | item :: items => item.redirect target expression :: redirectItems target expression items

/-- The members of an object with other expressions. -/
def redirectMembers (target : Option String → Option String) (expression : String → String) :
    List (String × Node) → List (String × Node)
  | [] => []
  | (key, value) :: entries =>
    (key, value.redirect target expression) :: redirectMembers target expression entries

end

end Node

/-! ### From place to place -/

namespace Written

/-- Writing places one after another. -/
def ofPlaces (places : List Place) : Written :=
  places.foldr (fun place rest => place.written.andThen rest) nothing

theorem ofPlaces_cons (place : Place) (places : List Place) :
    ofPlaces (place :: places) = place.written.andThen (ofPlaces places) := rfl

theorem ofPlaces_singleton (place : Place) : ofPlaces [place] = place.written :=
  andThen_nothing _

theorem ofPlaces_append (first second : List Place) :
    ofPlaces (first ++ second) = (ofPlaces first).andThen (ofPlaces second) := by
  induction first with
  | nil => rfl
  | cons place first ih =>
    rw [List.cons_append, ofPlaces_cons, ofPlaces_cons, ih, andThen_assoc]

/-- Places with commas between are stretches with commas between. -/
theorem ofPlaces_intercalate (lists : List (List Place)) :
    ofPlaces ([.fixed ","].intercalate lists) = separated (lists.map ofPlaces) := by
  induction lists with
  | nil => rfl
  | cons first rest ih =>
    cases rest with
    | nil => rw [List.intercalate_singleton]; rfl
    | cons second rest =>
      rw [List.intercalate_cons_cons, ofPlaces_append, ofPlaces_append, ih, ofPlaces_singleton,
        andThen_assoc]
      rfl

/-- Places that can be written are written. -/
theorem ofPlaces_of_none {places : List Place} (h : ∀ place ∈ places, place.fault? = none) :
    ofPlaces places = ⟨places.flatMap Place.rendering, none⟩ := by
  induction places with
  | nil => rfl
  | cons place places ih =>
    obtain ⟨hplace, hplaces⟩ := List.forall_mem_cons.mp h
    rw [ofPlaces_cons, Place.written_of_none hplace, ih hplaces]
    rfl

/-- The first place that cannot be written ends the writing. -/
theorem ofPlaces_of_some {before after : List Place} {place : Place} {fault : Fault}
    (hbefore : ∀ earlier ∈ before, earlier.fault? = none) (h : place.fault? = some fault) :
    ofPlaces (before ++ place :: after) =
      ⟨before.flatMap Place.rendering ++ place.opening, some fault⟩ := by
  rw [ofPlaces_append, ofPlaces_of_none hbefore, ofPlaces_cons, Place.written_of_some h]
  rfl

end Written

namespace Node

mutual

/-- A tree is written place by place. -/
theorem written_eq (idConstant : String) : ∀ node : Node,
    node.written idConstant = Written.ofPlaces (node.places idConstant)
  | .bool _ => by rw [written, places, Written.ofPlaces_singleton]; rfl
  | .str _ => by rw [written, places, Written.ofPlaces_singleton]; rfl
  | .ref _ => by rw [written, places, Written.ofPlaces_singleton]; rfl
  | .computed _ => by rw [written, places, Written.ofPlaces_singleton]; rfl
  | .object entries => by
    rw [written, places, writtenEntries_eq idConstant entries, Written.ofPlaces_cons,
      Written.ofPlaces_append, Written.ofPlaces_intercalate, Written.ofPlaces_singleton]
    rfl
  | .array items => by
    rw [written, places, writtenItems_eq idConstant items, Written.ofPlaces_cons,
      Written.ofPlaces_append, Written.ofPlaces_intercalate, Written.ofPlaces_singleton]
    rfl
  | .foreign _ => by rw [written, places, Written.ofPlaces_singleton]; rfl

theorem writtenItems_eq (idConstant : String) : ∀ items : List Node,
    writtenItems idConstant items = (itemsPlaces idConstant items).map Written.ofPlaces
  | [] => by rw [writtenItems, itemsPlaces]; rfl
  | item :: items => by
    rw [writtenItems, itemsPlaces, written_eq idConstant item, writtenItems_eq idConstant items,
      List.map_cons]

theorem writtenEntries_eq (idConstant : String) : ∀ entries : List (String × Node),
    writtenEntries idConstant entries = (membersPlaces idConstant entries).map Written.ofPlaces
  | [] => by rw [writtenEntries, membersPlaces]; rfl
  | (_, value) :: entries => by
    rw [writtenEntries, membersPlaces, written_eq idConstant value,
      writtenEntries_eq idConstant entries, List.map_cons]
    rfl

end

/-! ### What a tree holds -/

theorem itemsPlaces_eq_map (idConstant : String) (items : List Node) :
    itemsPlaces idConstant items = items.map (places idConstant) := by
  induction items with
  | nil => rw [itemsPlaces, List.map_nil]
  | cons item items ih => rw [itemsPlaces, ih, List.map_cons]

theorem membersPlaces_eq_map (idConstant : String) (entries : List (String × Node)) :
    membersPlaces idConstant entries =
      entries.map fun entry => .string entry.1 :: .fixed ":" :: entry.2.places idConstant := by
  induction entries with
  | nil => rw [membersPlaces, List.map_nil]
  | cons entry entries ih => rw [membersPlaces, ih, List.map_cons]

/-- What stands in an array, if it is more than a bracket or a comma. -/
theorem mem_places_array {idConstant : String} {items : List Node} {place : Place}
    (h : ∀ text, place ≠ .fixed text) :
    place ∈ (Node.array items).places idConstant ↔
      ∃ item ∈ items, place ∈ item.places idConstant := by
  rw [places, List.mem_cons, List.mem_append, List.mem_singleton, mem_intercalate (h _),
    itemsPlaces_eq_map, or_iff_right (h _), or_iff_left (h _)]
  simp only [List.mem_map, exists_exists_and_eq_and]

/-- What stands in an object, if it is more than a brace, a comma or a colon. -/
theorem mem_places_object {idConstant : String} {entries : List (String × Node)} {place : Place}
    (h : ∀ text, place ≠ .fixed text) :
    place ∈ (Node.object entries).places idConstant ↔
      ∃ entry ∈ entries, place = .string entry.1 ∨ place ∈ entry.2.places idConstant := by
  rw [places, List.mem_cons, List.mem_append, List.mem_singleton, mem_intercalate (h _),
    membersPlaces_eq_map, or_iff_right (h _), or_iff_left (h _)]
  simp only [List.mem_map, exists_exists_and_eq_and, List.mem_cons, h, false_or]

theorem Holds.ne_fixed {node : Node} {place : Place} (h : node.Holds place) (text : String) :
    place ≠ .fixed text := by
  induction h with
  | str => rintro ⟨⟩
  | foreign => rintro ⟨⟩
  | key _ => rintro ⟨⟩
  | member _ _ ih => exact ih
  | item _ _ ih => exact ih

theorem Holds.mem_places {node : Node} {place : Place} (h : node.Holds place)
    (idConstant : String) : place ∈ node.places idConstant := by
  induction h with
  | str =>
    rw [places]
    exact List.mem_singleton_self _
  | foreign =>
    rw [places]
    exact List.mem_singleton_self _
  | key mem => exact (mem_places_object (Holds.key mem).ne_fixed).mpr ⟨_, mem, .inl rfl⟩
  | member mem holds ih => exact (mem_places_object holds.ne_fixed).mpr ⟨_, mem, .inr ih⟩
  | item mem holds ih => exact (mem_places_array holds.ne_fixed).mpr ⟨_, mem, ih⟩

variable {idConstant : String} {place : Place} {fault : Fault}

mutual

/-- A place that cannot be written is a text, a key or a value that is no node. -/
theorem holds_of_mem_places (hfault : place.fault? = some fault) :
    ∀ node : Node, place ∈ node.places idConstant → node.Holds place
  | .bool _, h => by
    rw [places, List.mem_singleton] at h
    subst h
    cases hfault
  | .str _, h => by
    rw [places, List.mem_singleton] at h
    subst h
    exact .str
  | .ref _, h => by
    rw [places, List.mem_singleton] at h
    subst h
    cases hfault
  | .computed _, h => by
    rw [places, List.mem_singleton] at h
    subst h
    cases hfault
  | .object entries, h => by
    obtain ⟨entry, hentry, rfl | hplace⟩ := (mem_places_object (Place.ne_fixed_of_some hfault)).mp h
    · exact .key hentry
    · exact .member hentry (member_holds_of_mem_places hfault entries entry hentry hplace)
  | .array items, h => by
    obtain ⟨item, hitem, hplace⟩ := (mem_places_array (Place.ne_fixed_of_some hfault)).mp h
    exact .item hitem (item_holds_of_mem_places hfault items item hitem hplace)
  | .foreign _, h => by
    rw [places, List.mem_singleton] at h
    subst h
    exact .foreign

theorem item_holds_of_mem_places (hfault : place.fault? = some fault) : ∀ items : List Node,
    ∀ item ∈ items, place ∈ item.places idConstant → item.Holds place
  | [], _, hitem, _ => absurd hitem List.not_mem_nil
  | first :: rest, item, hitem, hplace => by
    rcases List.mem_cons.mp hitem with heq | hitem
    · rw [heq] at hplace ⊢
      exact holds_of_mem_places hfault first hplace
    · exact item_holds_of_mem_places hfault rest item hitem hplace

theorem member_holds_of_mem_places (hfault : place.fault? = some fault) :
    ∀ entries : List (String × Node), ∀ entry ∈ entries,
      place ∈ entry.2.places idConstant → entry.2.Holds place
  | [], _, hentry, _ => absurd hentry List.not_mem_nil
  | (key, value) :: rest, entry, hentry, hplace => by
    rcases List.mem_cons.mp hentry with heq | hentry
    · rw [heq] at hplace ⊢
      exact holds_of_mem_places hfault value hplace
    · exact member_holds_of_mem_places hfault rest entry hentry hplace

end

/-- The places that cannot be written are what a tree holds. -/
theorem mem_places_iff {node : Node} (hfault : place.fault? = some fault) :
    place ∈ node.places idConstant ↔ node.Holds place :=
  ⟨holds_of_mem_places hfault node, fun h => h.mem_places idConstant⟩

/-- Some place cannot be written if a text or a key has a control character, or some value is no
node. -/
theorem exists_fault?_iff {node : Node} :
    (∃ place ∈ node.places idConstant, place.fault? ≠ none) ↔
      (∃ text, node.Holds (.string text) ∧ ¬ Metadata.Clean text) ∨
        ∃ value, node.Holds (.foreign value) := by
  constructor
  · rintro ⟨place, hmem, hne⟩
    obtain ⟨fault, hfault⟩ := Option.ne_none_iff_exists'.mp hne
    have hholds := (mem_places_iff hfault).mp hmem
    cases place with
    | fixed text => cases hfault
    | hole expression => cases hfault
    | string text => exact .inl ⟨text, hholds, fun h => hne (textFault?_eq_none_iff.mpr h)⟩
    | foreign value => exact .inr ⟨value, hholds⟩
  · rintro (⟨text, hholds, hclean⟩ | ⟨value, hholds⟩)
    · exact ⟨.string text, hholds.mem_places idConstant,
        fun h => hclean (textFault?_eq_none_iff.mp h)⟩
    · exact ⟨.foreign value, hholds.mem_places idConstant, nofun⟩

mutual

/-- Expressions stop nothing. -/
theorem fault?_redirect (target : Option String → Option String) (expression : String → String) :
    ∀ node : Node, (node.redirect target expression).fault? = node.fault?
  | .bool _ | .str _ | .foreign _ => by rw [redirect]
  | .ref _ | .computed _ => by rw [redirect, fault?, fault?]
  | .object entries => by
    rw [redirect, fault?, fault?, membersFault?_redirect target expression entries]
  | .array items => by
    rw [redirect, fault?, fault?, itemsFault?_redirect target expression items]

theorem itemsFault?_redirect (target : Option String → Option String)
    (expression : String → String) :
    ∀ items : List Node, itemsFault? (redirectItems target expression items) = itemsFault? items
  | [] => by rw [redirectItems]
  | item :: items => by
    rw [redirectItems, itemsFault?, itemsFault?, fault?_redirect target expression item,
      itemsFault?_redirect target expression items]

theorem membersFault?_redirect (target : Option String → Option String)
    (expression : String → String) : ∀ entries : List (String × Node),
      membersFault? (redirectMembers target expression entries) = membersFault? entries
  | [] => by rw [redirectMembers]
  | (_, value) :: entries => by
    rw [redirectMembers, membersFault?, membersFault?, fault?_redirect target expression value,
      membersFault?_redirect target expression entries]

end

end Node

/-! ### Into a builder -/

namespace Builder

/-- What a run stands for is read off what it spells. -/
theorem runText_eq_flatMap_spelled (valueOf : String → String) (run : List Piece) :
    runText valueOf run =
      (Piece.spelled run).flatMap (Sum.elim (fun c => [c]) fun e => (valueOf e).toList) := by
  induction run with
  | nil => rfl
  | cons piece run ih =>
    rw [runText_cons, ih, Piece.spelled_cons, List.flatMap_append]
    cases piece with
    | literal text => simp [Piece.atoms, Piece.value, List.flatMap_map]
    | computed expression => simp [Piece.atoms, Piece.value]

/-- The text of a builder gets longer by the text of what is pushed. -/
theorem evaluate_push (builder : Builder) (run : List Piece) (valueOf : String → String) :
    (builder.push run).evaluate valueOf =
      builder.evaluate valueOf ++ String.join (run.map (Piece.value valueOf)) := by
  have htext (builder : Builder) :
      (builder.evaluate valueOf).toList = runText valueOf builder.pieces := by
    rw [evaluate, String.toList_join, List.flatMap_map]
    rfl
  rw [← String.toList_inj, String.toList_append, htext, htext, runText_eq_flatMap_spelled,
    spelled_push, List.flatMap_append, ← runText_eq_flatMap_spelled, ← runText_eq_flatMap_spelled,
    String.toList_join, List.flatMap_map]
  rfl

variable {node : Node} {idConstant : String}

/-- Writing a tree whose places can be written adds their rendering. -/
theorem step_node_of_none (builder : Builder)
    (h : ∀ place ∈ node.places idConstant, place.fault? = none) :
    builder.step (.node node idConstant) =
      (.ok .nothing, builder.push ((node.places idConstant).flatMap Place.rendering)) := by
  rw [step, perform_of_pushes (pushes_write node), Node.written_eq, Written.ofPlaces_of_none h]

/-- Writing a tree stops at its first place that cannot be written. -/
theorem step_node_of_some (builder : Builder) {before after : List Place} {place : Place}
    {fault : Fault} (hplaces : node.places idConstant = before ++ place :: after)
    (hbefore : ∀ earlier ∈ before, earlier.fault? = none) (h : place.fault? = some fault) :
    builder.step (.node node idConstant) =
      (.error fault, builder.push (before.flatMap Place.rendering ++ place.opening)) := by
  rw [step, perform_of_pushes (pushes_write node), Node.written_eq, hplaces,
    Written.ofPlaces_of_some hbefore h]

/-- The answer to a tree is its first fault, if it has one. -/
theorem step_node_fst (builder : Builder) :
    (builder.step (.node node idConstant)).1 =
      match node.fault? with
      | none => .ok .nothing
      | some fault => .error fault := by
  cases hfault : node.fault? <;>
    rw [step, perform_of_pushes (pushes_write node), Node.fault_written, hfault]

/-- All places can be written, or there is a first one that cannot. -/
theorem places_cases (places : List Place) :
    (∀ place ∈ places, place.fault? = none) ∨ ∃ before place after fault,
      places = before ++ place :: after ∧ (∀ earlier ∈ before, earlier.fault? = none) ∧
        place.fault? = some fault := by
  cases h : places.findSome? Place.fault? with
  | none => exact .inl (List.findSome?_eq_none_iff.mp h)
  | some fault =>
    obtain ⟨before, place, after, rfl, hfault, hbefore⟩ := List.findSome?_eq_some_iff.mp h
    exact .inr ⟨before, place, after, fault, rfl, hbefore, hfault⟩

theorem step_node_eq_ok_iff {builder left : Builder} :
    builder.step (.node node idConstant) = (.ok .nothing, left) ↔
      (∀ place ∈ node.places idConstant, place.fault? = none) ∧
        left = builder.push ((node.places idConstant).flatMap Place.rendering) := by
  constructor
  · intro h
    rcases places_cases (node.places idConstant) with
      hnone | ⟨before, place, after, fault, hplaces, hbefore, hfault⟩
    · rw [step_node_of_none builder hnone] at h
      cases h
      exact ⟨hnone, rfl⟩
    · rw [step_node_of_some builder hplaces hbefore hfault] at h
      cases h
  · rintro ⟨hnone, rfl⟩
    exact step_node_of_none builder hnone

theorem step_node_eq_error_iff {builder left : Builder} {fault : Fault} :
    builder.step (.node node idConstant) = (.error fault, left) ↔
      ∃ before place after, node.places idConstant = before ++ place :: after ∧
        (∀ earlier ∈ before, earlier.fault? = none) ∧ place.fault? = some fault ∧
        left = builder.push (before.flatMap Place.rendering ++ place.opening) := by
  constructor
  · intro h
    rcases places_cases (node.places idConstant) with
      hnone | ⟨before, place, after, found, hplaces, hbefore, hfound⟩
    · rw [step_node_of_none builder hnone] at h
      cases h
    · rw [step_node_of_some builder hplaces hbefore hfound] at h
      cases h
      exact ⟨before, place, after, hplaces, hbefore, hfound, rfl⟩
  · rintro ⟨before, place, after, hplaces, hbefore, hfault, rfl⟩
    exact step_node_of_some builder hplaces hbefore hfault

/-- Writing a tree fails exactly if some place cannot be written. -/
theorem exists_step_node_eq_error_iff (builder : Builder) :
    (∃ fault, (builder.step (.node node idConstant)).1 = .error fault) ↔
      ∃ place ∈ node.places idConstant, place.fault? ≠ none := by
  rcases places_cases (node.places idConstant) with
    hnone | ⟨before, place, after, fault, hplaces, hbefore, hfault⟩
  · rw [step_node_of_none builder hnone]
    refine iff_of_false ?_ ?_
    · rintro ⟨fault, ⟨⟩⟩
    · rintro ⟨place, hmem, hne⟩
      exact hne (hnone place hmem)
  · rw [step_node_of_some builder hplaces hbefore hfault]
    refine iff_of_true ⟨fault, rfl⟩ ⟨place, by simp [hplaces], ?_⟩
    rw [hfault]
    exact Option.some_ne_none fault

/-- **A serialization fails for one reason and leaves what was before it.**

Serializing into a builder, whatever that holds, fails exactly if the tree holds a text or a key
with a control character, or a value that is no node. The fault is that of the first such place in
the order of the document, and what was pushed by then is the rendering of all places before it,
with the opening quote of the place itself if that is a text or a key. If there is no such place,
all places are rendered. What is pushed comes behind the text that the builder stood for. Other
expressions, or another id constant, make no difference to the answer. -/
theorem step_node_exact (builder : Builder) (node : Node) (idConstant : String) :
    ((∃ fault, (builder.step (.node node idConstant)).1 = .error fault) ↔
      (∃ text, node.Holds (.string text) ∧ ¬ Clean text) ∨ ∃ value, node.Holds (.foreign value)) ∧
    (∀ fault left, builder.step (.node node idConstant) = (.error fault, left) ↔
      ∃ before place after, node.places idConstant = before ++ place :: after ∧
        (∀ earlier ∈ before, earlier.fault? = none) ∧ place.fault? = some fault ∧
        left = builder.push (before.flatMap Place.rendering ++ place.opening)) ∧
    (∀ left, builder.step (.node node idConstant) = (.ok .nothing, left) ↔
      (∀ place ∈ node.places idConstant, place.fault? = none) ∧
        left = builder.push ((node.places idConstant).flatMap Place.rendering)) ∧
    (∀ run valueOf, (builder.push run).evaluate valueOf =
      builder.evaluate valueOf ++ String.join (run.map (Piece.value valueOf))) ∧
    ∀ target expression other,
      (builder.step (.node (node.redirect target expression) other)).1 =
        (builder.step (.node node idConstant)).1 := by
  refine ⟨?_, fun fault left => step_node_eq_error_iff, fun left => step_node_eq_ok_iff,
    evaluate_push builder, fun target expression other => ?_⟩
  · rw [exists_step_node_eq_error_iff, Node.exists_fault?_iff]
  · rw [step_node_fst, step_node_fst, Node.fault?_redirect]

-- Of two places that cannot be written the first one counts, and its quote stays open.
example : step {} (.node (.object [("a\x07", .foreign .null)]) "ID") =
    (.error (.controlCharacter '\x07' "a\x07"), { pending := ["\x7b", "\""] }) := rfl

end Builder

end Introspection.Metadata
