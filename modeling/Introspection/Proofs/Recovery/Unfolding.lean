import Introspection.Proofs.Api.Tree
import Introspection.Proofs.Lists
import Introspection.Proofs.Recovery.Description
import Mathlib.Logic.Relation

/-!
# Unfolding a graph of fragments

Fragments refer to each other by ids, so an arena is a graph: with sharing, with references to
nothing, with cycles. Unfolding it from a module always comes to an end, succeeds exactly if
nothing is wrong anywhere below that module, and then gives the one tree that the graph is
read as.

What is wrong is said without the traversal. A module is `Readable` by what stands in its own
fragment and in those of its members; the rest is that no module below the root is below itself.
A module below two others is no cycle and is unfolded twice.

## Main definitions

* `Recovery.Submodule`, `Recovery.Readable` — the edges of the graph, and what its nodes need
* `Recovery.Unfolding` — the tree that a graph is read as
* `Recovery.moduleWithin` — unfolding with a limited depth of calls

## Main results

* `Recovery.unfoldModule_eq_ok_iff` — what one call succeeds with
* `Recovery.moduleWithin_eq` — a depth beyond the size of the graph is never used up
* `Recovery.unfoldModule_of_module` — unfolding from a module that is on no path yet
-/

namespace Introspection.Recovery

open Introspection.Api (Function Member Module sizeOf_lt_of_mem_modules)
open Relation (ReflTransGen TransGen)

variable {arena : Arena} {path : List String}

/-! ### The graph -/

/-- Whether an id is that of an element of a type. -/
def Arena.isOf (arena : Arena) (type id : String) : Bool :=
  (arena.get? id).any (hasType type)

/-- The fragment of an id describes something. -/
def Arena.At (arena : Arena) (describes : Fragment → Prop) (id : String) : Prop :=
  ∃ fragment, arena.get? id = some fragment ∧ describes fragment

/-- One module has another one among its members. -/
def Submodule (arena : Arena) (above below : String) : Prop :=
  arena.isOf "module" above = true ∧ arena.isOf "module" below = true ∧
    ∃ ids, arena.At (HasMembers · ids) above ∧ below ∈ ids

/-- An id is that of a module, of a class with a name, or of a function with a name and a
signature. -/
inductive IsMember (arena : Arena) (id : String) : Prop
  | module (typed : arena.isOf "module" id = true)
  | class (typed : arena.isOf "class" id = true) {value : Api.Class}
      (described : arena.At (DescribesClass · value) id)
  | function (typed : arena.isOf "function" id = true) {value : Function}
      (described : arena.At (DescribesFunction · value) id)

/-- Nothing is wrong with a module itself: it has a name and a list of members. What is below its
submodules does not count. -/
structure Readable (arena : Arena) (id : String) : Prop where
  named : ∃ name, arena.At (HasText · "name" name) id
  listed : ∃ ids, arena.At (HasMembers · ids) id ∧ ∀ member ∈ ids, IsMember arena member

/-- The module tree that a graph unfolds to from an id. Each kind of member stands in the order in
which the members are listed. -/
inductive Unfolding (arena : Arena) : String → Module → Prop
  | intro {id : String} {fragment : Fragment} {ids : List String} {module : Module}
      (found : arena.get? id = some fragment) (named : HasText fragment "name" module.name)
      (listed : HasMembers fragment ids)
      (modules : List.Forall₂ (Unfolding arena) (ids.filter (arena.isOf "module")) module.modules)
      (classes : List.Forall₂ (fun id value => arena.At (DescribesClass · value) id)
        (ids.filter (arena.isOf "class")) module.classes)
      (functions : List.Forall₂ (fun id value => arena.At (DescribesFunction · value) id)
        (ids.filter (arena.isOf "function")) module.functions) :
      Unfolding arena id module

theorem Arena.isOf_iff {type id : String} {fragment : Fragment}
    (found : arena.get? id = some fragment) :
    arena.isOf type id = true ↔ HasText fragment "type" type := by
  rw [Arena.isOf, found, Option.any_some, hasType_iff]

/-- An element has one type. -/
theorem Arena.isOf_eq_false {type other id : String} {fragment : Fragment}
    (found : arena.get? id = some fragment) (typed : HasText fragment "type" type)
    (hne : type ≠ other) : arena.isOf other id = false := by
  rw [Arena.isOf, found, Option.any_some, Bool.eq_false_iff]
  exact not_hasType typed hne

/-! ### What unfolding succeeds with

One lemma for each of the three functions that unfold a graph. Everything below goes through
them. -/

/-- What the member of an id is unfolded to. -/
inductive UnfoldsTo (arena : Arena) (path : List String) (id : String) : Member → Prop
  | module {element : Fragment} {module : Module} (found : arena.get? id = some element)
      (typed : HasText element "type" "module") (fresh : id ∉ path)
      (unfolded : unfoldModule arena (id :: path) element = .ok module) :
      UnfoldsTo arena path id (.module module)
  | class {element : Fragment} {value : Api.Class} (found : arena.get? id = some element)
      (typed : HasText element "type" "class") (described : DescribesClass element value) :
      UnfoldsTo arena path id (.class value)
  | function {element : Fragment} {value : Function} (found : arena.get? id = some element)
      (typed : HasText element "type" "function") (described : DescribesFunction element value) :
      UnfoldsTo arena path id (.function value)

/-- Every way for a member to be unfolded is one of the three. -/
theorem unfoldsTo_of_unfoldMember {fragment : Fragment} {id : String} {member : Member}
    (h : unfoldMember arena path fragment id = .ok member) : UnfoldsTo arena path id member := by
  rw [unfoldMember] at h
  split at h
  · cases h
  · next element found =>
    split at h
    · next typed =>
      split at h
      · cases h
      · next fresh =>
        split at h
        · cases h
        · next module unfolded =>
          cases h
          exact .module found (hasType_iff.mp typed) (by simpa using fresh) unfolded
    · split at h
      · next typed =>
        split at h
        · cases h
        · next value described =>
          cases h
          exact .class found (hasType_iff.mp typed) (classOf_eq_ok_iff.mp described)
      · split at h
        · next typed =>
          split at h
          · cases h
          · next value described =>
            cases h
            exact .function found (hasType_iff.mp typed) (functionOf_eq_ok_iff.mp described)
        · cases h

theorem UnfoldsTo.unfoldMember {id : String} {member : Member} (h : UnfoldsTo arena path id member)
    (fragment : Fragment) : unfoldMember arena path fragment id = .ok member := by
  rw [Recovery.unfoldMember]
  cases h with
  | module found typed fresh unfolded =>
    split
    · next h => rw [found] at h; cases h
    · next element' h =>
      rw [found] at h
      cases h
      rw [if_pos (hasType_iff.mpr typed)]
      split
      · next h => exact absurd (by simpa using h) fresh
      · rw [unfolded]
  | «class» found typed described =>
    split
    · next h => rw [found] at h; cases h
    · next element' h =>
      rw [found] at h
      cases h
      rw [if_neg (not_hasType typed (by decide)), if_pos (hasType_iff.mpr typed),
        classOf_eq_ok_iff.mpr described]
  | function found typed described =>
    split
    · next h => rw [found] at h; cases h
    · next element' h =>
      rw [found] at h
      cases h
      rw [if_neg (not_hasType typed (by decide)), if_neg (not_hasType typed (by decide)),
        if_pos (hasType_iff.mpr typed), functionOf_eq_ok_iff.mpr described]

theorem unfoldMember_eq_ok_iff {fragment : Fragment} {id : String} {member : Member} :
    unfoldMember arena path fragment id = .ok member ↔ UnfoldsTo arena path id member :=
  ⟨unfoldsTo_of_unfoldMember, fun h => h.unfoldMember fragment⟩

theorem unfoldMembers_eq_ok_iff {fragment : Fragment} {ids : List String} {members : List Member} :
    unfoldMembers arena path fragment ids = .ok members ↔
      List.Forall₂ (UnfoldsTo arena path) ids members := by
  induction ids generalizing members with
  | nil => simp [unfoldMembers, eq_comm]
  | cons id ids ih =>
    rw [unfoldMembers, List.forall₂_cons_left_iff]
    constructor
    · intro h
      split at h
      · cases h
      · next member hmember =>
        split at h
        · cases h
        · next rest hrest =>
          cases h
          exact ⟨member, rest, unfoldMember_eq_ok_iff.mp hmember, ih.mp hrest, rfl⟩
    · rintro ⟨member, rest, hmember, hrest, rfl⟩
      rw [unfoldMember_eq_ok_iff.mpr hmember, ih.mpr hrest]

theorem unfoldModule_eq_ok_iff {fragment : Fragment} {module : Module} :
    unfoldModule arena path fragment = .ok module ↔
      ∃ name ids members, HasText fragment "name" name ∧ HasMembers fragment ids ∧
        List.Forall₂ (UnfoldsTo arena path) ids members ∧
        module = Module.ofMembers name members := by
  rw [unfoldModule]
  constructor
  · intro h
    split at h
    · cases h
    · next ids hids =>
      split at h
      · cases h
      · next members hmembers =>
        split at h
        · cases h
        · next name hname =>
          cases h
          exact ⟨name, ids, members, requireText_eq_ok_iff.mp hname, memberIds_eq_ok_iff.mp hids,
            unfoldMembers_eq_ok_iff.mp hmembers, rfl⟩
  · rintro ⟨name, ids, members, hname, hids, hmembers, rfl⟩
    rw [memberIds_eq_ok_iff.mpr hids]
    dsimp only
    rw [unfoldMembers_eq_ok_iff.mpr hmembers, requireText_eq_ok_iff.mpr hname]

/-! ### Members by kind -/

/-- The submodules among what some ids unfold to. -/
theorem forall₂_modules {ids : List String} {members : List Member}
    (unfolded : List.Forall₂ (UnfoldsTo arena path) ids members) :
    List.Forall₂ (fun id module => ∃ fragment, arena.get? id = some fragment ∧ id ∉ path ∧
        unfoldModule arena (id :: path) fragment = .ok module)
      (ids.filter (arena.isOf "module")) (members.filterMap Member.asModule?) := by
  refine forall₂_filterMap unfolded fun id member h => ?_
  cases h with
  | module found typed fresh unfolded =>
    exact .inl ⟨(Arena.isOf_iff found).mpr typed, _, rfl, _, found, fresh, unfolded⟩
  | «class» found typed described =>
    exact .inr ⟨Arena.isOf_eq_false found typed (by decide), rfl⟩
  | function found typed described =>
    exact .inr ⟨Arena.isOf_eq_false found typed (by decide), rfl⟩

theorem forall₂_classes {ids : List String} {members : List Member}
    (unfolded : List.Forall₂ (UnfoldsTo arena path) ids members) :
    List.Forall₂ (fun id value => arena.At (DescribesClass · value) id)
      (ids.filter (arena.isOf "class")) (members.filterMap Member.asClass?) := by
  refine forall₂_filterMap unfolded fun id member h => ?_
  cases h with
  | module found typed fresh unfolded =>
    exact .inr ⟨Arena.isOf_eq_false found typed (by decide), rfl⟩
  | «class» found typed described =>
    exact .inl ⟨(Arena.isOf_iff found).mpr typed, _, rfl, _, found, described⟩
  | function found typed described =>
    exact .inr ⟨Arena.isOf_eq_false found typed (by decide), rfl⟩

theorem forall₂_functions {ids : List String} {members : List Member}
    (unfolded : List.Forall₂ (UnfoldsTo arena path) ids members) :
    List.Forall₂ (fun id value => arena.At (DescribesFunction · value) id)
      (ids.filter (arena.isOf "function")) (members.filterMap Member.asFunction?) := by
  refine forall₂_filterMap unfolded fun id member h => ?_
  cases h with
  | module found typed fresh unfolded =>
    exact .inr ⟨Arena.isOf_eq_false found typed (by decide), rfl⟩
  | «class» found typed described =>
    exact .inr ⟨Arena.isOf_eq_false found typed (by decide), rfl⟩
  | function found typed described =>
    exact .inl ⟨(Arena.isOf_iff found).mpr typed, _, rfl, _, found, described⟩

/-! ### What is unfolded is the unfolding -/

/-- The tree that is unfolded from a module is one that the graph is read as. The induction is on
the ids that are not on the path, which get fewer with every submodule. -/
theorem unfolding_of_unfoldModule {id : String} {fragment : Fragment} {module : Module}
    (found : arena.get? id = some fragment)
    (unfolded : unfoldModule arena path fragment = .ok module) : Unfolding arena id module := by
  induction hsize : remaining arena path using Nat.strongRecOn
    generalizing path id fragment module with
  | ind size ih =>
    obtain ⟨name, ids, members, named, listed, hmembers, rfl⟩ := unfoldModule_eq_ok_iff.mp unfolded
    refine .intro found named listed ?_ (forall₂_classes hmembers) (forall₂_functions hmembers)
    refine (forall₂_modules hmembers).imp ?_
    rintro below module ⟨fragment', found', fresh, unfolded'⟩
    have hless : remaining arena (below :: path) < size :=
      hsize ▸ remaining_cons_lt found' (by simpa using fresh)
    exact ih _ hless found' unfolded' rfl

theorem DescribesClass.unique {fragment : Fragment} {value other : Api.Class}
    (h : DescribesClass fragment value) (h' : DescribesClass fragment other) : value = other :=
  Except.ok.inj ((classOf_eq_ok_iff.mpr h).symm.trans (classOf_eq_ok_iff.mpr h'))

theorem DescribesFunction.unique {fragment : Fragment} {value other : Function}
    (h : DescribesFunction fragment value) (h' : DescribesFunction fragment other) :
    value = other :=
  Except.ok.inj ((functionOf_eq_ok_iff.mpr h).symm.trans (functionOf_eq_ok_iff.mpr h'))

/-- What the fragment of an id describes is determined, if it is for every fragment. -/
theorem Arena.At.unique {α : Type} {Describes : Fragment → α → Prop} {id : String} {value other : α}
    (h : arena.At (Describes · value) id) (h' : arena.At (Describes · other) id)
    (unique : ∀ {fragment value other}, Describes fragment value → Describes fragment other →
      value = other) : value = other := by
  obtain ⟨fragment, found, described⟩ := h
  obtain ⟨fragment', found', described'⟩ := h'
  rw [found] at found'
  cases found'
  exact unique described described'

/-- A graph is read as one tree at most. -/
theorem Unfolding.unique {id : String} {module other : Module} (h : Unfolding arena id module)
    (h' : Unfolding arena id other) : module = other := by
  cases h with
  | intro found named listed modules classes functions =>
    cases h' with
    | intro found' named' listed' modules' classes' functions' =>
      rw [found] at found'
      cases found'
      obtain rfl := listed.unique listed'
      have hmodules : module.modules = other.modules :=
        forall₂_unique modules modules' fun _ submodule hmem _ h h' => h.unique h'
      have hclasses : module.classes = other.classes :=
        forall₂_unique classes classes' fun _ _ _ _ h h' => h.unique h' DescribesClass.unique
      have hfunctions : module.functions = other.functions :=
        forall₂_unique functions functions' fun _ _ _ _ h h' => h.unique h' DescribesFunction.unique
      have hname : module.name = other.name := named.unique named'
      cases module
      cases other
      simp_all only
termination_by sizeOf module
decreasing_by exact sizeOf_lt_of_mem_modules hmem

/-! ### What success says about the graph -/

/-- The module of an id unfolds, its id being the last one of the path. -/
def Unfolds (arena : Arena) (path : List String) (id : String) : Prop :=
  id ∈ path ∧ ∃ fragment module, arena.get? id = some fragment ∧
    HasText fragment "type" "module" ∧ unfoldModule arena path fragment = .ok module

theorem UnfoldsTo.isMember {id : String} {member : Member} (h : UnfoldsTo arena path id member) :
    IsMember arena id := by
  cases h with
  | module found typed fresh unfolded => exact .module ((Arena.isOf_iff found).mpr typed)
  | «class» found typed described =>
    exact .class ((Arena.isOf_iff found).mpr typed) ⟨_, found, described⟩
  | function found typed described =>
    exact .function ((Arena.isOf_iff found).mpr typed) ⟨_, found, described⟩

theorem Unfolds.readable {id : String} (h : Unfolds arena path id) : Readable arena id := by
  obtain ⟨-, fragment, module, found, -, unfolded⟩ := h
  obtain ⟨name, ids, members, named, listed, hmembers, -⟩ := unfoldModule_eq_ok_iff.mp unfolded
  refine ⟨⟨name, fragment, found, named⟩, ids, ⟨fragment, found, listed⟩, fun member hmem => ?_⟩
  obtain ⟨_, -, h⟩ := exists_of_forall₂ hmembers hmem
  exact h.isMember

/-- One step down: a submodule of what unfolds is not on the path, and unfolds itself. -/
theorem Unfolds.submodule {above below : String} (h : Unfolds arena path above)
    (edge : Submodule arena above below) : below ∉ path ∧ Unfolds arena (below :: path) below := by
  obtain ⟨-, fragment, module, found, -, unfolded⟩ := h
  obtain ⟨name, ids, members, -, listed, hmembers, -⟩ := unfoldModule_eq_ok_iff.mp unfolded
  obtain ⟨-, typed, ids', ⟨fragment', found', listed'⟩, hbelow⟩ := edge
  rw [found] at found'
  cases found'
  obtain rfl := listed.unique listed'
  have hmodule : below ∈ ids.filter (arena.isOf "module") := List.mem_filter.mpr ⟨hbelow, typed⟩
  obtain ⟨module', -, fragment', found', fresh, unfolded'⟩ :=
    exists_of_forall₂ (forall₂_modules hmembers) hmodule
  exact ⟨fresh, List.mem_cons_self, fragment', module', found', (Arena.isOf_iff found').mp typed,
    unfolded'⟩

/-- Any number of steps down: what is below a module that unfolds does so too, on a path that
begins with the one to that module. -/
theorem Unfolds.reachable {id below : String} (h : Unfolds arena path id)
    (reach : ReflTransGen (Submodule arena) id below) :
    ∃ longer, path ⊆ longer ∧ Unfolds arena longer below := by
  induction reach with
  | refl => exact ⟨path, List.Subset.refl path, h⟩
  | @tail middle last _ edge ih =>
    obtain ⟨longer, hsub, hmiddle⟩ := ih
    exact ⟨last :: longer, List.subset_cons_of_subset _ hsub, (hmiddle.submodule edge).2⟩

/-- What unfolds is not below itself. -/
theorem Unfolds.acyclic {id : String} (h : Unfolds arena path id) :
    ¬ TransGen (Submodule arena) id id := by
  intro cycle
  obtain ⟨middle, reach, edge⟩ := TransGen.tail'_iff.mp cycle
  obtain ⟨longer, hsub, hmiddle⟩ := h.reachable reach
  exact (hmiddle.submodule edge).1 (hsub h.1)

/-! ### What success follows from -/

/-- A module unfolds if everything below it is readable and nothing below it is below itself. All
that is kept of the path is that the module is below each of its ids, which is why no submodule can
be on it. -/
theorem exists_unfoldModule {id : String} {fragment : Fragment}
    (found : arena.get? id = some fragment) (typed : arena.isOf "module" id = true)
    (above : ∀ other ∈ path, ReflTransGen (Submodule arena) other id)
    (readable : ∀ below, ReflTransGen (Submodule arena) id below → Readable arena below)
    (acyclic : ∀ below, ReflTransGen (Submodule arena) id below →
      ¬ TransGen (Submodule arena) below below) :
    ∃ module, unfoldModule arena path fragment = .ok module := by
  induction hsize : remaining arena path using Nat.strongRecOn generalizing path id fragment with
  | ind size ih =>
    obtain ⟨⟨name, fragment', found', named⟩, ids, ⟨fragment'', found'', listed⟩, members⟩ :=
      readable id .refl
    rw [found] at found' found''
    cases found'
    cases found''
    have unfolded : ∀ below ∈ ids, ∃ member, UnfoldsTo arena path below member := by
      intro below hbelow
      cases members below hbelow with
      | «class» typed described =>
        obtain ⟨element, found, described⟩ := described
        exact ⟨_, .class found ((Arena.isOf_iff found).mp typed) described⟩
      | function typed described =>
        obtain ⟨element, found, described⟩ := described
        exact ⟨_, .function found ((Arena.isOf_iff found).mp typed) described⟩
      | module typed' =>
        have edge : Submodule arena id below :=
          ⟨typed, typed', ids, ⟨fragment, found, listed⟩, hbelow⟩
        have fresh : below ∉ path := fun hmem =>
          acyclic below (.single edge) (.tail' (above below hmem) edge)
        obtain ⟨element, found', typed''⟩ := (Option.any_eq_true _ _).mp typed'
        have hless : remaining arena (below :: path) < size :=
          hsize ▸ remaining_cons_lt found' (by simpa using fresh)
        have above' : ∀ other ∈ below :: path, ReflTransGen (Submodule arena) other below := by
          intro other hother
          rcases List.mem_cons.mp hother with rfl | hother
          · exact .refl
          · exact (above other hother).tail edge
        obtain ⟨module, unfolded⟩ := ih _ hless found' typed' above'
          (fun last reach => readable last (reach.head edge))
          (fun last reach => acyclic last (reach.head edge)) rfl
        exact ⟨_, .module found' (hasType_iff.mp typed'') fresh unfolded⟩
    obtain ⟨members, hmembers⟩ := exists_forall₂ unfolded
    exact ⟨_, unfoldModule_eq_ok_iff.mpr ⟨name, ids, members, named, listed, hmembers, rfl⟩⟩

/-! ### Unfolding comes to an end

The functions that unfold a graph are recursive on the ids that are not on the path, so that they
come to an end is part of their definition. Here are the same calls with nothing but a limit on
their depth, and no reason to end before it. A limit that is used up leaves no result at all. -/

/-- The member of an id of a module, a submodule being unfolded by `visit`. -/
def memberBy (arena : Arena) (visit : String → Fragment → Option (Except Fault Module))
    (fragment : Fragment) (id : String) : Option (Except Fault Member) :=
  match arena.get? id with
  | none => some (.error (.unknownMember (fieldOrNull fragment "name") id))
  | some member =>
    if hasType "module" member then (visit id member).map (Except.map .module)
    else if hasType "class" member then some ((classOf member).map .class)
    else if hasType "function" member then some ((functionOf member).map .function)
    else some (.error (.unknownType (fieldOrNull member "type") id))

/-- The members of some ids of a module, up to the first fault. -/
def membersBy (arena : Arena) (visit : String → Fragment → Option (Except Fault Module))
    (fragment : Fragment) : List String → Option (Except Fault (List Member))
  | [] => some (.ok [])
  | id :: rest =>
    match memberBy arena visit fragment id with
    | none => none
    | some (.error fault) => some (.error fault)
    | some (.ok member) => (membersBy arena visit fragment rest).map (Except.map (member :: ·))

/-- The tree below the module of an id, within a depth of calls. -/
def moduleWithin (arena : Arena) : Nat → List String → String → Fragment →
    Option (Except Fault Module)
  | 0, _, _, _ => none
  | depth + 1, ancestors, id, fragment =>
    if ancestors.contains id then some (.error (.containsItself id))
    else
      match memberIds fragment with
      | .error fault => some (.error fault)
      | .ok ids =>
        match membersBy arena (moduleWithin arena depth (id :: ancestors)) fragment ids with
        | none => none
        | some (.error fault) => some (.error fault)
        | some (.ok members) =>
          some ((requireText fragment "name").map fun name => Module.ofMembers name members)

/-- A visit of a submodule does what unfolding does: it refuses what is on the path, and goes down
to what is not. -/
def Visits (arena : Arena) (path : List String)
    (visit : String → Fragment → Option (Except Fault Module)) : Prop :=
  ∀ id fragment, arena.get? id = some fragment → visit id fragment =
    some (if path.contains id then .error (.containsItself id)
      else unfoldModule arena (id :: path) fragment)

theorem Visits.memberBy {visit : String → Fragment → Option (Except Fault Module)}
    (visits : Visits arena path visit) (fragment : Fragment) (id : String) :
    memberBy arena visit fragment id = some (unfoldMember arena path fragment id) := by
  rw [unfoldMember]
  split
  · next found => rw [Recovery.memberBy, found]
  · next member found =>
    rw [Recovery.memberBy, found]
    dsimp only
    split
    · rw [visits id member found]
      cases path.contains id with
      | true => rfl
      | false => cases unfoldModule arena (id :: path) member <;> rfl
    · split
      · cases classOf member <;> rfl
      · split
        · cases functionOf member <;> rfl
        · rfl

theorem Visits.membersBy {visit : String → Fragment → Option (Except Fault Module)}
    (visits : Visits arena path visit) (fragment : Fragment) (ids : List String) :
    membersBy arena visit fragment ids = some (unfoldMembers arena path fragment ids) := by
  induction ids with
  | nil => rw [Recovery.membersBy, unfoldMembers]
  | cons id ids ih =>
    rw [Recovery.membersBy, unfoldMembers, visits.memberBy, ih]
    cases unfoldMember arena path fragment id with
    | error fault => rfl
    | ok member => cases unfoldMembers arena path fragment ids <;> rfl

/-- A limit above the number of ids that are not on the path is never used up. -/
theorem moduleWithin_eq {depth : Nat} {id : String} {fragment : Fragment}
    (enough : remaining arena path < depth) (found : arena.get? id = some fragment) :
    moduleWithin arena depth path id fragment =
      some (if path.contains id then .error (.containsItself id)
        else unfoldModule arena (id :: path) fragment) := by
  induction depth generalizing path id fragment with
  | zero => cases enough
  | succ depth ih =>
    rw [moduleWithin]
    split
    · rfl
    · next fresh =>
      have hless : remaining arena (id :: path) < depth :=
        Nat.lt_of_lt_of_le (remaining_cons_lt found (by simpa using fresh)) (by omega)
      have visits : Visits arena (id :: path) (moduleWithin arena depth (id :: path)) :=
        fun below element hbelow => ih hless hbelow
      rw [unfoldModule]
      cases memberIds fragment with
      | error fault => rfl
      | ok ids =>
        dsimp only
        rw [visits.membersBy]
        cases unfoldMembers arena (id :: path) fragment ids with
        | error fault => rfl
        | ok members => cases requireText fragment "name" <;> rfl

/-- What is found within a depth that is never used up is what unfolding gives. -/
theorem unfoldModule_of_moduleWithin {depth : Nat} {id : String} {fragment : Fragment}
    {result : Except Fault Module} (enough : arena.length < depth)
    (found : arena.get? id = some fragment)
    (h : moduleWithin arena depth [] id fragment = some result) :
    unfoldModule arena [id] fragment = result := by
  have hless : remaining arena [] < depth := Nat.lt_of_le_of_lt List.countP_le_length enough
  rw [moduleWithin_eq hless found] at h
  exact Option.some.inj h

/-! ### Unfolding from a module -/

/-- **Unfolding a graph is exact, and always comes to an end.**

From a module with nothing on the path, a depth of calls beyond the number of fragments is never
used up. What comes out is a tree if and only if every module below is readable and none of them is
below itself, and then it is the only tree that the graph is read as. -/
theorem unfoldModule_of_module {id : String} {fragment : Fragment}
    (found : arena.get? id = some fragment) (typed : HasText fragment "type" "module") :
    (∀ depth > arena.length, moduleWithin arena depth [] id fragment =
        some (unfoldModule arena [id] fragment)) ∧
      ((∃ module, unfoldModule arena [id] fragment = .ok module) ↔
        (∀ below, ReflTransGen (Submodule arena) id below → Readable arena below) ∧
          ∀ below, ReflTransGen (Submodule arena) id below →
            ¬ TransGen (Submodule arena) below below) ∧
      ∀ module, unfoldModule arena [id] fragment = .ok module →
        Unfolding arena id module ∧ ∀ other, Unfolding arena id other → other = module := by
  refine ⟨fun depth hdepth => ?_, ⟨?_, ?_⟩, fun module unfolded => ?_⟩
  · have enough : remaining arena [] < depth := Nat.lt_of_le_of_lt List.countP_le_length hdepth
    exact moduleWithin_eq enough found
  · rintro ⟨module, unfolded⟩
    have unfolds : Unfolds arena [id] id :=
      ⟨List.mem_singleton_self id, fragment, module, found, typed, unfolded⟩
    refine ⟨fun below reach => ?_, fun below reach => ?_⟩
    · obtain ⟨_, -, h⟩ := unfolds.reachable reach
      exact h.readable
    · obtain ⟨_, -, h⟩ := unfolds.reachable reach
      exact h.acyclic
  · rintro ⟨readable, acyclic⟩
    have above : ∀ other ∈ [id], ReflTransGen (Submodule arena) other id := by
      intro other hother
      rw [List.mem_singleton.mp hother]
    exact exists_unfoldModule found ((Arena.isOf_iff found).mpr typed) above readable acyclic
  · have unfolding : Unfolding arena id module := unfolding_of_unfoldModule found unfolded
    exact ⟨unfolding, fun other h => h.unique unfolding⟩

/-- A graph in which two modules share a third one. -/
def diamond : Arena :=
  [("t", [("type", .str "module"), ("name", .str "top"), ("members", .array [.str "l", .str "r"])]),
    ("l", [("type", .str "module"), ("name", .str "left"), ("members", .array [.str "s"])]),
    ("r", [("type", .str "module"), ("name", .str "right"),
      ("members", .array [.str "c", .str "s"])]),
    ("s", [("type", .str "module"), ("name", .str "shared")]),
    ("c", [("type", .str "class"), ("name", .str "Gadget")])]

/-- The tree of `diamond`, in which what is shared stands twice. -/
def diamondTree : Module where
  name := "top"
  modules := [
    { name := "left", modules := [{ name := "shared" }] },
    { name := "right", modules := [{ name := "shared" }], classes := [⟨"Gadget"⟩] }]

/-- The shared module of `diamond` is no cycle. -/
theorem unfoldModule_of_module_diamond : ∃ fragment, diamond.get? "t" = some fragment ∧
    HasText fragment "type" "module" ∧ unfoldModule diamond ["t"] fragment = .ok diamondTree ∧
    (∀ below, ReflTransGen (Submodule diamond) "t" below →
      ¬ TransGen (Submodule diamond) below below) ∧ Unfolding diamond "t" diamondTree := by
  refine ⟨_, rfl, rfl, ?_⟩
  have found : diamond.get? "t" = some _ := rfl
  obtain ⟨within, success, exact⟩ := unfoldModule_of_module found rfl
  have unfolded : some (unfoldModule diamond ["t"] _) = some (.ok diamondTree) :=
    (within 6 (by decide)).symm
  rw [Option.some.injEq] at unfolded
  exact ⟨unfolded, (success.mp ⟨_, unfolded⟩).2, (exact _ unfolded).1⟩

end Introspection.Recovery
