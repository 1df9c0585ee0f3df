import Introspection.Proofs.Emission.Description
import Mathlib.Data.List.Perm.Basic

/-!
# From declarations to the recovered tree

Declared elements are emitted, the build turns their fragments into texts, the texts are found in
the extension in some order, and a tree is recovered from them. It is the tree that the declarations
stand for, whatever the ids are, as long as they differ, and whatever the order is.

The arena of the recovered fragments is the graph of the declarations with ids in the place of
identifiers. Each fact about unfolding is therefore one about declarations, carried over along the
ids, and the proof is a list of such facts: what is found, what is below what, what a module needs.

## Main definitions

* `Linked` — a build in which the ids of declared elements differ
* `linkedArena` — the arena of declared elements

## Main results

* `Linked.exists_unfolding` — every declared module unfolds
* `Linked.declaredTree_of_unfolding` — an unfolding of the arena is the declared tree
* `Linked.exists_resolve` — fragments of declared elements resolve to the declared tree
* `recover_builtTexts` — what is declared is what is recovered
-/

namespace Introspection

open Introspection.Api (Module)
open Introspection.Emission
open Introspection.Metadata (Plain defaultIdConstant)
open Introspection.Recovery (Arena HasMembers HasText IsMember Readable Submodule Unfolding arenaOf
  hasType hasType_iff)
open Relation (ReflTransGen TransGen)

/-! ### Fragments in an arena -/

theorem hasText_commonEntries (build : Build) (declaration : Declaration) (type : String)
    (rest : Recovery.Fragment) :
    HasText (commonEntries build declaration type ++ rest) "type" type ∧
      HasText (commonEntries build declaration type ++ rest) "id" (build.idOf declaration.ident) ∧
      HasText (commonEntries build declaration type ++ rest) "name" declaration.name :=
  ⟨rfl, rfl, rfl⟩

/-- The ids of declared elements differ, and everything that the build computes is plain. -/
structure Linked (declarations : List Declaration) (build : Build) : Prop where
  constant : build.idConstant = defaultIdConstant
  distinct : (declarations.map fun declaration => build.idOf declaration.ident).Nodup
  ids : ∀ declaration ∈ declarations, Plain (build.idOf declaration.ident)
  others : ∀ expression, Plain (build.others expression)

/-- The arena of declared elements. -/
def linkedArena (build : Build) (declarations : List Declaration) : Arena :=
  arenaOf (fun declaration => build.idOf declaration.ident) (fragmentOf build) declarations

section Linked

variable {declarations : List Declaration} {root : Declaration} {build : Build}
  (linked : Linked declarations build)
include linked

theorem Linked.eq_of_idOf_eq {declaration other : Declaration} (h : declaration ∈ declarations)
    (h' : other ∈ declarations) (hid : build.idOf declaration.ident = build.idOf other.ident) :
    declaration = other :=
  List.inj_on_of_nodup_map linked.distinct h h' hid

/-- What is looked up in the arena is the fragment of the element with that id. -/
theorem Linked.get? {found : List Declaration} (perm : found.Perm declarations)
    {declaration : Declaration} (h : declaration ∈ declarations) :
    (linkedArena build found).get? (build.idOf declaration.ident) =
      some (fragmentOf build declaration) := by
  have hdistinct : (found.map fun declaration => build.idOf declaration.ident).Nodup :=
    (perm.map _).nodup_iff.mpr linked.distinct
  exact Recovery.get?_arenaOf hdistinct (perm.mem_iff.mpr h)

theorem Linked.isOf {found : List Declaration} (perm : found.Perm declarations)
    {declaration : Declaration} (h : declaration ∈ declarations) (type : String) :
    (linkedArena build found).isOf type (build.idOf declaration.ident) =
      hasType type (fragmentOf build declaration) := by
  rw [Arena.isOf, linked.get? perm h, Option.any_some]

variable (wellFormed : WellFormed declarations root)
include wellFormed

theorem Linked.emits_module {declaration : Declaration} (h : declaration ∈ declarations)
    (typed : declaration.isModule = true) :
    Emits build declaration (commonEntries build declaration "module" ++
      [("members", .array ((declaration.members.map build.idOf).map .str))]) := by
  refine Emission.emits_module linked.constant (wellFormed.proper declaration h).clean
    (Declaration.body_of_isModule typed) ?_
  intro ident hident
  rcases List.mem_cons.mp hident with rfl | hident
  · exact linked.ids declaration h
  · obtain ⟨other, hother, rfl⟩ := wellFormed.declared declaration h ident hident
    exact linked.ids other hother

/-- Every declared element is emitted as its fragment, which says what it is. -/
theorem Linked.exists_emits {declaration : Declaration} (h : declaration ∈ declarations) :
    ∃ type rest, Emits build declaration (commonEntries build declaration type ++ rest) ∧
      (type = "module" ↔ declaration.isModule = true) ∧
      (type = "class" ↔ declaration.isClass = true) ∧
      (type = "function" ↔ declaration.isFunction = true) := by
  obtain ⟨clean, body⟩ := wellFormed.proper declaration h
  split at body
  · next members hbody =>
    have typed : declaration.isModule = true := by rw [Declaration.isModule, hbody]
    refine ⟨"module", _, linked.emits_module wellFormed h typed, ?_⟩
    simp [Declaration.isModule, Declaration.isClass, Declaration.isFunction, hbody]
  · next hbody =>
    refine ⟨"class", [], ?_, ?_⟩
    · rw [List.append_nil]
      exact emits_class linked.constant clean hbody (linked.ids declaration h)
    · simp [Declaration.isModule, Declaration.isClass, Declaration.isFunction, hbody]
  · next signature hbody =>
    obtain ⟨values, hemits, -⟩ := emits_function linked.constant clean hbody body
      (linked.ids declaration h) linked.others
    refine ⟨"function", _, hemits, ?_⟩
    simp [Declaration.isModule, Declaration.isClass, Declaration.isFunction, hbody]
  · exact body.elim
  · exact body.elim

theorem Linked.emits {declaration : Declaration} (h : declaration ∈ declarations) :
    Emits build declaration (fragmentOf build declaration) := by
  obtain ⟨type, rest, hemits, -⟩ := linked.exists_emits wellFormed h
  rwa [hemits.fragmentOf_eq]

theorem Linked.hasText_id {declaration : Declaration} (h : declaration ∈ declarations) :
    HasText (fragmentOf build declaration) "id" (build.idOf declaration.ident) := by
  obtain ⟨type, rest, hemits, -⟩ := linked.exists_emits wellFormed h
  rw [hemits.fragmentOf_eq]
  exact (hasText_commonEntries build declaration type rest).2.1

theorem Linked.hasText_name {declaration : Declaration} (h : declaration ∈ declarations) :
    HasText (fragmentOf build declaration) "name" declaration.name := by
  obtain ⟨type, rest, hemits, -⟩ := linked.exists_emits wellFormed h
  rw [hemits.fragmentOf_eq]
  exact (hasText_commonEntries build declaration type rest).2.2

/-- A fragment has the type of its element. -/
theorem Linked.hasType_fragmentOf {declaration : Declaration} (h : declaration ∈ declarations) :
    hasType "module" (fragmentOf build declaration) = declaration.isModule ∧
      hasType "class" (fragmentOf build declaration) = declaration.isClass ∧
      hasType "function" (fragmentOf build declaration) = declaration.isFunction := by
  obtain ⟨type, rest, hemits, hmodule, hclass, hfunction⟩ := linked.exists_emits wellFormed h
  have htype (other : String) : hasType other (fragmentOf build declaration) = true ↔
      type = other := by
    rw [hemits.fragmentOf_eq, hasType_iff]
    have htext := (hasText_commonEntries build declaration type rest).1
    constructor
    · exact htext.unique
    · rintro rfl
      exact htext
  refine ⟨?_, ?_, ?_⟩
  · rw [Bool.eq_iff_iff, htype, hmodule]
  · rw [Bool.eq_iff_iff, htype, hclass]
  · rw [Bool.eq_iff_iff, htype, hfunction]

theorem Linked.hasMembers {declaration : Declaration} (h : declaration ∈ declarations)
    (typed : declaration.isModule = true) :
    HasMembers (fragmentOf build declaration) (declaration.members.map build.idOf) := by
  rw [(linked.emits_module wellFormed h typed).fragmentOf_eq]
  exact .inr rfl

theorem Linked.describesFunction {declaration : Declaration} (h : declaration ∈ declarations)
    {signature : Binding.Signature} (body : declaration.body = .ofFunction (some signature)) :
    Recovery.DescribesFunction (fragmentOf build declaration)
      ⟨declaration.name, declaredParameters build.others signature⟩ := by
  obtain ⟨clean, hproper⟩ := wellFormed.proper declaration h
  rw [body] at hproper
  obtain ⟨values, hemits, hvalues⟩ := emits_function linked.constant clean body hproper
    (linked.ids declaration h) linked.others
  refine ⟨linked.hasText_name wellFormed h, ?_, signatureFault?_declaredParameters _ _⟩
  rw [hemits.fragmentOf_eq]
  exact ⟨_, values, rfl, rfl, hvalues⟩

/-- Members are listed by their ids. -/
theorem Linked.idOf_mem_map_iff {declaration other : Declaration} (h : declaration ∈ declarations)
    (h' : other ∈ declarations) :
    build.idOf declaration.ident ∈ other.members.map build.idOf ↔
      declaration.ident ∈ other.members := by
  constructor
  · intro hid
    obtain ⟨member, hmember, hid⟩ := List.mem_map.mp hid
    obtain ⟨member, hdeclared, rfl⟩ := wellFormed.declared other h' member hmember
    rwa [linked.eq_of_idOf_eq hdeclared h hid] at hmember
  · exact List.mem_map_of_mem

/-! ### The graph of the declarations -/

variable {found : List Declaration} (perm : found.Perm declarations)
include perm

/-- Every module of the arena is a declared one. -/
theorem Linked.exists_of_isOf {id : String}
    (typed : (linkedArena build found).isOf "module" id = true) :
    ∃ declaration ∈ declarations, build.idOf declaration.ident = id ∧
      declaration.isModule = true := by
  obtain ⟨fragment, hfound, htype⟩ := (Option.any_eq_true _ _).mp typed
  obtain ⟨declaration, hmem, hid, rfl⟩ := Recovery.exists_of_get?_arenaOf hfound
  have hmem := perm.mem_iff.mp hmem
  rw [(linked.hasType_fragmentOf wellFormed hmem).1] at htype
  exact ⟨declaration, hmem, hid, htype⟩

/-- One module of the arena is below another one only if it is declared so. -/
theorem Linked.exists_of_submodule {above below : String}
    (edge : Submodule (linkedArena build found) above below) :
    ∃ first ∈ declarations, ∃ second ∈ declarations, build.idOf first.ident = above ∧
      build.idOf second.ident = below ∧
      DeclaresSubmodule declarations first.ident second.ident := by
  obtain ⟨typed, typed', ids, ⟨fragment, hfragment, hmembers⟩, hbelow⟩ := edge
  obtain ⟨first, hfirst, rfl, hmodule⟩ := linked.exists_of_isOf wellFormed perm typed
  obtain ⟨second, hsecond, rfl, hmodule'⟩ := linked.exists_of_isOf wellFormed perm typed'
  rw [linked.get? perm hfirst] at hfragment
  cases hfragment
  obtain rfl := hmembers.unique (linked.hasMembers wellFormed hfirst hmodule)
  have hmember : second.ident ∈ first.members :=
    (linked.idOf_mem_map_iff wellFormed hsecond hfirst).mp hbelow
  refine ⟨first, hfirst, second, hsecond, rfl, rfl, first, hfirst, rfl, hmember, ?_⟩
  rw [isDeclared_ident wellFormed.distinct hsecond, hmodule']

/-- The same for any number of steps down. -/
theorem Linked.exists_of_transGen {above below : String}
    (path : TransGen (Submodule (linkedArena build found)) above below) :
    ∃ first ∈ declarations, ∃ second ∈ declarations, build.idOf first.ident = above ∧
      build.idOf second.ident = below ∧
      TransGen (DeclaresSubmodule declarations) first.ident second.ident := by
  induction path with
  | single edge =>
    obtain ⟨first, hfirst, second, hsecond, rfl, rfl, hedge⟩ :=
      linked.exists_of_submodule wellFormed perm edge
    exact ⟨first, hfirst, second, hsecond, rfl, rfl, .single hedge⟩
  | tail _ edge ih =>
    obtain ⟨first, hfirst, middle, hmiddle, rfl, hid, hpath⟩ := ih
    obtain ⟨middle', hmiddle', last, hlast, rfl, rfl, hedge⟩ :=
      linked.exists_of_submodule wellFormed perm edge
    obtain rfl := linked.eq_of_idOf_eq hmiddle hmiddle' hid
    exact ⟨first, hfirst, last, hlast, rfl, rfl, hpath.tail hedge⟩

/-- No module of the arena is below itself. -/
theorem Linked.acyclic (id : String) :
    ¬ TransGen (Submodule (linkedArena build found)) id id := by
  intro cycle
  obtain ⟨first, hfirst, second, hsecond, rfl, hid, hcycle⟩ :=
    linked.exists_of_transGen wellFormed perm cycle
  obtain rfl := linked.eq_of_idOf_eq hsecond hfirst hid
  exact wellFormed.acyclic _ hcycle

/-- Every declared element can be a member. -/
theorem Linked.isMember {declaration : Declaration} (h : declaration ∈ declarations) :
    IsMember (linkedArena build found) (build.idOf declaration.ident) := by
  have hget := linked.get? perm h
  have htype := linked.hasType_fragmentOf wellFormed h
  have hisOf := linked.isOf perm h
  have hbody := (wellFormed.proper declaration h).body
  split at hbody
  · next members body =>
    refine .module ?_
    rw [hisOf, htype.1, Declaration.isModule, body]
  · next body =>
    have described : (linkedArena build found).At
        (Recovery.DescribesClass · ⟨declaration.name⟩) (build.idOf declaration.ident) :=
      ⟨_, hget, linked.hasText_name wellFormed h⟩
    refine .class ?_ described
    rw [hisOf, htype.2.1, Declaration.isClass, body]
  · next signature body =>
    refine .function ?_ ⟨_, hget, linked.describesFunction wellFormed h body⟩
    rw [hisOf, htype.2.2, Declaration.isFunction, body]
  · exact hbody.elim
  · exact hbody.elim

/-- Every module of the arena is readable. -/
theorem Linked.readable {declaration : Declaration} (h : declaration ∈ declarations)
    (hmodule : declaration.isModule = true) :
    Readable (linkedArena build found) (build.idOf declaration.ident) := by
  have hget := linked.get? perm h
  refine ⟨⟨_, _, hget, linked.hasText_name wellFormed h⟩, _,
    ⟨_, hget, linked.hasMembers wellFormed h hmodule⟩, ?_⟩
  intro id hid
  obtain ⟨member, hmember, rfl⟩ := List.mem_map.mp hid
  obtain ⟨other, hother, rfl⟩ := wellFormed.declared declaration h member hmember
  exact linked.isMember wellFormed perm hother

/-- What is below a module of the arena is a declared module. -/
theorem Linked.exists_of_reach {declaration : Declaration} (h : declaration ∈ declarations)
    (hmodule : declaration.isModule = true) {below : String}
    (reach : ReflTransGen (Submodule (linkedArena build found))
      (build.idOf declaration.ident) below) :
    ∃ other ∈ declarations, build.idOf other.ident = below ∧ other.isModule = true := by
  cases reach with
  | refl => exact ⟨declaration, h, rfl, hmodule⟩
  | tail _ edge => exact linked.exists_of_isOf wellFormed perm edge.2.1

/-- Every module of the arena unfolds. -/
theorem Linked.exists_unfolding {declaration : Declaration} (h : declaration ∈ declarations)
    (hmodule : declaration.isModule = true) :
    ∃ module, Recovery.unfoldModule (linkedArena build found) [build.idOf declaration.ident]
        (fragmentOf build declaration) = .ok module ∧
      Unfolding (linkedArena build found) (build.idOf declaration.ident) module := by
  have hget := linked.get? perm h
  have typed : (linkedArena build found).isOf "module" (build.idOf declaration.ident) = true := by
    rw [linked.isOf perm h, (linked.hasType_fragmentOf wellFormed h).1, hmodule]
  have above : ∀ other ∈ [build.idOf declaration.ident],
      ReflTransGen (Submodule (linkedArena build found)) other (build.idOf declaration.ident) := by
    intro other hother
    rw [List.mem_singleton.mp hother]
  have readable : ∀ below, ReflTransGen (Submodule (linkedArena build found))
      (build.idOf declaration.ident) below → Readable (linkedArena build found) below := by
    intro below reach
    obtain ⟨other, hother, rfl, hmodule⟩ := linked.exists_of_reach wellFormed perm h hmodule reach
    exact linked.readable wellFormed perm hother hmodule
  obtain ⟨module, unfolded⟩ := Recovery.exists_unfoldModule hget typed above readable
    fun below _ => linked.acyclic wellFormed perm below
  exact ⟨module, unfolded, Recovery.unfolding_of_unfoldModule hget unfolded⟩

/-! ### Trees -/

/-- The ids of a kind are those of the members of that kind. -/
theorem Linked.filter_ids {declaration : Declaration} (h : declaration ∈ declarations)
    {type : String} {kind : Declaration → Bool}
    (agree : ∀ other ∈ declarations, hasType type (fragmentOf build other) = kind other) :
    (declaration.members.map build.idOf).filter ((linkedArena build found).isOf type) =
      (declaration.members.filter (isDeclared declarations kind)).map build.idOf := by
  rw [List.filter_map]
  refine congrArg (List.map build.idOf) (List.filter_congr fun member hmember => ?_)
  obtain ⟨other, hother, rfl⟩ := wellFormed.declared declaration h member hmember
  rw [Function.comp_apply, linked.isOf perm hother, agree other hother,
    isDeclared_ident wellFormed.distinct hother]

/-- What the arena describes as a class is the declared one. -/
theorem Linked.declaresClass {declaration : Declaration} (h : declaration ∈ declarations)
    (hkind : declaration.isClass = true) {value : Api.Class}
    (described : (linkedArena build found).At (Recovery.DescribesClass · value)
      (build.idOf declaration.ident)) :
    DeclaresClass declarations declaration.ident value := by
  obtain ⟨fragment, hfragment, hvalue⟩ := described
  rw [linked.get? perm h] at hfragment
  cases hfragment
  have hdeclared : Recovery.DescribesClass (fragmentOf build declaration) ⟨declaration.name⟩ :=
    linked.hasText_name wellFormed h
  refine ⟨declaration, h, rfl, Declaration.isClass_iff.mp hkind, hvalue.unique hdeclared⟩

/-- What the arena describes as a function is the declared one. -/
theorem Linked.declaresFunction {declaration : Declaration} (h : declaration ∈ declarations)
    (hkind : declaration.isFunction = true) {function : Api.Function}
    (described : (linkedArena build found).At (Recovery.DescribesFunction · function)
      (build.idOf declaration.ident)) :
    DeclaresFunction declarations build.others declaration.ident function := by
  obtain ⟨fragment, hfragment, hvalue⟩ := described
  rw [linked.get? perm h] at hfragment
  cases hfragment
  obtain ⟨signature, body⟩ := Declaration.isFunction_iff.mp hkind
  obtain ⟨clean, hproper⟩ := wellFormed.proper declaration h
  rw [body] at hproper
  cases signature with
  | none => exact hproper.elim
  | some signature =>
    exact ⟨declaration, h, signature, rfl, body,
      hvalue.unique (linked.describesFunction wellFormed h body)⟩

/-- An unfolding of the arena is the declared tree. -/
theorem Linked.declaredTree_of_unfolding {declaration : Declaration}
    (h : declaration ∈ declarations) (hmodule : declaration.isModule = true) {module : Module}
    (unfolding : Unfolding (linkedArena build found) (build.idOf declaration.ident) module) :
    DeclaredTree declarations build.others declaration.ident module := by
  cases unfolding with
  | intro hfound named listed modules classes functions =>
    have hget := linked.get? perm h
    rw [hget] at hfound
    cases hfound
    obtain rfl := listed.unique (linked.hasMembers wellFormed h hmodule)
    have htype (other : Declaration) (hother : other ∈ declarations) :=
      linked.hasType_fragmentOf wellFormed hother
    rw [linked.filter_ids wellFormed perm h fun other hother => (htype other hother).1,
      List.forall₂_map_left_iff] at modules
    rw [linked.filter_ids wellFormed perm h fun other hother => (htype other hother).2.1,
      List.forall₂_map_left_iff] at classes
    rw [linked.filter_ids wellFormed perm h fun other hother => (htype other hother).2.2,
      List.forall₂_map_left_iff] at functions
    refine .intro h hmodule (named.unique (linked.hasText_name wellFormed h)) ?_ ?_ ?_
    · refine forall₂_imp_of_mem modules fun member hmember submodule hsubmodule hbelow => ?_
      obtain ⟨other, hother, rfl, hkind⟩ := wellFormed.exists_of_mem_filter h hmember
      exact Linked.declaredTree_of_unfolding hother hkind hbelow
    · refine forall₂_imp_of_mem classes fun member hmember value _ hdescribed => ?_
      obtain ⟨other, hother, rfl, hkind⟩ := wellFormed.exists_of_mem_filter h hmember
      exact linked.declaresClass wellFormed perm hother hkind hdescribed
    · refine forall₂_imp_of_mem functions fun member hmember value _ hdescribed => ?_
      obtain ⟨other, hother, rfl, hkind⟩ := wellFormed.exists_of_mem_filter h hmember
      exact linked.declaresFunction wellFormed perm hother hkind hdescribed
termination_by sizeOf module
decreasing_by exact Api.sizeOf_lt_of_mem_modules hsubmodule

/-! ### The root -/

/-- The root of the arena is the declared one. -/
theorem Linked.findTopRoot : Recovery.findTopRoot (linkedArena build found) =
    .ok (build.idOf root.ident, fragmentOf build root) := by
  have hmodule {other : Declaration} (hother : other ∈ found) :
      hasType "module" (fragmentOf build other) = other.isModule :=
    (linked.hasType_fragmentOf wellFormed (perm.mem_iff.mp hother)).1
  have members : ∀ item ∈ found, hasType "module" (fragmentOf build item) = true →
      HasMembers (fragmentOf build item) (item.members.map build.idOf) := by
    intro item hitem typed
    rw [hmodule hitem] at typed
    exact linked.hasMembers wellFormed (perm.mem_iff.mp hitem) typed
  have distinct : found.Nodup := perm.nodup_iff.mpr (.of_map _ wellFormed.distinct)
  refine Recovery.findTopRoot_arenaOf members distinct ?_ (perm.mem_iff.mpr wellFormed.root_mem)
  intro item hitem
  have hdeclared := perm.mem_iff.mp hitem
  rw [← wellFormed.top item hdeclared, hmodule hitem, IsTop]
  refine and_congr_right fun _ => ⟨fun h other hother hmember => ?_, fun h other hother _ hid => ?_⟩
  · have hfound := perm.mem_iff.mpr hother
    have typed : hasType "module" (fragmentOf build other) = true := by
      rw [hmodule hfound]
      exact Declaration.isModule_of_mem_members hmember
    exact h other hfound typed (List.mem_map_of_mem hmember)
  · have hother := perm.mem_iff.mp hother
    exact h other hother ((linked.idOf_mem_map_iff wellFormed hdeclared hother).mp hid)

/-- Fragments of declared elements resolve to the declared tree, in whatever order they are. -/
theorem Linked.exists_resolve : ∃ tree, DeclaredTree declarations build.others root.ident tree ∧
    ∀ policy, (Recovery.resolve (found.map (fragmentOf build)) none policy).1 = .ok tree := by
  obtain ⟨hmodule, -⟩ := (wellFormed.top root wellFormed.root_mem).mpr rfl
  obtain ⟨tree, unfolded, unfolding⟩ :=
    linked.exists_unfolding wellFormed perm wellFormed.root_mem hmodule
  refine ⟨tree,
    linked.declaredTree_of_unfolding wellFormed perm wellFormed.root_mem hmodule unfolding, ?_⟩
  intro policy
  have hdistinct : (found.map fun declaration => build.idOf declaration.ident).Nodup :=
    (perm.map _).nodup_iff.mpr linked.distinct
  have hindex := Recovery.index_eq_arenaOf policy hdistinct fun item hitem =>
    linked.hasText_id wellFormed (perm.mem_iff.mp hitem)
  have hroot := linked.findTopRoot wellFormed perm
  rw [linkedArena] at hroot unfolded
  rw [Recovery.resolve, hindex]
  dsimp only
  rw [Recovery.resolveArena, Recovery.findRoot, hroot]
  exact unfolded

end Linked

/-! ### Ids -/

/-- The id of an element is that of its id constant, if it has one. -/
theorem idOf_mem {build : Build} {ident : String} (h : ident ∈ build.ids.map Prod.fst) :
    (ident, build.idOf ident) ∈ build.ids := by
  obtain ⟨entry, hentry, rfl⟩ := List.mem_map.mp h
  have hsome : (build.ids.lookup entry.1).isSome = true :=
    List.lookup_isSome_iff.mpr ⟨entry, hentry, BEq.rfl⟩
  obtain ⟨id, hid⟩ := Option.isSome_iff_exists.mp hsome
  obtain ⟨before, after, heq, -⟩ := List.lookup_eq_some_iff.mp hid
  have hvalue : build.idOf entry.1 = id := by rw [Build.idOf, hid, Option.getD_some]
  rw [hvalue, heq]
  exact List.mem_append_right _ List.mem_cons_self

/-- A build with the id constants of the declared elements links them, if the constants differ. -/
theorem linked_of_ids {declarations : List Declaration} {build : Build}
    (constant : build.idConstant = defaultIdConstant)
    (distinct : (declarations.map (·.ident)).Nodup)
    (keys : build.ids.map Prod.fst = (declarations.map (·.ident)).reverse)
    (values : (build.ids.map Prod.snd).Nodup) (ids : ∀ entry ∈ build.ids, Plain entry.2)
    (others : ∀ expression, Plain (build.others expression)) : Linked declarations build := by
  have hmem {declaration : Declaration} (h : declaration ∈ declarations) :
      (declaration.ident, build.idOf declaration.ident) ∈ build.ids := by
    refine idOf_mem ?_
    rw [keys, List.mem_reverse]
    exact List.mem_map_of_mem h
  refine ⟨constant, ?_, fun declaration h => ids _ (hmem h), others⟩
  refine List.Nodup.map_on (fun declaration h other h' hid => ?_) (.of_map _ distinct)
  have hentry := List.inj_on_of_nodup_map values (hmem h) (hmem h') hid
  exact eq_of_ident_eq distinct h h' (congrArg Prod.fst hentry)

/-! ### The round trip -/

/-- **What is declared is what is recovered.**

The fragments of well-formed declarations are made as long as the counter has room. If the id
constants differ, every document with the built texts in it, in any order and with any white space
between them, is recovered as the one tree that the declarations stand for. Its annotations are the
values of the expressions for the types of the arguments. -/
theorem recover_builtTexts {declarations : List Declaration} {root : Declaration}
    (wellFormed : WellFormed declarations root) {others : String → String}
    (plain : ∀ expression, Plain (others expression)) {state : State}
    (room : Room state (2 * declarations.length))
    (values : ∀ ids state', declaredIds {} [] declarations state = .ok ids state' →
      (ids.map Prod.snd).Nodup) :
    ∃ texts state' tree, builtTexts {} others declarations state = .ok texts state' ∧
      DeclaredTree declarations others root.ident tree ∧
      (∀ other, DeclaredTree declarations others root.ident other → other = tree) ∧
      ∀ order document policy, order.Perm texts → Recovery.Spaced order document.toList →
        (Recovery.recover document none policy).1 = .ok tree := by
  rw [Nat.two_mul] at room
  obtain ⟨ids, state₁, hids, hkeys, hplain, takes⟩ := declaredIds_ok declarations [] room.first
  rw [List.append_nil] at hids
  let build : Build := { idConstant := ({} : Emitter).names.idConstant, ids, others }
  have linked : Linked declarations build :=
    linked_of_ids rfl wellFormed.distinct hkeys (values ids state₁ hids) hplain plain
  have emittable : ∀ declaration ∈ declarations, Emittable declaration :=
    fun declaration h => (linked.emits wellFormed h).emittable
  obtain ⟨texts, state₂, htexts, hbuilt⟩ := textsOf_ok build emittable (room.rest takes)
  obtain ⟨tree, declared, -⟩ := linked.exists_resolve wellFormed (.refl declarations)
  have unique (other : Module) (h : DeclaredTree declarations others root.ident other) :
      other = tree := h.unique wellFormed.distinct declared
  refine ⟨texts, state₂, tree, ?_, declared, unique, ?_⟩
  · rw [builtTexts, bind_eq_of_ok hids]
    exact htexts
  · intro order document policy horder spaced
    -- The declarations are put in the order of the document.
    obtain ⟨found, hfound, perm⟩ := List.perm_comp_forall₂ horder hbuilt
    have reads : List.Forall₂ Recovery.ReadsFragment order (found.map (fragmentOf build)) := by
      rw [List.forall₂_map_right_iff]
      refine forall₂_imp_of_mem hfound fun text _ declaration h hbuilt => ?_
      exact (linked.emits wellFormed (perm.mem_iff.mp h)).readsFragment hbuilt
    obtain ⟨recovered, hdeclared, hresolve⟩ := linked.exists_resolve wellFormed perm
    rw [Recovery.recover, Recovery.load_of_spaced reads spaced, ← unique recovered hdeclared]
    exact hresolve policy

/-- A module with a class and a submodule, in which a function is declared. -/
def gadgets : List Declaration :=
  [⟨"gadgets", "gadgets", .ofModule ["Gadget", "shapes"]⟩,
    ⟨"shapes", "shapes", .ofModule ["scale"]⟩,
    ⟨"Gadget", "Gadget", .ofClass⟩,
    ⟨"scale", "scale", .ofFunction (some {
      arguments := [⟨"Token", none, none, none, false⟩, ⟨"f64", none, none, none, true⟩,
        ⟨"i32", some "2", none, some "factor", true⟩]
      positional := ["shape"]
      positionalOnly := 1
      keywordOnly := ["by"] })⟩]

/-- The tree of `gadgets`, every computed annotation being `float`. -/
def gadgetsTree : Module where
  name := "gadgets"
  classes := [⟨"Gadget"⟩]
  modules := [{
    name := "shapes"
    functions := [⟨"scale", [
      { name := "shape", kind := .positionalOnly, hint := some "float" },
      { name := "by", kind := .keywordOnly, hasDefault := true }]⟩] }]

/-- Only one module of `gadgets` is below another one. -/
theorem declaresSubmodule_gadgets {above below : String}
    (h : DeclaresSubmodule gadgets above below) : above = "gadgets" ∧ below = "shapes" := by
  obtain ⟨declaration, hmem, rfl, hbelow, hmodule⟩ := h
  have hedges : ∀ declaration ∈ gadgets, ∀ member ∈ declaration.members,
      isDeclared gadgets Declaration.isModule member = true →
        declaration.ident = "gadgets" ∧ member = "shapes" := by decide
  exact hedges declaration hmem below hbelow hmodule

theorem wellFormed_gadgets :
    WellFormed gadgets ⟨"gadgets", "gadgets", .ofModule ["Gadget", "shapes"]⟩ where
  distinct := by decide
  proper := by
    simp only [gadgets, List.forall_mem_cons]
    exact ⟨⟨by decide, trivial⟩, ⟨by decide, trivial⟩, ⟨by decide, trivial⟩,
      ⟨by decide, ⟨by decide, by decide⟩⟩, by simp⟩
  declared := by decide
  acyclic := by
    intro ident cycle
    obtain ⟨_, hfirst, -⟩ := TransGen.head'_iff.mp cycle
    obtain ⟨_, -, hlast⟩ := TransGen.tail'_iff.mp cycle
    have heq := (declaresSubmodule_gadgets hfirst).1.symm.trans (declaresSubmodule_gadgets hlast).2
    exact absurd heq (by decide)
  root_mem := List.mem_cons_self
  top := by
    have htop : ∀ declaration ∈ gadgets,
        IsTop gadgets declaration ↔ declaration.ident = "gadgets" := by decide
    intro declaration h
    rw [htop declaration h]
    constructor
    · exact eq_of_ident_eq (by decide) h List.mem_cons_self
    · rintro rfl
      rfl

theorem declaredTree_gadgets : DeclaredTree gadgets (fun _ => "float") "gadgets" gadgetsTree := by
  have hscale : DeclaresFunction gadgets (fun _ => "float") "scale" _ :=
    ⟨_, List.mem_of_getElem? (show gadgets[3]? = _ from rfl), _, rfl, rfl, rfl⟩
  have hshapes : DeclaredTree gadgets (fun _ => "float") "shapes" ⟨"shapes", [], [], _⟩ :=
    .intro (List.mem_of_getElem? (show gadgets[1]? = _ from rfl)) rfl rfl .nil .nil
      (.cons hscale .nil)
  have hgadget : DeclaresClass gadgets "Gadget" ⟨"Gadget"⟩ :=
    ⟨_, List.mem_of_getElem? (show gadgets[2]? = _ from rfl), rfl, rfl, rfl⟩
  exact .intro List.mem_cons_self rfl rfl (.cons hshapes .nil) (.cons hgadget .nil) .nil

theorem recover_builtTexts_gadgets : ∃ texts state',
    builtTexts {} (fun _ => "float") gadgets {} = .ok texts state' ∧
      ∀ order document policy, order.Perm texts → Recovery.Spaced order document.toList →
        (Recovery.recover document none policy).1 = .ok gadgetsTree := by
  have plain (expression : String) : Plain ((fun _ => "float") expression) := by
    show Plain "float"
    decide
  have room : Room {} (2 * gadgets.length) := by
    constructor <;> decide
  have hdistinct : (match declaredIds {} [] gadgets {} with
      | .ok ids _ => ids.map Prod.snd
      | .error _ _ => []).Nodup := by decide +kernel
  have values (ids : List (String × String)) (state' : State)
      (h : declaredIds {} [] gadgets {} = .ok ids state') : (ids.map Prod.snd).Nodup := by
    rw [h] at hdistinct
    exact hdistinct
  obtain ⟨texts, state', tree, htexts, -, unique, hrecover⟩ :=
    recover_builtTexts wellFormed_gadgets plain room values
  obtain rfl := unique gadgetsTree declaredTree_gadgets
  exact ⟨texts, state', htexts, hrecover⟩

end Introspection
