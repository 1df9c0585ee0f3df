import Introspection.Emission.Emitter
import Introspection.Proofs.Declaration.Tree

/-!
# How parameters get their arguments

A signature names its parameters, and it describes its arguments in a list of their own. What
belongs together is only said by order: the regular arguments are used up by the positional
parameters and then by the keyword-only ones. Were one argument passed over or used twice, all
later parameters would be described by the arguments of others, and nothing in the emitted tree
would show it. So it is said here place by place which argument stands for which parameter.

Parameters that take all remaining arguments use up none. Arguments that are not regular are not
seen at all, wherever they stand. Nor are regular ones behind those that are used up: a function
with too many arguments is not told from one that has just enough.

What stands at one place is an entry. The tree that is emitted and the parameters that are declared
are two views of one list of entries, and whatever is said of both goes entry by entry.

## Main definitions

* `Emission.LacksArguments` — a function has fewer arguments than parameters
* `Emission.Entry`, `Emission.signatureEntries` — what stands at each place of the parameters
* `Emission.MatchedFrom` — names have the arguments from some place on
* `Emission.DifferIrregularly` — lists of arguments with the same regular ones

## Main results

* `Emission.Entry.node_says` — the tree of one entry
* `Emission.signatureNode?_eq_some`, `Emission.map_parameter_signatureEntries` — the two views
* `Emission.signatureNode_matched` — the parameters of a signature with enough arguments
* `Emission.signatureNode_lacking` — only missing arguments make a signature fail
-/

namespace Introspection.Emission

open Introspection.Api (Kind Parameter signatureFault? signatureFault?_eq_none_iff)
open Introspection.Binding (Argument Signature pair)
open Introspection.Metadata (Node)

/-! ### Names and arguments -/

/-- A function has fewer arguments than parameters. -/
def LacksArguments (signature : Signature) : Prop :=
  signature.regularArguments.length < signature.positional.length + signature.keywordOnly.length

instance (signature : Signature) : Decidable (LacksArguments signature) :=
  inferInstanceAs (Decidable (_ < _))

/-- Names are matched with the first arguments, if there are enough of them. -/
theorem pair_eq {names : List String} {arguments : List Argument}
    (enough : names.length ≤ arguments.length) :
    pair names arguments = some (names.zip arguments, arguments.drop names.length) := by
  induction names generalizing arguments with
  | nil => rfl
  | cons name names ih =>
    cases arguments with
    | nil => cases enough
    | cons argument arguments =>
      rw [pair, ih (Nat.le_of_succ_le_succ enough)]
      rfl

/-- Names are not matched if there are too few arguments. -/
theorem pair_eq_none {names : List String} {arguments : List Argument}
    (lacks : arguments.length < names.length) : pair names arguments = none := by
  induction names generalizing arguments with
  | nil => cases lacks
  | cons name names ih =>
    cases arguments with
    | nil => rfl
    | cons argument arguments =>
      rw [pair, ih (Nat.lt_of_succ_lt_succ lacks)]
      rfl

theorem match?_eq {signature : Signature} (enough : signature.positional.length +
      signature.keywordOnly.length ≤ signature.regularArguments.length) :
    signature.match? = some (signature.positional.zip signature.regularArguments,
      signature.keywordOnly.zip
        (signature.regularArguments.drop signature.positional.length)) := by
  have hrest : signature.keywordOnly.length ≤
      (signature.regularArguments.drop signature.positional.length).length := by
    rw [List.length_drop]
    omega
  rw [Signature.match?, pair_eq (by omega)]
  dsimp only
  rw [pair_eq hrest]
  rfl

theorem match?_eq_none {signature : Signature} (lacks : LacksArguments signature) :
    signature.match? = none := by
  unfold LacksArguments at lacks
  rw [Signature.match?]
  rcases Nat.lt_or_ge signature.regularArguments.length signature.positional.length with h | h
  · rw [pair_eq_none h]
  · have hrest : (signature.regularArguments.drop signature.positional.length).length <
        signature.keywordOnly.length := by
      rw [List.length_drop]
      omega
    rw [pair_eq h]
    dsimp only
    rw [pair_eq_none hrest]
    rfl

/-! ### Entries -/

/-- What stands at one place of the parameters of a signature. -/
inductive Entry where
  | matched (kind : Kind) (name : String) (argument : Argument)
  | variadic (kind : Kind) (name : String)

namespace Entry

/-- The kind of an entry. -/
def kind : Entry → Kind
  | .matched kind _ _ => kind
  | .variadic kind _ => kind

/-- The name of an entry. -/
def name : Entry → String
  | .matched _ name _ => name
  | .variadic _ name => name

/-- The tree of an entry. -/
def node (cratePath : String) : Entry → Node
  | .matched kind name argument => parameterNode cratePath name kind.tag argument
  | .variadic kind name => variadicNode name kind

/-- The declared parameter of an entry. -/
def parameter (others : String → String) : Entry → Parameter
  | .matched kind name argument => declaredParameter others kind name argument
  | .variadic kind name => variadicParameter kind name

/-- The argument of an entry, if it is matched with one. -/
def argument? : Entry → Option Argument
  | .matched _ _ argument => some argument
  | .variadic _ _ => none

/-- **What the tree of an entry says:** its name and the tag of its kind, and, if it is matched with
an argument, whether that one has a default, and its type as it is annotated, unless the argument is
converted by a function of its own. It says nothing else. -/
theorem node_says (cratePath : String) (entry : Entry) :
    ∃ fields, entry.node cratePath = .object fields ∧
      fields.lookup "name" = some (.str entry.name) ∧
      fields.lookup "kind" = some (.str entry.kind.tag) ∧
      fields.lookup "has_default" =
        entry.argument?.map (fun argument => .bool argument.default.isSome) ∧
      fields.lookup "annotation" =
        (entry.argument?.filter (·.converter.isNone)).map
          (fun argument => .computed (hintExpression cratePath argument)) ∧
      (fields.map Prod.fst).Sublist ["name", "kind", "has_default", "annotation"] := by
  cases entry with
  | variadic kind name => exact ⟨_, rfl, rfl, rfl, rfl, rfl, by simp⟩
  | matched kind name argument =>
    refine ⟨_, rfl, rfl, rfl, rfl, ?_⟩
    rw [argument?, Option.filter_some]
    cases argument.converter with
    | none => exact ⟨rfl, by simp⟩
    | some converter => exact ⟨rfl, by simp⟩

theorem kind_parameter (others : String → String) (entry : Entry) :
    (entry.parameter others).kind = entry.kind := by
  cases entry <;> rfl

end Entry

/-- The entries of names that are matched with arguments. Kinds go by places. -/
def matchedEntries (kindAt : Nat → Kind) (matched : List (String × Argument)) : List Entry :=
  matched.mapIdx fun place (name, argument) => .matched (kindAt place) name argument

/-- The entries of the positional parameters. -/
def positionalEntries (signature : Signature) : List Entry :=
  matchedEntries (positionalKind signature.positionalOnly)
    (signature.positional.zip signature.regularArguments)

/-- The entries of the keyword-only parameters. -/
def keywordOnlyEntries (signature : Signature) : List Entry :=
  matchedEntries (fun _ => .keywordOnly)
    (signature.keywordOnly.zip (signature.regularArguments.drop signature.positional.length))

/-- The entries of a signature in calling order, given those of the positional and of the
keyword-only parameters. -/
def entriesOf (signature : Signature) (positional keywordOnly : List Entry) : List Entry :=
  positional ++ (signature.varargs.map (Entry.variadic .variadicPositional)).toList ++
    keywordOnly ++ (signature.kwargs.map (Entry.variadic .variadicKeyword)).toList

/-- The entries of a signature in calling order. -/
def signatureEntries (signature : Signature) : List Entry :=
  entriesOf signature (positionalEntries signature) (keywordOnlyEntries signature)

/-- Each name has an entry, which matches it with the argument as many places behind `start` as
there are names in front of it. Kinds go by the places of names. -/
structure MatchedFrom (arguments : List Argument) (start : Nat) (kindAt : Nat → Kind)
    (names : List String) (entries : List Entry) : Prop where
  length_eq : entries.length = names.length
  getElem?_eq : ∀ place name, names[place]? = some name →
    ∃ argument, arguments[start + place]? = some argument ∧
      entries[place]? = some (.matched (kindAt place) name argument)

/-- Names are matched with what is left of the arguments. -/
theorem matchedFrom_zip {arguments : List Argument} {start : Nat} (kindAt : Nat → Kind)
    {names : List String} (enough : start + names.length ≤ arguments.length) :
    MatchedFrom arguments start kindAt names
      (matchedEntries kindAt (names.zip (arguments.drop start))) where
  length_eq := by
    rw [matchedEntries, List.length_mapIdx, List.length_zip, List.length_drop]
    omega
  getElem?_eq := by
    intro place name hname
    obtain ⟨hplace, -⟩ := List.getElem?_eq_some_iff.mp hname
    have hargument : arguments[start + place]? = some arguments[start + place] :=
      List.getElem?_eq_getElem (by omega)
    refine ⟨_, hargument, ?_⟩
    have hpair : (names.zip (arguments.drop start))[place]? =
        some (name, arguments[start + place]) := by
      rw [List.getElem?_zip_eq_some, List.getElem?_drop]
      exact ⟨hname, hargument⟩
    rw [matchedEntries, List.getElem?_mapIdx, hpair]
    rfl

/-- With enough arguments, all parameters have entries. -/
theorem map_name_signatureEntries {signature : Signature} (enough : ¬ LacksArguments signature) :
    (signatureEntries signature).map Entry.name = parameterNames signature := by
  have hmatched (kindAt : Nat → Kind) {names : List String} {arguments : List Argument}
      (hnames : names.length ≤ arguments.length) :
      (matchedEntries kindAt (names.zip arguments)).map Entry.name = names := by
    rw [matchedEntries, map_mapIdx]
    exact (mapIdx_eq_map Prod.fst _).trans (List.map_fst_zip hnames)
  have hvariadic (kind : Kind) (name : Option String) :
      (name.map (Entry.variadic kind)).toList.map Entry.name = name.toList := by
    cases name <;> rfl
  unfold LacksArguments at enough
  simp only [signatureEntries, entriesOf, List.map_append, hvariadic, parameterNames]
  rw [positionalEntries, hmatched _ (by omega), keywordOnlyEntries, hmatched]
  rw [List.length_drop]
  omega

/-! ### Entries as trees -/

section Trees

variable (cratePath : String)

theorem positionalNodes_eq (positionalOnly : Int) (index : Nat)
    (matched : List (String × Argument)) :
    positionalNodes cratePath positionalOnly index matched =
      (matchedEntries (fun place => positionalKind positionalOnly (index + place)) matched).map
        (Entry.node cratePath) := by
  induction matched generalizing index with
  | nil => rfl
  | cons parameter matched ih =>
    have hshift (place : Nat) : index + 1 + place = index + (place + 1) := by omega
    rw [positionalNodes, ih, matchedEntries, matchedEntries, List.mapIdx_cons, List.map_cons]
    simp only [hshift]
    rfl

theorem keywordNodes_eq (matched : List (String × Argument)) :
    (matched.map fun (name, argument) =>
        parameterNode cratePath name Kind.keywordOnly.tag argument) =
      (matchedEntries (fun _ => .keywordOnly) matched).map (Entry.node cratePath) := by
  rw [matchedEntries, map_mapIdx]
  exact (mapIdx_eq_map _ _).symm

theorem variadicNodes_eq (kind : Kind) (name : Option String) :
    (name.map fun name => variadicNode name kind).toList =
      (name.map (Entry.variadic kind)).toList.map (Entry.node cratePath) := by
  cases name <;> rfl

variable {signature : Signature}

theorem parameterNodes?_eq_some (enough : ¬ LacksArguments signature) :
    parameterNodes? cratePath signature =
      some ((signatureEntries signature).map (Entry.node cratePath)) := by
  rw [parameterNodes?, match?_eq (Nat.le_of_not_lt enough)]
  simp only [Option.map_some, positionalNodes_eq, keywordNodes_eq, variadicNodes_eq cratePath,
    Nat.zero_add, signatureEntries, entriesOf, positionalEntries, keywordOnlyEntries,
    List.map_append]

theorem signatureNode?_eq_some (enough : ¬ LacksArguments signature) :
    signatureNode? cratePath signature = some (.object [("parameters", .array
      ((signatureEntries signature).map (Entry.node cratePath)))]) := by
  rw [signatureNode?, parameterNodes?_eq_some cratePath enough]
  rfl

theorem signatureNode?_eq_none (lacks : LacksArguments signature) :
    signatureNode? cratePath signature = none := by
  rw [signatureNode?, parameterNodes?, match?_eq_none lacks]
  rfl

end Trees

/-! ### Entries as parameters -/

theorem map_parameter_signatureEntries (others : String → String) (signature : Signature) :
    (signatureEntries signature).map (Entry.parameter others) =
      declaredParameters others signature := by
  have hvariadic (kind : Kind) (name : Option String) :
      (name.map (Entry.variadic kind)).toList.map (Entry.parameter others) =
        (name.map (variadicParameter kind)).toList := by
    cases name <;> rfl
  have hpositional (matched : List (String × Argument)) :
      (matchedEntries (positionalKind signature.positionalOnly) matched).map
          (Entry.parameter others) =
        positionalParameters others signature.positionalOnly matched := by
    rw [matchedEntries, map_mapIdx]
    rfl
  have hkeyword (matched : List (String × Argument)) :
      (matchedEntries (fun _ => .keywordOnly) matched).map (Entry.parameter others) =
        matched.map fun (name, argument) =>
          declaredParameter others .keywordOnly name argument := by
    rw [matchedEntries, map_mapIdx]
    exact mapIdx_eq_map _ _
  simp only [signatureEntries, entriesOf, positionalEntries, keywordOnlyEntries, List.map_append,
    hvariadic, hpositional, hkeyword, declaredParameters]

/-- The check of a signature looks at kinds alone. -/
theorem signatureFault?_eq_none_of_kinds {parameters others : List Parameter}
    (kinds : parameters.map (·.kind) = others.map (·.kind)) (valid : signatureFault? others = none) :
    signatureFault? parameters = none := by
  have hkinds (parameters : List Parameter) : signatureFault? parameters = none ↔
      (parameters.map (·.kind)).Pairwise fun first second =>
        first.rank ≤ second.rank ∧ (second.isVariadic = true → second ≠ first) := by
    rw [signatureFault?_eq_none_iff, List.pairwise_map]
    rfl
  rw [hkinds, kinds, ← hkinds]
  exact valid

/-- Parameters of the kinds of a signature's entries form a signature. -/
theorem signatureFault?_of_signatureEntries {signature : Signature} {parameters : List Parameter}
    (kinds : parameters.map (·.kind) = (signatureEntries signature).map Entry.kind) :
    signatureFault? parameters = none := by
  refine signatureFault?_eq_none_of_kinds ?_ (signatureFault?_declaredParameters id signature)
  rw [kinds, ← map_parameter_signatureEntries, List.map_map]
  exact List.map_congr_left fun entry _ => (Entry.kind_parameter id entry).symm

/-! ### Arguments that are not used up -/

/-- Irregular arguments may be inserted and deleted anywhere. -/
inductive DifferIrregularly : List Argument → List Argument → Prop
  | nil : DifferIrregularly [] []
  | keep (argument : Argument) {arguments others : List Argument} :
    DifferIrregularly arguments others →
      DifferIrregularly (argument :: arguments) (argument :: others)
  | insert {argument : Argument} (irregular : argument.regular = false)
    {arguments others : List Argument} :
    DifferIrregularly arguments others → DifferIrregularly arguments (argument :: others)
  | delete {argument : Argument} (irregular : argument.regular = false)
    {arguments others : List Argument} :
    DifferIrregularly arguments others → DifferIrregularly (argument :: arguments) others

theorem DifferIrregularly.filter_eq {arguments others : List Argument}
    (differ : DifferIrregularly arguments others) :
    others.filter (·.regular) = arguments.filter (·.regular) := by
  induction differ with
  | nil => rfl
  | keep argument differ ih => rw [List.filter_cons, ih, List.filter_cons]
  | insert irregular differ ih => rw [List.filter_cons_of_neg (by simp [irregular]), ih]
  | delete irregular differ ih => rw [List.filter_cons_of_neg (by simp [irregular]), ih]

/-- What comes of a signature depends on its arguments by how they are matched. -/
theorem signatureNode_congr (emitter : Emitter) {signature : Signature} (function : String)
    {arguments : List Argument}
    (match_eq : { signature with arguments }.match? = signature.match?) :
    emitter.signatureNode { signature with arguments } function =
      emitter.signatureNode signature function := by
  simp only [Emitter.signatureNode, signatureNode?, parameterNodes?, match_eq]

theorem zip_take {names : List String} {arguments : List Argument} {count : Nat}
    (enough : names.length ≤ count) : names.zip (arguments.take count) = names.zip arguments := by
  have hlength : (names.zip arguments).length ≤ count := by
    rw [List.length_zip]
    omega
  calc names.zip (arguments.take count)
      = (names.take count).zip (arguments.take count) := by rw [List.take_of_length_le enough]
    _ = (names.zip arguments).take count := List.take_zipWith.symm
    _ = names.zip arguments := List.take_of_length_le hlength

/-- Regular arguments behind those that are used up are not matched with anything. -/
theorem match?_take (signature : Signature) :
    { signature with
      arguments := signature.regularArguments.take
        (signature.positional.length + signature.keywordOnly.length) }.match? =
      signature.match? := by
  have hregular (count : Nat) :
      { signature with arguments := signature.regularArguments.take count }.regularArguments =
        signature.regularArguments.take count :=
    List.filter_eq_self.mpr fun argument h => (List.mem_filter.mp (List.mem_of_mem_take h)).2
  by_cases lacks : LacksArguments signature
  · rw [match?_eq_none lacks, match?_eq_none]
    rw [LacksArguments, hregular, List.length_take]
    exact Nat.lt_of_le_of_lt (Nat.min_le_right _ _) lacks
  · have enough := Nat.le_of_not_lt lacks
    rw [match?_eq enough, match?_eq]
    · rw [hregular]
      dsimp only
      rw [List.drop_take, Nat.add_sub_cancel_left, zip_take (Nat.le_add_right _ _),
        zip_take (Nat.le_refl _)]
    · rw [hregular, List.length_take]
      exact Nat.le_min.mpr ⟨Nat.le_refl _, enough⟩

/-! ### Main results -/

/-- **A signature with enough arguments has its parameters, each with its own argument.**

The positional ones come first, with the regular arguments from the first one on, then the one for
the remaining positional arguments, then the keyword-only ones with the regular arguments behind
those, then the one for the remaining keyword arguments. Whatever has the same kinds in the same
order passes the check of a signature. With enough arguments or not, nothing that is emitted depends
on the arguments that are not regular. -/
theorem signatureNode_matched (emitter : Emitter) (signature : Signature) (function : String) :
    (signature.positional.length + signature.keywordOnly.length ≤
        signature.regularArguments.length →
      ∃ positional keywordOnly : List Entry,
        MatchedFrom signature.regularArguments 0
          (fun place => if (place : Int) < signature.positionalOnly then .positionalOnly
            else .positionalOrKeyword) signature.positional positional ∧
        MatchedFrom signature.regularArguments signature.positional.length
          (fun _ => .keywordOnly) signature.keywordOnly keywordOnly ∧
        emitter.signatureNode signature function = .ok (.object [("parameters", .array
          ((entriesOf signature positional keywordOnly).map
            (Entry.node emitter.names.cratePath)))]) ∧
        ∀ parameters : List Parameter, parameters.map (·.kind) =
            (entriesOf signature positional keywordOnly).map Entry.kind →
          signatureFault? parameters = none) ∧
      ∀ arguments, DifferIrregularly signature.arguments arguments →
        emitter.signatureNode { signature with arguments } function =
          emitter.signatureNode signature function := by
  refine ⟨fun enough => ?_, fun arguments differ => ?_⟩
  · refine ⟨positionalEntries signature, keywordOnlyEntries signature,
      matchedFrom_zip _ (by omega), matchedFrom_zip _ enough, ?_, ?_⟩
    · rw [Emitter.signatureNode, signatureNode?_eq_some _ (Nat.not_lt.mpr enough)]
      rfl
    · exact fun parameters hkinds => signatureFault?_of_signatureEntries hkinds
  · refine signatureNode_congr emitter function ?_
    rw [Signature.match?, Signature.regularArguments, differ.filter_eq]
    rfl

/-- With all kinds of parameters and an irregular argument in between, the second positional
parameter has the second regular argument and the keyword-only one has the third. -/
theorem signatureNode_matched_mixed :
    let signature : Signature := {
      arguments := [{ type := "i32" }, { type := "Python", regular := false }, { type := "f64" },
        { type := "bool" }]
      positional := ["a", "b"], positionalOnly := 1, varargs := some "args", keywordOnly := ["c"],
      kwargs := some "kwargs" }
    ∃ positional keywordOnly : List Entry,
      positional[1]? = some (.matched .positionalOrKeyword "b" { type := "f64" }) ∧
      keywordOnly[0]? = some (.matched .keywordOnly "c" { type := "bool" }) ∧
      ({} : Emitter).signatureNode signature "f" = .ok (.object [("parameters", .array
        ((entriesOf signature positional keywordOnly).map (Entry.node "pyo3")))]) ∧
      (∀ parameters : List Parameter, parameters.map (·.kind) =
        (entriesOf signature positional keywordOnly).map Entry.kind →
          signatureFault? parameters = none) ∧
      ({} : Emitter).signatureNode { signature with
          arguments := [{ type := "i32" }, { type := "f64" }, { type := "bool" }] } "f" =
        ({} : Emitter).signatureNode signature "f" := by
  intro signature
  obtain ⟨hmatched, hdiffer⟩ := signatureNode_matched {} signature "f"
  obtain ⟨positional, keywordOnly, hpositional, hkeyword, hnode, hvalid⟩ := hmatched (by decide)
  obtain ⟨second, hsecond, hb⟩ := hpositional.getElem?_eq 1 "b" rfl
  obtain ⟨third, hthird, hc⟩ := hkeyword.getElem?_eq 0 "c" rfl
  cases hsecond
  cases hthird
  exact ⟨positional, keywordOnly, hb, hc, hnode, hvalid,
    hdiffer _ (.keep _ (.delete rfl (.keep _ (.keep _ .nil))))⟩

/-- **Only missing arguments make a signature fail.** Regular arguments behind those that are used
up change nothing. -/
theorem signatureNode_lacking (emitter : Emitter) (signature : Signature) (function : String) :
    (∀ fault, emitter.signatureNode signature function = .error fault ↔
      fault = .signatureMismatch function ∧ signature.regularArguments.length <
        signature.positional.length + signature.keywordOnly.length) ∧
      emitter.signatureNode { signature with
        arguments := signature.regularArguments.take
          (signature.positional.length + signature.keywordOnly.length) } function =
        emitter.signatureNode signature function := by
  refine ⟨fun fault => ?_, signatureNode_congr emitter function (match?_take signature)⟩
  by_cases lacks : LacksArguments signature
  · rw [Emitter.signatureNode, signatureNode?_eq_none _ lacks, Except.error.injEq]
    exact ⟨fun h => ⟨h.symm, lacks⟩, fun h => h.1.symm⟩
  · rw [Emitter.signatureNode, signatureNode?_eq_some _ lacks]
    exact iff_of_false (by simp) fun h => lacks h.2

/-- A function with one parameter and two regular arguments has a tree, so a difference between the
two numbers is not always a fault. -/
theorem signatureNode_surplus :
    let signature : Signature :=
      { arguments := [{ type := "i32" }, { type := "i32" }], positional := ["a"] }
    ¬ (({} : Emitter).signatureNode signature "<function>" =
        .error (.signatureMismatch "<function>") ↔
      signature.regularArguments.length ≠
        signature.positional.length + signature.keywordOnly.length) := by
  intro signature hiff
  cases hiff.mpr (by decide)

end Introspection.Emission
