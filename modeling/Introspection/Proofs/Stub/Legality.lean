import Introspection.Proofs.Stub.CallingConvention

/-!
# Stub lines that the rule for `def` allows

The rule for `def` has a grammar and two conditions beside it. In the grammar a parameter list has
three parts, each of which may be missing: plain parameters, with a slash behind one of them or
without; a star or a variadic parameter with the plain ones that are passed by keyword; and a
parameter with two stars. The conditions are that no name comes twice, and that in the first part
all parameters have defaults behind one that does.

The line of a signature always follows the grammar, even when its slash is missing. So it is legal
exactly if its parameters meet the two conditions.

## Main definitions

* `Stub.PositionalPart`, `Stub.KeywordPart`, `Stub.LastPart` — the grammar
* `Stub.Legal` — a parameter list that the rule for `def` allows
* `Stub.IsLegalLine`

## Main results

* `Stub.parameterItems_eq` — the three parts of what is written of a signature
* `Stub.legal_parameterItems_iff`
* `Stub.isLegalLine_functionLine_iff`
-/

namespace Introspection.Stub

open Introspection.Api

/-! ### The rule for `def` -/

/-- Whether a part of a parameter list is a plain parameter. -/
def Item.isPlain : Item → Bool
  | .plain _ _ _ => true
  | _ => false

/-- Whether a part of a parameter list can stand in front of the star. -/
def Item.isPositional : Item → Bool
  | .slash | .plain _ _ _ => true
  | _ => false

/-- Whether a part of a parameter list is a parameter with a default. -/
def Item.hasDefault : Item → Bool
  | .plain _ _ hasDefault => hasDefault
  | _ => false

/-- The name that a part of a parameter list declares. -/
def Item.name? : Item → Option String
  | .slash | .star => none
  | .variadic name | .keywords name | .plain name _ _ => some name

/-- The parameters of a list that may be passed by position. A slash has one of them before it. -/
inductive PositionalPart : List Item → Prop
  | plain {items : List Item} (plain : ∀ item ∈ items, item.isPlain = true) : PositionalPart items
  | slashed {front back : List Item} (ne_nil : front ≠ [])
      (front_plain : ∀ item ∈ front, item.isPlain = true)
      (back_plain : ∀ item ∈ back, item.isPlain = true) : PositionalPart (front ++ .slash :: back)

/-- The parameters of a list that are passed by keyword, behind a variadic one or a bare star. A
bare star has one of them behind it. -/
inductive KeywordPart : List Item → Prop
  | none : KeywordPart []
  | star {items : List Item} (ne_nil : items ≠ []) (plain : ∀ item ∈ items, item.isPlain = true) :
      KeywordPart (.star :: items)
  | variadic {name : String} {items : List Item} (plain : ∀ item ∈ items, item.isPlain = true) :
      KeywordPart (.variadic name :: items)

/-- The parameter of a list that takes the remaining keyword arguments, if there is one. -/
inductive LastPart : List Item → Prop
  | none : LastPart []
  | keywords {name : String} : LastPart [.keywords name]

/-- The rule for `def` allows a parameter list. -/
structure Legal (items : List Item) : Prop where
  arranged : ∃ positional keyword last, items = positional ++ (keyword ++ last) ∧
    PositionalPart positional ∧ KeywordPart keyword ∧ LastPart last
  distinct : (items.filterMap Item.name?).Nodup
  defaults : ((items.takeWhile Item.isPositional).filter Item.isPlain).Pairwise
    fun first second => first.hasDefault = true → second.hasDefault = true

/-- The rule for `def` allows a line: it declares a name with a parameter list. -/
def IsLegalLine (line : List Char) : Prop :=
  ∃ name text items,
    line = 'd' :: 'e' :: 'f' :: ' ' :: (name ++ '(' :: (text ++ ')' :: [':', ' ', '.', '.', '.'])) ∧
    IsName name ∧ readItems text = some items ∧ Legal items

theorem Item.isPositional_of_isPlain {item : Item} (h : item.isPlain = true) :
    item.isPositional = true := by
  cases item <;> first | rfl | cases h

theorem PositionalPart.isPositional {items : List Item} (h : PositionalPart items) :
    ∀ item ∈ items, item.isPositional = true := by
  intro item hitem
  cases h with
  | plain plain => exact Item.isPositional_of_isPlain (plain item hitem)
  | slashed _ front_plain back_plain =>
    rcases List.mem_append.mp hitem with hitem | hitem
    · exact Item.isPositional_of_isPlain (front_plain item hitem)
    · rcases List.mem_cons.mp hitem with rfl | hitem
      · rfl
      · exact Item.isPositional_of_isPlain (back_plain item hitem)

/-- The first part of a list is what can stand in front of the star. -/
theorem PositionalPart.takeWhile_append {positional keyword last : List Item}
    (hpositional : PositionalPart positional) (hkeyword : KeywordPart keyword)
    (hlast : LastPart last) :
    (positional ++ (keyword ++ last)).takeWhile Item.isPositional = positional := by
  have hnone : (keyword ++ last).takeWhile Item.isPositional = [] := by
    cases hkeyword with
    | none => cases hlast <;> rfl
    | star _ _ => rfl
    | variadic _ => rfl
  rw [List.takeWhile_append_of_pos hpositional.isPositional, hnone, List.append_nil]

/-! ### Where the markers of a signature stand -/

/-- The parameters of a kind, as they are written. -/
def stretchItems (parameters : List Parameter) (kind : Kind) : List Item :=
  (stretch parameters kind).map Item.ofParameter

/-- The slash of a signature. It stands behind parameters that are passed by position alone, unless
all are. -/
def slashItems (parameters : List Parameter) : List Item :=
  if stretchItems parameters .positionalOnly = [] ∨
      ∀ parameter ∈ parameters, parameter.kind = .positionalOnly then []
  else [.slash]

/-- The bare star of a signature. It stands before parameters that are passed by keyword alone,
unless a variadic parameter does. -/
def starItems (parameters : List Parameter) : List Item :=
  if stretchItems parameters .keywordOnly = [] ∨ stretchItems parameters .variadicPositional ≠ []
  then []
  else [.star]

/-- What is written of the parameters that may be passed by position. -/
def positionalItems (parameters : List Parameter) : List Item :=
  stretchItems parameters .positionalOnly ++ slashItems parameters ++
    stretchItems parameters .positionalOrKeyword

/-- What is written of the parameters that are passed by keyword, and of the variadic one that opens
them. -/
def keywordItems (parameters : List Parameter) : List Item :=
  stretchItems parameters .variadicPositional ++ starItems parameters ++
    stretchItems parameters .keywordOnly

/-- The marks behind a parameter that is not passed by position alone. -/
def Marks.settled (keywordOnly : Bool) : Marks where
  atStart := false
  positionalOnly := false
  keywordOnly := keywordOnly

/-- Parameters that need no marker and leave the marks as they are stand side by side. -/
theorem parameterItems_run {marks : Marks} {run rest : List Parameter}
    (kept : ∀ parameter ∈ run, marks.slashBefore parameter = false ∧
      marks.starBefore parameter = false ∧ marks.behind parameter = marks) :
    parameterItems marks (run ++ rest) =
      run.map Item.ofParameter ++ parameterItems marks rest := by
  induction run with
  | nil => rfl
  | cons parameter run ih =>
    obtain ⟨hslash, hstar, hbehind⟩ := kept parameter List.mem_cons_self
    rw [List.cons_append, parameterItems, hslash, hstar, hbehind,
      ih fun other hother => kept other (List.mem_cons_of_mem _ hother)]
    rfl

/-- In front of what is not passed by position alone, marks decide on the slash and nothing else. -/
theorem parameterItems_settled {marks : Marks} {rest : List Parameter}
    (others : ∀ parameter ∈ rest, parameter.kind ≠ .positionalOnly)
    (unopened : marks.keywordOnly = false) :
    parameterItems marks rest =
      (if rest = [] ∨ (marks.positionalOnly && !marks.atStart) = false then [] else [.slash]) ++
        parameterItems (.settled false) rest := by
  cases rest with
  | nil => rfl
  | cons parameter rest =>
    have hkind : parameter.kind ≠ .positionalOnly := others parameter List.mem_cons_self
    have hslash : marks.slashBefore parameter = (marks.positionalOnly && !marks.atStart) := by
      rw [Marks.slashBefore, bne_iff_ne.mpr hkind, Bool.and_true]
    have hstar : marks.starBefore parameter = (Marks.settled false).starBefore parameter := by
      rw [Marks.starBefore, Marks.starBefore, unopened]
      rfl
    have hbehind : marks.behind parameter = (Marks.settled false).behind parameter := by
      simp [Marks.behind, Marks.settled, unopened, hkind]
    rw [parameterItems, parameterItems, hslash, hstar, hbehind,
      show (Marks.settled false).slashBefore parameter = false from rfl]
    cases marks.positionalOnly && !marks.atStart <;> simp

/-- A slash stands behind the parameters that are passed by position alone if something follows. -/
theorem parameterItems_slash {front rest : List Parameter}
    (alone : ∀ parameter ∈ front, parameter.kind = .positionalOnly)
    (others : ∀ parameter ∈ rest, parameter.kind ≠ .positionalOnly) :
    parameterItems {} (front ++ rest) =
      front.map Item.ofParameter ++ (if front = [] ∨ rest = [] then [] else [.slash]) ++
        parameterItems (.settled false) rest := by
  cases front with
  | nil =>
    rw [List.nil_append, parameterItems_settled others rfl]
    simp
  | cons parameter front =>
    have hkind : parameter.kind = .positionalOnly := alone parameter List.mem_cons_self
    have hslash : Marks.slashBefore {} parameter = false := by simp [Marks.slashBefore, hkind]
    have hstar : Marks.starBefore {} parameter = false := by simp [Marks.starBefore, hkind]
    have hbehind : Marks.behind {} parameter = ⟨false, true, false⟩ := by
      simp [Marks.behind, hkind]
    -- The first parameter starts the list; from then on the marks stay up to the end of the run.
    have kept : ∀ other ∈ front, (⟨false, true, false⟩ : Marks).slashBefore other = false ∧
        (⟨false, true, false⟩ : Marks).starBefore other = false ∧
        (⟨false, true, false⟩ : Marks).behind other = ⟨false, true, false⟩ := by
      intro other hother
      have hkind := alone other (List.mem_cons_of_mem _ hother)
      simp [Marks.slashBefore, Marks.starBefore, Marks.behind, hkind]
    rw [List.cons_append, parameterItems, hslash, hstar, hbehind, parameterItems_run kept,
      parameterItems_settled others rfl]
    simp

/-- Once parameters are passed by keyword, there are no more markers. -/
theorem parameterItems_opened (parameters : List Parameter) :
    parameterItems (.settled true) parameters = parameters.map Item.ofParameter := by
  have kept : ∀ parameter ∈ parameters, (Marks.settled true).slashBefore parameter = false ∧
      (Marks.settled true).starBefore parameter = false ∧
      (Marks.settled true).behind parameter = .settled true := fun _ _ => ⟨rfl, rfl, rfl⟩
  have hrun : parameterItems (.settled true) (parameters ++ []) = _ := parameterItems_run kept
  rwa [List.append_nil, parameterItems, List.append_nil] at hrun

/-- What does not open parameters that are passed by keyword needs no star. -/
theorem parameterItems_unopened {run rest : List Parameter}
    (unopening : ∀ parameter ∈ run,
      parameter.kind ≠ .keywordOnly ∧ parameter.kind ≠ .variadicPositional) :
    parameterItems (.settled false) (run ++ rest) =
      run.map Item.ofParameter ++ parameterItems (.settled false) rest := by
  refine parameterItems_run fun parameter hmem => ?_
  obtain ⟨hkeyword, hvariadic⟩ := unopening parameter hmem
  simp [Marks.slashBefore, Marks.starBefore, Marks.behind, Marks.settled, hkeyword, hvariadic]

/-- A star stands before the parameters that are passed by keyword alone, unless a variadic one
does. -/
theorem parameterItems_star {variadic keyword last : List Parameter}
    (hvariadic : ∀ parameter ∈ variadic, parameter.kind = .variadicPositional)
    (hkeyword : ∀ parameter ∈ keyword, parameter.kind = .keywordOnly)
    (hlast : ∀ parameter ∈ last, parameter.kind = .variadicKeyword) :
    parameterItems (.settled false) (variadic ++ (keyword ++ last)) =
      variadic.map Item.ofParameter ++ (if keyword = [] ∨ variadic ≠ [] then [] else [.star]) ++
        keyword.map Item.ofParameter ++ last.map Item.ofParameter := by
  cases variadic with
  | cons parameter variadic =>
    have hkind : parameter.kind = .variadicPositional := hvariadic parameter List.mem_cons_self
    have hstar : (Marks.settled false).starBefore parameter = false := by
      simp [Marks.starBefore, hkind]
    have hbehind : (Marks.settled false).behind parameter = .settled true := by
      simp [Marks.behind, Marks.settled, hkind]
    rw [List.cons_append, parameterItems, hstar, hbehind, parameterItems_opened]
    simp [Marks.slashBefore, Marks.settled]
  | nil =>
    cases keyword with
    | cons parameter keyword =>
      have hkind : parameter.kind = .keywordOnly := hkeyword parameter List.mem_cons_self
      have hstar : (Marks.settled false).starBefore parameter = true := by
        simp [Marks.starBefore, Marks.settled, hkind]
      have hbehind : (Marks.settled false).behind parameter = .settled true := by
        simp [Marks.behind, Marks.settled, hkind]
      rw [List.nil_append, List.cons_append, parameterItems, hstar, hbehind,
        parameterItems_opened]
      simp [Marks.slashBefore, Marks.settled]
    | nil =>
      have unopening : ∀ parameter ∈ last,
          parameter.kind ≠ .keywordOnly ∧ parameter.kind ≠ .variadicPositional := by
        intro parameter hmem
        rw [hlast parameter hmem]
        decide
      have hrun : parameterItems (.settled false) (last ++ []) = _ :=
        parameterItems_unopened unopening
      rw [List.append_nil, parameterItems, List.append_nil] at hrun
      rw [List.nil_append, List.nil_append, hrun]
      simp

section Signature

variable {parameters : List Parameter}

/-- What is written of a signature has three parts. -/
theorem parameterItems_eq (sorted : parameters.Pairwise MayPrecede) :
    parameterItems {} parameters = positionalItems parameters ++
      (keywordItems parameters ++ stretchItems parameters .variadicKeyword) := by
  let rest := stretch parameters .positionalOrKeyword ++ (stretch parameters .variadicPositional ++
    (stretch parameters .keywordOnly ++ stretch parameters .variadicKeyword))
  have hsplit : parameters = stretch parameters .positionalOnly ++ rest := by
    have := eq_flatMap_stretch sorted
    simpa only [Kind.all, List.flatMap_cons, List.flatMap_nil, List.append_nil] using this
  have others : ∀ parameter ∈ rest, parameter.kind ≠ .positionalOnly := by
    intro parameter hmem
    simp only [rest, List.mem_append] at hmem
    rcases hmem with h | h | h | h <;> rw [kind_of_mem_stretch h] <;> decide
  have hempty : rest = [] ↔ ∀ parameter ∈ parameters, parameter.kind = .positionalOnly := by
    constructor
    · intro h parameter hmem
      rw [hsplit, h, List.append_nil] at hmem
      exact kind_of_mem_stretch hmem
    · intro all
      refine List.eq_nil_iff_forall_not_mem.mpr fun parameter hmem => others parameter hmem ?_
      exact all parameter (hsplit ▸ List.mem_append_right _ hmem)
  have unopening : ∀ parameter ∈ stretch parameters .positionalOrKeyword,
      parameter.kind ≠ .keywordOnly ∧ parameter.kind ≠ .variadicPositional := by
    intro parameter hmem
    rw [kind_of_mem_stretch hmem]
    decide
  have hitems : parameterItems {} parameters =
      parameterItems {} (stretch parameters .positionalOnly ++ rest) := by rw [← hsplit]
  rw [hitems, parameterItems_slash (fun _ => kind_of_mem_stretch) others,
    parameterItems_unopened unopening, parameterItems_star (fun _ => kind_of_mem_stretch)
      (fun _ => kind_of_mem_stretch) (fun _ => kind_of_mem_stretch)]
  simp only [positionalItems, keywordItems, slashItems, starItems, stretchItems,
    List.map_eq_nil_iff, ne_eq, hempty, List.append_assoc]

/-! ### The line of a signature is in the grammar -/

theorem isPlain_of_mem_stretchItems (parameters : List Parameter) {kind : Kind}
    (plain : kind.isVariadic = false) :
    ∀ item ∈ stretchItems parameters kind, item.isPlain = true := by
  intro item hitem
  obtain ⟨parameter, hmem, rfl⟩ := List.mem_map.mp hitem
  rw [ofParameter_eq_of_plain (by rw [kind_of_mem_stretch hmem, plain])]
  rfl

theorem positionalPart_positionalItems (parameters : List Parameter) :
    PositionalPart (positionalItems parameters) := by
  have hfront : ∀ item ∈ stretchItems parameters .positionalOnly, item.isPlain = true :=
    isPlain_of_mem_stretchItems parameters rfl
  have hback : ∀ item ∈ stretchItems parameters .positionalOrKeyword, item.isPlain = true :=
    isPlain_of_mem_stretchItems parameters rfl
  rw [positionalItems, slashItems]
  split_ifs with hnone
  · refine .plain fun item hitem => ?_
    rw [List.append_nil, List.mem_append] at hitem
    exact hitem.elim (hfront item) (hback item)
  · rw [List.append_assoc]
    exact .slashed (fun h => hnone (.inl h)) hfront hback

/-- What is written of a kind that comes once at most. -/
theorem stretchItems_of_single {kind : Kind}
    (single : parameters.countP (·.kind = kind) ≤ 1) :
    stretchItems parameters kind = [] ∨
      ∃ parameter : Parameter, parameter.kind = kind ∧
        stretchItems parameters kind = [.ofParameter parameter] := by
  rw [List.countP_eq_length_filter, ← stretch] at single
  rw [stretchItems]
  rcases Nat.le_one_iff_eq_zero_or_eq_one.mp single with hnone | hone
  · rw [List.length_eq_zero_iff.mp hnone]
    exact .inl rfl
  · obtain ⟨parameter, hstretch⟩ := List.length_eq_one_iff.mp hone
    have hmem : parameter ∈ stretch parameters kind := by
      rw [hstretch]
      exact List.mem_singleton_self parameter
    rw [hstretch]
    exact .inr ⟨parameter, kind_of_mem_stretch hmem, rfl⟩

theorem keywordPart_keywordItems
    (single : parameters.countP (·.kind = .variadicPositional) ≤ 1) :
    KeywordPart (keywordItems parameters) := by
  have plain : ∀ item ∈ stretchItems parameters .keywordOnly, item.isPlain = true :=
    isPlain_of_mem_stretchItems parameters rfl
  rw [keywordItems, starItems]
  rcases stretchItems_of_single single with hnone | ⟨parameter, hkind, honly⟩
  · rw [hnone]
    split_ifs with hempty
    · rw [hempty.resolve_right (by simp)]
      exact .none
    · exact .star (fun h => hempty (.inl h)) plain
  · rw [honly, if_pos (.inr (by simp)), Item.ofParameter, hkind]
    exact .variadic plain

theorem lastPart_stretchItems
    (single : parameters.countP (·.kind = .variadicKeyword) ≤ 1) :
    LastPart (stretchItems parameters .variadicKeyword) := by
  rcases stretchItems_of_single single with hnone | ⟨parameter, hkind, honly⟩
  · rw [hnone]
    exact .none
  · rw [honly, Item.ofParameter, hkind]
    exact .keywords

/-- Markers have no names. -/
theorem filterMap_name?_parameterItems (marks : Marks) (parameters : List Parameter) :
    (parameterItems marks parameters).filterMap Item.name? = parameters.map (·.name) := by
  induction parameters generalizing marks with
  | nil => rfl
  | cons parameter rest ih =>
    have hname : (Item.ofParameter parameter).name? = some parameter.name := by
      rw [Item.ofParameter]
      cases parameter.kind <;> rfl
    rw [parameterItems, List.filterMap_append, List.filterMap_cons_some hname, ih, List.map_cons]
    split_ifs <;> rfl

/-- Without the slash, the first part of a signature has its positional parameters. -/
theorem filter_isPlain_positionalItems (sorted : parameters.Pairwise MayPrecede) :
    (positionalItems parameters).filter Item.isPlain =
      (parameters.filter (·.kind.isPositional)).map Item.ofParameter := by
  have hfront : (stretchItems parameters .positionalOnly).filter Item.isPlain =
      stretchItems parameters .positionalOnly :=
    List.filter_eq_self.mpr (isPlain_of_mem_stretchItems parameters rfl)
  have hback : (stretchItems parameters .positionalOrKeyword).filter Item.isPlain =
      stretchItems parameters .positionalOrKeyword :=
    List.filter_eq_self.mpr (isPlain_of_mem_stretchItems parameters rfl)
  have hslash : (slashItems parameters).filter Item.isPlain = [] := by
    rw [slashItems]
    split_ifs <;> rfl
  rw [positionalItems, List.filter_append, List.filter_append, hfront, hback, hslash,
    List.append_nil, filter_isPositional_eq sorted, List.map_append]
  rfl

/-- Positional parameters are written with their defaults. -/
theorem pairwise_hasDefault_iff (parameters : List Parameter) :
    ((parameters.filter (·.kind.isPositional)).map Item.ofParameter).Pairwise
        (fun first second => first.hasDefault = true → second.hasDefault = true) ↔
      DefaultsLast parameters := by
  have hdefault : ∀ parameter ∈ parameters.filter (·.kind.isPositional),
      (Item.ofParameter parameter).hasDefault = parameter.hasDefault := by
    intro parameter hmem
    have hkind := (List.mem_filter.mp hmem).2
    rw [ofParameter_eq_of_plain]
    · rfl
    · cases h : parameter.kind <;> rw [h] at hkind <;> first | rfl | cases hkind
  rw [List.pairwise_map, DefaultsLast]
  refine List.Pairwise.iff_of_mem fun hfirst hsecond => ?_
  rw [hdefault _ hfirst, hdefault _ hsecond]

/-- What is written of a signature is legal exactly if its parameters are. -/
theorem legal_parameterItems_iff (valid : signatureFault? parameters = none) :
    Legal (parameterItems {} parameters) ↔ LegalParameters parameters := by
  have sorted := signatureFault?_eq_none_iff.mp valid
  obtain ⟨-, single⟩ := signatureFault?_eq_none_iff_ordered.mp valid
  have hpositional := positionalPart_positionalItems parameters
  have hkeyword := keywordPart_keywordItems (single _ rfl)
  have hlast := lastPart_stretchItems (single _ rfl)
  have hdefaults :
      ((parameterItems {} parameters).takeWhile Item.isPositional).filter Item.isPlain =
        (parameters.filter (·.kind.isPositional)).map Item.ofParameter := by
    rw [parameterItems_eq sorted, hpositional.takeWhile_append hkeyword hlast,
      filter_isPlain_positionalItems sorted]
  rw [legalParameters_iff]
  constructor
  · rintro ⟨-, distinct, defaults⟩
    rw [filterMap_name?_parameterItems] at distinct
    rw [hdefaults, pairwise_hasDefault_iff] at defaults
    exact ⟨valid, distinct, defaults⟩
  · rintro ⟨-, distinct, defaults⟩
    refine ⟨⟨_, _, _, parameterItems_eq sorted, hpositional, hkeyword, hlast⟩, ?_, ?_⟩
    · rwa [filterMap_name?_parameterItems]
    · rwa [hdefaults, pairwise_hasDefault_iff]

end Signature

/-! ### The line -/

/-- A line declares one name with one parameter list. -/
theorem eq_of_line_eq {name other text text' : List Char} (hname : IsName name)
    (hother : IsName other) (h : name ++ '(' :: (text ++ [')', ':', ' ', '.', '.', '.']) =
      other ++ '(' :: (text' ++ [')', ':', ' ', '.', '.', '.'])) : name = other ∧ text = text' := by
  have htake {name : List Char} (hname : IsName name) (more : List Char) :
      (name ++ '(' :: more).takeWhile isNameChar = name := by
    rw [List.takeWhile_append_of_pos hname.2]
    exact List.append_nil name
  obtain rfl : name = other := by
    rw [← htake hname _, h, htake hother]
  exact ⟨rfl, List.append_cancel_right (List.cons.inj (List.append_cancel_left h)).2⟩

/-- **The line of a signature is legal exactly if its parameters are.** -/
theorem isLegalLine_functionLine_iff {function : Function} (name : IsName function.name.toList)
    (writable : ∀ parameter ∈ function.parameters, Writable parameter)
    (valid : signatureFault? function.parameters = none) :
    IsLegalLine (functionLine function).toList ↔ LegalParameters function.parameters := by
  rw [← legal_parameterItems_iff valid, toList_functionLine]
  constructor
  · rintro ⟨other, text, items, hline, hother, hread, legal⟩
    simp only [List.cons.injEq, true_and] at hline
    obtain ⟨rfl, rfl⟩ := eq_of_line_eq name hother hline
    rw [readItems_listText writable] at hread
    rwa [Option.some.inj hread]
  · intro legal
    exact ⟨_, _, _, rfl, name, readItems_listText writable, legal⟩

end Introspection.Stub
