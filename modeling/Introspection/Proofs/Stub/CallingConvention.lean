import Introspection.Proofs.Api.Signature
import Introspection.Proofs.Lists
import Introspection.Proofs.Text.Brackets
import Introspection.Proofs.Text.Trimming
import Introspection.Stub.Line

/-!
# The calling convention of a stub line

A stub line is read by the rule for `def`: its parameter list is split at the commas outside
brackets, what stands before a bare slash is passed by position alone, what stands behind a bare
star or a variadic positional parameter by keyword alone, and everything else either way. Read in
this way, the line of a function gives back its parameters with their kinds, defaults and
annotations, with one exception.

The slash is written in front of the first parameter that needs it. If all parameters are passed by
position alone there is no such parameter, so the slash is never written and the line is read as if
they were passed either way. `readLine_functionLine_iff` says that nothing else goes wrong.

## Main definitions

* `Stub.IsName`, `Stub.IsAnnotation` — what names and annotations have to be
* `Stub.Item` — a part of a parameter list
* `Stub.convention` — the parameters that a list of items declares
* `Stub.Marks.Fit` — the invariant along a parameter list
* `Stub.readLine` — the function that a line declares

## Main results

* `Stub.convention_parameterItems` — the markers stand where they are needed
* `Stub.writes_parameterTokens` — parameters are written as they are read
* `Stub.readLine_functionLine_iff`
-/

namespace Introspection.Stub

open Introspection.Api
open Introspection.Text (isBlank trim Tight Closed splitOutside inside closing? isClosing)

/-! ### Names and annotations -/

/-- A character of a name. Every character of an identifier is one: in ASCII these are letters,
digits and the underscore, and no identifier has blanks. -/
def isNameChar (c : Char) : Bool :=
  c.isAlphanum || c == '_' || (0x80 ≤ c.toNat && !isBlank c)

/-- A text is a name: it has characters, and all of them are ones of a name. -/
def IsName (text : List Char) : Prop :=
  text ≠ [] ∧ ∀ c ∈ text, isNameChar c = true

instance (text : List Char) : Decidable (IsName text) :=
  have : Decidable (∀ c ∈ text, isNameChar c = true) := List.decidableBAll _ _
  inferInstanceAs (Decidable (_ ∧ _))

/-- The characters that mean something in a parameter list, outside brackets. -/
def isMark (c : Char) : Bool :=
  c == ',' || c == '='

/-- A text can stand as an annotation: it is not empty, has no blanks at its ends, and its brackets
are closed, with no comma and no equals sign outside them. -/
structure IsAnnotation (text : List Char) : Prop where
  ne_nil : text ≠ []
  trimmed : trim text = text
  closed : Closed isMark [] text

/-- The names and annotations of a parameter can be written. -/
structure Writable (parameter : Parameter) : Prop where
  name : IsName parameter.name.toList
  hint : ∀ hint, parameter.hint = some hint → IsAnnotation hint.toList

theorem Writable.of_name {parameter : Parameter} (name : IsName parameter.name.toList)
    (bare : parameter.hint = none) : Writable parameter := by
  refine ⟨name, fun hint hhint => ?_⟩
  rw [bare] at hhint
  cases hhint

/-! ### Reading a line -/

/-- A part of a parameter list. -/
inductive Item where
  | slash
  | star
  | variadic (name : String)
  | keywords (name : String)
  | plain (name : String) (hint : Option String) (hasDefault : Bool)
deriving DecidableEq, Repr

/-- A plain parameter without its default: a name, and an annotation behind a colon. -/
def readDeclared (hasDefault : Bool) (text : List Char) : Option Item :=
  let name := trim (text.takeWhile (· != ':'))
  if IsName name then
    match text.dropWhile (· != ':') with
    | [] => some (.plain (String.ofList name) none hasDefault)
    | _ :: hint =>
      if trim hint = [] then none
      else some (.plain (String.ofList name) (some (String.ofList (trim hint))) hasDefault)
  else none

/-- A plain parameter: what stands in front of an equals sign, and the default behind it. -/
def readPlain (text : List Char) : Option Item :=
  match splitOutside '=' [] text with
  | some [declared] => readDeclared false declared
  | some [declared, default] =>
    if trim default = ['.', '.', '.'] then readDeclared true declared else none
  | _ => none

/-- What stands between two commas of a parameter list. -/
def readItem (text : List Char) : Option Item :=
  match trim text with
  | ['/'] => some .slash
  | ['*'] => some .star
  | '*' :: '*' :: name => if IsName name then some (.keywords (String.ofList name)) else none
  | '*' :: name => if IsName name then some (.variadic (String.ofList name)) else none
  | plain => readPlain plain

/-- The parameters that some items declare, `keywordOnly` telling whether a star or a variadic
positional parameter stands before them. -/
def convention (keywordOnly : Bool) : List Item → List Parameter
  | [] => []
  | .slash :: rest => convention keywordOnly rest
  | .star :: rest => convention true rest
  | .variadic name :: rest => ⟨name, .variadicPositional, false, none⟩ :: convention true rest
  | .keywords name :: rest => ⟨name, .variadicKeyword, false, none⟩ :: convention keywordOnly rest
  | .plain name hint hasDefault :: rest =>
    let kind : Kind :=
      if .slash ∈ rest then .positionalOnly
      else if keywordOnly then .keywordOnly
      else .positionalOrKeyword
    ⟨name, kind, hasDefault, hint⟩ :: convention keywordOnly rest

/-- The parts of a parameter list. -/
def readItems (text : List Char) : Option (List Item) :=
  if trim text = [] then some []
  else
    match splitOutside ',' [] text with
    | some parts => parts.mapM readItem
    | none => none

/-- The parameters of a parameter list. -/
def readParameters (text : List Char) : Option (List Parameter) :=
  if trim text = [] then some []
  else
    match splitOutside ',' [] text with
    | some parts => (parts.mapM readItem).map (convention false)
    | none => none

/-- The function that a line declares. -/
def readLine (line : List Char) : Option Function :=
  match line with
  | 'd' :: 'e' :: 'f' :: ' ' :: declared =>
    match declared.dropWhile isNameChar with
    | '(' :: list =>
      match inside [] list with
      | some (parameters, [':', ' ', '.', '.', '.']) =>
        (readParameters parameters).map
          (Function.mk (String.ofList (declared.takeWhile isNameChar)))
      | _ => none
    | _ => none
  | _ => none

/-! ### Markers

The text of the parameters is of no concern for the question where the markers stand. -/

/-- What is written of a parameter. -/
def Item.ofParameter (parameter : Parameter) : Item :=
  match parameter.kind with
  | .variadicPositional => .variadic parameter.name
  | .variadicKeyword => .keywords parameter.name
  | _ => .plain parameter.name parameter.hint parameter.hasDefault

/-- Parameters and the markers between them, in order. -/
def parameterItems (marks : Marks) : List Parameter → List Item
  | [] => []
  | parameter :: rest =>
    (if marks.slashBefore parameter then [.slash] else []) ++
      (if marks.starBefore parameter then [.star] else []) ++
      Item.ofParameter parameter :: parameterItems (marks.behind parameter) rest

/-- A parameter as it is shown: variadic ones have no default and no annotation. -/
def shown (parameter : Parameter) : Parameter :=
  if parameter.kind.isVariadic then { parameter with hasDefault := false, hint := none }
  else parameter

/-- The kinds of a signature come in their order. -/
theorem pairwise_of_signatureFault? {parameters : List Parameter}
    (valid : signatureFault? parameters = none) :
    parameters.Pairwise (·.kind.rank ≤ ·.kind.rank) :=
  (signatureFault?_eq_none_iff.mp valid).imp And.left

/-- Behind the first parameter a slash is still to come exactly if none has come and some parameter
needs it. -/
theorem slash_mem_parameterItems_iff {marks : Marks} {parameters : List Parameter}
    (started : marks.atStart = false) :
    .slash ∈ parameterItems marks parameters ↔
      marks.positionalOnly = true ∧ ∃ parameter ∈ parameters, parameter.kind ≠ .positionalOnly := by
  induction parameters generalizing marks with
  | nil => simp [parameterItems]
  | cons parameter rest ih =>
    have hitem : Item.slash ≠ Item.ofParameter parameter := by
      rw [Item.ofParameter]
      cases parameter.kind <;> simp
    rw [parameterItems, List.mem_append, List.mem_append, List.mem_cons, ih rfl]
    by_cases hkind : parameter.kind = .positionalOnly
    · simp [Marks.slashBefore, Marks.starBefore, Marks.behind, hkind, hitem]
    · cases hopen : marks.positionalOnly <;>
        simp [Marks.slashBefore, Marks.starBefore, Marks.behind, hkind, hitem, started, hopen]

theorem convention_slashBefore (keywordOnly slash : Bool) (items : List Item) :
    convention keywordOnly ((if slash then [.slash] else []) ++ items) =
      convention keywordOnly items := by
  cases slash <;> rfl

theorem convention_starBefore (keywordOnly star : Bool) (items : List Item) :
    convention keywordOnly ((if star then [.star] else []) ++ items) =
      convention (keywordOnly || star) items := by
  cases star
  · rw [Bool.or_false]
    rfl
  · rw [Bool.or_true]
    rfl

/-- A parameter is read as it is shown if the markers around it are the ones that its kind needs. -/
theorem convention_ofParameter {keywordOnly : Bool} {parameter : Parameter} {items : List Item}
    (slash : .slash ∈ items ↔ parameter.kind = .positionalOnly)
    (star : parameter.kind = .keywordOnly → keywordOnly = true)
    (either : parameter.kind = .positionalOrKeyword → keywordOnly = false) :
    convention keywordOnly (Item.ofParameter parameter :: items) =
      shown parameter ::
        convention (keywordOnly || parameter.kind == .variadicPositional) items := by
  have hbeq : (parameter.kind == .variadicPositional) =
      decide (parameter.kind = .variadicPositional) := rfl
  rw [hbeq]
  obtain ⟨name, kind, hasDefault, hint⟩ := parameter
  cases kind with
  | positionalOnly => simp [Item.ofParameter, convention, shown, Kind.isVariadic, slash]
  | positionalOrKeyword =>
    simp [Item.ofParameter, convention, shown, Kind.isVariadic, slash, either rfl]
  | variadicPositional => simp [Item.ofParameter, convention, shown, Kind.isVariadic]
  | keywordOnly => simp [Item.ofParameter, convention, shown, Kind.isVariadic, slash, star rfl]
  | variadicKeyword => simp [Item.ofParameter, convention, shown, Kind.isVariadic]

/-- Nothing but what is passed by position alone comes before what is passed by position alone. -/
theorem eq_positionalOnly_of_rank_le {kind other : Kind} (h : kind.rank ≤ other.rank)
    (h' : other = .positionalOnly) : kind = .positionalOnly := by
  subst h'
  cases kind <;> simp [Kind.rank] at h ⊢

/-- The marks say of the parameters so far what the order of kinds makes of it for those to come,
and any of those that is passed by position alone has one behind it that is not. -/
structure Marks.Fit (marks : Marks) (parameters : List Parameter) : Prop where
  sorted : parameters.Pairwise (·.kind.rank ≤ ·.kind.rank)
  closed : marks.positionalOnly = false →
    ∀ parameter ∈ parameters, parameter.kind ≠ .positionalOnly
  opened : marks.keywordOnly = true → ∀ parameter ∈ parameters, 2 ≤ parameter.kind.rank
  mixed : ∀ parameter ∈ parameters, parameter.kind = .positionalOnly →
    ∃ other ∈ parameters, other.kind ≠ .positionalOnly

section Fit

variable {marks : Marks} {parameter : Parameter} {rest : List Parameter}
  (fit : marks.Fit (parameter :: rest))
include fit

theorem Marks.Fit.rank_le {other : Parameter} (h : other ∈ rest) :
    parameter.kind.rank ≤ other.kind.rank :=
  (List.pairwise_cons.mp fit.sorted).1 other h

/-- The parameter that is not passed by position alone stands further behind. -/
theorem Marks.Fit.needed (hkind : parameter.kind = .positionalOnly) :
    ∃ other ∈ rest, other.kind ≠ .positionalOnly := by
  obtain ⟨other, hother, hne⟩ := fit.mixed parameter List.mem_cons_self hkind
  rcases List.mem_cons.mp hother with rfl | hother
  · exact absurd hkind hne
  · exact ⟨other, hother, hne⟩

/-- One parameter on, the marks fit again. -/
theorem Marks.Fit.behind : (marks.behind parameter).Fit rest where
  sorted := (List.pairwise_cons.mp fit.sorted).2
  closed := by
    intro h other hother hkind
    have hkind := eq_positionalOnly_of_rank_le (fit.rank_le hother) hkind
    have hopen : marks.positionalOnly = false := by simpa [Marks.behind, hkind] using h
    exact fit.closed hopen parameter List.mem_cons_self hkind
  opened := by
    intro h other hother
    refine le_trans ?_ (fit.rank_le hother)
    have hcases : (marks.keywordOnly = true ∨ parameter.kind = .keywordOnly) ∨
        parameter.kind = .variadicPositional := by
      simpa [Marks.behind] using h
    rcases hcases with (h | h) | h
    · exact fit.opened h parameter List.mem_cons_self
    · rw [h]
      decide
    · rw [h]
      decide
  mixed := by
    intro other hother hkind
    exact fit.needed (eq_positionalOnly_of_rank_le (fit.rank_le hother) hkind)

/-- A slash is still to come exactly behind a parameter that is passed by position alone. -/
theorem Marks.Fit.slash_mem_iff : .slash ∈ parameterItems (marks.behind parameter) rest ↔
    parameter.kind = .positionalOnly := by
  rw [slash_mem_parameterItems_iff rfl]
  constructor
  · rintro ⟨h, -⟩
    have h : marks.positionalOnly = true ∧ parameter.kind = .positionalOnly := by
      simpa [Marks.behind] using h
    exact h.2
  · intro hkind
    refine ⟨?_, fit.needed hkind⟩
    cases hopen : marks.positionalOnly with
    | true => simp [Marks.behind, hopen, hkind]
    | false => exact absurd hkind (fit.closed hopen parameter List.mem_cons_self)

end Fit

/-- The markers stand where they are needed. -/
theorem convention_parameterItems {marks : Marks} {parameters : List Parameter}
    (fit : marks.Fit parameters) :
    convention marks.keywordOnly (parameterItems marks parameters) = parameters.map shown := by
  induction parameters generalizing marks with
  | nil => rfl
  | cons parameter rest ih =>
    have hkeyword : parameter.kind = .keywordOnly →
        (marks.keywordOnly || marks.starBefore parameter) = true := by
      intro hkind
      cases h : marks.keywordOnly <;> simp [Marks.starBefore, hkind, h]
    have heither : parameter.kind = .positionalOrKeyword →
        (marks.keywordOnly || marks.starBefore parameter) = false := by
      intro hkind
      cases h : marks.keywordOnly with
      | false => simp [Marks.starBefore, hkind]
      | true => exact absurd (fit.opened h parameter List.mem_cons_self) (by rw [hkind]; decide)
    have hbehind : (marks.keywordOnly || marks.starBefore parameter ||
        parameter.kind == .variadicPositional) = (marks.behind parameter).keywordOnly := by
      cases h : marks.keywordOnly <;> simp [Marks.starBefore, Marks.behind, h]
    rw [parameterItems, List.append_assoc, convention_slashBefore, convention_starBefore,
      convention_ofParameter fit.slash_mem_iff hkeyword heither, hbehind, ih fit.behind,
      List.map_cons]

theorem parameterItems_of_positionalOnly {marks : Marks} {parameters : List Parameter}
    (all : ∀ parameter ∈ parameters, parameter.kind = .positionalOnly) :
    parameterItems marks parameters = parameters.map Item.ofParameter := by
  induction parameters generalizing marks with
  | nil => rfl
  | cons parameter rest ih =>
    rw [parameterItems, ih fun other hother => all other (List.mem_cons_of_mem _ hother)]
    simp [Marks.slashBefore, Marks.starBefore, all parameter List.mem_cons_self]

/-- Without a slash, what is passed by position alone is read as passed either way. -/
theorem convention_of_positionalOnly {parameters : List Parameter}
    (all : ∀ parameter ∈ parameters, parameter.kind = .positionalOnly) :
    convention false (parameters.map Item.ofParameter) =
      parameters.map fun parameter => { parameter with kind := .positionalOrKeyword } := by
  induction parameters with
  | nil => rfl
  | cons parameter rest ih =>
    have hslash : .slash ∉ rest.map Item.ofParameter := by
      intro hmem
      obtain ⟨other, hother, heq⟩ := List.mem_map.mp hmem
      rw [Item.ofParameter, all other (List.mem_cons_of_mem _ hother)] at heq
      cases heq
    rw [List.map_cons, List.map_cons, Item.ofParameter, all parameter List.mem_cons_self,
      convention, if_neg hslash, ih fun other hother => all other (List.mem_cons_of_mem _ hother)]
    rfl

/-! ### The text of a parameter -/

theorem ne_of_isNameChar {c d : Char} (h : isNameChar c = true) (hd : isNameChar d = false) :
    c ≠ d := by
  rintro rfl
  rw [h] at hd
  cases hd

theorem isBlank_of_isNameChar {c : Char} (h : isNameChar c = true) : isBlank c = false := by
  have hcases : (c.isAlphanum = true ∨ c = '_') ∨ 0x80 ≤ c.toNat ∧ isBlank c = false := by
    simpa [isNameChar] using h
  rcases hcases with (h | rfl) | ⟨-, h⟩
  · exact Text.isBlank_of_isAlphanum h
  · rfl
  · exact h

/-- The characters of a name mean nothing else in a parameter list. -/
theorem closed_of_isName {text : List Char} (h : IsName text) : Closed isMark [] text := by
  refine Text.closed_of_forall fun c hc => ?_
  have hc := h.2 c hc
  refine ⟨?_, ?_, ?_⟩
  · simp [isMark, ne_of_isNameChar hc (show isNameChar ',' = false from rfl),
      ne_of_isNameChar hc (show isNameChar '=' = false from rfl)]
  · rw [closing?] <;> exact ne_of_isNameChar hc rfl
  · simp [isClosing, ne_of_isNameChar hc (show isNameChar ')' = false from rfl),
      ne_of_isNameChar hc (show isNameChar ']' = false from rfl),
      ne_of_isNameChar hc (show isNameChar '\x7d' = false from rfl)]

theorem tight_of_isName {text : List Char} (h : IsName text) : Tight text :=
  Text.tight_of_forall fun c hc => isBlank_of_isNameChar (h.2 c hc)

/-- A name is read up to any blanks behind it. -/
theorem readDeclared_name {name blanks : List Char} (hname : IsName name)
    (hblanks : ∀ c ∈ blanks, isBlank c = true) (hasDefault : Bool) :
    readDeclared hasDefault (name ++ blanks) =
      some (.plain (String.ofList name) none hasDefault) := by
  have hcolon : ∀ c ∈ name ++ blanks, (c != ':') = true := by
    intro c hc
    rcases List.mem_append.mp hc with hc | hc
    · simpa using ne_of_isNameChar (hname.2 c hc) (show isNameChar ':' = false from rfl)
    · rw [bne_iff_ne]
      rintro rfl
      exact absurd (hblanks _ hc) (by decide)
  have hdrop : (name ++ blanks).dropWhile (· != ':') = [] := List.dropWhile_eq_nil_iff.mpr hcolon
  have htake : (name ++ blanks).takeWhile (· != ':') = name ++ blanks :=
    List.takeWhile_eq_self_iff.mpr hcolon
  have htrim : trim ([] ++ (name ++ blanks)) = name :=
    Text.trim_blanks_append (by simp) (tight_of_isName hname) hblanks
  rw [List.nil_append] at htrim
  simp only [readDeclared, htake, htrim, hdrop, if_pos hname]

/-- A name with an annotation is read up to any blanks behind it. -/
theorem readDeclared_hint {name hint blanks : List Char} (hname : IsName name)
    (hhint : IsAnnotation hint) (hblanks : ∀ c ∈ blanks, isBlank c = true) (hasDefault : Bool) :
    readDeclared hasDefault (name ++ ':' :: ' ' :: (hint ++ blanks)) =
      some (.plain (String.ofList name) (some (String.ofList hint)) hasDefault) := by
  have hcolon : ∀ c ∈ name, (c != ':') = true := by
    intro c hc
    simpa using ne_of_isNameChar (hname.2 c hc) (show isNameChar ':' = false from rfl)
  have hdrop : (name ++ ':' :: ' ' :: (hint ++ blanks)).dropWhile (· != ':') =
      ':' :: ' ' :: (hint ++ blanks) := List.dropWhile_append_of_pos hcolon
  have htake : (name ++ ':' :: ' ' :: (hint ++ blanks)).takeWhile (· != ':') = name := by
    rw [List.takeWhile_append_of_pos hcolon]
    exact List.append_nil name
  have htrim : trim ([' '] ++ (hint ++ blanks)) = hint :=
    Text.trim_blanks_append Text.blank_space (Text.tight_of_trim hhint.trimmed) hblanks
  have htrim' : trim (' ' :: (hint ++ blanks)) = hint := htrim
  simp only [readDeclared, htake, Text.trim_of_tight (tight_of_isName hname), hdrop, htrim',
    if_pos hname, if_neg hhint.ne_nil]

/-- A plain parameter without its default. -/
def declaredText (parameter : Parameter) : List Char :=
  parameter.name.toList ++
    match parameter.hint with
    | some hint => ':' :: ' ' :: hint.toList
    | none => []

/-- A part of a parameter list is written: its brackets are closed with no comma outside them, it
has no blanks at its ends, and it is read as an item. -/
structure Writes (text : List Char) (item : Item) : Prop where
  closed : Closed (· == ',') [] text
  tight : Tight text
  ne_nil : text ≠ []
  read : readItem text = some item

section Parameter

variable {parameter : Parameter} (writable : Writable parameter)
include writable

theorem Writable.closed_declaredText : Closed isMark [] (declaredText parameter) := by
  rw [declaredText]
  refine (closed_of_isName writable.name).append ?_
  split
  · next hint hhint =>
    have hcolon : Closed isMark [] [':', ' '] := by decide
    exact hcolon.append (writable.hint hint hhint).closed
  · rfl

theorem Writable.tight_declaredText : Tight (declaredText parameter) := by
  have hname := tight_of_isName writable.name
  rw [declaredText]
  split
  · next hint hhint =>
    have annotation := writable.hint hint hhint
    have htight : Tight (parameter.name.toList ++ [':', ' '] ++ hint.toList) :=
      hname.append writable.name.1 (Text.tight_of_trim annotation.trimmed) annotation.ne_nil
    rwa [List.append_assoc] at htight
  · rwa [List.append_nil]

theorem Writable.declaredText_eq_cons :
    ∃ c rest, declaredText parameter = c :: rest ∧ isNameChar c = true := by
  obtain ⟨c, rest, hname⟩ := List.exists_cons_of_ne_nil writable.name.1
  refine ⟨c, _, by rw [declaredText, hname]; rfl, ?_⟩
  exact writable.name.2 c (by rw [hname]; exact List.mem_cons_self)

/-- A plain parameter without its default is read up to any blanks behind it. -/
theorem Writable.readDeclared_declaredText {blanks : List Char}
    (hblanks : ∀ c ∈ blanks, isBlank c = true) (hasDefault : Bool) :
    readDeclared hasDefault (declaredText parameter ++ blanks) =
      some (.plain parameter.name parameter.hint hasDefault) := by
  rw [declaredText]
  split
  · next hint hhint =>
    rw [List.append_assoc]
    have := readDeclared_hint writable.name (writable.hint hint hhint) hblanks hasDefault
    rwa [String.ofList_toList, String.ofList_toList, ← hhint] at this
  · next hhint =>
    rw [List.append_nil, hhint]
    have := readDeclared_name writable.name hblanks hasDefault
    rwa [String.ofList_toList] at this

theorem Writable.readPlain_declaredText :
    readPlain (declaredText parameter) = some (.plain parameter.name parameter.hint false) := by
  have hclosed : Closed (· == '=') [] (declaredText parameter) :=
    writable.closed_declaredText.mono fun c hc => by simp [isMark, eq_of_beq hc]
  have hread : readDeclared false (declaredText parameter ++ []) = _ :=
    writable.readDeclared_declaredText (by simp) false
  rw [List.append_nil] at hread
  rw [readPlain, Text.splitOutside_of_closed hclosed]
  exact hread

theorem Writable.readPlain_default :
    readPlain (declaredText parameter ++ [' ', '=', ' ', '.', '.', '.']) =
      some (.plain parameter.name parameter.hint true) := by
  have hclosed : Closed (· == '=') [] (declaredText parameter ++ [' ']) :=
    (writable.closed_declaredText.mono fun c hc => by simp [isMark, eq_of_beq hc]).append
      (by decide)
  have hsplit : splitOutside '=' []
      (declaredText parameter ++ [' '] ++ '=' :: [' ', '.', '.', '.']) =
      some [declaredText parameter ++ [' '], [' ', '.', '.', '.']] :=
    Text.splitOutside_append hclosed _
  rw [List.append_assoc] at hsplit
  have hread : readDeclared true (declaredText parameter ++ [' ']) = _ :=
    writable.readDeclared_declaredText Text.blank_space true
  rw [readPlain,
    show [' ', '=', ' ', '.', '.', '.'] = [' '] ++ '=' :: [' ', '.', '.', '.'] from rfl, hsplit]
  exact hread

end Parameter

/-- The default of a parameter, as it is written. -/
def defaultText (parameter : Parameter) : List Char :=
  if parameter.hasDefault then [' ', '=', ' ', '.', '.', '.'] else []

theorem parameterText_eq_of_plain {parameter : Parameter}
    (plain : parameter.kind.isVariadic = false) :
    (parameterText parameter).toList = declaredText parameter ++ defaultText parameter := by
  obtain ⟨name, kind, hasDefault, hint⟩ := parameter
  cases kind <;> simp [Kind.isVariadic] at plain <;>
    cases hint <;> cases hasDefault <;> simp [parameterText, declaredText, defaultText]

theorem ofParameter_eq_of_plain {parameter : Parameter}
    (plain : parameter.kind.isVariadic = false) : Item.ofParameter parameter =
      .plain parameter.name parameter.hint parameter.hasDefault := by
  rw [Item.ofParameter]
  cases hkind : parameter.kind <;> simp [hkind, Kind.isVariadic] at plain ⊢

/-- What begins with a character of a name is no marker and not variadic. -/
theorem readItem_of_isNameChar {c : Char} {rest : List Char} (hc : isNameChar c = true)
    (htight : Tight (c :: rest)) : readItem (c :: rest) = readPlain (c :: rest) := by
  have hslash : c ≠ '/' := ne_of_isNameChar hc rfl
  have hstar : c ≠ '*' := ne_of_isNameChar hc rfl
  rw [readItem, Text.trim_of_tight htight]
  split
  · next h => exact absurd (List.cons.inj h).1 hslash
  · next h => exact absurd (List.cons.inj h).1 hstar
  · next h => exact absurd (List.cons.inj h).1 hstar
  · next h => exact absurd (List.cons.inj h).1 hstar
  · rfl

/-- A plain parameter is written as it is read. -/
theorem Writable.writes_plain {parameter : Parameter} (writable : Writable parameter)
    (plain : parameter.kind.isVariadic = false) :
    Writes (parameterText parameter).toList (.ofParameter parameter) := by
  rw [parameterText_eq_of_plain plain, ofParameter_eq_of_plain plain, defaultText]
  obtain ⟨c, rest, htext, hc⟩ := writable.declaredText_eq_cons
  have hclosed : Closed (· == ',') [] (declaredText parameter) :=
    writable.closed_declaredText.mono fun c hc => by simp [isMark, eq_of_beq hc]
  have hne : declaredText parameter ≠ [] := by simp [htext]
  split
  · next hdefault =>
    have hdot : isBlank '.' = false := by decide
    have hdots : Tight ['.', '.', '.'] := Text.tight_of_forall (by simp [hdot])
    have htight : Tight (declaredText parameter ++ [' ', '=', ' '] ++ ['.', '.', '.']) :=
      writable.tight_declaredText.append hne hdots (by simp)
    rw [List.append_assoc] at htight
    refine ⟨hclosed.append (by decide), htight, by simp, ?_⟩
    have hread := writable.readPlain_default
    rw [htext] at htight hread ⊢
    rw [hdefault]
    exact (readItem_of_isNameChar hc htight).trans hread
  · next hdefault =>
    rw [List.append_nil]
    refine ⟨hclosed, writable.tight_declaredText, hne, ?_⟩
    have htight := writable.tight_declaredText
    have hread := writable.readPlain_declaredText
    rw [htext] at htight hread ⊢
    rw [readItem_of_isNameChar hc htight, hread, Bool.eq_false_iff.mpr hdefault]

/-- Stars in front of a name mean nothing for brackets and blanks. -/
theorem tight_stars {stars name : List Char} (hstars : ∀ c ∈ stars, c = '*') (hname : IsName name) :
    Tight (stars ++ name) := by
  refine Text.tight_of_forall fun c hc => ?_
  rcases List.mem_append.mp hc with hc | hc
  · rw [hstars c hc]
    rfl
  · exact isBlank_of_isNameChar (hname.2 c hc)

theorem closed_stars {stars name : List Char} (hstars : ∀ c ∈ stars, c = '*')
    (hname : IsName name) : Closed (· == ',') [] (stars ++ name) := by
  have hclosed : Closed (· == ',') [] stars := by
    refine Text.closed_of_forall fun c hc => ?_
    rw [hstars c hc]
    decide
  exact hclosed.append ((closed_of_isName hname).mono fun c hc => by simp [isMark, eq_of_beq hc])

theorem writes_variadic {name : String} (hname : IsName name.toList) :
    Writes ('*' :: name.toList) (.variadic name) := by
  have hstar : ∀ c ∈ ['*'], c = '*' := by simp
  have htight : Tight ('*' :: name.toList) := tight_stars hstar hname
  refine ⟨closed_stars hstar hname, htight, by simp, ?_⟩
  rw [readItem, Text.trim_of_tight htight]
  split
  · next h => cases h
  · next h => exact absurd (List.cons.inj h).2 hname.1
  · next rest h =>
    have hstar : isNameChar '*' = true := hname.2 '*' (by simp [(List.cons.inj h).2])
    exact absurd hstar (by decide)
  · next h =>
    rw [← (List.cons.inj h).2, if_pos hname, String.ofList_toList]
  · next hne => exact absurd rfl (hne _)

theorem writes_keywords {name : String} (hname : IsName name.toList) :
    Writes ('*' :: '*' :: name.toList) (.keywords name) := by
  have hstars : ∀ c ∈ ['*', '*'], c = '*' := by simp
  have htight : Tight ('*' :: '*' :: name.toList) := tight_stars hstars hname
  refine ⟨closed_stars hstars hname, htight, by simp, ?_⟩
  rw [readItem, Text.trim_of_tight htight]
  show (if IsName name.toList then _ else _) = _
  rw [if_pos hname, String.ofList_toList]

/-- Every parameter is written as it is read. -/
theorem Writable.writes {parameter : Parameter} (writable : Writable parameter) :
    Writes (parameterText parameter).toList (.ofParameter parameter) := by
  cases hvariadic : parameter.kind.isVariadic with
  | false => exact writable.writes_plain hvariadic
  | true =>
    obtain ⟨name, kind, hasDefault, hint⟩ := parameter
    cases kind with
    | variadicPositional =>
      have := writes_variadic writable.name
      simpa [parameterText, Item.ofParameter] using this
    | variadicKeyword =>
      have := writes_keywords writable.name
      simpa [parameterText, Item.ofParameter] using this
    | positionalOnly => cases hvariadic
    | positionalOrKeyword => cases hvariadic
    | keywordOnly => cases hvariadic

theorem writes_slash : Writes ['/'] .slash :=
  ⟨by decide, Text.tight_of_forall (List.forall_mem_singleton.mpr (by decide)), by simp, rfl⟩

theorem writes_star : Writes ['*'] .star :=
  ⟨by decide, Text.tight_of_forall (List.forall_mem_singleton.mpr (by decide)), by simp, rfl⟩

/-- Parameters and markers are written as they are read. -/
theorem writes_parameterTokens {marks : Marks} {parameters : List Parameter}
    (writable : ∀ parameter ∈ parameters, Writable parameter) :
    List.Forall₂ Writes ((parameterTokens marks parameters).map String.toList)
      (parameterItems marks parameters) := by
  induction parameters generalizing marks with
  | nil => exact .nil
  | cons parameter rest ih =>
    have hparameter := (writable parameter List.mem_cons_self).writes
    have hrest : List.Forall₂ Writes
        ((parameterTokens (marks.behind parameter) rest).map String.toList)
        (parameterItems (marks.behind parameter) rest) :=
      ih fun other hother => writable other (List.mem_cons_of_mem _ hother)
    rw [parameterTokens, parameterItems, List.map_append, List.map_append]
    refine List.rel_append (List.rel_append ?_ ?_) (.cons hparameter hrest)
    · split
      · exact .cons writes_slash .nil
      · exact .nil
    · split
      · exact .cons writes_star .nil
      · exact .nil

/-! ### The line -/

/-- Between two parts stand a comma and a blank; the blank is read as one of the next part. -/
theorem intercalate_eq (part : List Char) (parts : List (List Char)) :
    [',', ' '].intercalate (part :: parts) =
      [','].intercalate (part :: parts.map (' ' :: ·)) := by
  induction parts generalizing part with
  | nil => rw [List.map_nil, List.intercalate_singleton, List.intercalate_singleton]
  | cons next parts ih =>
    rw [List.map_cons, List.intercalate_cons_cons, List.intercalate_cons_cons, ih]
    cases parts with
    | nil => simp
    | cons other parts => simp [List.intercalate_cons_cons]

theorem readItem_blank (text : List Char) : readItem (' ' :: text) = readItem text := by
  have htrim : trim ([' '] ++ text) = trim text := by
    rw [trim, trim, Text.trimLeft_append_of_blank Text.blank_space]
  rw [readItem, readItem, ← htrim]
  rfl

theorem mapM_readItem {texts : List (List Char)} {items : List Item}
    (writes : List.Forall₂ Writes texts items) :
    (texts.map (' ' :: ·)).mapM readItem = some items := by
  induction writes with
  | nil => rfl
  | cons head _ ih =>
    rw [List.map_cons, List.mapM_cons, readItem_blank, head.read, ih]
    rfl

theorem Writes.closed_blank {text : List Char} {item : Item} (h : Writes text item) :
    Closed (· == ',') [] (' ' :: text) := by
  have hblank : Closed (· == ',') [] [' '] := by decide
  exact hblank.append h.closed

/-- The parts of a parameter list are read one by one. -/
theorem readItems_intercalate {texts : List (List Char)} {items : List Item}
    (writes : List.Forall₂ Writes texts items) :
    readItems ([',', ' '].intercalate texts) = some items := by
  cases writes with
  | nil => rfl
  | @cons text item texts items head tail =>
    have hclosed : ∀ part ∈ text :: texts.map (' ' :: ·), Closed (· == ',') [] part := by
      intro part hpart
      rcases List.mem_cons.mp hpart with rfl | hpart
      · exact head.closed
      · obtain ⟨other, hother, rfl⟩ := List.mem_map.mp hpart
        obtain ⟨_, -, h⟩ := exists_of_forall₂ tail hother
        exact h.closed_blank
    have hsplit := Text.splitOutside_intercalate hclosed
    have hne : trim ([','].intercalate (text :: texts.map (' ' :: ·))) ≠ [] := by
      obtain ⟨c, rest, rfl⟩ := List.exists_cons_of_ne_nil head.ne_nil
      cases texts with
      | nil =>
        rw [List.map_nil, List.intercalate_singleton]
        exact Text.trim_ne_nil (head.tight.first c rest rfl) _
      | cons other texts =>
        rw [List.map_cons, List.intercalate_cons_cons]
        exact Text.trim_ne_nil (head.tight.first c rest rfl) _
    rw [readItems, intercalate_eq, if_neg hne, hsplit]
    dsimp only
    rw [List.mapM_cons, head.read, mapM_readItem tail]
    rfl

/-- The parameters of a list are those that its parts declare. -/
theorem readParameters_eq (text : List Char) :
    readParameters text = (readItems text).map (convention false) := by
  rw [readParameters, readItems]
  split_ifs with hempty
  · rfl
  · cases splitOutside ',' [] text <;> rfl

/-- The brackets of a parameter list are closed. -/
theorem closed_intercalate {texts : List (List Char)} {items : List Item}
    (writes : List.Forall₂ Writes texts items) :
    Closed (fun _ => false) [] ([',', ' '].intercalate texts) := by
  induction writes with
  | nil => rfl
  | @cons text item texts items head tail ih =>
    have hclosed : Closed (fun _ => false) [] text := head.closed.mono fun c hc => by cases hc
    cases texts with
    | nil =>
      rw [List.intercalate_singleton]
      exact hclosed
    | cons other texts =>
      rw [List.intercalate_cons_cons]
      exact (hclosed.append (by decide)).append ih

/-- A line is read as its name and what its parameter list is read as. -/
theorem readLine_of_readParameters {name list : List Char} {parameters : List Parameter}
    (hname : IsName name) (closed : Closed (fun _ => false) [] list)
    (read : readParameters list = some parameters) :
    readLine ('d' :: 'e' :: 'f' :: ' ' ::
        (name ++ '(' :: (list ++ ')' :: [':', ' ', '.', '.', '.']))) =
      some ⟨String.ofList name, parameters⟩ := by
  have hdrop (more : List Char) : (name ++ '(' :: more).dropWhile isNameChar = '(' :: more :=
    List.dropWhile_append_of_pos hname.2
  have htake (more : List Char) : (name ++ '(' :: more).takeWhile isNameChar = name := by
    rw [List.takeWhile_append_of_pos hname.2]
    exact List.append_nil name
  have hinside : inside [] (list ++ [')', ':', ' ', '.', '.', '.']) =
      some (list, [':', ' ', '.', '.', '.']) := Text.inside_append closed _
  simp only [readLine, hdrop, htake, hinside, read, Option.map_some]

/-- The parameter list of a function, as it is written. -/
def listText (parameters : List Parameter) : List Char :=
  [',', ' '].intercalate ((parameterTokens {} parameters).map String.toList)

theorem toList_functionLine (function : Function) :
    (functionLine function).toList = 'd' :: 'e' :: 'f' :: ' ' ::
      (function.name.toList ++ '(' ::
        (listText function.parameters ++ ')' :: [':', ' ', '.', '.', '.'])) := by
  simp [functionLine, listText, String.toList_intercalate]

/-- A parameter list is read as its parameters and the markers between them. -/
theorem readItems_listText {parameters : List Parameter}
    (writable : ∀ parameter ∈ parameters, Writable parameter) :
    readItems (listText parameters) = some (parameterItems {} parameters) :=
  readItems_intercalate (writes_parameterTokens writable)

/-- What the line of a function is read as depends on its markers only. -/
theorem readLine_functionLine {function : Function} (name : IsName function.name.toList)
    (writable : ∀ parameter ∈ function.parameters, Writable parameter) :
    readLine (functionLine function).toList =
      some ⟨function.name, convention false (parameterItems {} function.parameters)⟩ := by
  have closed : Closed (fun _ => false) [] (listText function.parameters) :=
    closed_intercalate (writes_parameterTokens writable)
  have read : readParameters (listText function.parameters) =
      some (convention false (parameterItems {} function.parameters)) := by
    rw [readParameters_eq, readItems_listText writable, Option.map_some]
  rw [toList_functionLine, readLine_of_readParameters name closed read, String.ofList_toList]

/-- If all parameters of a function are passed by position alone, its line says that they are
passed either way. -/
theorem readLine_functionLine_of_positionalOnly {function : Function}
    (name : IsName function.name.toList)
    (writable : ∀ parameter ∈ function.parameters, Writable parameter)
    (all : ∀ parameter ∈ function.parameters, parameter.kind = .positionalOnly) :
    readLine (functionLine function).toList = some ⟨function.name, function.parameters.map
      fun parameter => { parameter with kind := .positionalOrKeyword }⟩ := by
  rw [readLine_functionLine name writable, parameterItems_of_positionalOnly all,
    convention_of_positionalOnly all]

/-- **The line of a function keeps its calling convention, unless all of its parameters are passed
by position alone.**

Reading the line gives back the parameters in order with their kinds, and the defaults and
annotations of those that are not variadic, exactly if there are no parameters at all or one of
them can be passed in another way than by position. -/
theorem readLine_functionLine_iff {function : Function} (name : IsName function.name.toList)
    (writable : ∀ parameter ∈ function.parameters, Writable parameter)
    (valid : signatureFault? function.parameters = none) :
    readLine (functionLine function).toList =
        some ⟨function.name, function.parameters.map shown⟩ ↔
      function.parameters = [] ∨
        ∃ parameter ∈ function.parameters, parameter.kind ≠ .positionalOnly := by
  constructor
  · intro h
    by_contra hnone
    rw [not_or] at hnone
    obtain ⟨hne, hnone⟩ := hnone
    have all : ∀ parameter ∈ function.parameters, parameter.kind = .positionalOnly := by
      intro parameter hmem
      by_contra hkind
      exact hnone ⟨parameter, hmem, hkind⟩
    rw [readLine_functionLine_of_positionalOnly name writable all] at h
    obtain ⟨parameter, rest, hparameters⟩ := List.exists_cons_of_ne_nil hne
    have hkind : parameter.kind = .positionalOnly := all parameter (by simp [hparameters])
    rw [hparameters, List.map_cons, List.map_cons] at h
    injection h with h
    injection h with _ h
    have hread : (shown parameter).kind = .positionalOrKeyword := by
      rw [← (List.cons.inj h).1]
    rw [shown, hkind] at hread
    exact absurd (hkind.symm.trans hread) (by decide)
  · intro h
    have mixed : ∀ parameter ∈ function.parameters, parameter.kind = .positionalOnly →
        ∃ other ∈ function.parameters, other.kind ≠ .positionalOnly := by
      intro parameter hmem _
      rcases h with h | h
      · rw [h] at hmem
        cases hmem
      · exact h
    have hconvention : convention (Marks.keywordOnly {}) (parameterItems {} function.parameters) =
        function.parameters.map shown :=
      convention_parameterItems ⟨pairwise_of_signatureFault? valid, (fun h => by cases h),
        (fun h => by cases h), mixed⟩
    rw [readLine_functionLine name writable]
    exact congrArg (fun parameters => some (Function.mk function.name parameters)) hconvention

/-- A function with parameters of all kinds but one. -/
def mixedFunction : Function where
  name := "f"
  parameters := [
    ⟨"a", .positionalOnly, false, some "dict[str, int]"⟩, ⟨"b", .positionalOrKeyword, true, none⟩,
    ⟨"args", .variadicPositional, false, none⟩, ⟨"c", .keywordOnly, true, some "(int)"⟩]

/-- The line of `mixedFunction` keeps its calling convention. -/
theorem readLine_functionLine_mixed :
    IsName mixedFunction.name.toList ∧
      (∀ parameter ∈ mixedFunction.parameters, Writable parameter) ∧
      signatureFault? mixedFunction.parameters = none ∧
      readLine (functionLine mixedFunction).toList =
        some ⟨mixedFunction.name, mixedFunction.parameters.map shown⟩ := by
  have hname : IsName mixedFunction.name.toList := by decide
  have hwritable : ∀ parameter ∈ mixedFunction.parameters, Writable parameter := by
    intro parameter hmem
    have hnames : ∀ parameter ∈ mixedFunction.parameters, IsName parameter.name.toList := by decide
    have hhints : ∀ parameter ∈ mixedFunction.parameters, ∀ hint ∈ parameter.hint,
        hint.toList ≠ [] ∧ trim hint.toList = hint.toList ∧ Closed isMark [] hint.toList := by
      decide
    refine ⟨hnames parameter hmem, fun hint hhint => ?_⟩
    obtain ⟨hne, htrim, hclosed⟩ := hhints parameter hmem hint hhint
    exact ⟨hne, htrim, hclosed⟩
  have hmixed : ∃ parameter ∈ mixedFunction.parameters, parameter.kind ≠ .positionalOnly := by
    decide
  exact ⟨hname, hwritable, rfl, (readLine_functionLine_iff hname hwritable rfl).mpr (.inr hmixed)⟩

/-- A parameter that is passed by position alone is read as one that is passed either way. -/
theorem readLine_functionLine_ne : ∃ function : Function,
    IsName function.name.toList ∧ (∀ parameter ∈ function.parameters, Writable parameter) ∧
      signatureFault? function.parameters = none ∧
      readLine (functionLine function).toList ≠
        some ⟨function.name, function.parameters.map shown⟩ := by
  refine ⟨⟨"f", [⟨"x", .positionalOnly, false, none⟩]⟩, by decide, ?_, rfl, by decide⟩
  intro parameter hmem
  rw [List.mem_singleton.mp hmem]
  exact ⟨by decide, fun _ h => by cases h⟩

end Introspection.Stub
