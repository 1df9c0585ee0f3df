import Introspection.Proofs.Json.Exactness
import Introspection.Proofs.Recovery.Loading

/-!
# The two forms of a document

A document loads to some fragments exactly if it is blank and there are none, if it is the text of
an array of them, or if it is a run of their texts with any white space between them. Both forms of
the same objects load to the same fragments. The forms are those of the grammar, so no reader is
mentioned in what a document is.

## What makes the scan exact

A run has no separators, and the scan has no other place to stop at than the one that the reader of
values returns. That this is where the object ends, and not before or behind it, is what the
grammar decides: a text in front of which an object is read begins with the text of one object, and
such a text is taken whole whatever follows it. White space is of two kinds. Between the texts of a
run it is that of the whole character set, inside of them it is that of JSON, and at the ends of an
array only the first kind can matter, as the second is part of it.

The scan takes at least one character with every value, so it is over after as many rounds as there
are characters. `runWithin` counts the rounds instead of measuring the text.

## Main definitions

* `Recovery.IsObject` — a text is that of an object
* `Recovery.runWithin` — the scan in a number of rounds
* `Recovery.Form` — the forms of a document

## Main results

* `Recovery.runWithin_eq` — the scan ends
* `Recovery.exists_of_readRun` — a text that is scanned is a run of texts of values
* `Recovery.loadTrimmed_eq_ok_iff` — what loads is in one of the forms
* `Recovery.load_forms`
-/

namespace Introspection.Recovery

open Introspection.Json (Answers Reads answers_iff isSpace readValue Grammar.Value)
open Introspection.Text (isBlank trim trimLeft trimRight)

/-! ### The texts of objects -/

/-- A text is that of an object, with nothing around it. -/
def IsObject (text : String) (fragment : Fragment) : Prop :=
  Json.Grammar.Value text.toList (.object fragment)

/-- An object is read in front of anything, as it is no number. -/
theorem IsObject.readsFragment {text : String} {fragment : Fragment} (h : IsObject text fragment) :
    ReadsFragment text fragment where
  reads := by
    refine ⟨h.starts, fun rest => h.answers rest fun number => ?_⟩
    obtain ⟨_, h⟩ | ⟨_, h⟩ := number.int_or_float <;> cases h
  braced := by
    rw [IsObject] at h
    generalize text.toList = inside at h
    cases h with
    | word h => simp [Json.words] at h
    | number h => obtain ⟨_, h⟩ | ⟨_, h⟩ := h.int_or_float <;> cases h
    | emptyObject space => exact ⟨_, rfl⟩
    | object h => exact ⟨_, rfl⟩

theorem readsFragments {texts : List String} {fragments : List Fragment}
    (h : List.Forall₂ IsObject texts fragments) : List.Forall₂ ReadsFragment texts fragments :=
  h.imp fun _ _ => IsObject.readsFragment

/-! ### The scan -/

/-- The scan of a run in a number of rounds, if they are enough. -/
def runWithin (text : List Char) : Nat → List Char → Option (Except Fault (List Json))
  | 0, _ => none
  | _ + 1, [] => some (.ok [])
  | rounds + 1, c :: cs =>
    match readValue (c :: cs) with
    | .error fault => some (.error (.invalidFragment (text.length - (c :: cs).length) fault text))
    | .ok taken =>
      match runWithin text rounds (trimLeft taken.rest) with
      | none => none
      | some (.ok values) => some (.ok (taken.value :: values))
      | some (.error fault) => some (.error fault)

/-- The scan ends: there are no more rounds than characters, and one for the end. -/
theorem runWithin_eq (text : List Char) {rest : List Char} {rounds : Nat}
    (h : rest.length < rounds) : runWithin text rounds rest = some (readRun text rest) := by
  induction rounds generalizing rest with
  | zero => cases h
  | succ rounds ih =>
    cases rest with
    | nil =>
      rw [readRun]
      rfl
    | cons c cs =>
      rw [runWithin, readRun]
      cases hread : readValue (c :: cs) with
      | error fault => rfl
      | ok taken =>
        obtain ⟨value, after, shorter⟩ := taken
        have hle : (trimLeft after).length ≤ after.length := (List.dropWhile_sublist _).length_le
        dsimp only
        rw [ih (by omega)]
        cases readRun text (trimLeft after) <;> rfl

/-- What is scanned is empty, or begins with a value and white space. -/
theorem readRun_cases {text rest : List Char} {values : List Json}
    (h : readRun text rest = .ok values) :
    (rest = [] ∧ values = []) ∨ ∃ value after others, values = value :: others ∧
      Answers (readValue rest) value after ∧ readRun text (trimLeft after) = .ok others := by
  rw [readRun.eq_def] at h
  split at h
  · cases h
    exact .inl ⟨rfl, rfl⟩
  · split at h
    · cases h
    · next value after shorter hvalue =>
      dsimp only at h
      split at h
      · next others hothers =>
        cases h
        exact .inr ⟨value, after, others, rfl, answers_iff.mpr ⟨shorter, hvalue⟩, hothers⟩
      · cases h

/-- Further white space in front of a document. -/
theorem Spaced.prepend {texts : List String} {blanks document : List Char}
    (blank : ∀ c ∈ blanks, isBlank c = true) (h : Spaced texts document) :
    Spaced texts (blanks ++ document) := by
  cases h with
  | last blank' => exact .last (List.forall_mem_append.mpr ⟨blank, blank'⟩)
  | more blank' tail =>
    rw [← List.append_assoc]
    exact .more (List.forall_mem_append.mpr ⟨blank, blank'⟩) tail

/-- What is scanned as objects holds their texts in order and nothing else. -/
theorem exists_of_readRun {text rest : List Char} {fragments : List Fragment}
    (h : readRun text rest = .ok (fragments.map .object)) :
    ∃ texts, Spaced texts rest ∧ List.Forall₂ IsObject texts fragments := by
  induction fragments generalizing rest with
  | nil =>
    obtain ⟨rfl, -⟩ | ⟨_, _, _, hvalues, -⟩ := readRun_cases h
    · exact ⟨[], .last (by simp), .nil⟩
    · cases hvalues
  | cons fragment fragments ih =>
    obtain ⟨-, hvalues⟩ | ⟨value, after, others, hvalues, hvalue, hothers⟩ := readRun_cases h
    · cases hvalues
    · cases hvalues
      obtain ⟨taken, htaken, rfl⟩ := Json.Grammar.exists_value hvalue
      obtain ⟨texts, spaced, objects⟩ := ih hothers
      have hobject : IsObject (String.ofList taken) fragment := by
        rwa [IsObject, String.toList_ofList]
      have hafter : Spaced texts after := by
        have hblank : ∀ c ∈ after.takeWhile isBlank, isBlank c = true := fun c hc =>
          List.mem_takeWhile_imp hc
        rw [← List.takeWhile_append_dropWhile (p := isBlank) (l := after)]
        exact spaced.prepend hblank
      have hnext : Spaced (String.ofList taken :: texts)
          ([] ++ ((String.ofList taken).toList ++ after)) := .more (List.forall_mem_nil _) hafter
      rw [String.toList_ofList] at hnext
      exact ⟨_, hnext, .cons hobject objects⟩

/-! ### Arrays -/

/-- The values that are fragments are objects. -/
theorem eq_of_asFragments {values : List Json} {fragments : List Fragment}
    (h : asFragments values = .ok fragments) : values = fragments.map .object := by
  induction values generalizing fragments with
  | nil =>
    cases h
    rfl
  | cons value values ih =>
    cases value with
    | object entries =>
      rw [asFragments] at h
      split at h
      · next others hothers =>
        cases h
        rw [ih hothers, List.map_cons]
      · cases h
    | _ => cases h

theorem isBlank_of_isSpace {c : Char} (h : isSpace c = true) : isBlank c = true := by
  simp only [isSpace, Bool.or_eq_true, beq_iff_eq] at h
  rcases h with ((rfl | rfl) | rfl) | rfl <;> decide

/-- A tight text that is a document has nothing around its value. -/
theorem parse_eq_ok_iff_of_tight {text : List Char} (tight : Text.Tight text) {value : Json} :
    Json.parse text = .ok value ↔ Json.Grammar.Value text value := by
  rw [Json.parse_eq_ok_iff]
  constructor
  · rintro ⟨before, taken, behind, rfl, spaceBefore, spaceBehind, h⟩
    have hbefore : before = [] := by
      cases before with
      | nil => rfl
      | cons c before =>
        have hc := isBlank_of_isSpace (spaceBefore c List.mem_cons_self)
        rw [tight.first c _ rfl] at hc
        cases hc
    have hbehind : behind = [] := by
      obtain rfl | ⟨behind, c, rfl⟩ := List.eq_nil_or_concat behind
      · rfl
      · have hc := isBlank_of_isSpace (spaceBehind c (by simp))
        rw [tight.last c (before ++ (taken ++ behind)) (by simp)] at hc
        cases hc
    rwa [hbefore, hbehind, List.append_nil, List.nil_append]
  · intro h
    exact ⟨[], text, [], by simp, Json.space_nil, Json.space_nil, h⟩

/-- A document whose text begins with a bracket is one array. -/
theorem loadTrimmed_bracket_iff {text : List Char} (tight : Text.Tight text)
    (bracket : ∃ rest, text = '[' :: rest) (fragments : List Fragment) :
    loadTrimmed text = .ok fragments ↔
      Json.Grammar.Value text (.array (fragments.map .object)) := by
  obtain ⟨rest, rfl⟩ := bracket
  rw [← parse_eq_ok_iff_of_tight tight, loadTrimmed]
  constructor
  · intro h
    split at h
    · cases h
    · next items hitems => rw [hitems, eq_of_asFragments h]
    · cases h
  · intro h
    rw [h]
    exact asFragments_objects fragments

/-- The text of an array begins with its bracket. -/
theorem exists_of_array {text : List Char} {items : List Json}
    (h : Json.Grammar.Value text (.array items)) : ∃ rest, text = '[' :: rest := by
  cases h with
  | word h => simp [Json.words] at h
  | number h => obtain ⟨_, h⟩ | ⟨_, h⟩ := h.int_or_float <;> cases h
  | emptyArray space => exact ⟨_, rfl⟩
  | array h => exact ⟨_, rfl⟩

/-! ### Both forms -/

/-- The forms in which a document without white space around it holds some fragments. -/
inductive Form : List Char → List Fragment → Prop
  | blank : Form [] []
  | array {text : List Char} {fragments : List Fragment}
      (h : Json.Grammar.Value text (.array (fragments.map .object))) : Form text fragments
  | run {texts : List String} {text : List Char} {fragments : List Fragment}
      (nonempty : texts ≠ []) (spaced : Spaced texts text)
      (objects : List.Forall₂ IsObject texts fragments) : Form text fragments

/-- A document whose text does not begin with a bracket is a run. -/
theorem loadTrimmed_run_iff {text : List Char} (hne : ∀ rest, text ≠ '[' :: rest)
    (fragments : List Fragment) :
    loadTrimmed text = .ok fragments ↔ readRun text text = .ok (fragments.map .object) := by
  rw [loadTrimmed.eq_2 _ hne]
  constructor
  · intro h
    split at h
    · cases h
    · next values hvalues => rw [hvalues, eq_of_asFragments h]
  · intro h
    rw [h]
    exact asFragments_objects fragments

theorem loadTrimmed_of_spaced {texts : List String} {text : List Char} {fragments : List Fragment}
    (tight : Text.Tight text) (spaced : Spaced texts text)
    (objects : List.Forall₂ IsObject texts fragments) : loadTrimmed text = .ok fragments := by
  have reads := readsFragments objects
  have hbrace := (spaced.trim reads).2
  rw [Text.trim_of_tight tight] at hbrace
  rw [loadTrimmed_run_iff]
  · have hrun := spaced.readRun reads text
    rwa [Text.trimLeft_of_tight tight] at hrun
  · rintro rest rfl
    rcases hbrace with hnil | ⟨rest', hbrace⟩
    · cases hnil
    · cases hbrace

theorem loadTrimmed_eq_ok_iff {text : List Char} (tight : Text.Tight text)
    (fragments : List Fragment) : loadTrimmed text = .ok fragments ↔ Form text fragments := by
  constructor
  · intro h
    by_cases hbracket : ∃ rest, text = '[' :: rest
    · exact .array ((loadTrimmed_bracket_iff tight hbracket fragments).mp h)
    · rw [loadTrimmed_run_iff (not_exists.mp hbracket)] at h
      obtain ⟨texts, spaced, objects⟩ := exists_of_readRun h
      cases objects with
      | nil =>
        -- a run of nothing is white space, of which there is none
        cases spaced with
        | last blank =>
          have hnil : text = [] := by
            rw [← Text.trimRight_of_tight tight]
            exact trimRight_of_blank blank
          rw [hnil]
          exact .blank
      | cons object objects => exact .run (List.cons_ne_nil _ _) spaced (.cons object objects)
  · intro h
    cases h with
    | blank =>
      rw [loadTrimmed_run_iff (by simp), readRun]
      rfl
    | array h => exact (loadTrimmed_bracket_iff tight (exists_of_array h) fragments).mpr h
    | run nonempty spaced objects => exact loadTrimmed_of_spaced tight spaced objects

/-- The texts of some objects with commas between them and brackets around them. -/
def arrayText (texts : List String) : String :=
  "[" ++ ",".intercalate texts ++ "]"

theorem toList_arrayText (texts : List String) :
    (arrayText texts).toList = '[' :: ([','].intercalate (texts.map String.toList) ++ [']']) := by
  simp [arrayText, String.toList_intercalate]

theorem tight_arrayText (texts : List String) : Text.Tight (arrayText texts).toList := by
  rw [toList_arrayText]
  constructor
  · rintro c rest ⟨⟩
    decide
  · intro c front h
    rw [← List.cons_append] at h
    obtain ⟨-, hlast⟩ := List.append_inj' h rfl
    cases hlast
    decide

/-- The text of an array is in the grammar, if the texts of its items are. -/
theorem value_arrayText {texts : List String} {fragments : List Fragment}
    (h : List.Forall₂ IsObject texts fragments) :
    Json.Grammar.Value (arrayText texts).toList (.array (fragments.map .object)) := by
  have hreads : List.Forall₂ Reads (texts.map String.toList) (fragments.map .object) := by
    rw [List.forall₂_map_left_iff, List.forall₂_map_right_iff]
    exact (readsFragments h).imp fun _ _ => ReadsFragment.reads
  obtain ⟨taken, htaken, heq⟩ := Json.Grammar.exists_value ((Json.reads_array hreads).answers [])
  rw [List.append_nil, List.append_nil] at heq
  rwa [toList_arrayText, heq]

theorem load_arrayText {texts : List String} {fragments : List Fragment}
    (h : List.Forall₂ IsObject texts fragments) : load (arrayText texts) = .ok fragments := by
  rw [load, Text.trim_of_tight (tight_arrayText texts)]
  exact (loadTrimmed_eq_ok_iff (tight_arrayText texts) fragments).mpr (.array (value_arrayText h))

/-- Loading ends, and loads the fragments that a document holds in one of the forms; both forms of
the same objects load to the same fragments. -/
theorem load_forms (document : String) :
    (∀ rounds, (trim document.toList).length < rounds →
      runWithin (trim document.toList) rounds (trim document.toList) =
        some (readRun (trim document.toList) (trim document.toList))) ∧
    (∀ fragments, load document = .ok fragments ↔ Form (trim document.toList) fragments) ∧
    ∀ texts fragments, List.Forall₂ IsObject texts fragments → Spaced texts document.toList →
      load document = .ok fragments ∧ load (arrayText texts) = .ok fragments := by
  refine ⟨fun rounds h => runWithin_eq _ h, fun fragments => ?_, fun texts fragments h spaced => ?_⟩
  · exact loadTrimmed_eq_ok_iff (Text.tight_trim _) fragments
  · exact ⟨load_of_spaced (readsFragments h) spaced, load_arrayText h⟩

/-- The texts of two objects. -/
def pairTexts : List String :=
  ["\x7b\x7d", "\x7b\"a\": NaN\x7d"]

/-- Two objects, one of them with a number that is none. -/
def pairFragments : List Fragment :=
  [[], [("a", .float .nan)]]

theorem isObject_pair : List.Forall₂ IsObject pairTexts pairFragments := by
  have nan : Json.Grammar.Value ['N', 'a', 'N'] (.float .nan) := .word (by simp [Json.words])
  have members : Json.Grammar.Members
      ([] ++ '"' :: (['a'] ++ '"' :: ([] ++ ':' :: ([' '] ++ (['N', 'a', 'N'] ++ [])))))
      [("a", .float .nan)] :=
    .last Json.space_nil (.char (by decide) (by decide) (by decide) .nil) Json.space_nil
      (List.forall_mem_singleton.mpr (by decide)) nan Json.space_nil
  exact .cons (.emptyObject Json.space_nil) (.cons (.object members) .nil)

/-- Behind one another with an em space between them, and in an array. -/
theorem load_forms_pair :
    List.Forall₂ IsObject pairTexts pairFragments ∧
    Spaced pairTexts "\x7b\x7d\u2003\x7b\"a\": NaN\x7d\n".toList ∧
    load "\x7b\x7d\u2003\x7b\"a\": NaN\x7d\n" = .ok pairFragments ∧
    load "[\x7b\x7d,\x7b\"a\": NaN\x7d]" = .ok pairFragments := by
  have spaced : Spaced pairTexts ([] ++ ("\x7b\x7d".toList ++
      (['\u2003'] ++ ("\x7b\"a\": NaN\x7d".toList ++ ['\n'])))) :=
    .more (List.forall_mem_nil _) (.more (List.forall_mem_singleton.mpr (by decide))
      (.last (List.forall_mem_singleton.mpr (by decide))))
  obtain ⟨-, -, both⟩ := load_forms "\x7b\x7d\u2003\x7b\"a\": NaN\x7d\n"
  obtain ⟨run, array⟩ := both pairTexts pairFragments isObject_pair spaced
  exact ⟨isObject_pair, spaced, run, array⟩

end Introspection.Recovery
