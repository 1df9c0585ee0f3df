import Introspection.Proofs.Rust.Types
import Mathlib.Data.List.Forall2

/-!
# Erasing lifetimes from types

Lifetimes are erased from the text of a type, in two passes that know nothing of its grammar. On the
text of a type each pass changes lifetimes and nothing else: the first one drops those of references
and keeps the others, the second one takes the name of all that are left. So the two together erase
the type.

## What a pass may see

A pass works from left to right and looks ahead, so what it makes of a text depends on what stands
behind. Two things could go wrong. The word of a lifetime could go on behind the lifetime, and an
ampersand without a lifetime could be followed by an apostrophe, with blanks between or without. In
the text of a type neither happens: a lifetime is `Delimited`, as there is a bracket, a comma or a
blank behind it, and a type `Starts` with something else. `Rewrites` has the first of these as its
premise on the rest, and holds of every part of a type. This is one induction for both passes, over
what `IsPass` says of them.

## Main definitions

* `Rust.Rewrites` — what a pass makes of a part of a text, in front of anything
* `Rust.IsPass` — what a pass makes of ampersands, lifetimes and everything else

## Main results

* `Rust.IsPass.rewrites_text` — a pass changes the lifetimes of a type, whatever stands behind it
* `Rust.isPass_dropReferenceLifetimes`, `Rust.isPass_eraseNames` — what the two passes change
* `Rust.eraseLifetimes_text` — erasing lifetimes from a text erases those of the type
-/

namespace Introspection.Rust

open Introspection.Text (isBlank isWord isWordStart)

/-! ### Parts of a text -/

/-- A text does not go on with a word. -/
def Delimited (text : List Char) : Prop :=
  ∀ c ∈ text.head?, isWord c = false

theorem delimited_nil : Delimited [] := by
  rintro c ⟨⟩

theorem delimited_cons {c : Char} (h : isWord c = false) (rest : List Char) :
    Delimited (c :: rest) := by
  rintro d ⟨⟩
  exact h

/-- A pass makes one text of another, in front of anything that does not go on with a word. -/
def Rewrites (pass : List Char → List Char) (text result : List Char) : Prop :=
  ∀ rest, Delimited rest → pass (text ++ rest) = result ++ pass rest

section Rewrites

variable {pass : List Char → List Char} {text result text' result' : List Char}

theorem rewrites_nil : Rewrites pass [] [] :=
  fun _ _ => rfl

/-- Behind a part there may be another one that does not go on with a word. -/
theorem Rewrites.append {c : Char} (h : Rewrites pass text result) (hc : isWord c = false)
    (h' : Rewrites pass (c :: text') result') :
    Rewrites pass (text ++ c :: text') (result ++ result') := by
  intro rest hrest
  rw [List.append_assoc, List.append_assoc, ← h' rest hrest]
  exact h _ (delimited_cons hc _)

end Rewrites

/-! ### Passes -/

/-- What is copied character by character is copied as a whole. -/
theorem append_of_forall_copied {pass : List Char → List Char} {plain : List Char}
    (h : ∀ c ∈ plain, ∀ rest, pass (c :: rest) = c :: pass rest) (rest : List Char) :
    pass (plain ++ rest) = plain ++ pass rest := by
  induction plain with
  | nil => rfl
  | cons c plain ih =>
    obtain ⟨hc, hplain⟩ := List.forall_mem_cons.mp h
    rw [List.cons_append, hc, ih hplain, List.cons_append]

/-- No character of a name is one that cannot stand in a word. -/
theorem Name.ne_of_mem_text (name : Name) {c d : Char} (hc : c ∈ name.text)
    (hstart : isWordStart d = false) (hword : isWord d = false) : c ≠ d := by
  rintro rfl
  rcases List.mem_cons.mp hc with rfl | hc
  · rw [name.isWordStart_first] at hstart
    cases hstart
  · rw [name.isWord_rest c hc] at hword
    cases hword

/-- A pass changes the lifetimes of references in one way and all others in another, and it copies
everything else. -/
structure IsPass (pass : List Char → List Char) (reference : Option Name → Option Name)
    (other : Name → Name) : Prop where
  nil : pass [] = []
  copied : ∀ c rest, c ≠ '&' → c ≠ '\'' → pass (c :: rest) = c :: pass rest
  reference : ∀ lifetime rest, Starts rest →
    pass (referenceText lifetime ++ rest) = referenceText (reference lifetime) ++ pass rest
  lifetime : ∀ name, Rewrites pass (lifetimeText name) (lifetimeText (other name))
  length : ∀ (length : ArrayLength) rest,
    pass (length.text ++ ']' :: rest) = length.text ++ pass (']' :: rest)

section IsPass

variable {pass : List Char → List Char} {reference : Option Name → Option Name}
  {other : Name → Name} (h : IsPass pass reference other)
include h

theorem IsPass.cons {c : Char} {text result : List Char} (hc : c ≠ '&' ∧ c ≠ '\'')
    (rewrites : Rewrites pass text result) : Rewrites pass (c :: text) (c :: result) := by
  intro rest hrest
  rw [List.cons_append, h.copied c _ hc.1 hc.2, rewrites rest hrest, List.cons_append]

/-- A bracket, a comma or a blank ends a part. -/
theorem IsPass.append_singleton {c : Char} {text result : List Char} (hc : c ≠ '&' ∧ c ≠ '\'')
    (hword : isWord c = false) (rewrites : Rewrites pass text result) :
    Rewrites pass (text ++ [c]) (result ++ [c]) :=
  rewrites.append hword (h.cons hc rewrites_nil)

/-- What holds no ampersand and no apostrophe is copied. -/
theorem IsPass.plain_append {plain text result : List Char}
    (hplain : ∀ c ∈ plain, c ≠ '&' ∧ c ≠ '\'') (rewrites : Rewrites pass text result) :
    Rewrites pass (plain ++ text) (plain ++ result) := by
  intro rest hrest
  have hcopied : ∀ c ∈ plain, ∀ rest, pass (c :: rest) = c :: pass rest :=
    fun c hc rest => h.copied c rest (hplain c hc).1 (hplain c hc).2
  rw [List.append_assoc, append_of_forall_copied hcopied, rewrites rest hrest, List.append_assoc]

theorem IsPass.name_append (name : Name) {text result : List Char}
    (rewrites : Rewrites pass text result) :
    Rewrites pass (name.text ++ text) (name.text ++ result) :=
  h.plain_append (fun _ hc => ⟨name.ne_of_mem_text hc rfl rfl, name.ne_of_mem_text hc rfl rfl⟩)
    rewrites

theorem IsPass.intercalate {texts results : List (List Char)}
    (rewrites : List.Forall₂ (Rewrites pass) texts results) :
    Rewrites pass ([',', ' '].intercalate texts) ([',', ' '].intercalate results) := by
  induction rewrites with
  | nil => exact rewrites_nil
  | cons head tail ih =>
    cases tail with
    | nil =>
      rw [List.intercalate_singleton, List.intercalate_singleton]
      exact head
    | cons next tail =>
      rw [List.intercalate_cons_cons, List.intercalate_cons_cons, List.append_assoc,
        List.append_assoc]
      exact head.append rfl (h.cons (by decide) (h.cons (by decide) ih))

theorem IsPass.tupleText {texts results : List (List Char)}
    (rewrites : List.Forall₂ (Rewrites pass) texts results) :
    Rewrites pass (tupleText texts) (tupleText results) := by
  match rewrites with
  | .nil => exact h.intercalate .nil
  | .cons head .nil => exact h.append_singleton (by decide) rfl head
  | .cons head (.cons next tail) => exact h.intercalate (.cons head (.cons next tail))

theorem IsPass.genericText {texts results : List (List Char)}
    (rewrites : List.Forall₂ (Rewrites pass) texts results) :
    Rewrites pass (genericText texts) (genericText results) := by
  match rewrites with
  | .nil => exact rewrites_nil
  | .cons head tail =>
    exact h.cons (by decide) (h.append_singleton (by decide) rfl (h.intercalate (.cons head tail)))

/-- The target of a reference comes behind its lifetime, so it must not look like one. -/
theorem IsPass.referenceText_append (lifetime : Option Name) {text result : List Char}
    (starts : ∀ rest, Starts (text ++ rest)) (rewrites : Rewrites pass text result) :
    Rewrites pass (referenceText lifetime ++ text)
      (referenceText (reference lifetime) ++ result) := by
  intro rest hrest
  rw [List.append_assoc, h.reference lifetime _ (starts rest), rewrites rest hrest,
    List.append_assoc]

theorem IsPass.lengthText (length : ArrayLength) :
    Rewrites pass (length.text ++ [']']) (length.text ++ [']']) := by
  intro rest _
  rw [List.append_assoc, List.append_assoc, List.singleton_append, List.singleton_append,
    h.length length rest, h.copied ']' rest (by decide) (by decide)]

end IsPass

section Types

variable {pass : List Char → List Char} {reference : Option Name → Option Name}
  {other : Name → Name}

mutual

/-- A pass changes the lifetimes of a type. -/
theorem IsPass.rewrites_text (h : IsPass pass reference other) : ∀ type : TypeExpr,
    Rewrites pass type.text (type.mapLifetimes reference other).text
  | .path value => by
    rw [TypeExpr.mapLifetimes, TypeExpr.text, TypeExpr.text]
    exact h.rewrites_path value
  | .reference lifetime mutable target => by
    rw [TypeExpr.mapLifetimes, TypeExpr.text, TypeExpr.text]
    refine h.referenceText_append lifetime (TypeExpr.starts_mutableText mutable target) ?_
    exact h.plain_append (by cases mutable <;> simp [mutableText]) (h.rewrites_text target)
  | .tuple items => by
    rw [TypeExpr.mapLifetimes, TypeExpr.text, TypeExpr.text]
    refine h.cons (by decide) (h.append_singleton (by decide) rfl ?_)
    exact h.tupleText (h.rewrites_items items)
  | .slice item => by
    rw [TypeExpr.mapLifetimes, TypeExpr.text, TypeExpr.text]
    exact h.cons (by decide) (h.append_singleton (by decide) rfl (h.rewrites_text item))
  | .array item length => by
    rw [TypeExpr.mapLifetimes, TypeExpr.text, TypeExpr.text]
    refine h.cons (by decide) ((h.rewrites_text item).append rfl ?_)
    exact h.cons (by decide) (h.cons (by decide) (h.lengthText length))
  | .dynamic bound lifetime => by
    rw [TypeExpr.mapLifetimes, TypeExpr.text, TypeExpr.text]
    refine h.plain_append (by simp) ((h.rewrites_path bound).append rfl ?_)
    refine h.cons (by decide) (h.cons (by decide) (h.cons (by decide) ?_))
    exact h.append_singleton (by decide) rfl (h.lifetime lifetime)

theorem IsPass.rewrites_items (h : IsPass pass reference other) : ∀ items : List TypeExpr,
    List.Forall₂ (Rewrites pass) (itemTexts items) (itemTexts (mapItems reference other items))
  | [] => .nil
  | item :: items => .cons (h.rewrites_text item) (h.rewrites_items items)

theorem IsPass.rewrites_argument (h : IsPass pass reference other) : ∀ argument : Argument,
    Rewrites pass argument.text (argument.mapLifetimes reference other).text
  | .lifetime name => h.lifetime name
  | .type value => h.rewrites_text value

theorem IsPass.rewrites_arguments (h : IsPass pass reference other) : ∀ arguments : List Argument,
    List.Forall₂ (Rewrites pass) (argumentTexts arguments)
      (argumentTexts (mapArguments reference other arguments))
  | [] => .nil
  | argument :: arguments => .cons (h.rewrites_argument argument) (h.rewrites_arguments arguments)

theorem IsPass.rewrites_path (h : IsPass pass reference other) : ∀ path : Path,
    Rewrites pass path.text (path.mapLifetimes reference other).text
  | .last name arguments => by
    rw [Path.mapLifetimes, Path.text, Path.text]
    exact h.name_append name (h.genericText (h.rewrites_arguments arguments))
  | .step name arguments rest => by
    rw [Path.mapLifetimes, Path.text, Path.text]
    refine h.name_append name ((h.genericText (h.rewrites_arguments arguments)).append rfl ?_)
    exact h.cons (by decide) (h.cons (by decide) (h.rewrites_path rest))

end

/-- A pass that starts at the beginning of a type and goes to its end. -/
theorem IsPass.text_eq (h : IsPass pass reference other) (type : TypeExpr) :
    pass type.text = (type.mapLifetimes reference other).text := by
  have hend := h.rewrites_text type [] delimited_nil
  rwa [h.nil, List.append_nil, List.append_nil] at hend

end Types

/-! ### The lifetimes of references -/

/-- The word of a lifetime ends where the text does not go on with it. -/
theorem lifetimeName?_text (name : Name) {rest : List Char} (h : Delimited rest) :
    lifetimeName? (name.text ++ rest) = some rest := by
  have hrest : rest.dropWhile isWord = rest := by
    cases rest with
    | nil => rfl
    | cons c rest => exact List.dropWhile_cons_of_neg (by rw [h c rfl]; exact Bool.false_ne_true)
  rw [Name.text, List.cons_append, lifetimeName?, if_pos name.isWordStart_first,
    List.dropWhile_append_of_pos name.isWord_rest, hrest]

theorem dropWhile_isBlank_of_starts {text : List Char} (h : Starts text) :
    text.dropWhile isBlank = text := by
  obtain ⟨c, rest, rfl, hblank, -⟩ := h
  exact List.dropWhile_cons_of_neg (by rw [hblank]; exact Bool.false_ne_true)

theorem referenceText_some_append (name : Name) (rest : List Char) :
    referenceText (some name) ++ rest = '&' :: (lifetimeText name ++ ' ' :: rest) := by
  rw [referenceText, List.cons_append, List.append_assoc, List.singleton_append]

theorem referenceLifetime?_of_starts {text : List Char} (h : Starts text) :
    referenceLifetime? text = none := by
  rw [referenceLifetime?, dropWhile_isBlank_of_starts h]
  obtain ⟨c, rest, rfl, -, hquote⟩ := h
  split
  · next heq => exact absurd (List.cons.inj heq).1 hquote
  · rfl

/-- Behind the lifetime of a reference comes the target. -/
theorem referenceLifetime?_lifetimeText (name : Name) {rest : List Char} (h : Starts rest) :
    referenceLifetime? (lifetimeText name ++ ' ' :: rest) = some rest := by
  have hname : lifetimeName? (name.text ++ ' ' :: rest) = some (' ' :: rest) :=
    lifetimeName?_text name (delimited_cons rfl rest)
  have hblank : (' ' :: rest).dropWhile isBlank = rest := by
    rw [List.dropWhile_cons_of_pos rfl, dropWhile_isBlank_of_starts h]
  calc referenceLifetime? (lifetimeText name ++ ' ' :: rest)
      = (lifetimeName? (name.text ++ ' ' :: rest)).map (·.dropWhile isBlank) := rfl
    _ = some rest := by rw [hname, Option.map_some, hblank]

/-- There is no lifetime in a text without apostrophes, with a bracket behind it. -/
theorem referenceLifetime?_of_noApostrophe {plain : List Char} (h : '\'' ∉ plain)
    (rest : List Char) : referenceLifetime? (plain ++ ']' :: rest) = none := by
  induction plain with
  | nil => exact referenceLifetime?_of_starts ⟨']', rest, rfl, rfl, by decide⟩
  | cons c plain ih =>
    cases hblank : isBlank c with
    | true =>
      rw [List.cons_append, referenceLifetime?, List.dropWhile_cons_of_pos hblank]
      exact ih (List.not_mem_of_not_mem_cons h)
    | false =>
      exact referenceLifetime?_of_starts
        ⟨c, plain ++ ']' :: rest, rfl, hblank, (List.ne_of_not_mem_cons h).symm⟩

theorem dropReferenceLifetimes_cons {c : Char} (h : c ≠ '&') (rest : List Char) :
    dropReferenceLifetimes (c :: rest) = c :: dropReferenceLifetimes rest := by
  rw [dropReferenceLifetimes, if_neg h]

theorem dropReferenceLifetimes_of_none {rest : List Char} (h : referenceLifetime? rest = none) :
    dropReferenceLifetimes ('&' :: rest) = '&' :: dropReferenceLifetimes rest := by
  rw [dropReferenceLifetimes, if_pos rfl]
  split
  · next hsome =>
    rw [h] at hsome
    cases hsome
  · rfl

theorem dropReferenceLifetimes_of_some {rest after : List Char}
    (h : referenceLifetime? rest = some after) :
    dropReferenceLifetimes ('&' :: rest) = '&' :: dropReferenceLifetimes after := by
  rw [dropReferenceLifetimes, if_pos rfl]
  split
  · next hsome =>
    rw [h] at hsome
    cases hsome
    rfl
  · next hnone =>
    rw [h] at hnone
    cases hnone

theorem dropReferenceLifetimes_length {plain : List Char} (h : '\'' ∉ plain) (rest : List Char) :
    dropReferenceLifetimes (plain ++ ']' :: rest) =
      plain ++ dropReferenceLifetimes (']' :: rest) := by
  induction plain with
  | nil => rfl
  | cons c plain ih =>
    have hplain : '\'' ∉ plain := List.not_mem_of_not_mem_cons h
    have hcopied : dropReferenceLifetimes (c :: (plain ++ ']' :: rest)) =
        c :: dropReferenceLifetimes (plain ++ ']' :: rest) := by
      -- the length may end with an ampersand, and then the bracket behind it is looked at
      by_cases hc : c = '&'
      · subst hc
        exact dropReferenceLifetimes_of_none (referenceLifetime?_of_noApostrophe hplain rest)
      · exact dropReferenceLifetimes_cons hc _
    rw [List.cons_append, hcopied, ih hplain, List.cons_append]

/-- The first pass drops the lifetimes of references. -/
theorem isPass_dropReferenceLifetimes : IsPass dropReferenceLifetimes (fun _ => none) id where
  nil := by rw [dropReferenceLifetimes]
  copied _ rest hand _ := dropReferenceLifetimes_cons hand rest
  reference lifetime rest hstarts := by
    cases lifetime with
    | none => exact dropReferenceLifetimes_of_none (referenceLifetime?_of_starts hstarts)
    | some name =>
      rw [referenceText_some_append]
      exact dropReferenceLifetimes_of_some (referenceLifetime?_lifetimeText name hstarts)
  lifetime name rest _ := by
    refine append_of_forall_copied (fun c hc => dropReferenceLifetimes_cons ?_) rest
    rcases List.mem_cons.mp hc with rfl | hc
    · decide
    · exact name.ne_of_mem_text hc rfl rfl
  length length rest := dropReferenceLifetimes_length length.noApostrophe rest

/-! ### The names of lifetimes -/

theorem eraseNames_cons {c : Char} (h : c ≠ '\'') (rest : List Char) :
    eraseNames (c :: rest) = c :: eraseNames rest := by
  rw [eraseNames, if_neg fun hc => h hc.1]

/-- An underscore that is a word of its own does not go on with a word. -/
theorem eq_of_isUnnamed {c : Char} {rest : List Char} (h : isUnnamed (c :: rest) = true) :
    c = '_' ∧ Delimited rest := by
  unfold isUnnamed at h
  split at h
  · next heq =>
    cases heq
    exact ⟨rfl, delimited_cons ((Bool.not_eq_true' _).mp h) _⟩
  · next heq =>
    cases heq
    exact ⟨rfl, delimited_nil⟩
  · cases h

/-- Only a lifetime without a name starts with an underscore that is a word of its own. -/
theorem Name.text_of_isUnnamed (name : Name) {rest : List Char}
    (h : isUnnamed (name.text ++ rest) = true) : name.text = ['_'] := by
  obtain ⟨hfirst, hdelimited⟩ := eq_of_isUnnamed h
  rw [Name.text, hfirst]
  cases hword : name.rest with
  | nil => rfl
  | cons c word =>
    have hc : isWord c = true := name.isWord_rest c (hword ▸ List.mem_cons_self)
    rw [hword] at hdelimited
    rw [hdelimited c rfl] at hc
    cases hc

/-- The name of a lifetime is erased, as there is nothing behind it that goes on with it. -/
theorem eraseNames_lifetimeText (name : Name) :
    Rewrites eraseNames (lifetimeText name) (lifetimeText .unnamed) := by
  intro rest hrest
  cases hunnamed : isUnnamed (name.text ++ rest) with
  | true =>
    rw [lifetimeText, List.cons_append, eraseNames, if_neg (by simp [hunnamed]),
      name.text_of_isUnnamed hunnamed]
    exact congrArg ('\'' :: ·) (eraseNames_cons (by decide) rest)
  | false =>
    rw [lifetimeText, List.cons_append, eraseNames, if_pos ⟨rfl, hunnamed⟩]
    split
    · next hsome =>
      rw [lifetimeName?_text name hrest] at hsome
      cases hsome
      rfl
    · next hnone =>
      rw [lifetimeName?_text name hrest] at hnone
      cases hnone

/-- The second pass erases the names of all lifetimes. -/
theorem isPass_eraseNames : IsPass eraseNames (Option.map fun _ => .unnamed) fun _ => .unnamed where
  nil := by rw [eraseNames]
  copied _ rest _ hquote := eraseNames_cons hquote rest
  reference lifetime rest _ := by
    have hand : ∀ rest, eraseNames ('&' :: rest) = '&' :: eraseNames rest :=
      eraseNames_cons (by decide)
    cases lifetime with
    | none => exact hand rest
    | some name =>
      rw [Option.map_some, referenceText_some_append, referenceText_some_append, hand,
        eraseNames_lifetimeText name _ (delimited_cons rfl rest), eraseNames_cons (by decide)]
  lifetime name := eraseNames_lifetimeText name
  length length rest :=
    append_of_forall_copied
      (fun _ hc => eraseNames_cons fun heq => length.noApostrophe (heq ▸ hc)) _

/-! ### Types -/

/-- Erasing lifetimes from the text of a type gives the text of the erased type. References have no
lifetime, every other lifetime is unnamed, and nothing else is changed. -/
theorem eraseLifetimes_text (type : TypeExpr) :
    eraseLifetimes (String.ofList type.text) = String.ofList type.erased.text := by
  have hdrop : dropReferenceLifetimes type.text = (type.mapLifetimes (fun _ => none) id).text :=
    isPass_dropReferenceLifetimes.text_eq type
  have herase : eraseNames (type.mapLifetimes (fun _ => none) id).text = type.erased.text := by
    rw [isPass_eraseNames.text_eq, TypeExpr.mapLifetimes_mapLifetimes]
    rfl
  rw [eraseLifetimes, String.toList_ofList, hdrop, herase]

example : eraseLifetimes "(&'a mut [&'_ T], Cow<'static, str>)" =
    "(&mut [&T], Cow<'_, str>)" := by
  cbv

-- An array of three references, with its text and that of the erased type.
example :
    let item (lifetime : Option Name) : TypeExpr :=
      .reference lifetime false (.path (.last ⟨'T', [], rfl, by simp⟩ []))
    (TypeExpr.array (item (some .unnamed)) (.ofNat 3)).text = "[&'_ T; 3]".toList ∧
      (TypeExpr.array (item (some .unnamed)) (.ofNat 3)).erased.text = "[&T; 3]".toList := by
  decide

end Introspection.Rust
