import Introspection.Proofs.Rust.Erasure

/-!
# Erasing lifetimes from any text

Lifetimes are erased from whatever text is given for a type, and nothing checks that it is one. This
file says what holds of any text.

## Seams

Both passes put characters next to text that they did not touch, and the second pass reads what the
first one left, so a lifetime could come into being at a seam. In this the two passes differ.

* An unnamed lifetime that is put in stands in front of the first character that does not belong to
  the word it replaces. So the underscore is a word of its own, and since the pass never changes the
  first character of what it goes on with, it stays one. A text is therefore `Nameless` after the
  second pass.
* An ampersand whose lifetime was dropped stands in front of what followed the lifetime, and that
  may be an apostrophe: of `&'a'b` the first pass leaves `&'b`. So references are the one thing that
  a second erasure may still find, and after the names are gone such a reference is to `'_`.

## Main definitions

* `Rust.NoName`, `Rust.Nameless` — no lifetime here, or anywhere, has a name
* `Rust.LifetimeAhead`, `Rust.HoldsReference` — an ampersand with a lifetime behind it

## Main results

* `Rust.nameless_eraseNames` — the second pass leaves no names
* `Rust.dropReferenceLifetimes_eq_self`, `Rust.length_dropReferenceLifetimes_lt` — the first pass
  changes a text if and only if it holds a reference with a lifetime
* `Rust.eraseLifetimes_eq_self_iff` — the texts that stay as they are
* `Rust.nameless_eraseLifetimes` — no name survives, and what a second erasure would change
-/

namespace Introspection.Rust

open Introspection.Text (isBlank isWord isWordStart)

/-! ### Lifetimes without a name -/

/-- What stands behind an apostrophe is no name: a word that starts here is an underscore alone. -/
def NoName (text : List Char) : Prop :=
  ∀ c rest, text = c :: rest → isWordStart c = true → c = '_' ∧ Delimited rest

/-- No lifetime of a text has a name, wherever its apostrophe stands. -/
def Nameless (text : List Char) : Prop :=
  ∀ rest, '\'' :: rest <:+ text → NoName rest

theorem nameless_nil : Nameless [] := by
  intro rest h
  exact absurd (List.suffix_nil.mp h) (List.cons_ne_nil _ _)

theorem nameless_cons_iff {c : Char} {text : List Char} :
    Nameless (c :: text) ↔ (c = '\'' → NoName text) ∧ Nameless text := by
  constructor
  · intro h
    refine ⟨?_, fun rest hrest => h rest (hrest.trans (List.suffix_cons c text))⟩
    rintro rfl
    exact h text (List.suffix_refl _)
  · rintro ⟨hfirst, htext⟩ rest hrest
    rcases List.suffix_cons_iff.mp hrest with heq | hrest
    · obtain ⟨rfl, rfl⟩ := List.cons.inj heq
      exact hfirst rfl
    · exact htext rest hrest

theorem nameless_of_not_mem {text : List Char} (h : '\'' ∉ text) : Nameless text := by
  intro rest hrest
  exact absurd (hrest.subset List.mem_cons_self) h

theorem isUnnamed_of_delimited {rest : List Char} (h : Delimited rest) :
    isUnnamed ('_' :: rest) = true := by
  cases rest with
  | nil => rfl
  | cons c rest =>
    show (!isWord c) = true
    rw [h c rfl]
    rfl

/-- The pass tells a name by looking for the underscore first and for a word only then. -/
theorem noName_iff {text : List Char} :
    NoName text ↔ isUnnamed text = true ∨ lifetimeName? text = none := by
  constructor
  · intro h
    cases text with
    | nil => exact .inr rfl
    | cons c rest =>
      by_cases hstart : isWordStart c = true
      · obtain ⟨rfl, hrest⟩ := h c rest rfl hstart
        exact .inl (isUnnamed_of_delimited hrest)
      · exact .inr (if_neg hstart)
  · rintro (h | h) c rest rfl hstart
    · exact eq_of_isUnnamed h
    · rw [lifetimeName?, if_pos hstart] at h
      cases h

/-! ### The second pass -/

/-- What follows the word of a lifetime does not go on with it. -/
theorem delimited_of_lifetimeName? {text rest : List Char} (h : lifetimeName? text = some rest) :
    Delimited rest := by
  cases text with
  | nil => cases h
  | cons c tail =>
    simp only [lifetimeName?, Option.ite_none_right_eq_some, Option.some.injEq] at h
    obtain ⟨-, rfl⟩ := h
    intro d hd
    have hnot := List.head?_dropWhile_not isWord tail
    rw [Option.mem_def.mp hd] at hnot
    exact hnot

/-- What comes first stays first. -/
theorem head?_eraseNames (text : List Char) : (eraseNames text).head? = text.head? := by
  fun_induction eraseNames text with
  | case1 => rfl
  | case2 c rest hc after hsome hlt ih => rw [hc.1]; rfl
  | case3 c rest hc hnone ih => rfl
  | case4 c rest hc ih => rfl

theorem Delimited.eraseNames {text : List Char} (h : Delimited text) :
    Delimited (eraseNames text) := by
  intro c hc
  rw [head?_eraseNames] at hc
  exact h c hc

theorem NoName.eraseNames {text : List Char} (h : NoName text) : NoName (eraseNames text) := by
  intro c rest heq hstart
  have hhead : text.head? = some c := by
    rw [← head?_eraseNames, heq]
    rfl
  obtain ⟨tail, rfl⟩ := List.head?_eq_some_iff.mp hhead
  obtain ⟨rfl, htail⟩ := h c tail rfl hstart
  rw [eraseNames_cons (by decide)] at heq
  obtain ⟨-, rfl⟩ := List.cons.inj heq
  exact ⟨rfl, htail.eraseNames⟩

theorem eraseNames_of_noName {rest : List Char} (h : NoName rest) :
    eraseNames ('\'' :: rest) = '\'' :: eraseNames rest := by
  rw [eraseNames]
  split
  · next hname =>
    have hnone : lifetimeName? rest = none :=
      (noName_iff.mp h).resolve_left (by rw [hname.2]; exact Bool.false_ne_true)
    split
    · next hsome =>
      rw [hnone] at hsome
      cases hsome
    · rfl
  · rfl

/-- The second pass leaves no names. -/
theorem nameless_eraseNames (text : List Char) : Nameless (eraseNames text) := by
  fun_induction eraseNames text with
  | case1 => exact nameless_nil
  | case2 c rest hc after hsome hlt ih =>
    -- the word of the lifetime is taken as a whole, so the underscore stands alone
    have hunnamed : NoName ('_' :: eraseNames after) := by
      rintro d tail heq -
      obtain ⟨rfl, rfl⟩ := List.cons.inj heq
      exact ⟨rfl, (delimited_of_lifetimeName? hsome).eraseNames⟩
    refine nameless_cons_iff.mpr ⟨fun _ => hunnamed, nameless_cons_iff.mpr ⟨?_, ih⟩⟩
    intro heq
    cases heq
  -- an apostrophe that is copied has no name behind it, and erasing the rest does not make one
  | case3 c rest hc hnone ih =>
    exact nameless_cons_iff.mpr ⟨fun _ => (noName_iff.mpr (.inr hnone)).eraseNames, ih⟩
  | case4 c rest hc ih =>
    refine nameless_cons_iff.mpr ⟨?_, ih⟩
    rintro rfl
    have hunnamed : isUnnamed rest = true := by
      rw [← Bool.not_eq_false]
      exact fun hfalse => hc ⟨rfl, hfalse⟩
    exact (noName_iff.mpr (.inl hunnamed)).eraseNames

/-- Where there are no names, the second pass has nothing to do. -/
theorem eraseNames_eq_self {text : List Char} (h : Nameless text) : eraseNames text = text := by
  induction text with
  | nil => rw [eraseNames]
  | cons c rest ih =>
    obtain ⟨hfirst, hrest⟩ := nameless_cons_iff.mp h
    by_cases hc : c = '\''
    · subst hc
      rw [eraseNames_of_noName (hfirst rfl), ih hrest]
    · rw [eraseNames_cons hc, ih hrest]

/-- An underscore is no longer than the word that it replaces. -/
theorem length_eraseNames_le (text : List Char) : (eraseNames text).length ≤ text.length := by
  fun_induction eraseNames text with
  | case1 => exact Nat.le_refl 0
  | case2 c rest hc after hsome hlt ih =>
    simp only [List.length_cons]
    omega
  | case3 c rest hc hnone ih => exact Nat.succ_le_succ ih
  | case4 c rest hc ih => exact Nat.succ_le_succ ih

/-! ### References with a lifetime -/

/-- A text starts with a lifetime, blanks in front of it apart. The lifetime is told by its first
character. -/
def LifetimeAhead (first : Char) (text : List Char) : Prop :=
  ∃ blanks rest, (∀ c ∈ blanks, isBlank c = true) ∧ text = blanks ++ '\'' :: first :: rest

/-- Some ampersand of a text has a lifetime behind it, with nothing but blanks between. -/
def HoldsReference (first : Char) (text : List Char) : Prop :=
  ∃ rest, '&' :: rest <:+ text ∧ LifetimeAhead first rest

theorem lifetimeAhead_iff {first : Char} {text : List Char} :
    LifetimeAhead first text ↔ ['\'', first] <+: text.dropWhile isBlank := by
  constructor
  · rintro ⟨blanks, rest, hblanks, rfl⟩
    rw [List.dropWhile_append_of_pos hblanks,
      List.dropWhile_cons_of_neg (show ¬ isBlank '\'' = true by decide)]
    exact List.prefix_append ['\'', first] rest
  · rintro ⟨rest, hrest⟩
    refine ⟨text.takeWhile isBlank, rest, fun c hc => List.mem_takeWhile_imp hc, ?_⟩
    calc text = text.takeWhile isBlank ++ text.dropWhile isBlank :=
          (List.takeWhile_append_dropWhile ..).symm
      _ = text.takeWhile isBlank ++ '\'' :: first :: rest := by rw [← hrest]; rfl

theorem holdsReference_cons_iff {first c : Char} {text : List Char} :
    HoldsReference first (c :: text) ↔
      (c = '&' ∧ LifetimeAhead first text) ∨ HoldsReference first text := by
  constructor
  · rintro ⟨rest, hrest, hahead⟩
    rcases List.suffix_cons_iff.mp hrest with heq | hrest
    · obtain ⟨rfl, rfl⟩ := List.cons.inj heq
      exact .inl ⟨rfl, hahead⟩
    · exact .inr ⟨rest, hrest, hahead⟩
  · rintro (⟨rfl, hahead⟩ | ⟨rest, hrest, hahead⟩)
    · exact ⟨text, List.suffix_refl _, hahead⟩
    · exact ⟨rest, hrest.trans (List.suffix_cons c text), hahead⟩

theorem not_holdsReference_nil (first : Char) : ¬ HoldsReference first [] := by
  rintro ⟨rest, hrest, -⟩
  exact absurd (List.suffix_nil.mp hrest) (List.cons_ne_nil _ _)

instance (first : Char) (text : List Char) : Decidable (LifetimeAhead first text) :=
  decidable_of_iff _ lifetimeAhead_iff.symm

instance HoldsReference.decide (first : Char) : (text : List Char) →
    Decidable (HoldsReference first text)
  | [] => isFalse (not_holdsReference_nil first)
  | _ :: text =>
    have := HoldsReference.decide first text
    decidable_of_iff _ holdsReference_cons_iff.symm

/-- The lifetime of a reference begins somewhere in the text. -/
theorem HoldsReference.lifetime_suffix {first : Char} {text : List Char}
    (h : HoldsReference first text) : ∃ rest, '\'' :: first :: rest <:+ text := by
  obtain ⟨_, hsuffix, blanks, rest, -, rfl⟩ := h
  exact ⟨rest, ((List.suffix_append blanks _).trans (List.suffix_cons '&' _)).trans hsuffix⟩

/-- Where no lifetime has a name, references are to the unnamed one. -/
theorem Nameless.eq_of_holdsReference {first : Char} {text : List Char} (h : Nameless text)
    (hstart : isWordStart first = true) (hholds : HoldsReference first text) : first = '_' := by
  obtain ⟨rest, hrest⟩ := hholds.lifetime_suffix
  exact (h (first :: rest) hrest first rest rfl hstart).1

/-! ### The first pass -/

/-- The first pass finds a lifetime behind an ampersand exactly if there is one. -/
theorem isSome_referenceLifetime? (text : List Char) :
    (referenceLifetime? text).isSome = true ↔
      ∃ first, isWordStart first = true ∧ LifetimeAhead first text := by
  constructor
  · intro h
    unfold referenceLifetime? at h
    split at h
    · next tail htail =>
      rw [Option.isSome_map] at h
      cases tail with
      | nil => cases h
      | cons first rest =>
        refine ⟨first, ?_, lifetimeAhead_iff.mpr ⟨rest, htail.symm⟩⟩
        by_contra hstart
        rw [lifetimeName?, if_neg hstart] at h
        cases h
    · cases h
  · rintro ⟨first, hstart, hahead⟩
    obtain ⟨rest, hrest⟩ := lifetimeAhead_iff.mp hahead
    have hname : lifetimeName? (first :: rest) = some (rest.dropWhile isWord) := if_pos hstart
    rw [referenceLifetime?, ← hrest]
    show ((lifetimeName? (first :: rest)).map (·.dropWhile isBlank)).isSome = true
    rw [hname]
    rfl

/-- Without such a reference the first pass has nothing to do. -/
theorem dropReferenceLifetimes_eq_self {text : List Char}
    (h : ∀ first, isWordStart first = true → ¬ HoldsReference first text) :
    dropReferenceLifetimes text = text := by
  induction text with
  | nil => rw [dropReferenceLifetimes]
  | cons c rest ih =>
    have hrest : dropReferenceLifetimes rest = rest :=
      ih fun first hstart hholds => h first hstart (holdsReference_cons_iff.mpr (.inr hholds))
    by_cases hc : c = '&'
    · subst hc
      have hnone : referenceLifetime? rest = none := by
        rw [← Option.not_isSome_iff_eq_none, isSome_referenceLifetime?]
        rintro ⟨first, hstart, hahead⟩
        exact h first hstart (holdsReference_cons_iff.mpr (.inl ⟨rfl, hahead⟩))
      rw [dropReferenceLifetimes_of_none hnone, hrest]
    · rw [dropReferenceLifetimes_cons hc, hrest]

theorem length_dropReferenceLifetimes_le (text : List Char) :
    (dropReferenceLifetimes text).length ≤ text.length := by
  fun_induction dropReferenceLifetimes text with
  | case1 => exact Nat.le_refl 0
  | case2 rest after hsome hlt ih => exact Nat.succ_le_succ (ih.trans hlt.le)
  | case3 rest hnone ih => exact Nat.succ_le_succ ih
  | case4 c rest hc ih => exact Nat.succ_le_succ ih

/-- With such a reference it makes the text shorter. An ampersand in front of that reference may
lose a lifetime first, but then the text is shorter already. -/
theorem length_dropReferenceLifetimes_lt {first : Char} (hstart : isWordStart first = true)
    {text : List Char} (h : HoldsReference first text) :
    (dropReferenceLifetimes text).length < text.length := by
  induction text with
  | nil => exact absurd h (not_holdsReference_nil first)
  | cons c rest ih =>
    by_cases hc : c = '&'
    · subst hc
      cases hafter : referenceLifetime? rest with
      | some after =>
        have hlt : after.length < rest.length := length_referenceLifetime? hafter
        rw [dropReferenceLifetimes_of_some hafter]
        exact Nat.succ_lt_succ ((length_dropReferenceLifetimes_le after).trans_lt hlt)
      | none =>
        have hnot : ¬ LifetimeAhead first rest := by
          intro hahead
          have hsome := (isSome_referenceLifetime? rest).mpr ⟨first, hstart, hahead⟩
          rw [hafter] at hsome
          cases hsome
        rw [dropReferenceLifetimes_of_none hafter]
        refine Nat.succ_lt_succ (ih ?_)
        exact (holdsReference_cons_iff.mp h).resolve_left fun hhere => hnot hhere.2
    · rw [dropReferenceLifetimes_cons hc]
      refine Nat.succ_lt_succ (ih ?_)
      exact (holdsReference_cons_iff.mp h).resolve_left fun hhere => hc hhere.1

/-! ### Both passes -/

theorem toList_eraseLifetimes (text : String) :
    (eraseLifetimes text).toList = eraseNames (dropReferenceLifetimes text.toList) := by
  rw [eraseLifetimes, String.toList_ofList]

/-- A text stays as it is if and only if no lifetime in it has a name and no reference has a
lifetime. -/
theorem eraseLifetimes_eq_self_iff (text : String) :
    eraseLifetimes text = text ↔
      Nameless text.toList ∧
        ∀ first, isWordStart first = true → ¬ HoldsReference first text.toList := by
  rw [← String.toList_inj, toList_eraseLifetimes]
  constructor
  · intro heq
    refine ⟨heq ▸ nameless_eraseNames _, fun first hstart hholds => ?_⟩
    have herase := length_eraseNames_le (dropReferenceLifetimes text.toList)
    have hdrop := length_dropReferenceLifetimes_lt hstart hholds
    rw [heq] at herase
    exact absurd hdrop herase.not_gt
  · rintro ⟨hnameless, hreference⟩
    rw [dropReferenceLifetimes_eq_self hreference, eraseNames_eq_self hnameless]

/-- Whatever the text, no lifetime of the result has a name, and a text without apostrophes stays as
it is. Erasing again changes nothing if and only if no reference in the result is left with the
unnamed lifetime. -/
theorem nameless_eraseLifetimes (text : String) :
    Nameless (eraseLifetimes text).toList ∧
      ('\'' ∉ text.toList → eraseLifetimes text = text) ∧
      (eraseLifetimes (eraseLifetimes text) = eraseLifetimes text ↔
        ¬ HoldsReference '_' (eraseLifetimes text).toList) := by
  have hnameless : Nameless (eraseLifetimes text).toList := by
    rw [toList_eraseLifetimes]
    exact nameless_eraseNames _
  refine ⟨hnameless, fun hquote => ?_, (eraseLifetimes_eq_self_iff _).trans ⟨?_, ?_⟩⟩
  · refine (eraseLifetimes_eq_self_iff text).mpr ⟨nameless_of_not_mem hquote, ?_⟩
    intro first _ hholds
    obtain ⟨rest, hrest⟩ := hholds.lifetime_suffix
    exact hquote (hrest.subset List.mem_cons_self)
  · intro h
    exact h.2 '_' rfl
  · intro hholds
    refine ⟨hnameless, fun first hstart hfirst => hholds ?_⟩
    rwa [hnameless.eq_of_holdsReference hstart hfirst] at hfirst

/-- A lifetime right behind that of a reference takes its place, so erasing again drops it. Right
behind any other lifetime it stays where it is. -/
theorem nameless_eraseLifetimes_seams :
    ('\'' ∉ "&mut [u8]".toList ∧ eraseLifetimes "&mut [u8]" = "&mut [u8]") ∧
      (HoldsReference '_' (eraseLifetimes "&'a'b T").toList ∧
        eraseLifetimes (eraseLifetimes "&'a'b T") ≠ eraseLifetimes "&'a'b T") ∧
      (¬ HoldsReference '_' (eraseLifetimes "Cow<'a'b, & 'c T>").toList ∧
        eraseLifetimes (eraseLifetimes "Cow<'a'b, & 'c T>") =
          eraseLifetimes "Cow<'a'b, & 'c T>") := by
  have hquote : '\'' ∉ "&mut [u8]".toList := by decide
  have hleft : HoldsReference '_' (eraseLifetimes "&'a'b T").toList := by decide +kernel
  have hnone : ¬ HoldsReference '_' (eraseLifetimes "Cow<'a'b, & 'c T>").toList := by
    decide +kernel
  refine ⟨⟨hquote, (nameless_eraseLifetimes "&mut [u8]").2.1 hquote⟩, ⟨hleft, ?_⟩, hnone, ?_⟩
  · intro heq
    exact (nameless_eraseLifetimes "&'a'b T").2.2.mp heq hleft
  · exact (nameless_eraseLifetimes "Cow<'a'b, & 'c T>").2.2.mpr hnone

end Introspection.Rust
