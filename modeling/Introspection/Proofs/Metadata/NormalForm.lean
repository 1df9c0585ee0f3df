import Introspection.Metadata.Concatenation
import Mathlib.Data.List.Chain

/-!
# Runs in normal form

What a run of pieces says is the characters of its literals and its expressions, in order. How the
characters are cut into literals says nothing, and neither do empty literals. A run is in normal form
if it has no empty literal and no two literals side by side, and then nothing is left to choose:
among the runs that spell the same there is one in normal form, and merging finds it.

So whatever keeps a run in normal form and adds to what it spells has added to the merged run, by
uniqueness alone and without a word about how it did so.

## Main definitions

* `Metadata.Piece.IsNormal`
* `Metadata.Piece.spelled` — the characters and expressions of a run
* `Metadata.Piece.seam` — one run behind another, both in normal form

## Main results

* `Metadata.Piece.merge_eq_iff` — runs have the same normal form if they spell the same
* `Metadata.Piece.IsNormal.unique`, `Metadata.Piece.eq_merge_iff`
* `Metadata.Piece.IsNormal.seam` — only the two pieces at the seam may become one
-/

namespace Introspection.Metadata.Piece

variable {run other : List Piece}

/-! ### Normal form -/

/-- Whether a piece is a literal. -/
def isLiteral : Piece → Bool
  | .literal _ => true
  | .computed _ => false

/-- No literal is empty, and no two literals stand side by side. -/
structure IsNormal (run : List Piece) : Prop where
  nonempty : .literal "" ∉ run
  apart : run.IsChain fun first second => ¬ (first.isLiteral = true ∧ second.isLiteral = true)

theorem isNormal_nil : IsNormal [] := ⟨List.not_mem_nil, .nil⟩

/-- A part of a run in normal form, and what may stand at the seam. -/
theorem isNormal_append_iff {first second : List Piece} :
    IsNormal (first ++ second) ↔ IsNormal first ∧ IsNormal second ∧
      ∀ last ∈ first.getLast?, ∀ next ∈ second.head?,
        ¬ (last.isLiteral = true ∧ next.isLiteral = true) := by
  constructor
  · rintro ⟨nonempty, apart⟩
    obtain ⟨hfirst, hsecond⟩ := not_or.mp (List.mem_append.not.mp nonempty)
    obtain ⟨apart, apart', seam⟩ := List.isChain_append.mp apart
    exact ⟨⟨hfirst, apart⟩, ⟨hsecond, apart'⟩, seam⟩
  · rintro ⟨⟨hfirst, apart⟩, ⟨hsecond, apart'⟩, seam⟩
    exact ⟨List.mem_append.not.mpr (not_or.mpr ⟨hfirst, hsecond⟩),
      List.isChain_append.mpr ⟨apart, apart', seam⟩⟩

theorem isNormal_singleton_computed (expression : String) : IsNormal [.computed expression] :=
  ⟨by simp, .singleton _⟩

theorem isNormal_singleton_literal {text : String} (h : text ≠ "") : IsNormal [.literal text] :=
  ⟨by simpa using h.symm, .singleton _⟩

theorem isNormal_cons_computed {expression : String} :
    IsNormal (.computed expression :: run) ↔ IsNormal run := by
  rw [← List.singleton_append, isNormal_append_iff]
  refine ⟨fun h => h.2.1, fun h => ⟨isNormal_singleton_computed expression, h, ?_⟩⟩
  intro last hlast next _ hboth
  cases hlast
  exact Bool.false_ne_true hboth.1

theorem isNormal_cons_literal {text : String} :
    IsNormal (.literal text :: run) ↔
      text ≠ "" ∧ IsNormal run ∧ ∀ next rest, run ≠ .literal next :: rest := by
  rw [← List.singleton_append, isNormal_append_iff]
  constructor
  · rintro ⟨⟨nonempty, -⟩, h, seam⟩
    refine ⟨fun htext => nonempty (by simp [htext]), h, ?_⟩
    rintro next rest rfl
    exact seam _ rfl _ rfl ⟨rfl, rfl⟩
  · rintro ⟨htext, h, hne⟩
    refine ⟨isNormal_singleton_literal htext, h, ?_⟩
    rintro last ⟨⟩ next hnext ⟨-, hliteral⟩
    cases run with
    | nil => cases hnext
    | cons piece rest =>
      cases hnext
      cases next with
      | literal next => exact hne next rest rfl
      | computed expression => cases hliteral

/-! ### What a run spells -/

/-- The characters of a literal, or an expression. -/
def atoms : Piece → List (Char ⊕ String)
  | .literal text => text.toList.map .inl
  | .computed expression => [.inr expression]

/-- The characters and expressions of a run in order, however its literals are cut. -/
def spelled (run : List Piece) : List (Char ⊕ String) :=
  run.flatMap atoms

@[simp] theorem spelled_nil : spelled [] = [] := rfl

theorem spelled_cons (piece : Piece) (run : List Piece) :
    spelled (piece :: run) = piece.atoms ++ spelled run := rfl

theorem spelled_append (first second : List Piece) :
    spelled (first ++ second) = spelled first ++ spelled second :=
  List.flatMap_append

theorem spelled_consLiteral (text : String) (run : List Piece) :
    spelled (consLiteral text run) = text.toList.map .inl ++ spelled run := by
  rw [consLiteral.eq_def]
  split
  · next next rest => simp [spelled_cons, atoms]
  · split
    · next hempty =>
      rw [String.isEmpty_iff.mp hempty]
      rfl
    · rfl

/-- Merging does not change what a run spells. -/
theorem spelled_merge (run : List Piece) : spelled (merge run) = spelled run := by
  induction run with
  | nil => rfl
  | cons piece run ih =>
    rw [merge_cons, spelled_cons, ← ih]
    cases piece with
    | literal text => exact spelled_consLiteral text (merge run)
    | computed expression => rfl

/-! ### Merging -/

theorem IsNormal.consLiteral (h : IsNormal run) (text : String) :
    IsNormal (consLiteral text run) := by
  rw [Piece.consLiteral.eq_def]
  split
  · next next rest =>
    obtain ⟨hnext, hrest, hne⟩ := isNormal_cons_literal.mp h
    exact isNormal_cons_literal.mpr ⟨by simp [hnext], hrest, hne⟩
  · next hne =>
    split
    · exact h
    · next htext => exact isNormal_cons_literal.mpr ⟨by simpa using htext, h, hne⟩

theorem isNormal_merge (run : List Piece) : IsNormal (merge run) := by
  induction run with
  | nil => exact isNormal_nil
  | cons piece run ih =>
    cases piece with
    | literal text => exact ih.consLiteral text
    | computed expression => exact isNormal_cons_computed.mpr ih

/-- A literal is put in front of a run that begins with none. -/
theorem consLiteral_of_ne {text : String} (htext : text ≠ "")
    (h : ∀ next rest, run ≠ .literal next :: rest) : consLiteral text run = .literal text :: run := by
  rw [consLiteral.eq_def]
  split
  · exact absurd rfl (h _ _)
  · rw [if_neg (by simpa using htext)]

/-- A run in normal form is merged already. -/
theorem IsNormal.merge_eq (h : IsNormal run) : merge run = run := by
  induction run with
  | nil => rfl
  | cons piece run ih =>
    cases piece with
    | literal text =>
      obtain ⟨htext, hrun, hne⟩ := isNormal_cons_literal.mp h
      rw [merge_cons, ih hrun]
      exact consLiteral_of_ne htext hne
    | computed expression => rw [merge_cons, ih (isNormal_cons_computed.mp h), cons]

/-- The merged run of some characters and expressions. -/
def ofAtoms (atoms : List (Char ⊕ String)) : List Piece :=
  atoms.foldr (fun atom run => atom.elim (fun c => consLiteral (String.singleton c) run)
    fun expression => .computed expression :: run) []

theorem ofAtoms_append_text (text : List Char) (rest : List (Char ⊕ String)) :
    ofAtoms (text.map .inl ++ rest) = consLiteral (String.ofList text) (ofAtoms rest) := by
  induction text with
  | nil => exact (consLiteral_empty _).symm
  | cons c text ih =>
    have hcons : String.ofList (c :: text) = String.singleton c ++ String.ofList text := by
      rw [← String.toList_inj]
      simp
    rw [hcons, consLiteral_append, ← ih]
    rfl

/-- Merging looks at nothing but what a run spells. -/
theorem merge_eq_ofAtoms (run : List Piece) : merge run = ofAtoms (spelled run) := by
  induction run with
  | nil => rfl
  | cons piece run ih =>
    rw [merge_cons, ih]
    cases piece with
    | literal text =>
      rw [spelled_cons, atoms, ofAtoms_append_text, String.ofList_toList]
      rfl
    | computed expression => rfl

/-- Runs have the same normal form if they spell the same. -/
theorem merge_eq_iff : merge run = merge other ↔ spelled run = spelled other := by
  constructor
  · intro h
    rw [← spelled_merge run, h, spelled_merge]
  · intro h
    rw [merge_eq_ofAtoms, h, ← merge_eq_ofAtoms]

/-- The normal form is the only run in normal form that spells the same. -/
theorem eq_merge_iff : other = merge run ↔ IsNormal other ∧ spelled other = spelled run := by
  constructor
  · rintro rfl
    exact ⟨isNormal_merge run, spelled_merge run⟩
  · rintro ⟨h, same⟩
    rw [← h.merge_eq]
    exact merge_eq_iff.mpr same

/-! ### The seam -/

/-- One run behind another. Two literals that meet are one. -/
def seam : List Piece → List Piece → List Piece
  | [.literal text], .literal next :: rest => .literal (text ++ next) :: rest
  | [], second => second
  | piece :: first, second => piece :: seam first second

theorem spelled_seam (first second : List Piece) :
    spelled (seam first second) = spelled first ++ spelled second := by
  fun_induction seam first second with
  | case1 text next rest => simp [spelled_cons, atoms]
  | case2 second => rfl
  | case3 piece first second hne ih => simp [spelled_cons, ih]

/-- A seam begins with a literal only if its first part does. -/
theorem seam_ne_literal {first : List Piece} (hfirst : first ≠ [])
    (h : ∀ next rest, first ≠ .literal next :: rest) (second : List Piece) (next : String)
    (rest : List Piece) : seam first second ≠ .literal next :: rest := by
  fun_cases seam first second with
  | case1 text next' rest' => exact absurd rfl (h text [])
  | case2 => exact absurd rfl hfirst
  | case3 piece first hne =>
    rintro ⟨⟩
    exact h next first rfl

/-- Runs in normal form are in normal form behind one another. -/
theorem IsNormal.seam {first second : List Piece} (h : IsNormal first) (h' : IsNormal second) :
    IsNormal (seam first second) := by
  fun_induction Piece.seam first second with
  | case1 text next rest =>
    obtain ⟨hnext, hrest, hne⟩ := isNormal_cons_literal.mp h'
    exact isNormal_cons_literal.mpr ⟨by simp [hnext], hrest, hne⟩
  | case2 second => exact h'
  | case3 piece first second hmeet ih =>
    cases piece with
    | computed expression =>
      exact isNormal_cons_computed.mpr (ih (isNormal_cons_computed.mp h) h')
    | literal text =>
      obtain ⟨htext, hfirst, hne⟩ := isNormal_cons_literal.mp h
      refine isNormal_cons_literal.mpr ⟨htext, ih hfirst h', ?_⟩
      cases first with
      | nil =>
        rintro next rest rfl
        exact hmeet text next rest rfl rfl rfl
      | cons piece first => exact seam_ne_literal (List.cons_ne_nil _ _) hne second

end Introspection.Metadata.Piece
