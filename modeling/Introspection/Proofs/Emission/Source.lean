import Introspection.Proofs.Emission.Runs
import Introspection.Emission.Element
import Introspection.Proofs.Metadata.Characters
import Introspection.Proofs.Text.Lines
import Introspection.Proofs.Text.Trimming

/-!
# The lines of emitted source

Source text is lines with a line feed behind each. The id constant and the fragment of an element
are put together as lines, and the scope of a module puts more lines around them and four blanks in
front of those that are not empty.

That is what the scope is meant to do. What it does is to split its body at everything that ends a
line of a *text*, so it keeps to the lines of the body only as long as these have no other line
ends inside. No line end but the line feed comes out of a scope, whatever went in.

## Main definitions

* `Emission.OneLine` — a text that stays within a line
* `Emission.staticItem` — the item that stores a fragment
* `Emission.fragmentLines`, `Emission.constantLines`, `Emission.bodyLines`
* `Emission.inScope`, `Emission.scopeLines` — lines as they stand in a scope

## Main results

* `Emission.renderFragment_eq`, `Emission.render_idConstant_eq` — rendered texts by their lines
* `Emission.render_moduleScope_eq` — a scope of lines, as it is meant to be
* `Emission.not_isLineEnd_of_render_moduleScope` — what no scope has inside
-/

namespace Introspection.Emission

open Introspection.Metadata (Unwritten)
open Introspection.Text (isBlank isLineEnd joinLines joinLines_append joinLines_cons_cons
  joinLines_singleton exists_joinLines_concat not_isLineEnd_of_mem_splitLines splitLines
  mem_joinLines splitLines_joinLines trimRight trimRight_append_of_last)

/-! ### Texts within a line -/

/-- A text stays within a line. -/
def OneLine (text : List Char) : Prop :=
  ∀ c ∈ text, isLineEnd c = false

instance (text : List Char) : Decidable (OneLine text) :=
  List.decidableBAll _ _

theorem oneLine_append {first second : List Char} :
    OneLine (first ++ second) ↔ OneLine first ∧ OneLine second :=
  List.forall_mem_append

theorem OneLine.not_mem {text : List Char} (h : OneLine text) {c : Char}
    (hend : isLineEnd c = true) : c ∉ text := by
  intro hmem
  rw [h c hmem] at hend
  cases hend

theorem oneLine_iff {text : List Char} : OneLine text ↔ ∀ c, isLineEnd c = true → c ∉ text := by
  refine ⟨fun h c hend => h.not_mem hend, fun h c hmem => ?_⟩
  by_contra hend
  rw [Bool.not_eq_false] at hend
  exact h c hend hmem

/-- What ends a line is a control character or beyond ASCII. -/
theorem unwritten_of_isLineEnd {c : Char} (h : isLineEnd c = true) : Unwritten c := by
  simp only [isLineEnd, Bool.or_eq_true, Bool.and_eq_true, decide_eq_true_eq, beq_iff_eq] at h
  rw [Unwritten]
  omega

theorem isBlank_of_isLineEnd {c : Char} (h : isLineEnd c = true) : isBlank c = true := by
  simp only [isLineEnd, isBlank, Bool.or_eq_true, Bool.and_eq_true, decide_eq_true_eq,
    beq_iff_eq] at h ⊢
  omega

/-- The digits of a number stay within a line. -/
theorem oneLine_toString (n : Nat) : OneLine (toString n).toList := by
  rw [oneLine_iff]
  intro c hend hc
  obtain ⟨hle, hge⟩ := toNat_of_mem_toString hc
  rcases unwritten_of_isLineEnd hend with hlt | hgt <;> omega

/-- A number as a literal is its digits between quotes. -/
theorem toList_markupLiteral_toString (n : Nat) :
    (Json.markupLiteral (toString n)).toList = '"' :: ((toString n).toList ++ ['"']) := by
  have hdigits : (toString n).toList.flatMap Json.markupChar = (toString n).toList := by
    rw [List.flatMap_congr (g := fun c => [c]), List.flatMap_singleton']
    intro c hc
    obtain ⟨hle, hge⟩ := toNat_of_mem_toString hc
    have hdigit : ∀ d : Fin 10, Json.markupChar (Char.ofNat (0x30 + d)) =
        [Char.ofNat (0x30 + d)] := by decide
    have hc : Char.ofNat (0x30 + (c.toNat - 0x30)) = c := by
      rw [Nat.add_sub_cancel' hle, Char.ofNat_toNat]
    simpa [hc] using hdigit ⟨c.toNat - 0x30, by omega⟩
  rw [Json.markupLiteral, String.toList_ofList, hdigits]

/-! ### Rendered texts -/

theorem rust_fragment (staticName expression : String) :
    rust (.fragment staticName expression) =
      "const _: () = \x7b\n    #[used]\n    #[no_mangle]\n    static " ++ staticName ++
        ": &'static str = " ++ expression ++ ";\n\x7d;" :=
  rfl

theorem rust_idConstant_module (ident constantName value : String) :
    rust (.idConstant "module" ident constantName value) =
      "#[doc(hidden)]\n" ++ ("pub const " ++ constantName ++ ": &'static str = " ++
        Json.markupLiteral value ++ ";\n") :=
  rfl

theorem rust_moduleScope (ident body : String) :
    rust (.moduleScope ident body) =
      "#[doc(hidden)]\npub mod " ++ ident ++ " \x7b\n    use super::*;\n\n" ++
        indented (withoutFinalFeeds body) ++ "\n\x7d" :=
  rfl

/-- A text of lines, each with its line feed. -/
def sourceText (lines : List (List Char)) : String :=
  String.ofList (joinLines lines ++ ['\n'])

/-- Its lines come back, with an empty one behind the last line feed. -/
theorem splitOn_sourceText {lines : List (List Char)} (hne : lines ≠ [])
    (h : ∀ line ∈ lines, OneLine line) :
    (sourceText lines).toList.splitOn '\n' = lines ++ [[]] := by
  have htext : (sourceText lines).toList = joinLines (lines ++ [[]]) := by
    rw [sourceText, String.toList_ofList, joinLines_append hne (List.cons_ne_nil _ _),
      joinLines_singleton]
  rw [htext]
  refine List.splitOn_intercalate '\n' (fun line hline => ?_) (by simp)
  rcases List.mem_append.mp hline with hline | hline
  · exact (h line hline).not_mem (by decide)
  · rw [List.mem_singleton.mp hline]
    exact List.not_mem_nil

/-- Lines are rendered with a line feed at their end and nothing else, if the last one ends with no
blank. -/
theorem render_eq_sourceText {request : Request} {lines : List (List Char)} {front : List Char}
    {c : Char} (hc : isBlank c = false) (blanks : List Char)
    (hblanks : blanks.all isBlank = true)
    (h : (rust request).toList = joinLines (lines ++ [front ++ [c]]) ++ blanks) :
    Templates.render {} request = .ok (sourceText (lines ++ [front ++ [c]])) := by
  obtain ⟨before, hbefore⟩ := exists_joinLines_concat lines (front ++ [c])
  have htext : joinLines (lines ++ [front ++ [c]]) ++ blanks = before ++ front ++ c :: blanks := by
    rw [hbefore]
    simp
  have hdrop : trimRight blanks = [] := by
    rw [trimRight, List.reverse_eq_nil_iff, List.dropWhile_eq_nil_iff]
    exact fun c hc => List.all_eq_true.mp hblanks c (List.mem_reverse.mp hc)
  have hfeed : "\n" = String.ofList ['\n'] := rfl
  rw [render_eq, rendered, Text.trimmedRight, h, htext, trimRight_append_of_last hc, hdrop, hfeed,
    ← String.ofList_append, sourceText, hbefore]
  simp only [List.append_assoc]

/-- The item that stores a fragment. -/
def staticItem (fragment : Fragment) : List Char :=
  ("static " ++ fragment.staticName ++ ": &'static str = " ++
    fragment.content.expression ({} : Names).cratePath ++ ";").toList

/-- The lines of a fragment. -/
def fragmentLines (fragment : Fragment) : List (List Char) :=
  ["const _: () = \x7b".toList, "    #[used]".toList, "    #[no_mangle]".toList,
    "    ".toList ++ staticItem fragment, "\x7d;".toList]

/-- The lines of the id constant of a module. -/
def constantLines (value : String) : List (List Char) :=
  ["#[doc(hidden)]".toList,
    "pub const _PYO3_INTROSPECTION_ID: &'static str = ".toList ++
      (Json.markupLiteral value).toList ++ [';']]

/-- The lines of a module without its scope: its id constant, an empty line, and its fragment. -/
def bodyLines (value : String) (fragment : Fragment) : List (List Char) :=
  constantLines value ++ [] :: fragmentLines fragment

theorem renderFragment_eq (fragment : Fragment) :
    renderFragment {} fragment = .ok (sourceText (fragmentLines fragment)) := by
  have hopening : "const _: () = \x7b\n    #[used]\n    #[no_mangle]\n    static ".toList =
      "const _: () = \x7b".toList ++ '\n' :: ("    #[used]".toList ++
        '\n' :: ("    #[no_mangle]".toList ++ '\n' :: ("    ".toList ++ "static ".toList))) := rfl
  have hclosing : ";\n\x7d;".toList = ";".toList ++ '\n' :: "\x7d;".toList := rfl
  have hlines : fragmentLines fragment =
      (fragmentLines fragment).dropLast ++ [['\x7d'] ++ [';']] := rfl
  rw [renderFragment, hlines]
  refine render_eq_sourceText (by decide) [] (by decide) ?_
  rw [rust_fragment, ← hlines]
  simp only [fragmentLines, joinLines_cons_cons, joinLines_singleton, staticItem,
    String.toList_append, hopening, hclosing, List.append_assoc, List.cons_append,
    List.append_nil]

theorem render_idConstant_eq (ident value : String) :
    Templates.render {} (.idConstant "module" ident Metadata.defaultIdConstant value) =
      .ok (sourceText (constantLines value)) := by
  have hopening : "#[doc(hidden)]\n".toList = "#[doc(hidden)]".toList ++ ['\n'] := rfl
  have hconstant : "pub const _PYO3_INTROSPECTION_ID: &'static str = ".toList =
      "pub const ".toList ++ (Metadata.defaultIdConstant.toList ++ ": &'static str = ".toList) :=
    rfl
  have hclosing : ";\n".toList = [';', '\n'] := rfl
  have hlines : constantLines value = (constantLines value).dropLast ++
      ["pub const _PYO3_INTROSPECTION_ID: &'static str = ".toList ++
        (Json.markupLiteral value).toList ++ [';']] := rfl
  rw [hlines]
  refine render_eq_sourceText (by decide) ['\n'] (by decide) ?_
  rw [rust_idConstant_module, ← hlines]
  simp only [constantLines, joinLines_cons_cons, joinLines_singleton, String.toList_append,
    hopening, hconstant, hclosing, List.append_assoc, List.cons_append, List.nil_append]

/-- An id constant and a fragment, with an empty line between them. -/
theorem append_eq_bodyLines (value : String) (fragment : Fragment) :
    sourceText (constantLines value) ++ "\n" ++ sourceText (fragmentLines fragment) =
      sourceText (bodyLines value fragment) := by
  have hfragment : joinLines ([] :: fragmentLines fragment) =
      '\n' :: joinLines (fragmentLines fragment) :=
    joinLines_cons_cons _ _ _
  have hbody : joinLines (bodyLines value fragment) =
      joinLines (constantLines value) ++ '\n' :: '\n' :: joinLines (fragmentLines fragment) := by
    have hconstant : constantLines value ≠ [] := List.cons_ne_nil _ _
    rw [bodyLines, joinLines_append hconstant (List.cons_ne_nil _ _), hfragment]
  rw [← String.toList_inj]
  simp only [sourceText, hbody, String.toList_append, String.toList_ofList, List.append_assoc,
    List.cons_append, List.nil_append]
  rfl

/-! ### Scopes -/

/-- A line as it stands in a scope. -/
def inScope (line : List Char) : List Char :=
  if line.isEmpty then line else ' ' :: ' ' :: ' ' :: ' ' :: line

/-- The lines of a scope around some lines. -/
def scopeLines (ident : String) (lines : List (List Char)) : List (List Char) :=
  ["#[doc(hidden)]".toList, "pub mod ".toList ++ ident.toList ++ " \x7b".toList,
    "    use super::*;".toList, []] ++ lines.map inScope ++ [['\x7d']]

theorem indented_eq {body : String} {first : List Char} {rest : List (List Char)}
    (h : splitLines (body.toList ++ ['\n']) = first :: rest) :
    indented body =
      String.ofList (joinLines ((' ' :: ' ' :: ' ' :: ' ' :: first) :: rest.map inScope)) := by
  rw [indented, h]
  rfl

/-- Lines are indented one by one, if no line end is inside them. -/
theorem indented_joinLines {first : List Char} {rest : List (List Char)} (hne : first ≠ [])
    (h : ∀ line ∈ first :: rest, OneLine line) :
    indented (String.ofList (joinLines (first :: rest))) =
      String.ofList (joinLines ((first :: rest).map inScope)) := by
  have hfirst : inScope first = ' ' :: ' ' :: ' ' :: ' ' :: first := by
    rw [inScope, if_neg (by simpa using hne)]
  rw [indented_eq (by rw [String.toList_ofList, splitLines_joinLines (List.cons_ne_nil _ _) h]),
    List.map_cons, hfirst]

/-- No line end but the line feed comes out. -/
theorem eq_feed_of_mem_indented {body : String} {c : Char} (hc : c ∈ (indented body).toList)
    (hend : isLineEnd c = true) : c = '\n' := by
  by_contra hne
  cases hlines : splitLines (body.toList ++ ['\n']) with
  | nil =>
    rw [indented, hlines] at hc
    cases hc
  | cons first rest =>
    rw [indented_eq hlines, String.toList_ofList, mem_joinLines hne] at hc
    obtain ⟨line, hline, hc⟩ := hc
    have hblank : c ≠ ' ' := by
      rintro rfl
      cases hend
    obtain ⟨original, horiginal, hc⟩ : ∃ original ∈ first :: rest, c ∈ original := by
      rcases List.mem_cons.mp hline with rfl | hline
      · exact ⟨first, List.mem_cons_self, by simpa [hblank] using hc⟩
      · obtain ⟨original, horiginal, rfl⟩ := List.mem_map.mp hline
        refine ⟨original, List.mem_cons_of_mem _ horiginal, ?_⟩
        rw [inScope] at hc
        split at hc
        · exact hc
        · simpa [hblank] using hc
    have hinside := not_isLineEnd_of_mem_splitLines (hlines ▸ horiginal) hc
    rw [hend] at hinside
    cases hinside

/-- No line end but the line feed comes out of a scope, except in the identifier. -/
theorem eq_feed_of_mem_render {ident body source : String}
    (h : Templates.render {} (.moduleScope ident body) = .ok source) {c : Char}
    (hc : c ∈ source.toList) (hend : isLineEnd c = true) : c = '\n' ∨ c ∈ ident.toList := by
  rw [render_eq] at h
  obtain rfl := Except.ok.inj h
  rw [rendered, String.toList_append, List.mem_append] at hc
  rcases hc with hc | hc
  · have hsubset : c ∈ (rust (.moduleScope ident body)).toList := by
      rw [Text.trimmedRight, String.toList_ofList, trimRight, List.mem_reverse] at hc
      exact List.mem_reverse.mp ((List.dropWhile_sublist _).subset hc)
    have hfixed {text : List Char} (hmem : c ∈ text)
        (h : (text.all fun c => !isLineEnd c || c == '\n') = true) : c = '\n' := by
      simpa [hend] using List.all_eq_true.mp h c hmem
    rw [rust_moduleScope] at hsubset
    simp only [String.toList_append, List.mem_append] at hsubset
    rcases hsubset with (((hmem | hmem) | hmem) | hmem) | hmem
    · exact .inl (hfixed hmem (by decide))
    · exact .inr hmem
    · exact .inl (hfixed hmem (by decide))
    · exact .inl (eq_feed_of_mem_indented hmem hend)
    · exact .inl (hfixed hmem (by decide))
  · exact .inl (List.mem_singleton.mp hc)

theorem withoutFinalFeeds_sourceText {lines : List (List Char)} {front : List Char} {c : Char}
    (hc : c ≠ '\n') :
    withoutFinalFeeds (sourceText (lines ++ [front ++ [c]])) =
      String.ofList (joinLines (lines ++ [front ++ [c]])) := by
  obtain ⟨before, hbefore⟩ := exists_joinLines_concat lines (front ++ [c])
  rw [withoutFinalFeeds, sourceText, hbefore, String.toList_ofList]
  simp [hc]

/-- The scope of a module, as it is meant to be: all lines of the body are indented, and nothing
else is changed. -/
theorem render_moduleScope_eq {value : String} {fragment : Fragment}
    (h : ∀ line ∈ bodyLines value fragment, OneLine line) (ident : String) :
    Templates.render {} (.moduleScope ident (sourceText (bodyLines value fragment))) =
      .ok (sourceText (scopeLines ident (bodyLines value fragment))) := by
  have hlast : bodyLines value fragment =
      (bodyLines value fragment).dropLast ++ [['\x7d'] ++ [';']] := rfl
  have hfirst : bodyLines value fragment =
      "#[doc(hidden)]".toList :: (bodyLines value fragment).tail := rfl
  have hbody : indented (withoutFinalFeeds (sourceText (bodyLines value fragment))) =
      String.ofList (joinLines ((bodyLines value fragment).map inScope)) := by
    rw [hlast, withoutFinalFeeds_sourceText (by decide), ← hlast]
    rw [hfirst] at h ⊢
    exact indented_joinLines (by decide) h
  have hopening : "#[doc(hidden)]\npub mod ".toList =
      "#[doc(hidden)]".toList ++ '\n' :: "pub mod ".toList := rfl
  have hmiddle : " \x7b\n    use super::*;\n\n".toList =
      " \x7b".toList ++ '\n' :: ("    use super::*;".toList ++ ['\n', '\n']) := rfl
  have hclosing : "\n\x7d".toList = ['\n', '\x7d'] := rfl
  have hscope : scopeLines ident (bodyLines value fragment) =
      (scopeLines ident (bodyLines value fragment)).dropLast ++ [[] ++ ['\x7d']] := rfl
  have hne : (bodyLines value fragment).map inScope ≠ [] := List.cons_ne_nil _ _
  rw [hscope]
  refine render_eq_sourceText (by decide) [] (by decide) ?_
  rw [← hscope, rust_moduleScope, hbody, scopeLines,
    joinLines_append (List.append_ne_nil_of_right_ne_nil _ hne) (List.cons_ne_nil _ _),
    joinLines_append (List.cons_ne_nil _ _) hne]
  simp only [joinLines_cons_cons, joinLines_singleton, String.toList_append, String.toList_ofList,
    hopening, hmiddle, hclosing, List.append_assoc, List.cons_append, List.nil_append,
    List.append_nil]

end Introspection.Emission
