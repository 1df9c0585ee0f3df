import Introspection.Proofs.Emission.Allocation
import Introspection.Proofs.Emission.Source

/-!
# Source text around ids

The source of an element is fixed but for the digits of two ids. That is plain where a template puts
its values between fixed texts. It is not for the scope of a module, which splits its body into
lines and indents them, ids included. But an id is digits: it ends no line, so it is indented only
if it stands in front, and what follows it is indented as if the digits were others.

So indentation is said once more, character by character: what comes out for a character depends on
whether the one before it has ended a line. In this form it goes through a text with gaps in it.

## Main definitions

* `Emission.Spot`, `Emission.indentFrom` — indentation, character by character
* `Emission.Piece`, `Emission.Frame` — a text with gaps for two ids
* `Emission.Framed` — a text that depends on ids only by their digits

## Main results

* `Emission.indented_eq_indentFrom` — indentation by lines, and by characters
* `Emission.Framed.indent` — the gaps of a text are those of the indented text
* `Emission.Framed.moduleScope` — and those of the scope around it
-/

namespace Introspection.Emission

open Introspection.Text (consChar isBlank isLineEnd joinLines joinLines_cons_cons
  joinLines_singleton splitLines splitLines_cons trimRight trimRight_append_of_last)

/-! ### Indentation, character by character -/

/-- What stands in front of a character. -/
inductive Spot where
  /-- The end of a line, or nothing. -/
  | lineStart
  /-- A carriage return, which may be half of a line end. -/
  | afterReturn
  | inside
deriving DecidableEq

/-- The spot behind a character. -/
def spotBehind (c : Char) : Spot :=
  if c = '\r' then .afterReturn else if isLineEnd c then .lineStart else .inside

/-- The blanks in front of what stands at a spot, if it ends no line. -/
def Spot.blanks : Spot → List Char
  | .inside => []
  | _ => [' ', ' ', ' ', ' ']

/-- What comes out for a character. -/
def Spot.indent (spot : Spot) (c : Char) : List Char :=
  if isLineEnd c then if spot = .afterReturn ∧ c = '\n' then [] else ['\n']
  else spot.blanks ++ [c]

/-- A text indented by four blanks a line. -/
def indentFrom (spot : Spot) : List Char → List Char
  | [] => []
  | c :: rest => spot.indent c ++ indentFrom (spotBehind c) rest

/-- The spot behind a text. -/
def Spot.behind (spot : Spot) : List Char → Spot
  | [] => spot
  | c :: rest => (spotBehind c).behind rest

theorem indentFrom_append (spot : Spot) (first second : List Char) :
    indentFrom spot (first ++ second) =
      indentFrom spot first ++ indentFrom (spot.behind first) second := by
  induction first generalizing spot with
  | nil => rfl
  | cons c first ih => rw [List.cons_append, indentFrom, ih, indentFrom, List.append_assoc]; rfl

/-- Within a line, nothing is put between. -/
theorem indentFrom_inside {text : List Char} (h : OneLine text) :
    indentFrom .inside text = text ∧ Spot.inside.behind text = .inside := by
  induction text with
  | nil => exact ⟨rfl, rfl⟩
  | cons c text ih =>
    obtain ⟨hc, h⟩ := List.forall_mem_cons.mp h
    have hspot : spotBehind c = .inside := by
      have hreturn : c ≠ '\r' := by
        rintro rfl
        cases hc
      rw [spotBehind, if_neg hreturn, hc]
      rfl
    have hindent : Spot.inside.indent c = [c] := by
      rw [Spot.indent, hc]
      rfl
    rw [indentFrom, Spot.behind, hindent, hspot, (ih h).1, (ih h).2]
    exact ⟨rfl, rfl⟩

/-- A word is indented in front, and what follows stands inside its line. -/
theorem indentFrom_word (spot : Spot) {word : List Char} (hne : word ≠ []) (h : OneLine word) :
    indentFrom spot word = spot.blanks ++ word ∧ spot.behind word = .inside := by
  obtain ⟨c, rest, rfl⟩ := List.exists_cons_of_ne_nil hne
  obtain ⟨hindent, hspot⟩ := indentFrom_inside h
  have hc : isLineEnd c = false := h c List.mem_cons_self
  rw [indentFrom, Spot.indent, hc] at hindent ⊢
  refine ⟨?_, hspot⟩
  rw [← hindent]
  simp [Spot.blanks]

/-! ### Indentation by lines -/

/-- Lines, each with its line feed, indented as in a scope. -/
def indentedLines (lines : List (List Char)) : List Char :=
  lines.flatMap fun line => inScope line ++ ['\n']

theorem joinLines_append_feed (line : List Char) (lines : List (List Char)) :
    joinLines (line :: lines.map inScope) ++ ['\n'] = line ++ '\n' :: indentedLines lines := by
  induction lines generalizing line with
  | nil => rw [List.map_nil, joinLines_singleton]; rfl
  | cons next lines ih =>
    rw [List.map_cons, joinLines_cons_cons, List.append_assoc, List.cons_append, ih]
    simp [indentedLines]

/-- Behind a carriage return, a line feed is half of a line end. -/
theorem indentFrom_afterReturn {text : List Char} (h : ∀ rest, text ≠ '\n' :: rest) :
    indentFrom .afterReturn text = indentFrom .lineStart text := by
  cases text with
  | nil => rfl
  | cons c rest =>
    have hc : c ≠ '\n' := by
      rintro rfl
      exact h rest rfl
    rw [indentFrom, indentFrom]
    simp [Spot.indent, Spot.blanks, hc]

/-- Every line of a text is ended. -/
def Ended (text : List Char) : Prop :=
  ∀ front c, text = front ++ [c] → isLineEnd c = true

theorem Ended.tail {c : Char} {text : List Char} (h : Ended (c :: text)) : Ended text := by
  rintro front d rfl
  exact h (c :: front) d rfl

theorem Ended.ne_nil {c : Char} {text : List Char} (h : Ended (c :: text))
    (hc : isLineEnd c = false) : text ≠ [] := by
  rintro rfl
  rw [h [] c rfl] at hc
  cases hc

theorem ended_append_feed (text : List Char) : Ended (text ++ ['\n']) := by
  intro front c h
  obtain ⟨-, hlast⟩ := List.append_inj' h rfl
  obtain rfl := List.cons.inj hlast |>.1
  rfl

theorem splitLines_ne_nil {text : List Char} (h : text ≠ []) : splitLines text ≠ [] := by
  induction text using Text.splitLines.induct with
  | case1 => exact absurd rfl h
  | case2 rest ih => simp [splitLines]
  | case3 c rest hcrlf hend ih => simp [splitLines.eq_3 _ _ hcrlf, hend]
  | case4 c rest hcrlf hend ih =>
    rw [splitLines.eq_3 _ _ hcrlf, if_neg hend]
    cases splitLines rest <;> simp [consChar]

/-- Indentation by characters is indentation by lines. Inside a line, the first one is already
under way. -/
theorem indentFrom_eq {text : List Char} (h : Ended text) :
    indentFrom .lineStart text = indentedLines (splitLines text) ∧
      ∀ first rest, splitLines text = first :: rest →
        indentFrom .inside text = first ++ '\n' :: indentedLines rest := by
  induction text using Text.splitLines.induct with
  | case1 =>
    refine ⟨rfl, fun first rest hlines => ?_⟩
    rw [splitLines] at hlines
    cases hlines
  | case2 tail ih =>
    obtain ⟨hstart, -⟩ := ih h.tail.tail
    have htail (spot : Spot) : indentFrom spot ('\r' :: '\n' :: tail) =
        '\n' :: indentFrom .lineStart tail := by
      cases spot <;> rfl
    refine ⟨?_, fun first rest hlines => ?_⟩
    · rw [htail, hstart, splitLines]
      rfl
    · rw [splitLines] at hlines
      obtain ⟨rfl, rfl⟩ := List.cons.inj hlines
      rw [htail, hstart]
      rfl
  | case3 c tail hcrlf hend ih =>
    obtain ⟨hstart, -⟩ := ih h.tail
    have htail (spot : Spot) (hspot : spot ≠ .afterReturn) :
        indentFrom spot (c :: tail) = '\n' :: indentFrom .lineStart tail := by
      have hbehind : indentFrom (spotBehind c) tail = indentFrom .lineStart tail := by
        rw [spotBehind]
        split
        · next hc => exact indentFrom_afterReturn fun rest hrest => hcrlf rest hc hrest
        · rfl
      rw [indentFrom, hbehind, Spot.indent, if_pos hend, if_neg (fun h => hspot h.1)]
      rfl
    refine ⟨?_, fun first rest hlines => ?_⟩
    · rw [htail _ (by decide), hstart, splitLines.eq_3 _ _ hcrlf, if_pos hend]
      rfl
    · rw [splitLines.eq_3 _ _ hcrlf, if_pos hend] at hlines
      obtain ⟨rfl, rfl⟩ := List.cons.inj hlines
      rw [htail _ (by decide), hstart]
      rfl
  | case4 c tail hcrlf hend ih =>
    rw [Bool.not_eq_true] at hend
    obtain ⟨first, rest, hlines⟩ :=
      List.exists_cons_of_ne_nil (splitLines_ne_nil (h.ne_nil hend))
    have hinside := (ih h.tail).2 first rest hlines
    have hsplit : splitLines (c :: tail) = (c :: first) :: rest := by
      rw [splitLines_cons hend, hlines, consChar]
    have htail (spot : Spot) : indentFrom spot (c :: tail) =
        spot.blanks ++ c :: (first ++ '\n' :: indentedLines rest) := by
      have hspot : spotBehind c = .inside :=
        (indentFrom_word .inside (List.cons_ne_nil c []) (List.forall_mem_singleton.mpr hend)).2
      rw [indentFrom, hspot, hinside, Spot.indent, hend]
      simp
    refine ⟨?_, fun first' rest' hlines' => ?_⟩
    · rw [htail, hsplit]
      simp [indentedLines, inScope, Spot.blanks]
    · obtain ⟨rfl, rfl⟩ := List.cons.inj (hsplit.symm.trans hlines')
      rw [htail]
      rfl

/-- An indented text, with a line feed behind it. -/
theorem indented_eq_indentFrom (body : String) :
    (indented body).toList ++ ['\n'] =
      "    ".toList ++ indentFrom .inside (body.toList ++ ['\n']) := by
  have hne : body.toList ++ ['\n'] ≠ [] := by simp
  obtain ⟨first, rest, hlines⟩ := List.exists_cons_of_ne_nil (splitLines_ne_nil hne)
  rw [indented_eq hlines, String.toList_ofList, joinLines_append_feed,
    (indentFrom_eq (ended_append_feed body.toList)).2 first rest hlines]
  rfl

/-! ### Gaps -/

/-- A piece of a text with gaps for two ids. -/
inductive Piece where
  | text (chars : List Char)
  | fragmentId
  | constantId

/-- A text with gaps for two ids. -/
abbrev Frame := List Piece

/-- A piece with the digits of the ids. -/
def Piece.fill (fragmentId constantId : UInt64) : Piece → List Char
  | .text chars => chars
  | .fragmentId => (toString fragmentId.toNat).toList
  | .constantId => (toString constantId.toNat).toList

/-- A text with the digits of the ids in its gaps. -/
def Frame.fill (frame : Frame) (fragmentId constantId : UInt64) : List Char :=
  frame.flatMap (Piece.fill fragmentId constantId)

theorem Frame.fill_cons (piece : Piece) (frame : Frame) (fragmentId constantId : UInt64) :
    Frame.fill (piece :: frame) fragmentId constantId =
      piece.fill fragmentId constantId ++ frame.fill fragmentId constantId := rfl

theorem Frame.fill_append (first second : Frame) (fragmentId constantId : UInt64) :
    Frame.fill (first ++ second) fragmentId constantId =
      first.fill fragmentId constantId ++ second.fill fragmentId constantId :=
  List.flatMap_append

theorem toString_ne_nil (n : Nat) : (toString n).toList ≠ [] := by
  rw [Nat.toString_eq_repr, Nat.toList_repr]
  exact Nat.toDigits_ne_nil

/-- The gaps of a text are those of the indented text. An id is a word, so the blanks in front of it
do not depend on its digits, nor does the indentation of what follows. -/
theorem Frame.exists_indent (frame : Frame) (spot : Spot) :
    ∃ indented : Frame, ∀ fragmentId constantId,
      indentFrom spot (frame.fill fragmentId constantId) =
        indented.fill fragmentId constantId := by
  induction frame generalizing spot with
  | nil => exact ⟨[], fun _ _ => rfl⟩
  | cons piece frame ih =>
    have hgap (h : ∀ fragmentId constantId, piece.fill fragmentId constantId ≠ [] ∧
        OneLine (piece.fill fragmentId constantId)) :
        ∃ indented : Frame, ∀ fragmentId constantId,
          indentFrom spot (Frame.fill (piece :: frame) fragmentId constantId) =
            indented.fill fragmentId constantId := by
      obtain ⟨indented, hindented⟩ := ih .inside
      refine ⟨.text spot.blanks :: piece :: indented, fun fragmentId constantId => ?_⟩
      obtain ⟨hne, hline⟩ := h fragmentId constantId
      obtain ⟨hword, hspot⟩ := indentFrom_word spot hne hline
      rw [fill_cons, indentFrom_append, hword, hspot, hindented, fill_cons, fill_cons,
        List.append_assoc]
      rfl
    cases piece with
    | text chars =>
      obtain ⟨indented, hindented⟩ := ih (spot.behind chars)
      refine ⟨.text (indentFrom spot chars) :: indented, fun fragmentId constantId => ?_⟩
      rw [fill_cons, Piece.fill, indentFrom_append, hindented]
      rfl
    | fragmentId => exact hgap fun _ _ => ⟨toString_ne_nil _, oneLine_toString _⟩
    | constantId => exact hgap fun _ _ => ⟨toString_ne_nil _, oneLine_toString _⟩

/-- A text depends on two ids only by their digits, each in places of its own. -/
def Framed (text : (fragmentId constantId : UInt64) → String) : Prop :=
  ∃ frame : Frame, ∀ fragmentId constantId,
    (text fragmentId constantId).toList = frame.fill fragmentId constantId

namespace Framed

theorem const (text : String) : Framed fun _ _ => text :=
  ⟨[.text text.toList], fun _ _ => (List.append_nil _).symm⟩

theorem fragmentId : Framed fun fragmentId _ => toString fragmentId.toNat :=
  ⟨[.fragmentId], fun _ _ => (List.append_nil _).symm⟩

theorem constantId : Framed fun _ constantId => toString constantId.toNat :=
  ⟨[.constantId], fun _ _ => (List.append_nil _).symm⟩

theorem append {first second : UInt64 → UInt64 → String} (hfirst : Framed first)
    (hsecond : Framed second) : Framed fun fragmentId constantId =>
      first fragmentId constantId ++ second fragmentId constantId := by
  obtain ⟨frame, hframe⟩ := hfirst
  obtain ⟨frame', hframe'⟩ := hsecond
  refine ⟨frame ++ frame', fun fragmentId constantId => ?_⟩
  rw [String.toList_append, hframe, hframe', Frame.fill_append]

end Framed

/-! ### Rendered texts -/

/-- A text that ends with no blank gets a line feed and loses nothing. -/
theorem rendered_of_last {request : Request} {c : Char} (hc : isBlank c = false)
    (h : ∃ front, (rust request).toList = front ++ [c]) :
    rendered request = rust request ++ "\n" := by
  obtain ⟨front, hfront⟩ := h
  have htrimmed : trimRight (front ++ [c]) = front ++ [c] := trimRight_append_of_last hc []
  rw [rendered, Text.trimmedRight, hfront, htrimmed, ← hfront, String.ofList_toList]

/-- A text that ends with a line feed keeps it. -/
theorem rendered_of_feed {request : Request} {c : Char} (hc : isBlank c = false)
    (h : ∃ front, (rust request).toList = front ++ [c, '\n']) :
    rendered request = rust request := by
  obtain ⟨front, hfront⟩ := h
  have htrimmed : trimRight (front ++ [c, '\n']) = front ++ [c] :=
    trimRight_append_of_last hc ['\n']
  rw [← String.toList_inj, rendered, Text.trimmedRight, hfront, htrimmed, String.toList_append,
    String.toList_ofList, List.append_assoc]
  rfl

theorem exists_toList_append (first : String) {second : String} (between : List Char)
    {last : List Char} (h : second.toList = between ++ last) :
    ∃ front, (first ++ second).toList = front ++ last :=
  ⟨first.toList ++ between, by rw [String.toList_append, h, List.append_assoc]⟩

theorem rendered_fragment (staticName expression : String) :
    rendered (.fragment staticName expression) =
      rust (.fragment staticName expression) ++ "\n" := by
  rw [rendered_of_last (c := ';') (by decide)]
  rw [rust_fragment]
  exact exists_toList_append _ [';', '\n', '\x7d'] rfl

theorem rendered_moduleScope (ident body : String) :
    rendered (.moduleScope ident body) = rust (.moduleScope ident body) ++ "\n" := by
  rw [rendered_of_last (c := '\x7d') (by decide)]
  rw [rust_moduleScope]
  exact exists_toList_append _ ['\n'] rfl

/-- What stands in front of an id constant. -/
def constantOpening (type ident : String) : String :=
  if type = "class" then "impl " ++ ident ++ " \x7b\n    #[doc(hidden)]\n    "
  else if type = "function" then "#[doc(hidden)]\npub mod " ++ ident ++ " \x7b\n    "
  else "#[doc(hidden)]\n"

/-- What stands behind it. -/
def constantClosing (type : String) : String :=
  if type = "class" then "\x7d\n" else if type = "function" then "\x7d\n" else ""

theorem rust_idConstant (type ident constantName value : String) :
    rust (.idConstant type ident constantName value) =
      constantOpening type ident ++ ("pub const " ++ constantName ++ ": &'static str = " ++
        Json.markupLiteral value ++ ";\n") ++ constantClosing type := by
  show (if type = "class" then _ else if type = "function" then _ else _) = _
  rw [constantOpening, constantClosing]
  split
  · rfl
  · split
    · rfl
    · rw [String.append_empty]

theorem rendered_idConstant (type ident constantName value : String) :
    rendered (.idConstant type ident constantName value) =
      rust (.idConstant type ident constantName value) := by
  have hclosing : constantClosing type = "\x7d\n" ∨ constantClosing type = "" := by
    rw [constantClosing]
    split
    · exact .inl rfl
    · split
      · exact .inl rfl
      · exact .inr rfl
  rcases hclosing with hclosing | hclosing
  · rw [rendered_of_feed (c := '\x7d') (by decide)]
    rw [rust_idConstant, hclosing]
    exact exists_toList_append _ [] rfl
  · rw [rendered_of_feed (c := ';') (by decide)]
    rw [rust_idConstant, hclosing, String.append_empty, ← String.append_assoc]
    exact exists_toList_append _ [] rfl

namespace Framed

/-- The literal of an id is its digits between quotes. -/
theorem literal : Framed fun _ constantId => Json.markupLiteral (toString constantId.toNat) := by
  refine ⟨[.text ['"'], .constantId, .text ['"']], fun _ constantId => ?_⟩
  rw [toList_markupLiteral_toString]
  rfl

/-- The gaps of a body are those of the scope around it, if the body ends with one line feed. -/
theorem moduleScope {body : UInt64 → UInt64 → String} (h : Framed body) {c : Char}
    (hc : c ≠ '\n') (hlast : ∀ fragmentId constantId, ∃ front,
      (body fragmentId constantId).toList = front ++ [c]) (ident : String) :
    Framed fun fragmentId constantId =>
      rendered (.moduleScope ident (body fragmentId constantId ++ "\n")) := by
  obtain ⟨frame, hframe⟩ := h
  let ended : Frame := frame ++ [.text ['\n']]
  obtain ⟨indented, hindented⟩ := ended.exists_indent .inside
  let opening : String := "#[doc(hidden)]\npub mod " ++ ident ++ " \x7b\n    use super::*;\n\n"
  refine ⟨.text (opening.toList ++ "    ".toList) :: indented ++ [.text ['\x7d', '\n']],
    fun fragmentId constantId => ?_⟩
  obtain ⟨front, hfront⟩ := hlast fragmentId constantId
  have hbody : withoutFinalFeeds (body fragmentId constantId ++ "\n") =
      body fragmentId constantId := by
    have hfeed : "\n".toList = ['\n'] := rfl
    rw [withoutFinalFeeds, String.toList_append, hfront, hfeed, ← String.toList_inj, hfront]
    simp [hc]
  have hended : (body fragmentId constantId).toList ++ ['\n'] =
      ended.fill fragmentId constantId := by
    rw [Frame.fill_append, hframe]
    rfl
  have hindent : (Emission.indented (body fragmentId constantId)).toList ++ ['\n'] =
      "    ".toList ++ indented.fill fragmentId constantId := by
    rw [indented_eq_indentFrom, hended, hindented]
  calc (rendered (.moduleScope ident (body fragmentId constantId ++ "\n"))).toList
      = opening.toList ++ ((Emission.indented (body fragmentId constantId)).toList ++ ['\n']) ++
          ['\x7d', '\n'] := by
        rw [rendered_moduleScope, rust_moduleScope, hbody]
        simp [opening]
    _ = Frame.fill _ fragmentId constantId := by
        rw [hindent, Frame.fill_append, Frame.fill_cons, Piece.fill, ← List.append_assoc]
        rfl

end Framed

end Introspection.Emission
