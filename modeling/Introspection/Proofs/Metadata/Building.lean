import Introspection.Metadata.Builder
import Introspection.Proofs.Metadata.Meaning
import Introspection.Proofs.Metadata.NormalForm
import Introspection.Proofs.Runs

/-!
# What a builder holds

A builder holds the normal form of everything that was pushed, whatever was pushed how. This is said
of all calls at once, those that end in a fault and those that only read included: a fault leaves
what was pushed before it, and reading leaves everything.

## The two halves

The complete pieces and the text that is held back are one run in normal form, cut in two. The cut
is kept where it is by one invariant, `Settled`: the complete pieces do not end with a literal. So
held back text never has to join a piece, and completing it puts it in front of an expression. For
the rest no half is looked at again. What the pieces spell gets longer by what is pushed, they are
in normal form, and `eq_merge_iff` does not leave them a choice.

Writing a node is pushing a run, and `Written` says which one and what fault ended it. The builder
adds nothing to that: `Pushes` is the contract between a writing and its run, one lemma for each
writing.

## Main definitions

* `Metadata.Builder.Settled`
* `Metadata.Builder.Pushes` — a writing pushes a run and ends as said
* `Metadata.Builder.Call.pushed` — what a call pushes
* `Metadata.Builder.reached` — the builder after some calls

## Main results

* `Metadata.Builder.pieces_push` — a builder holds the normal form of what was pushed
* `Metadata.Builder.pushes_write`, `Metadata.Builder.write_eq_ok_iff` — what writing a node pushes
* `Metadata.Builder.reached_eq` — a builder after any calls
* `Metadata.Builder.reached_normalForm`
-/

namespace Introspection.Metadata.Builder

open Introspection.Metadata.Piece (IsNormal isNormal_append_iff spelled spelled_append spelled_cons)

variable {builder : Builder}

/-! ### The invariant -/

/-- The complete pieces are in normal form and do not end with a literal. -/
structure Settled (builder : Builder) : Prop where
  normal : IsNormal builder.complete
  apart : ∀ last ∈ builder.complete.getLast?, last.isLiteral = false

theorem settled_empty : Settled {} where
  normal := Piece.isNormal_nil
  apart := by
    rintro last ⟨⟩

theorem Settled.isNormal_pieces (h : Settled builder) : IsNormal builder.pieces := by
  rw [pieces]
  split
  · exact h.normal
  · next htext =>
    refine isNormal_append_iff.mpr
      ⟨h.normal, Piece.isNormal_singleton_literal (by simpa using htext), ?_⟩
    intro last hlast next _ hboth
    rw [h.apart last hlast] at hboth
    exact Bool.false_ne_true hboth.1

/-- What the pieces spell: the text that is held back comes last, empty or not. -/
theorem spelled_pieces (builder : Builder) :
    spelled builder.pieces =
      spelled builder.complete ++ (String.join builder.pending).toList.map .inl := by
  rw [pieces]
  split
  · next hempty =>
    rw [String.isEmpty_iff.mp hempty]
    simp
  · rw [spelled_append]
    simp [spelled_cons, Piece.atoms]

theorem pieces_flush (builder : Builder) : builder.flush = { complete := builder.pieces } := by
  rw [flush]
  split
  · next hpending =>
    obtain ⟨complete, pending⟩ := builder
    cases List.isEmpty_iff.mp hpending
    rfl
  · rfl

/-- One piece pushed. -/
def pushPiece (builder : Builder) : Piece → Builder
  | .literal text => builder.pushText text
  | .computed expression => builder.pushComputed expression

theorem Settled.pushPiece (h : Settled builder) (piece : Piece) :
    Settled (builder.pushPiece piece) := by
  cases piece with
  | literal text => exact ⟨h.normal, h.apart⟩
  | computed expression =>
    rw [Builder.pushPiece, pushComputed, pieces_flush]
    refine ⟨isNormal_append_iff.mpr ⟨h.isNormal_pieces,
      Piece.isNormal_singleton_computed expression, ?_⟩, ?_⟩
    · rintro last - next ⟨⟩ hboth
      exact Bool.false_ne_true hboth.2
    · intro last hlast
      rw [List.getLast?_concat] at hlast
      cases hlast
      rfl

theorem spelled_pushPiece (builder : Builder) (piece : Piece) :
    spelled (builder.pushPiece piece).pieces = spelled builder.pieces ++ piece.atoms := by
  cases piece with
  | literal text =>
    rw [pushPiece, pushText, spelled_pieces, spelled_pieces]
    simp [Piece.atoms, String.toList_join]
  | computed expression =>
    rw [pushPiece, pushComputed, pieces_flush, spelled_pieces]
    simp [spelled_append, spelled_cons]

/-- A run pushed piece by piece. -/
def push (builder : Builder) (run : List Piece) : Builder :=
  run.foldl pushPiece builder

theorem push_append (builder : Builder) (first second : List Piece) :
    builder.push (first ++ second) = (builder.push first).push second :=
  List.foldl_append

theorem Settled.push (h : Settled builder) (run : List Piece) : Settled (builder.push run) := by
  induction run generalizing builder with
  | nil => exact h
  | cons piece run ih => exact ih (h.pushPiece piece)

theorem spelled_push (builder : Builder) (run : List Piece) :
    spelled (builder.push run).pieces = spelled builder.pieces ++ spelled run := by
  induction run generalizing builder with
  | nil => simp [push]
  | cons piece run ih =>
    rw [spelled_cons, ← List.append_assoc, ← spelled_pushPiece]
    exact ih _

/-- A builder holds the normal form of what was pushed. -/
theorem pieces_push (run : List Piece) : (push {} run).pieces = Piece.merge run := by
  rw [Piece.eq_merge_iff]
  refine ⟨(settled_empty.push run).isNormal_pieces, ?_⟩
  rw [spelled_push]
  rfl

/-- Behind what a builder holds there is what a fresh one would hold, with two literals that meet
joined. -/
theorem Settled.pieces_push (h : Settled builder) (run : List Piece) :
    (builder.push run).pieces = Piece.seam builder.pieces (Builder.push {} run).pieces := by
  have hfresh := (settled_empty.push run).isNormal_pieces
  have hseam := (h.isNormal_pieces.seam hfresh).merge_eq
  rw [← (h.push run).isNormal_pieces.merge_eq, ← hseam, Piece.merge_eq_iff, Piece.spelled_seam,
    spelled_push, spelled_push]
  rfl

/-! ### Writing -/

/-- How a stretch of writing ends when it starts from a builder. -/
def outcome (builder : Builder) (written : Written) : EStateM.Result Fault Builder Unit :=
  match written.fault with
  | none => .ok () (builder.push written.pushed)
  | some fault => .error fault (builder.push written.pushed)

/-- A writing pushes a run and ends in a fault or not, from every builder. -/
def Pushes (writing : Writing) (written : Written) : Prop :=
  ∀ builder, writing builder = builder.outcome written

theorem pushes_pure : Pushes (pure ()) Written.nothing := fun _ => rfl

theorem pushes_writeText (text : String) : Pushes (writeText text) (Written.text text) :=
  fun _ => rfl

theorem pushes_throw (fault : Fault) : Pushes (throw fault) (Written.failure fault) := fun _ => rfl

/-- One writing after another pushes the one run behind the other, unless there was a fault. -/
theorem Pushes.bind {first second : Writing} {written next : Written} (h : Pushes first written)
    (h' : Pushes second next) : Pushes (first >>= fun _ => second) (written.andThen next) := by
  intro builder
  obtain ⟨pushed, fault⟩ := written
  cases fault with
  | none =>
    rw [bind_eq_of_ok (h builder), h']
    simp only [outcome, Written.andThen, push_append]
  | some fault =>
    change EStateM.bind first (fun _ => second) builder = _
    rw [EStateM.bind, h builder]
    rfl

theorem pushes_writeQuoted (expression : String) :
    Pushes (writeQuoted expression) (Written.computed expression) := fun _ => rfl

/-- The opening quote is pushed even if the text cannot be written. -/
theorem pushes_writeString (value : String) : Pushes (writeString value) (Written.string value) := by
  rw [writeString, Written.string]
  refine (pushes_writeText _).bind ?_
  cases escapeText value with
  | ok escaped => exact (pushes_writeText escaped).bind (pushes_writeText _)
  | error fault => exact fun _ => rfl

/-- Stretches one after another, with a comma in front of each that has one before it. -/
def continued (behind : Bool) : List Written → Written
  | [] => .nothing
  | first :: rest =>
    (if behind then Written.text "," else .nothing).andThen (first.andThen (continued true rest))

theorem nothing_andThen (written : Written) : Written.nothing.andThen written = written := rfl

theorem andThen_nothing (written : Written) : written.andThen .nothing = written := by
  obtain ⟨pushed, fault⟩ := written
  cases fault with
  | none => simp [Written.andThen, Written.nothing]
  | some fault => rfl

theorem andThen_assoc (first second third : Written) :
    (first.andThen second).andThen third = first.andThen (second.andThen third) := by
  obtain ⟨pushed, fault⟩ := first
  obtain ⟨pushed', fault'⟩ := second
  cases fault with
  | none => cases fault' <;> simp [Written.andThen]
  | some fault => rfl

/-- Commas in front of all stretches but the first are commas between two. -/
theorem continued_false (stretches : List Written) :
    continued false stretches = Written.separated stretches := by
  induction stretches with
  | nil => rfl
  | cons first rest ih =>
    cases rest with
    | nil =>
      rw [continued, if_neg Bool.false_ne_true, nothing_andThen, continued, andThen_nothing]
      rfl
    | cons second rest =>
      rw [Written.separated, ← ih]
      · rfl
      · exact List.cons_ne_nil _ _

/-- A comma is written in front of what has something before it. -/
theorem Pushes.behind {writing : Writing} {written : Written} (h : Pushes writing written)
    (behind : Bool) :
    Pushes (do
        if behind then writeText ","
        writing)
      ((if behind then Written.text "," else .nothing).andThen written) := by
  cases behind with
  | false => exact h
  | true => exact (pushes_writeText ",").bind h

variable {idConstant : String}

mutual

/-- Writing a node pushes what is written of it. -/
theorem pushes_write : (node : Node) → Pushes (write idConstant node) (node.written idConstant)
  | .bool value => by
    rw [write, Node.written]
    exact pushes_writeText _
  | .str value => by
    rw [write, Node.written]
    exact pushes_writeString value
  | .ref target => by
    rw [write, Node.written]
    exact pushes_writeQuoted _
  | .computed expression => by
    rw [write, Node.written]
    exact pushes_writeQuoted expression
  | .object entries => by
    rw [write, Node.written, ← continued_false]
    exact (pushes_writeText _).bind ((pushes_writeEntries false entries).bind (pushes_writeText _))
  | .array items => by
    rw [write, Node.written, ← continued_false]
    exact (pushes_writeText _).bind ((pushes_writeItems false items).bind (pushes_writeText _))
  | .foreign value => by
    rw [write, Node.written]
    exact pushes_throw _

theorem pushes_writeItems (behind : Bool) : (items : List Node) →
    Pushes (writeItems idConstant behind items)
      (continued behind (Node.writtenItems idConstant items))
  | [] => by
    rw [writeItems, Node.writtenItems]
    exact pushes_pure
  | item :: items => by
    rw [writeItems, Node.writtenItems, continued]
    exact ((pushes_write item).bind (pushes_writeItems true items)).behind behind

theorem pushes_writeEntries (behind : Bool) : (entries : List (String × Node)) →
    Pushes (writeEntries idConstant behind entries)
      (continued behind (Node.writtenEntries idConstant entries))
  | [] => by
    rw [writeEntries, Node.writtenEntries]
    exact pushes_pure
  | (key, value) :: entries => by
    rw [writeEntries, Node.writtenEntries, continued, andThen_assoc, andThen_assoc]
    refine Pushes.behind ?_ behind
    exact (pushes_writeString key).bind ((pushes_writeText ":").bind
      ((pushes_write value).bind (pushes_writeEntries true entries)))

end

/-- A node is written into a fresh builder if it can be serialized, and then the builder holds what
it is serialized to. -/
theorem write_eq_ok_iff {node : Node} :
    write idConstant node {} = .ok () builder ↔
      ∃ content, node.serialize idConstant = .ok content ∧ builder = push {} content.run := by
  rw [pushes_write node, outcome, Node.serialize, Written.toExcept]
  cases (node.written idConstant).fault with
  | none =>
    constructor
    · rintro ⟨⟩
      exact ⟨_, rfl, rfl⟩
    · rintro ⟨content, ⟨⟩, rfl⟩
      rfl
  | some fault =>
    constructor
    · rintro ⟨⟩
    · rintro ⟨content, ⟨⟩, -⟩

/-! ### Calls -/

/-- What a call writes, and the fault that it ends in, if it does. -/
def Call.written : Call → Written
  | .text value => .text value
  | .string value => .string value
  | .computed value => ⟨[.computed value], none⟩
  | .node value idConstant => value.written idConstant
  | .pieces => .nothing
  | .expression _ => .nothing
  | .evaluate _ => .nothing

/-- The texts and expressions that a call pushes. -/
def Call.pushed (call : Call) : List Piece :=
  call.written.pushed

/-- Whether a call only reads. -/
def Call.isRead : Call → Bool
  | .text _ => false
  | .string _ => false
  | .computed _ => false
  | .node _ _ => false
  | .pieces => true
  | .expression _ => true
  | .evaluate _ => true

theorem perform_of_pushes {writing : Writing} {written : Written} (h : Pushes writing written) :
    builder.perform writing =
      (match written.fault with
        | none => .ok .nothing
        | some fault => .error fault, builder.push written.pushed) := by
  rw [perform, h builder, outcome]
  cases written.fault <;> rfl

/-- A call leaves the builder with what it pushes, whether it ends in a fault or not. -/
theorem step_snd (builder : Builder) (call : Call) :
    (builder.step call).2 = builder.push call.pushed := by
  cases call with
  | text value => rfl
  | string value => rw [step, perform_of_pushes (pushes_writeString value)]; rfl
  | computed expression => rfl
  | node value idConstant => rw [step, perform_of_pushes (pushes_write value)]; rfl
  | pieces => rfl
  | expression cratePath => rfl
  | evaluate valueOf => rfl

theorem run_cons (builder : Builder) (call : Call) (calls : List Call) :
    builder.run (call :: calls) =
      ((builder.step call).1 :: ((builder.step call).2.run calls).1,
        ((builder.step call).2.run calls).2) := rfl

theorem run_append (builder : Builder) (first second : List Call) :
    builder.run (first ++ second) =
      ((builder.run first).1 ++ ((builder.run first).2.run second).1,
        ((builder.run first).2.run second).2) := by
  induction first generalizing builder with
  | nil => rfl
  | cons call first ih =>
    rw [List.cons_append, run_cons, run_cons, ih]
    rfl

/-- A run of calls pushes what each of them pushes. -/
theorem run_snd (builder : Builder) (calls : List Call) :
    (builder.run calls).2 = builder.push (calls.flatMap Call.pushed) := by
  induction calls generalizing builder with
  | nil => rfl
  | cons call calls ih =>
    rw [run_cons, List.flatMap_cons, push_append, ← step_snd, ← ih]

/-- The builder after some calls, from a fresh one on. -/
def reached (calls : List Call) : Builder :=
  (run {} calls).2

theorem reached_eq (calls : List Call) : reached calls = push {} (calls.flatMap Call.pushed) :=
  run_snd {} calls

theorem settled_reached (calls : List Call) : Settled (reached calls) := by
  rw [reached_eq]
  exact settled_empty.push _

theorem pieces_reached (calls : List Call) :
    (reached calls).pieces = Piece.merge (calls.flatMap Call.pushed) := by
  rw [reached_eq, pieces_push]

/-- What a reached builder evaluates to is in the order of the calls. -/
theorem evaluate_reached (calls : List Call) (valueOf : String → String) :
    (reached calls).evaluate valueOf =
      String.join ((calls.flatMap Call.pushed).map (Piece.value valueOf)) := by
  have hmerge : runText valueOf (Piece.merge (calls.flatMap Call.pushed)) =
      runText valueOf (calls.flatMap Call.pushed) := runText_merge _
  rw [evaluate, pieces_reached, ← String.toList_inj, String.toList_join, String.toList_join,
    List.flatMap_map, List.flatMap_map]
  exact hmerge

/-- A read that is left out is missing among the answers, and that is all. -/
theorem run_of_isRead {read : Call} (h : read.isRead = true) (before after : List Call) :
    (run {} (before ++ read :: after)).2 = (run {} (before ++ after)).2 ∧
      (run {} (before ++ read :: after)).1.eraseIdx before.length = (run {} (before ++ after)).1 := by
  have hstep (builder : Builder) : (builder.step read).2 = builder := by
    cases read <;> first | rfl | cases h
  have hlength (builder : Builder) (calls : List Call) :
      (builder.run calls).1.length = calls.length := by
    induction calls generalizing builder with
    | nil => rfl
    | cons call calls ih => rw [run_cons, List.length_cons, List.length_cons, ih]
  rw [run_append, run_append, run_cons, hstep]
  refine ⟨rfl, ?_⟩
  rw [← hlength {} before, List.eraseIdx_append_of_length_le le_rfl, Nat.sub_self]
  rfl

/-- Serializing into a builder ends as it does in a fresh one, and adds what a fresh one holds. -/
theorem step_node (calls : List Call) (node : Node) (idConstant : String) :
    ((reached calls).step (.node node idConstant)).1 = (step {} (.node node idConstant)).1 ∧
      ((reached calls).step (.node node idConstant)).2.pieces =
        Piece.seam (reached calls).pieces (step {} (.node node idConstant)).2.pieces := by
  constructor
  · rw [step, step, perform_of_pushes (pushes_write node), perform_of_pushes (pushes_write node)]
  · rw [step_snd, step_snd]
    exact (settled_reached calls).pieces_push _

/-- **What a builder holds is the normal form of what was pushed.**

After any calls the pieces are in normal form, and they are the only ones that spell what the calls
have pushed. So it does not matter how texts were cut, pieces evaluate in the order in which they
were pushed, a node adds what a fresh builder would hold of it, and reads change nothing. -/
theorem reached_normalForm (calls : List Call) :
    IsNormal (reached calls).pieces ∧
    (reached calls).pieces = Piece.merge (calls.flatMap Call.pushed) ∧
    (∀ pieces, IsNormal pieces ∧ spelled pieces = spelled (calls.flatMap Call.pushed) ↔
      pieces = (reached calls).pieces) ∧
    (∀ others : List Call,
      spelled (calls.flatMap Call.pushed) = spelled (others.flatMap Call.pushed) →
        (reached calls).pieces = (reached others).pieces) ∧
    (∀ valueOf, (reached calls).evaluate valueOf =
      String.join ((calls.flatMap Call.pushed).map (Piece.value valueOf))) ∧
    (∀ node idConstant,
      ((reached calls).step (.node node idConstant)).1 = (step {} (.node node idConstant)).1 ∧
      ((reached calls).step (.node node idConstant)).2.pieces =
        Piece.seam (reached calls).pieces (step {} (.node node idConstant)).2.pieces) ∧
    ∀ read later, read.isRead = true →
      (run {} (calls ++ read :: later)).2 = (run {} (calls ++ later)).2 ∧
      (run {} (calls ++ read :: later)).1.eraseIdx calls.length = (run {} (calls ++ later)).1 := by
  refine ⟨(settled_reached calls).isNormal_pieces, pieces_reached calls, fun pieces => ?_,
    fun others same => ?_, evaluate_reached calls, step_node calls,
    fun read later h => run_of_isRead h calls later⟩
  · rw [pieces_reached, Piece.eq_merge_iff]
  · rw [pieces_reached, pieces_reached]
    exact Piece.merge_eq_iff.mpr same

/-- A text in parts, with a read between them, an expression, a text that cannot be written and a
node behind its quote. -/
def cutCalls : List Call :=
  [.text "a", .text "", .pieces, .text "b", .computed "X", .string "bell\x07",
    .node (.array [.bool true]) "ID"]

/-- The same text in one part, and the expression. -/
def wholeCalls : List Call :=
  [.text "ab", .computed "X", .text "\"[true]"]

/-- The calls of `cutCalls` and of `wholeCalls` push the same, and the read does not matter. -/
theorem reached_normalForm_cut :
    spelled (cutCalls.flatMap Call.pushed) = spelled (wholeCalls.flatMap Call.pushed) ∧
    (reached cutCalls).pieces = (reached wholeCalls).pieces ∧
    Call.pieces.isRead = true ∧
    (run {} (wholeCalls ++ [.pieces, .text "c"])).2 = (run {} (wholeCalls ++ [.text "c"])).2 := by
  have same : spelled (cutCalls.flatMap Call.pushed) = spelled (wholeCalls.flatMap Call.pushed) := by
    decide
  obtain ⟨-, -, -, cut, -⟩ := reached_normalForm cutCalls
  obtain ⟨-, -, -, -, -, -, reads⟩ := reached_normalForm wholeCalls
  exact ⟨same, cut wholeCalls same, rfl, (reads .pieces [.text "c"] rfl).1⟩

end Introspection.Metadata.Builder
