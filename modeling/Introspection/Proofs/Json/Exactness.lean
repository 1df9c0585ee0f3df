import Introspection.Proofs.Json.Grammar

/-!
# The reader is exact for its grammar

A value is read off the front of a text exactly if a text of the grammar stands there, and
documents are the texts of the grammar with white space around them. So what a document is can be
said without its reader, and the reader decides it.

In front of what a text of the grammar is taken makes a difference for numbers only. In a container
the premise is met by itself, as a value there is followed by white space, by a comma or by the
closing bracket; so no item and no member has a premise of its own, and the induction over the
grammar goes through.

## Main results

* `Json.Grammar.Value.answers` — a text of the grammar is taken
* `Json.Grammar.exists_value` — what is taken is a text of the grammar
* `Json.parse_eq_ok_iff` — documents are the texts of the grammar with white space around them
-/

namespace Introspection.Json

/-! ### Values are read -/

/-- A number is an integer or a floating-point number. -/
theorem Grammar.Number.int_or_float {text : List Char} {value : Json}
    (h : Grammar.Number text value) : (∃ n, value = .int n) ∨ ∃ x, value = .float x := by
  have key {negative : Bool} {text : List Char} (h : Grammar.Unsigned negative text value) :
      (∃ n, value = .int n) ∨ ∃ x, value = .float x := by
    cases h with
    | whole h => exact .inl ⟨_, rfl⟩
    | fraction h behind => exact .inr ⟨_, rfl⟩
    | exponent h raised => exact .inr ⟨_, rfl⟩
    | both h behind raised => exact .inr ⟨_, rfl⟩
  cases h with
  | positive h => exact key h
  | negative h => exact key h

theorem Grammar.Number.answers {text rest : List Char} {value : Json}
    (h : Grammar.Number text value) (hrest : Stops rest) :
    Answers (readValue (text ++ rest)) value rest := by
  have scalar : Answers (readScalar (text ++ rest)) value rest := by
    rw [Answers, readScalar]
    split
    · next hword =>
      rw [h.readWord?_eq_none] at hword
      cases hword
    · split
      · next hnumber =>
        rw [h.readNumber? hrest] at hnumber
        cases hnumber
        rfl
      · next hnumber =>
        rw [h.readNumber? hrest] at hnumber
        cases hnumber
  obtain ⟨c, inside, rfl, hc⟩ := h.starts
  rw [List.cons_append] at scalar ⊢
  rwa [readValue]
  · exact fun _ heq => hc.ne (by decide) (List.cons.inj heq).1
  · exact fun _ heq => hc.ne (by decide) (List.cons.inj heq).1
  · exact fun _ heq => hc.ne (by decide) (List.cons.inj heq).1

/-- The first character of a value is no white space, no byte order mark and not the end of an
array. -/
theorem Grammar.Value.starts {text : List Char} {value : Json} (h : Grammar.Value text value) :
    ∃ c inside, text = c :: inside ∧ isSpace c = false ∧ c ≠ ']' ∧ c ≠ '\uFEFF' := by
  cases h with
  | word h =>
    obtain ⟨c, d, tail, rfl, hc, -⟩ := word_starts h
    exact ⟨c, _, rfl, hc.1, hc.ne (by decide), hc.ne (by decide)⟩
  | number h =>
    obtain ⟨c, tail, rfl, hc⟩ := h.starts
    exact ⟨c, tail, rfl, hc.1, hc.ne (by decide), hc.ne (by decide)⟩
  | str h => exact ⟨_, _, rfl, by decide, by decide, by decide⟩
  | emptyArray h => exact ⟨_, _, rfl, by decide, by decide, by decide⟩
  | array h => exact ⟨_, _, rfl, by decide, by decide, by decide⟩
  | emptyObject h => exact ⟨_, _, rfl, by decide, by decide, by decide⟩
  | object h => exact ⟨_, _, rfl, by decide, by decide, by decide⟩

/-- White space in front of a value is all that is skipped. -/
theorem Grammar.Value.skipSpace {text : List Char} {value : Json} (h : Grammar.Value text value)
    {before : List Char} (space : Space before) (rest : List Char) :
    skipSpace (before ++ (text ++ rest)) = text ++ rest := by
  obtain ⟨c, inside, rfl, hc, -⟩ := h.starts
  rw [skipSpace_append space]
  exact skipSpace_cons hc _

/-- White space behind a value is all that is skipped in front of what is none. -/
theorem skipSpace_append_cons {behind : List Char} (space : Space behind) {c : Char}
    (hc : isSpace c = false) (rest : List Char) :
    Json.skipSpace (behind ++ c :: rest) = c :: rest := by
  rw [skipSpace_append space, skipSpace_cons hc]

/-- No number goes on behind white space. -/
theorem stops_append {behind : List Char} (space : Space behind) {rest : List Char}
    (h : Stops rest) : Stops (behind ++ rest) := by
  cases behind with
  | nil => exact h
  | cons c behind =>
    refine stops_cons ?_ _
    have hc : isSpace c = true := space c List.mem_cons_self
    simp only [isSpace, Bool.or_eq_true, beq_iff_eq] at hc
    rcases hc with ((rfl | rfl) | rfl) | rfl <;> decide

/-- No number goes on behind what stands there in a container. -/
theorem stops_append_cons {behind : List Char} (space : Space behind) {c : Char}
    (hc : c.isDigit = false ∧ c ≠ '.' ∧ c ≠ 'e' ∧ c ≠ 'E') (rest : List Char) :
    Stops (behind ++ c :: rest) :=
  stops_append space (stops_cons hc rest)

/-- The items of an array begin with a value. -/
theorem Grammar.Items.starts {inside : List Char} {items : List Json}
    (h : Grammar.Items inside items) (rest : List Char) :
    ∃ c tail, Json.skipSpace (inside ++ rest) = c :: tail ∧ c ≠ ']' := by
  have key {before text : List Char} {item : Json} (space : Space before)
      (h : Grammar.Value text item) (behind : List Char) :
      ∃ c tail, Json.skipSpace (before ++ (text ++ behind)) = c :: tail ∧ c ≠ ']' := by
    rw [h.skipSpace space]
    obtain ⟨c, tail, rfl, -, hc, -⟩ := h.starts
    exact ⟨c, _, rfl, hc⟩
  cases h with
  | last spaceBefore h spaceBehind =>
    rw [List.append_assoc, List.append_assoc]
    exact key spaceBefore h _
  | more spaceBefore h spaceBehind others =>
    rw [List.append_assoc, List.append_assoc]
    exact key spaceBefore h _

/-- The members of an object begin with the quote of a key. -/
theorem Grammar.Members.starts {inside : List Char} {members : List (String × Json)}
    (h : Grammar.Members inside members) (rest : List Char) :
    ∃ tail, Json.skipSpace (inside ++ rest) = '"' :: tail := by
  cases h with
  | last spaceBefore _ _ _ _ _ =>
    rw [List.append_assoc, List.cons_append]
    exact ⟨_, skipSpace_append_cons spaceBefore (by decide) _⟩
  | more spaceBefore _ _ _ _ _ _ =>
    rw [List.append_assoc, List.cons_append]
    exact ⟨_, skipSpace_append_cons spaceBefore (by decide) _⟩

mutual

/-- A value is taken in front of everything that it does not go on with; only a number goes on. -/
theorem Grammar.Value.answers {text : List Char} {value : Json} :
    (h : Grammar.Value text value) → (rest : List Char) →
      (Grammar.Number text value → Stops rest) → Answers (readValue (text ++ rest)) value rest
  | .word h, rest, _ => by
    have hread := readWord?_append h rest
    obtain ⟨c, d, tail, rfl, hc, -⟩ := word_starts h
    exact readValue_word (hc.ne (by decide)) (hc.ne (by decide)) (hc.ne (by decide)) hread
  | .number h, rest, hrest => h.answers (hrest h)
  | .str h, rest, _ => by
    rw [List.cons_append, List.append_assoc, List.singleton_append]
    exact readValue_str (readString_answers (h.readUnits _ rest))
  | .emptyArray space, rest, _ => by
    rw [List.cons_append, List.append_assoc, List.singleton_append]
    exact readValue_emptyArray (skipSpace_append_cons space (by decide) rest)
  | .array h, rest, _ => by
    rw [List.cons_append, List.append_assoc, List.singleton_append]
    obtain ⟨c, tail, hstart, hc⟩ := h.starts (']' :: rest)
    refine readValue_array (fun after heq => ?_) (h.answers rest)
    rw [hstart] at heq
    exact hc (List.cons.inj heq).1
  | .emptyObject space, rest, _ => by
    rw [List.cons_append, List.append_assoc, List.singleton_append]
    exact readValue_emptyObject (skipSpace_append_cons space (by decide) rest)
  | .object h, rest, _ => by
    rw [List.cons_append, List.append_assoc, List.singleton_append, ← foldl_put]
    obtain ⟨tail, hstart⟩ := h.starts ('\x7d' :: rest)
    refine readValue_object (fun after heq => ?_) (h.answers [] rest)
    rw [hstart] at heq
    exact absurd (List.cons.inj heq).1 (by decide)

/-- The items of an array are taken with the bracket behind them. -/
theorem Grammar.Items.answers {inside : List Char} {items : List Json} :
    (h : Grammar.Items inside items) → (rest : List Char) →
      Answers (readItems (Json.skipSpace (inside ++ ']' :: rest))) items rest
  | .last spaceBefore h spaceBehind, rest => by
    rw [List.append_assoc, List.append_assoc, h.skipSpace spaceBefore]
    exact readItems_last (h.answers _ fun _ => stops_append_cons spaceBehind (by decide) rest)
      (skipSpace_append_cons spaceBehind (by decide) rest)
  | .more spaceBefore h spaceBehind others, rest => by
    rw [List.append_assoc, List.append_assoc, List.append_assoc, List.cons_append,
      h.skipSpace spaceBefore]
    exact readItems_more (h.answers _ fun _ => stops_append_cons spaceBehind (by decide) _)
      (skipSpace_append_cons spaceBehind (by decide) _) (others.answers rest)

/-- The members of an object are taken with the brace behind them, and put one by one. -/
theorem Grammar.Members.answers {inside : List Char} {members : List (String × Json)} :
    (h : Grammar.Members inside members) → (before : Entries) → (rest : List Char) →
      Answers (readEntries before (Json.skipSpace (inside ++ '\x7d' :: rest)))
        (members.foldl (fun entries member => put entries member.1 member.2) before) rest
  | .last spaceBefore keyed spaceBetween spaceAfter h spaceBehind, before, rest => by
    rw [List.append_assoc, List.cons_append, List.append_assoc, List.cons_append,
      List.append_assoc, List.cons_append, List.append_assoc, List.append_assoc,
      skipSpace_append_cons spaceBefore (by decide)]
    refine readEntries_last (readString_answers (keyed.readUnits _ _))
      (skipSpace_append_cons spaceBetween (by decide) _) ?_
      (skipSpace_append_cons spaceBehind (by decide) rest)
    rw [h.skipSpace spaceAfter]
    exact h.answers _ fun _ => stops_append_cons spaceBehind (by decide) rest
  | .more spaceBefore keyed spaceBetween spaceAfter h spaceBehind others, before, rest => by
    rw [List.append_assoc, List.cons_append, List.append_assoc, List.cons_append,
      List.append_assoc, List.cons_append, List.append_assoc, List.append_assoc,
      List.append_assoc, List.cons_append, skipSpace_append_cons spaceBefore (by decide)]
    refine readEntries_more (readString_answers (keyed.readUnits _ _))
      (skipSpace_append_cons spaceBetween (by decide) _) ?_
      (skipSpace_append_cons spaceBehind (by decide) _) (others.answers _ rest)
    rw [h.skipSpace spaceAfter]
    exact h.answers _ fun _ => stops_append_cons spaceBehind (by decide) _

end

/-! ### What is read is a value -/

theorem Answers.length_lt {α : Type} {text rest : List Char} {answer : Except Fault (Taken α text)}
    {value : α} (h : Answers answer value rest) : rest.length < text.length := by
  obtain ⟨shorter, -⟩ := answers_iff.mp h
  exact shorter

theorem exists_of_readString {start text rest : List Char} {value : String}
    (h : Answers (readString start text) value rest) :
    ∃ inside units, Grammar.Inside inside units ∧ text = inside ++ '"' :: rest ∧
      value = String.ofList (unitsText units) := by
  rw [Answers, readString] at h
  split at h
  · next units rest' hread =>
    cases h
    obtain ⟨inside, hinside, heq⟩ := Grammar.exists_inside hread
    exact ⟨inside, units, hinside, heq, rfl⟩
  · cases h

theorem exists_of_readScalar {text rest : List Char} {value : Json}
    (h : Answers (readScalar text) value rest) :
    ∃ scalar, Grammar.Value scalar value ∧ text = scalar ++ rest := by
  rw [Answers, readScalar] at h
  split at h
  · next hword =>
    cases h
    obtain ⟨word, hmem, heq⟩ := exists_word hword
    exact ⟨word, .word hmem, heq⟩
  · split at h
    · next hnumber =>
      cases h
      obtain ⟨number, hnumber, heq⟩ := Grammar.exists_number hnumber
      exact ⟨number, .number hnumber, heq⟩
    · cases h

/-- The ways in which items are read. -/
theorem exists_of_readItems {text rest : List Char} {items : List Json}
    (h : Answers (readItems text) items rest) :
    ∃ item after, Answers (readValue text) item after ∧
      ((items = [item] ∧ skipSpace after = ']' :: rest) ∨
        ∃ more others, items = item :: others ∧ skipSpace after = ',' :: more ∧
          Answers (readItems (skipSpace more)) others rest) := by
  rw [Answers, readItems] at h
  split at h
  · cases h
  · next item after shorter hitem =>
    refine ⟨item, after, answers_iff.mpr ⟨shorter, hitem⟩, ?_⟩
    dsimp only at h
    split at h
    · next hend =>
      cases h
      exact .inl ⟨rfl, hend⟩
    · next more hcomma =>
      split at h
      · cases h
      · next others rest' shorter' hmore =>
        cases h
        exact .inr ⟨more, others, rfl, hcomma, answers_iff.mpr ⟨shorter', hmore⟩⟩
    · cases h

/-- The ways in which members are read. -/
theorem exists_of_readEntries {before entries : Entries} {text rest : List Char}
    (h : Answers (readEntries before text) entries rest) :
    ∃ inside key between after value behind, text = '"' :: inside ∧
      Answers (readString ('"' :: inside) inside) key between ∧
      skipSpace between = ':' :: after ∧ Answers (readValue (skipSpace after)) value behind ∧
      ((entries = put before key value ∧ skipSpace behind = '\x7d' :: rest) ∨
        ∃ more, skipSpace behind = ',' :: more ∧
          Answers (readEntries (put before key value) (skipSpace more)) entries rest) := by
  rw [Answers, readEntries.eq_def] at h
  split at h
  · next inside =>
    split at h
    · cases h
    · next key between shorter hkey =>
      dsimp only at h
      split at h
      · next after hcolon =>
        split at h
        · cases h
        · next value behind shorter' hvalue =>
          refine ⟨inside, key, between, after, value, behind, rfl, answers_iff.mpr ⟨shorter, hkey⟩,
            hcolon, answers_iff.mpr ⟨shorter', hvalue⟩, ?_⟩
          split at h
          · next hend =>
            cases h
            exact .inl ⟨rfl, hend⟩
          · next more hcomma =>
            split at h
            · cases h
            · next entries' rest' shorter'' hmore =>
              cases h
              exact .inr ⟨more, hcomma, answers_iff.mpr ⟨shorter'', hmore⟩⟩
          · cases h
      · cases h
  · cases h

/-- The ways in which a value is read. -/
theorem exists_of_readValue {text rest : List Char} {value : Json}
    (h : Answers (readValue text) value rest) :
    (∃ inside found, text = '"' :: inside ∧ value = .str found ∧
        Answers (readString ('"' :: inside) inside) found rest) ∨
      (∃ inside, text = '[' :: inside ∧
        ((value = .array [] ∧ skipSpace inside = ']' :: rest) ∨
          ∃ items, value = .array items ∧ Answers (readItems (skipSpace inside)) items rest)) ∨
      (∃ inside, text = '\x7b' :: inside ∧
        ((value = .object [] ∧ skipSpace inside = '\x7d' :: rest) ∨
          ∃ entries, value = .object entries ∧
            Answers (readEntries [] (skipSpace inside)) entries rest)) ∨
      Answers (readScalar text) value rest := by
  rw [Answers, readValue.eq_def] at h
  split at h
  · next inside =>
    split at h
    · cases h
    · next found rest' shorter hfound =>
      cases h
      exact .inl ⟨inside, found, rfl, rfl, answers_iff.mpr ⟨shorter, hfound⟩⟩
  · next inside =>
    refine .inr (.inl ⟨inside, rfl, ?_⟩)
    split at h
    · next hend =>
      cases h
      exact .inl ⟨rfl, hend⟩
    · dsimp only at h
      split at h
      · cases h
      · next items rest' shorter hitems =>
        cases h
        exact .inr ⟨items, rfl, answers_iff.mpr ⟨shorter, hitems⟩⟩
  · next inside =>
    refine .inr (.inr (.inl ⟨inside, rfl, ?_⟩))
    split at h
    · next hend =>
      cases h
      exact .inl ⟨rfl, hend⟩
    · dsimp only at h
      split at h
      · cases h
      · next entries rest' shorter hentries =>
        cases h
        exact .inr ⟨entries, rfl, answers_iff.mpr ⟨shorter, hentries⟩⟩
  · exact .inr (.inr (.inr h))
/-- Behind a character that white space is skipped in front of there is less. -/
theorem length_skipSpace_lt {text after : List Char} {c : Char} (h : skipSpace text = c :: after) :
    (skipSpace after).length < text.length := by
  have hle := length_skipSpace_le text
  rw [h, List.length_cons] at hle
  exact Nat.lt_of_le_of_lt (length_skipSpace_le after) hle

/-- White space may stand in front of the first item. -/
theorem Grammar.Items.prepend {before inside : List Char} {items : List Json}
    (space : Space before) (h : Grammar.Items inside items) :
    Grammar.Items (before ++ inside) items := by
  cases h with
  | last spaceBefore h spaceBehind =>
    rw [← List.append_assoc]
    exact .last (space.append spaceBefore) h spaceBehind
  | more spaceBefore h spaceBehind others =>
    rw [← List.append_assoc]
    exact .more (space.append spaceBefore) h spaceBehind others

/-- White space may stand in front of the first member. -/
theorem Grammar.Members.prepend {before inside : List Char} {members : List (String × Json)}
    (space : Space before) (h : Grammar.Members inside members) :
    Grammar.Members (before ++ inside) members := by
  cases h with
  | last spaceBefore keyed spaceBetween spaceAfter h spaceBehind =>
    rw [← List.append_assoc]
    exact .last (space.append spaceBefore) keyed spaceBetween spaceAfter h spaceBehind
  | more spaceBefore keyed spaceBetween spaceAfter h spaceBehind others =>
    rw [← List.append_assoc]
    exact .more (space.append spaceBefore) keyed spaceBetween spaceAfter h spaceBehind others

mutual

/-- What is read as a value is the text of one. -/
theorem Grammar.exists_value {text rest : List Char} {value : Json}
    (h : Answers (readValue text) value rest) :
    ∃ taken, Grammar.Value taken value ∧ text = taken ++ rest := by
  rcases exists_of_readValue h with ⟨inside, found, rfl, rfl, hfound⟩ |
    ⟨inside, htext, ⟨rfl, hend⟩ | ⟨items, rfl, hitems⟩⟩ |
    ⟨inside, htext, ⟨rfl, hend⟩ | ⟨entries, rfl, hentries⟩⟩ | hscalar
  · obtain ⟨inside, units, hinside, rfl, rfl⟩ := exists_of_readString hfound
    exact ⟨_, .str hinside, by simp⟩
  · obtain ⟨blank, space, hblank⟩ := exists_space_append inside
    exact ⟨_, .emptyArray space, by rw [htext, hblank, hend]; simp⟩
  · obtain ⟨blank, space, hblank⟩ := exists_space_append inside
    obtain ⟨taken, htaken, heq⟩ := Grammar.exists_items hitems
    exact ⟨_, .array (htaken.prepend space), by rw [htext, hblank, heq]; simp⟩
  · obtain ⟨blank, space, hblank⟩ := exists_space_append inside
    exact ⟨_, .emptyObject space, by rw [htext, hblank, hend]; simp⟩
  · obtain ⟨blank, space, hblank⟩ := exists_space_append inside
    obtain ⟨taken, members, htaken, heq, rfl⟩ := Grammar.exists_members hentries
    rw [foldl_put]
    exact ⟨_, .object (htaken.prepend space), by rw [htext, hblank, heq]; simp⟩
  · exact exists_of_readScalar hscalar
termination_by (text.length, 0)
decreasing_by
  all_goals
    apply Prod.Lex.left
    rw [htext]
    exact Nat.lt_succ_of_le (length_skipSpace_le _)

/-- What is read as items is the text of some, with the bracket behind it. -/
theorem Grammar.exists_items {text rest : List Char} {items : List Json}
    (h : Answers (readItems text) items rest) :
    ∃ inside, Grammar.Items inside items ∧ text = inside ++ ']' :: rest := by
  obtain ⟨item, after, hitem, hcases⟩ := exists_of_readItems h
  have hafter := hitem.length_lt
  obtain ⟨taken, htaken, htext⟩ := Grammar.exists_value hitem
  obtain ⟨blank, space, hblank⟩ := exists_space_append after
  rcases hcases with ⟨rfl, hend⟩ | ⟨more, others, rfl, hcomma, hmore⟩
  · exact ⟨_, .last space_nil htaken space, by rw [htext, hblank, hend]; simp⟩
  · obtain ⟨inside, hinside, heq⟩ := Grammar.exists_items hmore
    obtain ⟨blank', space', hblank'⟩ := exists_space_append more
    refine ⟨_, .more space_nil htaken space (hinside.prepend space'), ?_⟩
    rw [htext, hblank, hcomma, hblank', heq]
    simp
termination_by (text.length, 1)
decreasing_by
  · exact Prod.Lex.right _ (by decide)
  · apply Prod.Lex.left
    exact (length_skipSpace_lt hcomma).trans hafter

/-- What is read as members is the text of some, with the brace behind it. -/
theorem Grammar.exists_members {before entries : Entries} {text rest : List Char}
    (h : Answers (readEntries before text) entries rest) :
    ∃ inside members, Grammar.Members inside members ∧ text = inside ++ '\x7d' :: rest ∧
      entries = members.foldl (fun entries member => put entries member.1 member.2) before := by
  obtain ⟨inside, key, between, after, value, behind, htext, hkey, hcolon, hvalue, hcases⟩ :=
    exists_of_readEntries h
  have hinside : inside.length < text.length := htext ▸ Nat.lt_succ_self _
  have hbetween := hkey.length_lt
  have hafter := length_skipSpace_lt hcolon
  have hbehind := hvalue.length_lt
  obtain ⟨spelled, units, hspelled, heqKey, rfl⟩ := exists_of_readString hkey
  obtain ⟨taken, htaken, heq⟩ := Grammar.exists_value hvalue
  obtain ⟨blank, space, hblank⟩ := exists_space_append between
  obtain ⟨blank', space', hblank'⟩ := exists_space_append after
  obtain ⟨blank'', space'', hblank''⟩ := exists_space_append behind
  rcases hcases with ⟨rfl, hend⟩ | ⟨more, hcomma, hmore⟩
  · refine ⟨_, _, .last space_nil hspelled space space' htaken space'', ?_, rfl⟩
    rw [htext, heqKey, hblank, hcolon, hblank', heq, hblank'', hend]
    simp
  · obtain ⟨rest', members, hmembers, heq', rfl⟩ := Grammar.exists_members hmore
    obtain ⟨blank₃, space₃, hblank₃⟩ := exists_space_append more
    refine ⟨_, _, .more space_nil hspelled space space' htaken space''
      (hmembers.prepend space₃), ?_, rfl⟩
    rw [htext, heqKey, hblank, hcolon, hblank', heq, hblank'', hcomma, hblank₃, heq']
    simp
termination_by (text.length, 1)
decreasing_by
  · apply Prod.Lex.left
    omega
  · apply Prod.Lex.left
    have hmore := length_skipSpace_lt hcomma
    omega

end

/-! ### Documents -/

/-- A document is one text of the grammar with white space around it. -/
theorem parse_eq_ok_iff {text : List Char} {value : Json} :
    parse text = .ok value ↔ ∃ before taken behind, text = before ++ (taken ++ behind) ∧
      Space before ∧ Space behind ∧ Grammar.Value taken value := by
  constructor
  · intro h
    rw [parse.eq_def] at h
    split at h
    · cases h
    · split at h
      · cases h
      · next found hfound =>
        split at h
        · next hend =>
          cases h
          have hread : Answers (readValue (skipSpace text)) found.value found.rest :=
            answers_iff.mpr ⟨found.shorter, hfound⟩
          obtain ⟨taken, htaken, heq⟩ := Grammar.exists_value hread
          obtain ⟨before, spaceBefore, hbefore⟩ := exists_space_append text
          obtain ⟨behind, spaceBehind, hbehind⟩ := exists_space_append found.rest
          rw [hend, List.append_nil] at hbehind
          exact ⟨before, taken, behind, by rw [hbefore, heq, hbehind], spaceBefore, spaceBehind,
            htaken⟩
        · cases h
  · rintro ⟨before, taken, behind, rfl, spaceBefore, spaceBehind, h⟩
    refine parse_of_answers (fun after heq => ?_) ?_ (skipSpace_eq_nil spaceBehind)
    · cases before with
      | nil =>
        obtain ⟨c, inside, rfl, -, -, hmark⟩ := h.starts
        exact hmark (List.cons.inj heq).1
      | cons c before =>
        obtain ⟨rfl, -⟩ := List.cons.inj heq
        exact absurd (spaceBefore _ List.mem_cons_self) (by decide)
    · rw [h.skipSpace spaceBefore]
      refine h.answers behind fun _ => ?_
      rw [← List.append_nil behind]
      exact stops_append spaceBehind stops_nil

end Introspection.Json
