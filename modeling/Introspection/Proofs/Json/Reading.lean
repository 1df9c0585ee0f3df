import Introspection.Json.Reader
import Mathlib.Data.List.Forall2
import Mathlib.Data.List.Induction

/-!
# What the JSON reader takes

The reader is a function on texts, and what has to be known of it elsewhere is a grammar: which
texts it takes off the front of whatever follows them, and for which values. This module turns the
one into the other, production by production, so that nothing outside it opens the reader.

## Texts that stand by themselves

`Reads text value` says that `text` is read as `value` *in front of every rest*. Numbers have no
such texts, since more digits may follow; strings, words and containers do, and containers of such
texts are such texts again. The condition on the first character is what a container needs of its
members: a member must not look like white space or like a closing bracket.

## Repeated keys

`collected` says what an object keeps of its members without mentioning how entries are put: each
key once, in the place of its first member, with the value of its last. `foldl_put` is the bridge.

## Main definitions

* `Json.Answers` — a reader's answer, without the proof that it got shorter
* `Json.Reads`, `Json.ReadsString` — texts of values and insides of strings, in front of anything
* `Json.collected` — the entries that members leave in an object

## Main results

* `Json.reads_str`, `Json.reads_bool`, `Json.reads_array`, `Json.reads_object`
* `Json.foldl_put` — putting members one by one collects them
* `Json.Reads.parse` — a text that is read in front of anything is a document
-/

namespace Introspection.Json

/-! ### Answers -/

/-- The answer of a reader is a value, with this left of the text. -/
def Answers {α : Type} {text : List Char} (answer : Except Fault (Taken α text)) (value : α)
    (rest : List Char) : Prop :=
  answer.map (fun taken => (taken.value, taken.rest)) = .ok (value, rest)

theorem answers_iff {α : Type} {text : List Char} {answer : Except Fault (Taken α text)} {value : α}
    {rest : List Char} :
    Answers answer value rest ↔ ∃ shorter, answer = .ok ⟨value, rest, shorter⟩ := by
  constructor
  · intro h
    cases answer with
    | error fault => cases h
    | ok taken =>
      obtain ⟨value', rest', shorter⟩ := taken
      cases h
      exact ⟨shorter, rfl⟩
  · rintro ⟨shorter, rfl⟩
    rfl

theorem skipSpace_cons {c : Char} (h : isSpace c = false) (text : List Char) :
    skipSpace (c :: text) = c :: text := by
  simp [skipSpace, h]

/-! ### The productions

One lemma per way in which a reader succeeds. The texts behind white space are those that
`skipSpace` leaves, as in the reader itself. -/

theorem readString_answers {start inside rest : List Char} {units : List (Nat ⊕ Char)}
    (h : readUnits start inside = .ok (units, rest)) :
    Answers (readString start inside) (String.ofList (unitsText units)) rest := by
  rw [Answers, readString]
  split
  · next units' rest' h' =>
    rw [h] at h'
    cases h'
    rfl
  · next fault h' => rw [h] at h'; cases h'

theorem readValue_str {inside rest : List Char} {value : String}
    (h : Answers (readString ('"' :: inside) inside) value rest) :
    Answers (readValue ('"' :: inside)) (.str value) rest := by
  obtain ⟨shorter, h⟩ := answers_iff.mp h
  rw [Answers, readValue, h]
  rfl

theorem readValue_emptyArray {inside rest : List Char} (h : skipSpace inside = ']' :: rest) :
    Answers (readValue ('[' :: inside)) (.array []) rest := by
  rw [Answers, readValue]
  split
  · next rest' hs =>
    rw [h] at hs
    cases hs
    rfl
  · next hne => exact absurd h (hne rest)

theorem readValue_array {inside rest : List Char} {items : List Json}
    (hne : ∀ after, skipSpace inside ≠ ']' :: after)
    (h : Answers (readItems (skipSpace inside)) items rest) :
    Answers (readValue ('[' :: inside)) (.array items) rest := by
  obtain ⟨shorter, h⟩ := answers_iff.mp h
  rw [Answers, readValue]
  split
  · next rest' hs => exact absurd hs (hne rest')
  · rw [h]
    rfl

theorem readValue_emptyObject {inside rest : List Char} (h : skipSpace inside = '\x7d' :: rest) :
    Answers (readValue ('\x7b' :: inside)) (.object []) rest := by
  rw [Answers, readValue]
  split
  · next rest' hs =>
    rw [h] at hs
    cases hs
    rfl
  · next hne => exact absurd h (hne rest)

theorem readValue_object {inside rest : List Char} {entries : Entries}
    (hne : ∀ after, skipSpace inside ≠ '\x7d' :: after)
    (h : Answers (readEntries [] (skipSpace inside)) entries rest) :
    Answers (readValue ('\x7b' :: inside)) (.object entries) rest := by
  obtain ⟨shorter, h⟩ := answers_iff.mp h
  rw [Answers, readValue]
  split
  · next rest' hs => exact absurd hs (hne rest')
  · rw [h]
    rfl

theorem readItems_last {text rest after : List Char} {item : Json}
    (h : Answers (readValue text) item rest) (hend : skipSpace rest = ']' :: after) :
    Answers (readItems text) [item] after := by
  obtain ⟨shorter, h⟩ := answers_iff.mp h
  rw [Answers, readItems, h]
  dsimp only
  split
  · next after' hend' =>
    rw [hend] at hend'
    cases hend'
    rfl
  · next after' hend' => rw [hend] at hend'; cases hend'
  · next hne _ => exact absurd hend (hne after)

theorem readItems_more {text rest after last : List Char} {item : Json} {items : List Json}
    (h : Answers (readValue text) item rest) (hcomma : skipSpace rest = ',' :: after)
    (hmore : Answers (readItems (skipSpace after)) items last) :
    Answers (readItems text) (item :: items) last := by
  obtain ⟨shorter, h⟩ := answers_iff.mp h
  obtain ⟨shorter', hmore⟩ := answers_iff.mp hmore
  rw [Answers, readItems, h]
  dsimp only
  split
  · next after' hcomma' => rw [hcomma] at hcomma'; cases hcomma'
  · next after' hcomma' =>
    rw [hcomma] at hcomma'
    cases hcomma'
    rw [hmore]
    rfl
  · next hne => exact absurd hcomma (hne after)

theorem readEntries_last {before : Entries} {inside rest after rest' after' : List Char}
    {key : String} {value : Json}
    (hkey : Answers (readString ('"' :: inside) inside) key rest)
    (hcolon : skipSpace rest = ':' :: after)
    (hvalue : Answers (readValue (skipSpace after)) value rest')
    (hend : skipSpace rest' = '\x7d' :: after') :
    Answers (readEntries before ('"' :: inside)) (put before key value) after' := by
  obtain ⟨shorter, hkey⟩ := answers_iff.mp hkey
  obtain ⟨shorter', hvalue⟩ := answers_iff.mp hvalue
  rw [Answers, readEntries]
  simp only [hkey]
  split
  · next after₂ hcolon' =>
    rw [hcolon] at hcolon'
    cases hcolon'
    rw [hvalue]
    dsimp only
    split
    · next after₃ hend' =>
      rw [hend] at hend'
      cases hend'
      rfl
    · next after₃ hend' => rw [hend] at hend'; cases hend'
    · next hne _ => exact absurd hend (hne after')
  · next hne => exact absurd hcolon (hne after)

theorem readEntries_more {before entries : Entries}
    {inside rest after rest' after' last : List Char} {key : String} {value : Json}
    (hkey : Answers (readString ('"' :: inside) inside) key rest)
    (hcolon : skipSpace rest = ':' :: after)
    (hvalue : Answers (readValue (skipSpace after)) value rest')
    (hcomma : skipSpace rest' = ',' :: after')
    (hmore : Answers (readEntries (put before key value) (skipSpace after')) entries last) :
    Answers (readEntries before ('"' :: inside)) entries last := by
  obtain ⟨shorter, hkey⟩ := answers_iff.mp hkey
  obtain ⟨shorter', hvalue⟩ := answers_iff.mp hvalue
  obtain ⟨shorter'', hmore⟩ := answers_iff.mp hmore
  rw [Answers, readEntries]
  simp only [hkey]
  split
  · next after₂ hcolon' =>
    rw [hcolon] at hcolon'
    cases hcolon'
    rw [hvalue]
    dsimp only
    split
    · next after₃ hcomma' => rw [hcomma] at hcomma'; cases hcomma'
    · next after₃ hcomma' =>
      rw [hcomma] at hcomma'
      cases hcomma'
      rw [hmore]
      rfl
    · next hne => exact absurd hcomma (hne after')
  · next hne => exact absurd hcolon (hne after)

/-! ### Repeated keys -/

/-- What an object keeps of its members: each key once, in the place of its first member and with
the value of its last. -/
def collected (members : List (String × Json)) : Entries :=
  (members.map Prod.fst).eraseDups.map fun key => (key, (members.reverse.lookup key).getD .null)

theorem nodup_eraseDups (keys : List String) : keys.eraseDups.Nodup := by
  induction hn : keys.length using Nat.strongRecOn generalizing keys with
  | ind n ih =>
    cases keys with
    | nil => simp
    | cons key rest =>
      rw [List.eraseDups_cons, List.nodup_cons]
      refine ⟨by simp, ih _ ?_ _ rfl⟩
      rw [← hn, List.length_cons]
      exact Nat.lt_succ_of_le (List.length_filter_le _ _)

/-- Putting into entries that are given by their keys. -/
theorem put_map {keys : List String} (hnodup : keys.Nodup) (valueOf : String → Json) (key : String)
    (value : Json) :
    put (keys.map fun k => (k, valueOf k)) key value =
      (if key ∈ keys then keys else keys ++ [key]).map fun k =>
        (k, if k = key then value else valueOf k) := by
  induction keys with
  | nil => simp [put]
  | cons first keys ih =>
    obtain ⟨hfirst, hnodup⟩ := List.nodup_cons.mp hnodup
    by_cases h : first = key
    · subst h
      have hrest : ∀ k ∈ keys, k ≠ first := fun k hk hkf => hfirst (hkf ▸ hk)
      simp only [List.map_cons, put, if_true, List.mem_cons, true_or]
      congr 1
      exact List.map_congr_left fun k hk => by rw [if_neg (hrest k hk)]
    · have h' : key ≠ first := fun hk => h hk.symm
      simp only [List.map_cons, put, if_neg h, ih hnodup, List.mem_cons, h', false_or]
      split <;> simp [h]

theorem collected_concat (members : List (String × Json)) (key : String) (value : Json) :
    collected (members ++ [(key, value)]) = put (collected members) key value := by
  have hkeys : ((members ++ [(key, value)]).map Prod.fst).eraseDups =
      if key ∈ (members.map Prod.fst).eraseDups then (members.map Prod.fst).eraseDups
      else (members.map Prod.fst).eraseDups ++ [key] := by
    rw [List.map_append, List.eraseDups_append, List.map_singleton]
    by_cases h : key ∈ members.map Prod.fst
    · rw [if_pos (List.mem_eraseDups.mpr h)]
      simp [List.removeAll, h]
    · rw [if_neg fun h' => h (List.mem_eraseDups.mp h')]
      simp [List.removeAll, h, List.eraseDups_cons]
  rw [collected, collected, put_map (nodup_eraseDups _), hkeys]
  refine List.map_congr_left fun k _ => ?_
  rw [List.reverse_append, List.reverse_singleton, List.singleton_append, List.lookup_cons]
  by_cases h : k = key
  · simp [h]
  · simp [h, beq_eq_false_iff_ne.mpr h]

/-- Putting members one after the other collects them. -/
theorem foldl_put (members : List (String × Json)) :
    members.foldl (fun entries member => put entries member.1 member.2) [] = collected members := by
  induction members using List.reverseRecOn with
  | nil => rfl
  | append_singleton members member ih =>
    rw [List.foldl_append, ih, collected_concat]
    rfl

/-- A key that has no place yet is put behind the others. -/
theorem put_of_not_mem {entries : Entries} {key : String} (h : key ∉ entries.map Prod.fst)
    (value : Json) : put entries key value = entries ++ [(key, value)] := by
  induction entries with
  | nil => rfl
  | cons entry entries ih =>
    rw [List.map_cons, List.mem_cons, not_or] at h
    obtain ⟨hne, hrest⟩ := h
    rw [put, if_neg (Ne.symm hne), ih hrest]
    rfl

/-- Members with different keys are all kept as they are. -/
theorem collected_of_nodup {members : List (String × Json)} (h : (members.map Prod.fst).Nodup) :
    collected members = members := by
  induction members using List.reverseRecOn with
  | nil => rfl
  | append_singleton members member ih =>
    rw [List.map_append, List.map_singleton, List.nodup_append] at h
    obtain ⟨hmembers, -, hne⟩ := h
    have hfresh : member.1 ∉ members.map Prod.fst := fun hmem =>
      hne _ hmem _ (List.mem_singleton_self _) rfl
    rw [collected_concat, ih hmembers, put_of_not_mem hfresh]

/-! ### Texts in front of anything -/

/-- A text that is taken as a value whatever follows it. -/
structure Reads (text : List Char) (value : Json) : Prop where
  /-- Its first character is no white space, no byte order mark and not the end of an array. -/
  starts : ∃ c inside, text = c :: inside ∧ isSpace c = false ∧ c ≠ ']' ∧ c ≠ '\uFEFF'
  /-- It is taken, and nothing behind it. -/
  answers : ∀ rest, Answers (readValue (text ++ rest)) value rest

/-- The inside of a string literal that is taken as a text whatever follows the closing quote. -/
def ReadsString (inside : List Char) (text : String) : Prop :=
  ∀ start rest, Answers (readString start (inside ++ '"' :: rest)) text rest

/-- White space is not skipped in front of a value. -/
theorem Reads.skipSpace {text : List Char} {value : Json} (h : Reads text value)
    (rest : List Char) : skipSpace (text ++ rest) = text ++ rest := by
  obtain ⟨c, inside, rfl, hc, -⟩ := h.starts
  exact skipSpace_cons hc _

theorem reads_str {inside : List Char} {text : String} (h : ReadsString inside text) :
    Reads ('"' :: (inside ++ ['"'])) (.str text) where
  starts := ⟨_, _, rfl, by decide, by decide, by decide⟩
  answers rest := by
    rw [show '"' :: (inside ++ ['"']) ++ rest = '"' :: (inside ++ '"' :: rest) by simp]
    exact readValue_str (h _ rest)

/-- What starts like none of the other values is a word or a number. -/
theorem readValue_word {c : Char} {inside rest : List Char} {value : Json} (hquote : c ≠ '"')
    (hbracket : c ≠ '[') (hbrace : c ≠ '\x7b') (h : readWord? (c :: inside) = some (value, rest)) :
    Answers (readValue (c :: inside)) value rest := by
  rw [Answers, readValue]
  · rw [readScalar]
    split
    · next value' rest' h' =>
      rw [h] at h'
      cases h'
      rfl
    · next h' => rw [h] at h'; cases h'
  · exact fun _ heq => hquote (List.cons.inj heq).1
  · exact fun _ heq => hbracket (List.cons.inj heq).1
  · exact fun _ heq => hbrace (List.cons.inj heq).1

theorem reads_bool (value : Bool) :
    Reads (if value then "true" else "false").toList (.bool value) := by
  cases value with
  | true =>
    exact ⟨⟨_, _, rfl, by decide, by decide, by decide⟩, fun rest =>
      readValue_word (by decide) (by decide) (by decide) rfl⟩
  | false =>
    exact ⟨⟨_, _, rfl, by decide, by decide, by decide⟩, fun rest =>
      readValue_word (by decide) (by decide) (by decide) rfl⟩


/-- Texts between commas begin with the first of them. -/
theorem exists_intercalate_eq (text : List Char) (texts : List (List Char)) :
    ∃ tail, [','].intercalate (text :: texts) = text ++ tail := by
  cases texts with
  | nil => exact ⟨[], by rw [List.intercalate_singleton, List.append_nil]⟩
  | cons text' texts => exact ⟨_, by rw [List.intercalate_cons_cons, List.append_assoc]⟩

/-- The items of an array, from the first one to the closing bracket. -/
theorem readItems_intercalate {texts : List (List Char)} {items : List Json}
    (h : List.Forall₂ Reads texts items) (hne : texts ≠ []) (rest : List Char) :
    Answers (readItems ([','].intercalate texts ++ ']' :: rest)) items rest := by
  induction h with
  | nil => exact absurd rfl hne
  | @cons text item texts items htext h ih =>
    cases h with
    | nil =>
      rw [List.intercalate_singleton]
      exact readItems_last (htext.answers _) (skipSpace_cons (by decide) rest)
    | @cons text' item' texts items htext' h =>
      have ih := ih (List.cons_ne_nil _ _)
      rw [List.intercalate_cons_cons, List.append_assoc, List.append_assoc, List.singleton_append]
      refine readItems_more (htext.answers _) (skipSpace_cons (by decide) _) ?_
      obtain ⟨tail, htail⟩ := exists_intercalate_eq text' texts
      rw [htail, List.append_assoc] at ih ⊢
      rw [htext'.skipSpace]
      exact ih

theorem reads_array {texts : List (List Char)} {items : List Json}
    (h : List.Forall₂ Reads texts items) :
    Reads ('[' :: ([','].intercalate texts ++ [']'])) (.array items) where
  starts := ⟨_, _, rfl, by decide, by decide, by decide⟩
  answers rest := by
    rw [List.cons_append, List.append_assoc, List.singleton_append]
    cases h with
    | nil => exact readValue_emptyArray (skipSpace_cons (by decide) rest)
    | @cons text item texts items htext h =>
      have hitems := readItems_intercalate (.cons htext h) (List.cons_ne_nil _ _) rest
      obtain ⟨tail, htail⟩ := exists_intercalate_eq text texts
      rw [htail, List.append_assoc] at hitems ⊢
      refine readValue_array (fun after heq => ?_) ?_
      · rw [htext.skipSpace] at heq
        obtain ⟨c, inside, rfl, -, hc, -⟩ := htext.starts
        exact hc (List.cons.inj heq).1
      · rw [htext.skipSpace]
        exact hitems

/-- The text of a member of an object, for a key and a value. -/
def ReadsMember (text : List Char) (member : String × Json) : Prop :=
  ∃ inside value, text = '"' :: (inside ++ '"' :: ':' :: value) ∧
    ReadsString inside member.1 ∧ Reads value member.2

theorem member_append (inside value rest : List Char) :
    '"' :: (inside ++ '"' :: ':' :: value) ++ rest =
      '"' :: (inside ++ '"' :: ':' :: (value ++ rest)) := by
  simp

/-- The members of an object, from the first one to the closing brace. -/
theorem readEntries_intercalate {texts : List (List Char)} {members : List (String × Json)}
    (h : List.Forall₂ ReadsMember texts members) (hne : texts ≠ []) (before : Entries)
    (rest : List Char) :
    Answers (readEntries before ([','].intercalate texts ++ '\x7d' :: rest))
      (members.foldl (fun entries member => put entries member.1 member.2) before) rest := by
  induction h generalizing before with
  | nil => exact absurd rfl hne
  | @cons text member texts members htext h ih =>
    obtain ⟨inside, value, rfl, hkey, hvalue⟩ := htext
    have hcolon := skipSpace_cons (c := ':') (by decide)
    cases h with
    | nil =>
      rw [List.intercalate_singleton, member_append]
      refine readEntries_last (hkey _ _) (hcolon _) ?_ (skipSpace_cons (by decide) rest)
      rw [hvalue.skipSpace]
      exact hvalue.answers _
    | @cons text' member' texts members htext' h =>
      have ih := ih (List.cons_ne_nil _ _) (put before member.1 member.2)
      rw [List.intercalate_cons_cons, List.append_assoc, List.append_assoc, List.singleton_append,
        member_append]
      have hmember (after : List Char) :
          Answers (readValue (skipSpace (value ++ after))) member.2 after := by
        rw [hvalue.skipSpace]
        exact hvalue.answers after
      refine readEntries_more (hkey _ _) (hcolon _) (hmember _) (skipSpace_cons (by decide) _) ?_
      obtain ⟨tail, htail⟩ := exists_intercalate_eq text' texts
      obtain ⟨inside', value', rfl, -, -⟩ := htext'
      rw [htail, List.append_assoc, List.cons_append] at ih ⊢
      rw [skipSpace_cons (by decide)]
      exact ih

theorem reads_object {texts : List (List Char)} {members : List (String × Json)}
    (h : List.Forall₂ ReadsMember texts members) :
    Reads ('\x7b' :: ([','].intercalate texts ++ ['\x7d'])) (.object (collected members)) where
  starts := ⟨_, _, rfl, by decide, by decide, by decide⟩
  answers rest := by
    rw [List.cons_append, List.append_assoc, List.singleton_append, ← foldl_put]
    cases h with
    | nil => exact readValue_emptyObject (skipSpace_cons (by decide) rest)
    | @cons text member texts members htext h =>
      have hentries := readEntries_intercalate (.cons htext h) (List.cons_ne_nil _ _) [] rest
      obtain ⟨tail, htail⟩ := exists_intercalate_eq text texts
      obtain ⟨inside, value, rfl, -, -⟩ := htext
      rw [htail, List.append_assoc, List.cons_append] at hentries ⊢
      refine readValue_object (fun after heq => ?_) ?_
      · rw [skipSpace_cons (by decide)] at heq
        exact absurd (List.cons.inj heq).1 (by decide)
      · rw [skipSpace_cons (by decide)]
        exact hentries

/-- A text is a document if a value is read behind the white space and then more white space. -/
theorem parse_of_answers {text rest : List Char} {value : Json}
    (hbom : ∀ after, text ≠ '\uFEFF' :: after)
    (h : Answers (readValue (skipSpace text)) value rest) (hend : skipSpace rest = []) :
    parse text = .ok value := by
  obtain ⟨shorter, h⟩ := answers_iff.mp h
  rw [parse]
  · rw [h]
    dsimp only
    rw [hend]
  · exact hbom

/-- A text that is taken whatever follows it is a document by itself. -/
theorem Reads.parse {text : List Char} {value : Json} (h : Reads text value) :
    Json.parse text = .ok value := by
  have hspace := h.skipSpace []
  have hread := h.answers []
  rw [List.append_nil] at hspace hread
  refine parse_of_answers (fun after heq => ?_) (hspace.symm ▸ hread) rfl
  obtain ⟨c, inside, rfl, -, -, hbom⟩ := h.starts
  exact hbom (List.cons.inj heq).1

end Introspection.Json
