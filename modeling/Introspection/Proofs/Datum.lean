import Introspection.Datum
import Introspection.Proofs.Text.Quoted

/-!
# The text of a datum tells the datum

Different data have different texts. The first character of a text tells what kind of datum is
shown, so a number is not taken for the text of its digits, and a truth value not for a number. A
quoted text and a tuple say themselves where they end. A number and a word do not, but what stands
behind a datum is always a comma, a bracket or nothing, and they hold none of these.

So a tuple is taken apart item by item. The comma behind the only item of a tuple has no blank
behind it, which tells it from a comma between two items.

## Main definitions

* `Datum.Ends` — what may stand behind the text of a datum
* `Datum.inside`, `Datum.closing` — the text of a tuple behind its opening bracket, and behind one of
  its items

## Main results

* `Datum.display_append_inj` — a datum is known from its text, and so is where the text ends
* `Datum.display_injective`
-/

namespace Introspection.Datum

/-! ### Numbers -/

/-- What may stand behind the text of a datum: a comma, a bracket or nothing. -/
def Ends (rest : List Char) : Prop :=
  ∀ c ∈ rest.head?, c = ',' ∨ c = ')'

theorem ends_nil : Ends [] := by
  simp [Ends]

theorem ends_cons {c : Char} (h : c = ',' ∨ c = ')') (rest : List Char) : Ends (c :: rest) := by
  simpa [Ends] using h

variable {rest rest' : List Char}

/-- Where the digits of a number end. -/
theorem takeWhile_toDigits_append (n : Nat) (ends : Ends rest) :
    (Nat.toDigits 10 n ++ rest).takeWhile Char.isDigit = Nat.toDigits 10 n := by
  have hrest : rest.takeWhile Char.isDigit = [] := by
    cases rest with
    | nil => rfl
    | cons c rest =>
      refine List.takeWhile_cons_of_neg ?_
      rcases ends c rfl with rfl | rfl <;> decide
  have hdigits : ∀ c ∈ Nat.toDigits 10 n, c.isDigit = true := fun c hc =>
    Nat.isDigit_of_mem_toDigits (by decide) (by decide) hc
  rw [List.takeWhile_append_of_pos hdigits, hrest, List.append_nil]

theorem toDigits_append_inj {n m : Nat} (ends : Ends rest) (ends' : Ends rest')
    (h : Nat.toDigits 10 n ++ rest = Nat.toDigits 10 m ++ rest') : n = m ∧ rest = rest' := by
  have hdigits : Nat.toDigits 10 n = Nat.toDigits 10 m := by
    rw [← takeWhile_toDigits_append n ends, h, takeWhile_toDigits_append m ends']
  have hn := congrArg (fun digits => Nat.ofDigitChars 10 digits 0) hdigits
  simp only [Nat.ofDigitChars_ten_toDigits] at hn
  rw [hdigits] at h
  exact ⟨hn, List.append_cancel_left h⟩

theorem toList_toString_ofNat (n : Nat) : (toString (Int.ofNat n)).toList = Nat.toDigits 10 n :=
  Nat.toList_repr

theorem toList_toString_negSucc (n : Nat) :
    (toString (Int.negSucc n)).toList = '-' :: Nat.toDigits 10 (n + 1) := by
  have hrepr : toString (Int.negSucc n) = "-" ++ (n + 1).repr := rfl
  rw [hrepr, String.toList_append, Nat.toList_repr]
  rfl

/-- A number begins with a digit. -/
theorem exists_toDigits_eq_cons (n : Nat) :
    ∃ first tail, Nat.toDigits 10 n = first :: tail ∧ first.isDigit = true := by
  obtain ⟨first, tail, h⟩ := List.exists_cons_of_ne_nil (Nat.toDigits_ne_nil (n := n) (b := 10))
  have hfirst : first ∈ Nat.toDigits 10 n := h ▸ List.mem_cons_self
  exact ⟨first, tail, h, Nat.isDigit_of_mem_toDigits (by decide) (by decide) hfirst⟩

theorem toString_append_inj {value other : Int} (ends : Ends rest) (ends' : Ends rest')
    (h : (toString value).toList ++ rest = (toString other).toList ++ rest') :
    value = other ∧ rest = rest' := by
  have hsign (n m : Nat) (after after' : List Char) :
      Nat.toDigits 10 n ++ after ≠ ('-' :: Nat.toDigits 10 m) ++ after' := by
    obtain ⟨first, tail, heq, hfirst⟩ := exists_toDigits_eq_cons n
    rw [heq]
    intro h
    rw [(List.cons.inj h).1] at hfirst
    exact absurd hfirst (by decide)
  cases value with
  | ofNat n =>
    rw [toList_toString_ofNat] at h
    cases other with
    | ofNat m =>
      rw [toList_toString_ofNat] at h
      obtain ⟨rfl, rfl⟩ := toDigits_append_inj ends ends' h
      exact ⟨rfl, rfl⟩
    | negSucc m =>
      rw [toList_toString_negSucc] at h
      exact absurd h (hsign _ _ _ _)
  | negSucc n =>
    rw [toList_toString_negSucc] at h
    cases other with
    | ofNat m =>
      rw [toList_toString_ofNat] at h
      exact absurd h.symm (hsign _ _ _ _)
    | negSucc m =>
      rw [toList_toString_negSucc] at h
      obtain ⟨heq, rfl⟩ := toDigits_append_inj ends ends' (List.cons.inj h).2
      obtain rfl := Nat.succ.inj heq
      exact ⟨rfl, rfl⟩

/-! ### Kinds of data -/

/-- What kind of datum is shown. -/
inductive Shape where
  | null
  | bool
  | int
  | str
  | tuple

/-- The kind of a datum. -/
def shape : Datum → Shape
  | .null => .null
  | .bool _ => .bool
  | .int _ => .int
  | .str _ => .str
  | .tuple _ => .tuple

/-- The kind of the data that are shown with this character in front, if it is in front of any. -/
def shapeBehind? (first : Char) : Option Shape :=
  if first = 'N' then some .null
  else if first = 'T' ∨ first = 'F' then some .bool
  else if first = '-' ∨ first.isDigit = true then some .int
  else if first = '\'' ∨ first = '"' then some .str
  else if first = '(' then some .tuple
  else none

theorem shapeBehind?_of_isDigit {c : Char} (h : c.isDigit = true) :
    shapeBehind? c = some .int := by
  have hne {other : Char} (hother : other.isDigit = false) : c ≠ other := by
    rintro rfl
    rw [h] at hother
    cases hother
  rw [shapeBehind?, if_neg (hne rfl), if_neg (not_or.mpr ⟨hne rfl, hne rfl⟩), if_pos (.inr h)]

theorem exists_toString_eq_cons (value : Int) :
    ∃ first tail, (toString value).toList = first :: tail ∧ shapeBehind? first = some .int := by
  cases value with
  | ofNat n =>
    obtain ⟨first, tail, heq, hfirst⟩ := exists_toDigits_eq_cons n
    exact ⟨first, tail, (toList_toString_ofNat n).trans heq, shapeBehind?_of_isDigit hfirst⟩
  | negSucc n => exact ⟨_, _, toList_toString_negSucc n, rfl⟩

/-- The text of a tuple behind its first item, if that is not its only one, or behind any later
item. -/
def closing : List Datum → List Char
  | [] => [')']
  | item :: items => ',' :: ' ' :: (item.display.toList ++ closing items)

/-- The text of a tuple behind its first item. -/
def closingFirst : List Datum → List Char
  | [] => [',', ')']
  | item :: items => closing (item :: items)

theorem ends_closing (items : List Datum) (rest : List Char) : Ends (closing items ++ rest) := by
  cases items with
  | nil => exact ends_cons (.inr rfl) _
  | cons item items => exact ends_cons (.inl rfl) _

theorem ends_closingFirst (items : List Datum) (rest : List Char) :
    Ends (closingFirst items ++ rest) := by
  cases items with
  | nil => exact ends_cons (.inl rfl) _
  | cons item items => exact ends_closing _ _

/-- Behind the first of some items stand the others, each behind a comma, and a bracket. -/
theorem toList_intercalate_displayAll (first : Datum) (more : List Datum) :
    (", ".intercalate (displayAll (first :: more)) ++ ")").toList =
      first.display.toList ++ closing more := by
  induction more generalizing first with
  | nil => simp [displayAll, closing]
  | cons second more ih =>
    have htail := ih second
    simp only [displayAll, String.intercalate_cons_cons, String.append_assoc] at htail ⊢
    rw [String.toList_append, String.toList_append, htail, closing]
    rfl

/-- The text of a tuple behind its opening bracket. -/
def inside : List Datum → List Char
  | [] => [')']
  | first :: more => first.display.toList ++ closingFirst more

theorem toList_display_tuple (items : List Datum) :
    (tuple items).display.toList = '(' :: inside items := by
  match items with
  | [] => rfl
  | [first] =>
    show ("(" ++ first.display ++ ",)").toList = _
    rw [String.toList_append, String.toList_append]
    rfl
  | first :: second :: more =>
    show ("(" ++ ", ".intercalate (displayAll (first :: second :: more)) ++ ")").toList = _
    rw [String.append_assoc, String.toList_append, toList_intercalate_displayAll]
    rfl

/-- The text of a datum begins with a character of its kind. -/
theorem exists_display_eq_cons (datum : Datum) :
    ∃ first tail, datum.display.toList = first :: tail ∧ shapeBehind? first = some datum.shape := by
  cases datum with
  | null => exact ⟨_, _, rfl, rfl⟩
  | bool value => cases value <;> exact ⟨_, _, rfl, rfl⟩
  | int value => exact exists_toString_eq_cons value
  | str value =>
    refine ⟨_, _, String.toList_ofList, ?_⟩
    rcases Text.isMark_quoteMark value.toList with heq | heq <;> rw [heq] <;> rfl
  | tuple items => exact ⟨_, _, toList_display_tuple items, rfl⟩

/-- Data with texts that begin alike are of one kind. -/
theorem shape_eq_of_append_eq {datum other : Datum}
    (h : datum.display.toList ++ rest = other.display.toList ++ rest') :
    datum.shape = other.shape := by
  obtain ⟨first, tail, heq, hfirst⟩ := exists_display_eq_cons datum
  obtain ⟨first', tail', heq', hfirst'⟩ := exists_display_eq_cons other
  rw [heq, heq'] at h
  rw [(List.cons.inj h).1] at hfirst
  exact Option.some.inj (hfirst.symm.trans hfirst')

/-- No datum begins with a closing bracket. -/
theorem bracket_ne_display_append (datum : Datum) :
    ')' :: rest ≠ datum.display.toList ++ rest' := by
  obtain ⟨first, tail, heq, hfirst⟩ := exists_display_eq_cons datum
  rw [heq]
  intro h
  rw [← (List.cons.inj h).1] at hfirst
  cases hfirst

/-! ### Data -/

theorem boolText_append_inj {value other : Bool}
    (h : (boolText value).toList ++ rest = (boolText other).toList ++ rest') :
    value = other ∧ rest = rest' := by
  cases value with
  | false =>
    cases other with
    | false => exact ⟨rfl, List.append_cancel_left h⟩
    | true => cases (List.cons.inj h).1
  | true =>
    cases other with
    | false => cases (List.cons.inj h).1
    | true => exact ⟨rfl, List.append_cancel_left h⟩

/-- The comma behind an only item is told from a comma between two items. -/
theorem closingFirst_append_inj {items others : List Datum}
    (inj : closing items ++ rest = closing others ++ rest' → items = others ∧ rest = rest')
    (h : closingFirst items ++ rest = closingFirst others ++ rest') :
    items = others ∧ rest = rest' := by
  cases items with
  | nil =>
    cases others with
    | nil => simpa [closingFirst] using h
    | cons other others => simp [closingFirst, closing] at h
  | cons item items =>
    cases others with
    | nil => simp [closingFirst, closing] at h
    | cons other others => exact inj h

mutual

/-- **A datum is known from its text, whatever stands behind it.** The induction is on the datum.
As the first character tells its kind, the other datum is of the same kind. -/
theorem display_append_inj : ∀ (datum other : Datum) {rest rest' : List Char},
    Ends rest → Ends rest' →
      datum.display.toList ++ rest = other.display.toList ++ rest' → datum = other ∧ rest = rest'
  | .null, other => by
    intro _ _ h
    have hshape := shape_eq_of_append_eq h
    cases other with
    | null => exact ⟨rfl, List.append_cancel_left h⟩
    | _ => cases hshape
  | .bool value, other => by
    intro _ _ h
    have hshape := shape_eq_of_append_eq h
    cases other with
    | bool value' =>
      obtain ⟨rfl, hrest⟩ := boolText_append_inj h
      exact ⟨rfl, hrest⟩
    | _ => cases hshape
  | .int value, other => by
    intro ends ends' h
    have hshape := shape_eq_of_append_eq h
    cases other with
    | int value' =>
      obtain ⟨rfl, hrest⟩ := toString_append_inj ends ends' h
      exact ⟨rfl, hrest⟩
    | _ => cases hshape
  | .str value, other => by
    intro _ _ h
    have hshape := shape_eq_of_append_eq h
    cases other with
    | str value' =>
      simp only [display, Text.quoted, String.toList_ofList] at h
      obtain ⟨htext, hrest⟩ := Text.quotedChars_append_inj h
      obtain rfl := String.toList_inj.mp htext
      exact ⟨rfl, hrest⟩
    | _ => cases hshape
  | .tuple items, other => by
    intro _ _ h
    have hshape := shape_eq_of_append_eq h
    cases other with
    | tuple items' =>
      rw [toList_display_tuple, toList_display_tuple] at h
      obtain ⟨rfl, hrest⟩ := inside_append_inj items items' (List.cons.inj h).2
      exact ⟨rfl, hrest⟩
    | _ => cases hshape

/-- The items of a tuple are known, and where the tuple ends. -/
theorem inside_append_inj : ∀ (items others : List Datum) {rest rest' : List Char},
    inside items ++ rest = inside others ++ rest' → items = others ∧ rest = rest'
  | [], [] => fun h => ⟨rfl, List.append_cancel_left h⟩
  | [], first :: more => fun h => by
    rw [inside, inside, List.append_assoc] at h
    exact absurd h (bracket_ne_display_append first)
  | first :: more, [] => fun h => by
    rw [inside, inside, List.append_assoc] at h
    exact absurd h.symm (bracket_ne_display_append first)
  | first :: more, first' :: more' => by
    intro h
    rw [inside, inside, List.append_assoc, List.append_assoc] at h
    obtain ⟨rfl, hmore⟩ :=
      display_append_inj first first' (ends_closingFirst more _) (ends_closingFirst more' _) h
    obtain ⟨rfl, hrest⟩ := closingFirst_append_inj (closing_append_inj more more') hmore
    exact ⟨rfl, hrest⟩

/-- The same for the items behind the first one. -/
theorem closing_append_inj : ∀ (items others : List Datum) {rest rest' : List Char},
    closing items ++ rest = closing others ++ rest' → items = others ∧ rest = rest'
  | [], [] => fun h => ⟨rfl, List.append_cancel_left h⟩
  | [], other :: others => fun h => by simp [closing] at h
  | item :: items, [] => fun h => by simp [closing] at h
  | item :: items, other :: others => by
    intro h
    simp only [closing, List.cons_append, List.append_assoc, List.cons.injEq, true_and] at h
    obtain ⟨rfl, hitems⟩ :=
      display_append_inj item other (ends_closing items _) (ends_closing others _) h
    obtain ⟨rfl, hrest⟩ := closing_append_inj items others hitems
    exact ⟨rfl, hrest⟩

end

/-- Different data have different texts. -/
theorem display_injective {datum other : Datum} (h : datum.display = other.display) :
    datum = other := by
  have happend : datum.display.toList ++ [] = other.display.toList ++ [] := by rw [h]
  exact (display_append_inj datum other ends_nil ends_nil happend).1

end Introspection.Datum
