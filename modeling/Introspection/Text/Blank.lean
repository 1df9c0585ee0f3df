/-!
# White space

White space is the twenty-nine characters that Unicode counts as space or as a separator of
lines or fields. Trimming takes them off the ends of a text and keeps those inside.

## Main definitions

* `Text.isBlank`
* `Text.trimLeft`, `Text.trimRight`, `Text.trim` — on lists of characters
* `Text.trimmed`, `Text.trimmedRight` — on strings

## Main results

* `Text.trimLeft_append_of_blank` — blanks in front do not matter
* `Text.trimLeft_eq_cons` — what is left starts with no blank
-/

namespace Introspection.Text

/-- White space, in ASCII and beyond. -/
def isBlank (c : Char) : Bool :=
  let n := c.toNat
  (0x09 ≤ n && n ≤ 0x0D) || (0x1C ≤ n && n ≤ 0x20) || n == 0x85 || n == 0xA0 || n == 0x1680 ||
    (0x2000 ≤ n && n ≤ 0x200A) || n == 0x2028 || n == 0x2029 || n == 0x202F || n == 0x205F ||
    n == 0x3000

/-- Drops the blanks in front. -/
def trimLeft (text : List Char) : List Char :=
  text.dropWhile isBlank

/-- Drops the blanks at the end. -/
def trimRight (text : List Char) : List Char :=
  (text.reverse.dropWhile isBlank).reverse

/-- Drops the blanks at both ends. -/
def trim (text : List Char) : List Char :=
  trimRight (trimLeft text)

/-- A text without the blanks at its ends. -/
def trimmed (text : String) : String :=
  String.ofList (trim text.toList)

/-- A text without the blanks at its end. -/
def trimmedRight (text : String) : String :=
  String.ofList (trimRight text.toList)

@[simp] theorem trimLeft_nil : trimLeft [] = [] := rfl

theorem trimLeft_append_of_blank {blanks : List Char} (h : ∀ c ∈ blanks, isBlank c = true)
    (text : List Char) : trimLeft (blanks ++ text) = trimLeft text := by
  induction blanks with
  | nil => rfl
  | cons c rest ih =>
    simp only [trimLeft, List.cons_append, List.dropWhile_cons, h c (List.mem_cons_self ..)]
    exact ih fun d hd => h d (List.mem_cons_of_mem _ hd)

theorem trimLeft_eq_cons {text rest : List Char} {c : Char} (h : trimLeft text = c :: rest) :
    isBlank c = false := by
  have := List.head?_dropWhile_not isBlank text
  rw [show text.dropWhile isBlank = c :: rest from h] at this
  simpa using this

end Introspection.Text
