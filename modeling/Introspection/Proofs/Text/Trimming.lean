import Introspection.Text.Blank
import Mathlib.Data.List.TakeWhile

/-!
# Trimming

A text is tight if no blank stands at either end. Trimming leaves tight texts as they are, and takes
off blanks that stand around them.

## Main definitions

* `Text.Tight`

## Main results

* `Text.isBlank_of_isAlphanum` — letters and digits are never trimmed
* `Text.trim_of_tight`, `Text.tight_of_trim`, `Text.tight_trim`
* `Text.trim_blanks_append` — blanks around a tight text
-/

namespace Introspection.Text

theorem blank_space : ∀ c ∈ [' '], isBlank c = true :=
  List.forall_mem_singleton.mpr (by decide)

/-- Letters and digits are no blanks. -/
theorem isBlank_of_isAlphanum {c : Char} (h : c.isAlphanum = true) : isBlank c = false := by
  have hrange : 0x30 ≤ c.toNat ∧ c.toNat < 0x80 := by
    rcases (Bool.or_eq_true _ _).mp h with hletter | hdigit
    · rcases (Bool.or_eq_true _ _).mp hletter with hupper | hlower
      · have hbounds : 'A' ≤ c ∧ c ≤ 'Z' := of_decide_eq_true hupper
        simp [Char.le_def, UInt32.le_iff_toNat_le] at hbounds
        omega
      · obtain ⟨hleft, hright⟩ := (Bool.and_eq_true _ _).mp hlower
        have hbounds : 'a' ≤ c ∧ c ≤ 'z' := ⟨of_decide_eq_true hleft, of_decide_eq_true hright⟩
        simp [Char.le_def, UInt32.le_iff_toNat_le] at hbounds
        omega
    · have hbounds := Char.isDigit_iff_toNat.mp hdigit
      simp at hbounds
      omega
  simp [isBlank]
  omega

/-- No blank stands at either end. -/
structure Tight (text : List Char) : Prop where
  first : ∀ c rest, text = c :: rest → isBlank c = false
  last : ∀ c front, text = front ++ [c] → isBlank c = false

theorem tight_nil : Tight [] where
  first := by
    intro c rest h
    cases h
  last := by
    intro c front h
    simp at h

/-- A text is tight if two parts that it begins and ends with are. -/
theorem Tight.append {text between other : List Char} (h : Tight text) (hne : text ≠ [])
    (h' : Tight other) (hne' : other ≠ []) : Tight (text ++ between ++ other) where
  first := by
    intro c rest heq
    obtain ⟨d, text, rfl⟩ := List.exists_cons_of_ne_nil hne
    obtain ⟨rfl, -⟩ := List.cons.inj (by simpa using heq)
    exact h.first _ _ rfl
  last := by
    intro c front heq
    obtain ⟨other, d, rfl⟩ := List.eq_nil_or_concat other |>.resolve_left hne'
    rw [List.concat_eq_append, ← List.append_assoc] at heq
    obtain ⟨-, hlast⟩ := List.append_inj' heq rfl
    obtain rfl : d = c := by simpa using hlast
    exact h'.last _ other (List.concat_eq_append ..)

theorem tight_of_forall {text : List Char} (h : ∀ c ∈ text, isBlank c = false) : Tight text where
  first := by
    rintro c rest rfl
    exact h c List.mem_cons_self
  last := by
    rintro c front rfl
    exact h c (by simp)

theorem trimLeft_of_tight {text : List Char} (h : Tight text) : trimLeft text = text := by
  cases text with
  | nil => rfl
  | cons c rest =>
    rw [trimLeft, List.dropWhile_cons, h.first c rest rfl]
    rfl

theorem trimRight_append_of_blank {blanks : List Char} (h : ∀ c ∈ blanks, isBlank c = true)
    (text : List Char) : trimRight (text ++ blanks) = trimRight text := by
  have hreverse : ∀ c ∈ blanks.reverse, isBlank c = true := fun c hc =>
    h c (List.mem_reverse.mp hc)
  rw [trimRight, trimRight, List.reverse_append]
  exact congrArg List.reverse (trimLeft_append_of_blank hreverse text.reverse)

theorem trimRight_of_tight {text : List Char} (h : Tight text) : trimRight text = text := by
  obtain rfl | ⟨front, c, rfl⟩ := List.eq_nil_or_concat text
  · rfl
  · rw [List.concat_eq_append, trimRight, List.reverse_append, List.reverse_singleton,
      List.singleton_append, List.dropWhile_cons, h.last c front (List.concat_eq_append ..)]
    simp

theorem trim_of_tight {text : List Char} (h : Tight text) : trim text = text := by
  rw [trim, trimLeft_of_tight h, trimRight_of_tight h]

/-- Nothing is trimmed in front of what is no blank. -/
theorem trimRight_append_of_last {front : List Char} {c : Char} (h : isBlank c = false)
    (rest : List Char) : trimRight (front ++ c :: rest) = front ++ c :: trimRight rest := by
  have hdrop : (c :: front.reverse).dropWhile isBlank = c :: front.reverse := by
    rw [List.dropWhile_cons, h]
    rfl
  have hreverse : (front ++ c :: rest).reverse = rest.reverse ++ c :: front.reverse := by simp
  rw [trimRight, trimRight, hreverse, List.dropWhile_append, hdrop]
  split
  · next hempty =>
    rw [List.isEmpty_iff.mp hempty]
    simp
  · simp

/-- Blanks around a tight text are taken off. -/
theorem trim_blanks_append {before text behind : List Char}
    (hbefore : ∀ c ∈ before, isBlank c = true) (h : Tight text)
    (hbehind : ∀ c ∈ behind, isBlank c = true) : trim (before ++ (text ++ behind)) = text := by
  rw [trim, trimLeft_append_of_blank hbefore]
  cases text with
  | nil =>
    have hnil : trimLeft behind = [] := List.dropWhile_eq_nil_iff.mpr hbehind
    rw [List.nil_append, hnil]
    rfl
  | cons c rest =>
    have hleft : trimLeft (c :: rest ++ behind) = c :: rest ++ behind := by
      rw [trimLeft, List.cons_append, List.dropWhile_cons, h.first c rest rfl]
      rfl
    rw [hleft, trimRight_append_of_blank hbehind, trimRight_of_tight h]

/-- What begins with no blank is not trimmed away. -/
theorem trim_ne_nil {c : Char} (h : isBlank c = false) (rest : List Char) :
    trim (c :: rest) ≠ [] := by
  have hleft : trimLeft (c :: rest) = c :: rest := by
    rw [trimLeft, List.dropWhile_cons, h]
    rfl
  rw [trim, hleft, trimRight, Ne, List.reverse_eq_nil_iff, List.dropWhile_eq_nil_iff]
  intro hblank
  rw [hblank c (by simp)] at h
  cases h

/-- What trimming leaves as it is has no blanks at its ends. -/
theorem tight_of_trim {text : List Char} (h : trim text = text) : Tight text := by
  have hsuffix : trimLeft text <:+ text := List.dropWhile_suffix isBlank
  have hle : (trimRight (trimLeft text)).length ≤ (trimLeft text).length := by
    have := (List.dropWhile_sublist isBlank (l := (trimLeft text).reverse)).length_le
    rw [trimRight, List.length_reverse]
    rwa [List.length_reverse] at this
  have hleft : trimLeft text = text := by
    refine hsuffix.eq_of_length_le ?_
    rwa [show trimRight (trimLeft text) = text from h] at hle
  have hright : trimRight text = text := by
    rwa [trim, hleft] at h
  constructor
  · rintro c rest rfl
    exact trimLeft_eq_cons hleft
  · rintro c front rfl
    have hreverse : trimLeft (front ++ [c]).reverse = c :: front.reverse := by
      have := congrArg List.reverse hright
      simpa [trimRight, trimLeft] using this
    exact trimLeft_eq_cons hreverse

/-- Nothing is left to trim. -/
theorem tight_trim (text : List Char) : Tight (trim text) := by
  constructor
  · intro c rest h
    have happend : trim text ++ ((trimLeft text).reverse.takeWhile isBlank).reverse =
        trimLeft text := by
      rw [trim, trimRight, ← List.reverse_append, List.takeWhile_append_dropWhile,
        List.reverse_reverse]
    rw [h, List.cons_append] at happend
    exact trimLeft_eq_cons happend.symm
  · intro c front h
    rw [trim, trimRight, List.reverse_eq_iff, List.reverse_append] at h
    exact trimLeft_eq_cons h

end Introspection.Text
