import Introspection.Identity.Counter
import Introspection.Proofs.Datum
import Mathlib.Tactic.Basic

/-!
# What ids are hashed from

An id is the hash of some bytes, and the hash may send different bytes to one id. The bytes
themselves leave nothing open: they are the text of the seed and eight bytes of the counter, and
both can be found in them again. The counter takes the last eight bytes, so nothing has to separate
it from the text in front of it, whatever this text is. The text then tells the seed, as different
data have different texts.

An allocator that was used in a run of calls has given each call another counter value. So no two
calls of it hash the same bytes, even if they have the same seed.

## Main definitions

* `Identity.Hashed` — an id, and the bytes that it is the hash of

## Main results

* `Identity.append_counterBytes_inj` — the counter is found behind any text
* `Identity.hashInput_inj` — bytes are hashed for one seed and one counter value
* `Identity.getElem?_allocateAll` — which counter value a call of a run finds
* `Identity.hashInputs_distinct`
-/

namespace Introspection.Identity

-- Powers are those of the numbers themselves, also where algebra is in scope.
attribute [local instance (high)] instPowNat

/-! ### The bytes of the counter -/

theorem length_bytesOf (count n : Nat) : (Blake2b.bytesOf count n).length = count := by
  induction count generalizing n with
  | zero => rfl
  | succ count ih => rw [Blake2b.bytesOf, List.length_cons, ih]

/-- A number is known from its bytes, if there are enough of them. -/
theorem bytesOf_inj {count n m : Nat} (hn : n < 256 ^ count) (hm : m < 256 ^ count)
    (h : Blake2b.bytesOf count n = Blake2b.bytesOf count m) : n = m := by
  induction count generalizing n m with
  | zero => rw [Nat.lt_one_iff.mp hn, Nat.lt_one_iff.mp hm]
  | succ count ih =>
    rw [Nat.pow_succ] at hn hm
    obtain ⟨hlow, hhigh⟩ := List.cons.inj h
    have hdiv : n / 256 = m / 256 :=
      ih (Nat.div_lt_of_lt_mul (Nat.mul_comm _ _ ▸ hn)) (Nat.div_lt_of_lt_mul (Nat.mul_comm _ _ ▸ hm))
        hhigh
    have hmod := congrArg UInt8.toNat hlow
    simp only [UInt8.toNat_ofNat'] at hmod
    omega

variable {value value' : Int} {bytes bytes' : List UInt8}

theorem counterBytes_eq_ok_iff : counterBytes value = .ok bytes ↔
    (0 ≤ value ∧ value < 2 ^ (64 : Nat)) ∧ Blake2b.bytesOf 8 value.toNat = bytes := by
  rw [counterBytes]
  split_ifs with hnegative hlarge
  · exact iff_of_false (by simp) fun h => absurd h.1.1 (by omega)
  · exact iff_of_false (by simp) fun h => absurd h.1.2 (by omega)
  · rw [Except.ok.injEq, and_iff_right ⟨by omega, by omega⟩]

theorem length_counterBytes (h : counterBytes value = .ok bytes) : bytes.length = 8 := by
  rw [← (counterBytes_eq_ok_iff.mp h).2, length_bytesOf]

theorem counterBytes_inj (h : counterBytes value = .ok bytes)
    (h' : counterBytes value' = .ok bytes) : value = value' := by
  obtain ⟨⟨hnonneg, hlt⟩, hbytes⟩ := counterBytes_eq_ok_iff.mp h
  obtain ⟨⟨hnonneg', hlt'⟩, hbytes'⟩ := counterBytes_eq_ok_iff.mp h'
  have hnat : value.toNat = value'.toNat :=
    bytesOf_inj (by omega) (by omega) (hbytes.trans hbytes'.symm)
  omega

/-- Behind any text, the bytes of the counter are the last ones, and they tell its value. -/
theorem append_counterBytes_inj {text text' : List UInt8} (h : counterBytes value = .ok bytes)
    (h' : counterBytes value' = .ok bytes') (heq : text ++ bytes = text' ++ bytes') :
    text = text' ∧ value = value' := by
  have hlength : bytes.length = bytes'.length := by
    rw [length_counterBytes h, length_counterBytes h']
  obtain ⟨rfl, rfl⟩ := List.append_inj' heq hlength
  exact ⟨rfl, counterBytes_inj h h'⟩

/-! ### The bytes of a seed and the counter -/

variable {seed seed' : Datum} {input input' : List UInt8} {id : UInt64}

theorem hashInput_eq_ok_iff : hashInput seed value = .ok input ↔
    ∃ bytes, counterBytes value = .ok bytes ∧ seed.display.toUTF8.data.toList ++ bytes = input := by
  rw [hashInput]
  cases counterBytes value <;> simp

/-- A text is known from its bytes. -/
theorem toUTF8_inj {text text' : String}
    (h : text.toUTF8.data.toList = text'.toUTF8.data.toList) : text = text' :=
  String.toByteArray_inj.mp (ByteArray.ext (Array.toList_inj.mp h))

/-- The same bytes are hashed only for the same seed and the same counter value. -/
theorem hashInput_inj (h : hashInput seed value = .ok input)
    (h' : hashInput seed' value' = .ok input) : seed = seed' ∧ value = value' := by
  obtain ⟨bytes, hbytes, rfl⟩ := hashInput_eq_ok_iff.mp h
  obtain ⟨bytes', hbytes', heq⟩ := hashInput_eq_ok_iff.mp h'
  obtain ⟨htext, rfl⟩ := append_counterBytes_inj hbytes hbytes' heq.symm
  exact ⟨Datum.display_injective (toUTF8_inj htext), rfl⟩

/-! ### Calls -/

/-- An id is the hash of these bytes, which are those of a seed and a counter value. -/
structure Hashed (seed : Datum) (value : Int) (input : List UInt8) (id : UInt64) : Prop where
  input_eq : hashInput seed value = .ok input
  id_eq : hashId input = id

theorem idAt_eq_ok_iff : idAt seed value = .ok id ↔ ∃ input, Hashed seed value input id := by
  rw [idAt]
  constructor
  · intro h
    split at h
    · cases h
    · next input hinput => exact ⟨input, hinput, Except.ok.inj h⟩
  · rintro ⟨input, hinput, rfl⟩
    rw [hinput]

/-- A call of a run finds the counter value from which the run started, moved on by the number of
calls before it. Whether these got an id does not matter. -/
theorem getElem?_allocateAll (counter : Counter) (seeds : List Datum) (place : Nat) :
    (allocateAll counter seeds).1[place]? =
      seeds[place]?.map fun seed => idAt seed (counter.next + place) := by
  induction seeds generalizing counter place with
  | nil => rfl
  | cons seed seeds ih =>
    cases place with
    | zero => simp [allocateAll, allocate]
    | succ place =>
      have hnext : counter.next + 1 + (place : Int) = counter.next + ((place + 1 : Nat) : Int) := by
        omega
      show (allocateAll ⟨counter.next + 1⟩ seeds).1[place]? = _
      rw [ih, hnext]
      rfl

/-- **No two calls hash the same bytes.**

Two calls that get an id, on one allocator or on two, hash the same bytes exactly if they have the
same seed and find the same counter value. In a run of calls on one allocator no two that get an id
do so. The counter alone sees to this: with another counter value, other bytes are hashed whatever
text stands in front. -/
theorem hashInputs_distinct :
    (∀ (counter counter' : Counter) (seed seed' : Datum) (id id' : UInt64),
      (allocate counter seed).1 = .ok id → (allocate counter' seed').1 = .ok id' →
        ∃ input input', Hashed seed counter.next input id ∧
          Hashed seed' counter'.next input' id' ∧
          (input = input' ↔ seed = seed' ∧ counter = counter')) ∧
      (∀ (counter : Counter) (seeds : List Datum) (first second : Nat) (id id' : UInt64),
        first < second → (allocateAll counter seeds).1[first]? = some (.ok id) →
        (allocateAll counter seeds).1[second]? = some (.ok id') →
          ∃ seed seed' input input', seeds[first]? = some seed ∧ seeds[second]? = some seed' ∧
            Hashed seed (counter.next + first) input id ∧
            Hashed seed' (counter.next + second) input' id' ∧ input ≠ input') ∧
      ∀ (value value' : Int) (text text' bytes bytes' : List UInt8),
        counterBytes value = .ok bytes → counterBytes value' = .ok bytes' → value ≠ value' →
          text ++ bytes ≠ text' ++ bytes' := by
  refine ⟨?_, ?_, fun value value' text text' bytes bytes' h h' hne heq =>
    hne (append_counterBytes_inj h h' heq).2⟩
  · intro counter counter' seed seed' id id' h h'
    obtain ⟨input, hashed⟩ := idAt_eq_ok_iff.mp h
    obtain ⟨input', hashed'⟩ := idAt_eq_ok_iff.mp h'
    refine ⟨input, input', hashed, hashed', ?_, ?_⟩
    · rintro rfl
      obtain ⟨hseed, hvalue⟩ := hashInput_inj hashed.input_eq hashed'.input_eq
      exact ⟨hseed, congrArg Counter.mk hvalue⟩
    · rintro ⟨rfl, rfl⟩
      exact Except.ok.inj (hashed.input_eq.symm.trans hashed'.input_eq)
  · intro counter seeds first second id id' hlt h h'
    rw [getElem?_allocateAll, Option.map_eq_some_iff] at h h'
    obtain ⟨seed, hseed, hid⟩ := h
    obtain ⟨seed', hseed', hid'⟩ := h'
    obtain ⟨input, hashed⟩ := idAt_eq_ok_iff.mp hid
    obtain ⟨input', hashed'⟩ := idAt_eq_ok_iff.mp hid'
    refine ⟨seed, seed', input, input', hseed, hseed', hashed, hashed', ?_⟩
    rintro rfl
    have hvalue := (hashInput_inj hashed.input_eq hashed'.input_eq).2
    omega

/-- A text, the number that it looks like, and a tuple of it are told apart at one counter value. An
allocator that starts below zero gives its second and its third call different bytes for the same
seed. -/
theorem hashInputs_distinct_lookalikes :
    (∃ input input' id id', Hashed (.str "1") 7 input id ∧
      Hashed (.tuple [.int 1]) 7 input' id' ∧ input ≠ input') ∧
    (∃ input input' id id', Hashed (.str "a") 0 input id ∧ Hashed (.str "a") 1 input' id' ∧
      input ≠ input') ∧
    ([0x31] ++ Blake2b.bytesOf 8 7 : List UInt8) ≠ [0x31] ++ Blake2b.bytesOf 8 8 := by
  obtain ⟨hcalls, hrun, htexts⟩ := hashInputs_distinct
  refine ⟨?_, ?_, htexts 7 8 _ _ _ _ rfl rfl (by decide)⟩
  · obtain ⟨input, input', hashed, hashed', hiff⟩ :=
      hcalls ⟨7⟩ ⟨7⟩ (.str "1") (.tuple [.int 1]) _ _ rfl rfl
    exact ⟨input, input', _, _, hashed, hashed', fun heq => nomatch (hiff.mp heq).1⟩
  · obtain ⟨seed, seed', input, input', hseed, hseed', hashed, hashed', hne⟩ :=
      hrun ⟨-1⟩ [.str "a", .str "a", .str "a"] 1 2 _ _ (by decide) rfl rfl
    cases hseed
    cases hseed'
    exact ⟨input, input', _, _, hashed, hashed', hne⟩

end Introspection.Identity
