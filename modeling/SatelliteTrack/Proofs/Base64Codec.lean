import Mathlib.Data.List.Basic
import SatelliteTrack.Base64

/-!
# What is written in base64 reads back

`decode_encode`: the text of any bytes stands for these bytes, and `utf8ByteSize_encode`: it takes four
bytes for every three, the last group counting as a whole one.

The numbers below 64 that a group of one, two or three bytes is split into are put together again by
`lastBytes?`, so a group reads back as soon as its numbers do (`decodeLast_filled`, `values_symbols`).
The induction over whole texts goes three bytes at a time, as the writer does. Only the last group needs
a case of its own: the reader keeps it for `decodeLast` even when it is full.
-/

namespace SatelliteTrack.Base64

/-! ## Symbols -/

theorem value?_symbol {n : Nat} (h : n < 64) : value? (symbol n) = some n := by
  have all : ∀ m : Fin 64, value? (symbol m) = some m.val := by decide
  exact all ⟨n, h⟩

/-- The fill byte is no symbol. -/
theorem symbol_ne_pad {n : Nat} (h : n < 64) : symbol n ≠ pad := by
  intro same
  have read := value?_symbol h
  rw [same, show value? pad = none by decide] at read
  cases read

/-! ## Groups of symbols -/

theorem values_symbols (offset : Nat) {numbers : List Nat} (small : ∀ n ∈ numbers, n < 64) :
    values offset (numbers.map symbol) = .ok numbers := by
  induction numbers generalizing offset with
  | nil => rfl
  | cons n rest ih =>
    have tail := ih (offset + 1) fun m hm => small m (List.mem_cons_of_mem n hm)
    simp only [List.map_cons, values, value?_symbol (small n List.mem_cons_self), tail]
    rfl

/-- Fill bytes are counted, from the third place on. -/
theorem lastGroup_pads (offset : Nat) {place : Nat} (late : 2 ≤ place) (firstPad : Option Nat)
    (pads : Nat) : lastGroup offset place firstPad (List.replicate pads pad) = .ok ([], pads) := by
  induction pads generalizing place firstPad with
  | zero => rfl
  | succ pads ih =>
    have tail := ih (Nat.le_succ_of_le late) (some (firstPad.getD place))
    simp only [List.replicate_succ, lastGroup, ↓reduceIte, Nat.not_lt.mpr late, tail]
    rfl

/-- Symbols without fill bytes before them are read in their turn. -/
theorem lastGroup_symbols (offset place : Nat) {numbers : List Nat} (small : ∀ n ∈ numbers, n < 64)
    (rest : Bytes) : lastGroup offset place none (numbers.map symbol ++ rest) =
      (lastGroup offset (place + numbers.length) none rest).map
        fun (symbols, pads) => (numbers ++ symbols, pads) := by
  induction numbers generalizing place with
  | nil =>
    rw [List.map_nil, List.nil_append, List.length_nil, Nat.add_zero]
    cases lastGroup offset place none rest <;> rfl
  | cons n numbers ih =>
    have first := small n List.mem_cons_self
    have tail := ih (place + 1) fun m hm => small m (List.mem_cons_of_mem n hm)
    simp only [List.map_cons, List.cons_append, lastGroup, symbol_ne_pad first, ↓reduceIte,
      value?_symbol first, tail, List.length_cons, Nat.add_assoc, Nat.add_comm 1]
    cases lastGroup offset (place + (numbers.length + 1)) none rest <;> rfl

/-- **A group** of at least two symbols, filled up to four, stands for the bytes of its numbers. -/
theorem decodeLast_filled (size offset : Nat) {numbers : List Nat} (pads : Nat) {bytes : Bytes}
    (small : ∀ n ∈ numbers, n < 64) (two : 2 ≤ numbers.length) (four : numbers.length + pads = 4)
    (written : lastBytes? numbers = some bytes) :
    decodeLast size offset (numbers.map symbol ++ List.replicate pads pad) = .ok bytes := by
  have read : lastGroup offset 0 none (numbers.map symbol ++ List.replicate pads pad) =
      .ok (numbers, pads) := by
    rw [lastGroup_symbols offset 0 small, Nat.zero_add, lastGroup_pads offset two none pads]
    simp only [Except.map, List.append_nil]
  simp only [decodeLast, read, Except.bind, bind, Nat.not_lt.mpr two, four, written, ↓reduceIte,
    ne_eq, not_true_eq_false]
  rfl

/-! ## Bytes and their numbers -/

theorem lastBytes?_one (a : UInt8) : lastBytes? [a.toNat / 4, a.toNat % 4 * 16] = some [a] := by
  have high : a.toNat / 4 * 4 + a.toNat % 4 * 16 / 16 = a.toNat := by omega
  simp only [lastBytes?, high, UInt8.ofNat_toNat, Nat.mul_mod_left, ↓reduceIte]

theorem lastBytes?_two (a b : UInt8) :
    lastBytes? [a.toNat / 4, a.toNat % 4 * 16 + b.toNat / 16, b.toNat % 16 * 4] = some [a, b] := by
  have hb := b.toNat_lt
  have first : a.toNat / 4 * 4 + (a.toNat % 4 * 16 + b.toNat / 16) / 16 = a.toNat := by omega
  have second : (a.toNat % 4 * 16 + b.toNat / 16) % 16 * 16 + b.toNat % 16 * 4 / 4 = b.toNat := by
    omega
  simp only [lastBytes?, first, second, UInt8.ofNat_toNat, Nat.mul_mod_left, ↓reduceIte]

theorem lastBytes?_three (a b c : UInt8) :
    lastBytes? [a.toNat / 4, a.toNat % 4 * 16 + b.toNat / 16, b.toNat % 16 * 4 + c.toNat / 64,
      c.toNat % 64] = some [a, b, c] := by
  have hb := b.toNat_lt
  have hc := c.toNat_lt
  have first : a.toNat / 4 * 4 + (a.toNat % 4 * 16 + b.toNat / 16) / 16 = a.toNat := by omega
  have second : (a.toNat % 4 * 16 + b.toNat / 16) % 16 * 16 + (b.toNat % 16 * 4 + c.toNat / 64) / 4 =
      b.toNat := by omega
  have third : (b.toNat % 16 * 4 + c.toNat / 64) % 4 * 64 + c.toNat % 64 = c.toNat := by omega
  simp only [lastBytes?, first, second, third, UInt8.ofNat_toNat]

theorem decodeLast_encodeBytes_one (size offset : Nat) (a : UInt8) :
    decodeLast size offset (encodeBytes [a]) = .ok [a] := by
  have ha := a.toNat_lt
  have small : ∀ n ∈ [a.toNat / 4, a.toNat % 4 * 16], n < 64 := by
    simp only [List.forall_mem_cons, List.not_mem_nil, false_implies, implies_true, and_true]
    omega
  exact decodeLast_filled size offset 2 small (Nat.le_refl 2) rfl (lastBytes?_one a)

theorem decodeLast_encodeBytes_two (size offset : Nat) (a b : UInt8) :
    decodeLast size offset (encodeBytes [a, b]) = .ok [a, b] := by
  have ha := a.toNat_lt
  have hb := b.toNat_lt
  have small : ∀ n ∈ [a.toNat / 4, a.toNat % 4 * 16 + b.toNat / 16, b.toNat % 16 * 4], n < 64 := by
    simp only [List.forall_mem_cons, List.not_mem_nil, false_implies, implies_true, and_true]
    omega
  exact decodeLast_filled size offset 1 small (Nat.le_succ 2) rfl (lastBytes?_two a b)

/-- The numbers that three bytes are split into are numbers of symbols. -/
theorem numbers_lt (a b c : UInt8) : ∀ n ∈ [a.toNat / 4, a.toNat % 4 * 16 + b.toNat / 16,
    b.toNat % 16 * 4 + c.toNat / 64, c.toNat % 64], n < 64 := by
  have ha := a.toNat_lt
  have hb := b.toNat_lt
  have hc := c.toNat_lt
  simp only [List.forall_mem_cons, List.not_mem_nil, false_implies, implies_true, and_true]
  omega

/-! ## Whole texts -/

theorem length_encodeBytes (bytes : Bytes) :
    (encodeBytes bytes).length = 4 * ((bytes.length + 2) / 3) := by
  fun_induction encodeBytes bytes with
  | case1 => rfl
  | case2 a => simp only [List.length_cons, List.length_nil, Nat.reduceAdd, Nat.reduceDiv]
  | case3 a b => simp only [List.length_cons, List.length_nil, Nat.reduceAdd, Nat.reduceDiv]
  | case4 a b c rest ih =>
    simp only [List.length_cons, ih]
    omega

/-- From any offset of a text on, what is written for bytes is read as these bytes. -/
theorem decodeFrom_encodeBytes (size : Nat) (bytes : Bytes) (offset : Nat) :
    decodeFrom size offset (encodeBytes bytes) = .ok bytes := by
  fun_induction encodeBytes bytes generalizing offset with
  | case1 => rfl
  | case2 a => exact decodeLast_encodeBytes_one size offset a
  | case3 a b => exact decodeLast_encodeBytes_two size offset a b
  | case4 a b c rest ih =>
    cases rest with
    | nil =>
      -- a full last group, without fill bytes
      exact decodeLast_filled size offset 0 (numbers_lt a b c) (Nat.le_add_left 2 2) rfl
        (lastBytes?_three a b c)
    | cons d rest =>
      have more := ih (offset + 4)
      have group := values_symbols offset (numbers_lt a b c)
      cases text : encodeBytes (d :: rest) with
      | nil =>
        have size := length_encodeBytes (d :: rest)
        rw [text, List.length_cons, List.length_nil] at size
        omega
      | cons e text' =>
        rw [text] at more
        simp only [List.map_cons, List.map_nil] at group
        simp only [decodeFrom, group, more, bind, Except.bind, lastBytes?_three, Option.getD_some]
        rfl

theorem decodeBytes_encodeBytes (bytes : Bytes) : decodeBytes (encodeBytes bytes) = .ok bytes := by
  have whole : ¬ (encodeBytes bytes).length % 4 = 1 := by
    rw [length_encodeBytes]
    omega
  unfold decodeBytes
  split
  · simp only [whole, false_and, ↓reduceIte]
    exact decodeFrom_encodeBytes _ bytes 0
  case _ empty =>
    have none := decodeFrom_encodeBytes 0 bytes 0
    rw [List.getLast?_eq_none_iff.mp empty] at none
    exact none

/-! ## The text of bytes -/

/-- The bytes that base64 is written with. -/
def alphabet : Bytes := pad :: (List.range 64).map symbol

/-- What holds for the fill byte and for every symbol holds for all that base64 is written with. -/
theorem forall_mem_alphabet {p : UInt8 → Prop} (fill : p pad) (each : ∀ m : Fin 64, p (symbol m)) :
    ∀ b ∈ alphabet, p b := by
  intro b hb
  obtain rfl | hb := List.mem_cons.mp hb
  · exact fill
  · obtain ⟨n, small, rfl⟩ := List.mem_map.mp hb
    exact each ⟨n, List.mem_range.mp small⟩

theorem symbol_mem_alphabet {n : Nat} (h : n < 64) : symbol n ∈ alphabet :=
  List.mem_cons_of_mem pad (List.mem_map_of_mem (List.mem_range.mpr h))

theorem mem_alphabet_of_mem_encodeBytes {bytes : Bytes} {b : UInt8} (h : b ∈ encodeBytes bytes) :
    b ∈ alphabet := by
  have fill : pad ∈ alphabet := List.mem_cons_self
  fun_induction encodeBytes bytes with
  | case1 => cases h
  | case2 a =>
    have ha := a.toNat_lt
    simp only [List.mem_cons, List.not_mem_nil, or_false] at h
    obtain rfl | rfl | rfl | rfl := h
    · exact symbol_mem_alphabet (by omega)
    · exact symbol_mem_alphabet (by omega)
    · exact fill
    · exact fill
  | case3 a c =>
    have ha := a.toNat_lt
    have hc := c.toNat_lt
    simp only [List.mem_cons, List.not_mem_nil, or_false] at h
    obtain rfl | rfl | rfl | rfl := h
    · exact symbol_mem_alphabet (by omega)
    · exact symbol_mem_alphabet (by omega)
    · exact symbol_mem_alphabet (by omega)
    · exact fill
  | case4 x y z rest ih =>
    have small := numbers_lt x y z
    simp only [List.forall_mem_cons, List.not_mem_nil, false_implies, implies_true, and_true] at small
    simp only [List.mem_cons] at h
    obtain rfl | rfl | rfl | rfl | later := h
    · exact symbol_mem_alphabet small.1
    · exact symbol_mem_alphabet small.2.1
    · exact symbol_mem_alphabet small.2.2.1
    · exact symbol_mem_alphabet small.2.2.2
    · exact ih later

/-- The character of a byte that base64 is written with is sent as that byte. -/
theorem utf8EncodeChar_alphabet : ∀ b ∈ alphabet, String.utf8EncodeChar (Char.ofNat b.toNat) = [b] :=
  forall_mem_alphabet (by decide) (by decide)

theorem toList_encode (bytes : Bytes) :
    (encode bytes).toList = (encodeBytes bytes).map fun b => Char.ofNat b.toNat :=
  String.toList_ofList

/-- The text is sent as the bytes that were written. -/
theorem utf8_encode (bytes : Bytes) : Text.utf8 (encode bytes) = encodeBytes bytes := by
  have one : ∀ b ∈ encodeBytes bytes, String.utf8EncodeChar (Char.ofNat b.toNat) = [b] := fun b hb =>
    utf8EncodeChar_alphabet b (mem_alphabet_of_mem_encodeBytes hb)
  rw [Text.utf8, toList_encode, List.flatMap_map, List.flatMap_congr one]
  exact List.flatMap_singleton' _

/-- What is written reads back. -/
theorem decode_encode (bytes : Bytes) : decode (encode bytes) = .ok bytes := by
  rw [decode, utf8_encode, decodeBytes_encodeBytes]

/-- Four bytes for every three, the last group counting as a whole one. -/
theorem utf8ByteSize_encode (bytes : Bytes) :
    (encode bytes).utf8ByteSize = 4 * ((bytes.length + 2) / 3) := by
  rw [← Text.length_utf8, utf8_encode, length_encodeBytes]

end SatelliteTrack.Base64
