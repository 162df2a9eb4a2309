import SatelliteTrack.Proofs.Base64Codec

/-!
# Only what is written in base64 is read

Every byte string has one text in base64, and no other text is read: not one with a symbol from outside
the alphabet, with too few or too many fill bytes, or with stray bits in its last symbol. So reading and
writing are inverse both ways (`decode_eq_ok_iff`), and texts that differ never stand for the same bytes.

The proof goes through the reader as it stands. What the reader of a part accepts is named by the symbols
that were read, and these are written again as they stood: the groups in the middle of a text
(`values_ok`), the last group with its fill bytes (`lastGroup_ok`), and the bytes of a group
(`encodeBytes_of_lastBytes?`), which is where the stray bits are ruled out.
-/

namespace SatelliteTrack

/-! ## One step after another -/

section

variable {ε α β : Type} {x : Except ε α} {y : β}

/-- What came out of two steps came out of the second one, from what came out of the first one. -/
theorem bind_ok {f : α → Except ε β} (h : x >>= f = .ok y) : ∃ a, x = .ok a ∧ f a = .ok y := by
  cases x with
  | error fault => cases h
  | ok a => exact ⟨a, rfl, h⟩

/-- The same for a second step that cannot fail. -/
theorem map_ok {f : α → β} (h : x.map f = .ok y) : ∃ a, x = .ok a ∧ f a = y := by
  cases x with
  | error fault => cases h
  | ok a => exact ⟨a, rfl, Except.ok.inj h⟩

end

namespace Base64

/-! ## Symbols -/

theorem eq_symbol_of_value? {b : UInt8} {n : Nat} (h : value? b = some n) : n < 64 ∧ b = symbol n := by
  have all : ∀ m : Fin 256,
      (value? (UInt8.ofNat m)).all fun k => k < 64 && UInt8.ofNat m == symbol k := by
    decide +kernel
  have own := all ⟨b.toNat, b.toNat_lt⟩
  rw [UInt8.ofNat_toNat, h] at own
  simpa using own

/-- A run of symbols is written with the numbers that it is read as. -/
theorem values_ok {offset : Nat} {text : Bytes} {numbers : List Nat}
    (h : values offset text = .ok numbers) :
    text = numbers.map symbol ∧ ∀ n ∈ numbers, n < 64 := by
  induction text generalizing offset numbers with
  | nil =>
    cases h
    exact ⟨rfl, fun n mem => absurd mem List.not_mem_nil⟩
  | cons b rest ih =>
    rw [values] at h
    cases own : value? b with
    | none =>
      rw [own] at h
      cases h
    | some n =>
      rw [own] at h
      obtain ⟨more, tail, rfl⟩ := map_ok h
      obtain ⟨small, rfl⟩ := eq_symbol_of_value? own
      obtain ⟨rfl, others⟩ := ih tail
      exact ⟨rfl, List.forall_mem_cons.mpr ⟨small, others⟩⟩

/-- A last group is symbols and then fill bytes; after a fill byte there are no more symbols. -/
theorem lastGroup_ok {offset place : Nat} {firstPad : Option Nat} {text : Bytes} {symbols : List Nat}
    {pads : Nat} (h : lastGroup offset place firstPad text = .ok (symbols, pads)) :
    text = symbols.map symbol ++ List.replicate pads pad ∧ (∀ n ∈ symbols, n < 64) ∧
      (firstPad ≠ none → symbols = []) := by
  induction text generalizing place firstPad symbols pads with
  | nil =>
    cases h
    exact ⟨rfl, fun n mem => absurd mem List.not_mem_nil, fun _ => rfl⟩
  | cons b rest ih =>
    unfold lastGroup at h
    by_cases fill : b = pad
    · by_cases early : place < 2
      · rw [if_pos fill, if_pos early] at h
        cases h
      · rw [if_pos fill, if_neg early] at h
        obtain ⟨⟨symbols', pads'⟩, tail, same⟩ := map_ok h
        cases same
        obtain ⟨text, -, none⟩ := ih tail
        have noSymbols : symbols = [] := none (Option.some_ne_none _)
        subst noSymbols
        exact ⟨by rw [text, fill]; rfl, fun n mem => absurd mem List.not_mem_nil, fun _ => rfl⟩
    · rw [if_neg fill] at h
      cases firstPad with
      | some first => cases h
      | none =>
        cases own : value? b with
        | none =>
          rw [own] at h
          cases h
        | some n =>
          rw [own] at h
          obtain ⟨⟨symbols', pads'⟩, tail, same⟩ := map_ok h
          cases same
          obtain ⟨small, rfl⟩ := eq_symbol_of_value? own
          obtain ⟨rfl, others, -⟩ := ih tail
          exact ⟨rfl, List.forall_mem_cons.mpr ⟨small, others⟩, fun absent => absurd rfl absent⟩

/-! ## Groups -/

/-- The bytes of a group are written with the numbers that they were read from: no bit is left over. -/
theorem encodeBytes_of_lastBytes? {numbers : List Nat} {bytes : Bytes} (small : ∀ n ∈ numbers, n < 64)
    (h : lastBytes? numbers = some bytes) :
    encodeBytes bytes = numbers.map symbol ++ List.replicate (4 - numbers.length) pad := by
  unfold lastBytes? at h
  split at h
  · next a b =>
    split at h
    · next clean =>
      cases h
      simp only [List.forall_mem_cons] at small
      obtain ⟨ha, hb, -⟩ := small
      have first : (UInt8.ofNat (a * 4 + b / 16)).toNat = a * 4 + b / 16 :=
        UInt8.toNat_ofNat_of_lt' (by change _ < 256; omega)
      have high : (a * 4 + b / 16) / 4 = a := by omega
      have low : (a * 4 + b / 16) % 4 * 16 = b := by omega
      simp only [encodeBytes, first, high, low]
      rfl
    · cases h
  · next a b c =>
    split at h
    · next clean =>
      cases h
      simp only [List.forall_mem_cons] at small
      obtain ⟨ha, hb, hc, -⟩ := small
      have first : (UInt8.ofNat (a * 4 + b / 16)).toNat = a * 4 + b / 16 :=
        UInt8.toNat_ofNat_of_lt' (by change _ < 256; omega)
      have second : (UInt8.ofNat (b % 16 * 16 + c / 4)).toNat = b % 16 * 16 + c / 4 :=
        UInt8.toNat_ofNat_of_lt' (by change _ < 256; omega)
      have one : (a * 4 + b / 16) / 4 = a := by omega
      have two : (a * 4 + b / 16) % 4 * 16 + (b % 16 * 16 + c / 4) / 16 = b := by omega
      have three : (b % 16 * 16 + c / 4) % 16 * 4 = c := by omega
      simp only [encodeBytes, first, second, one, two, three]
      rfl
    · cases h
  · next a b c d =>
    cases h
    simp only [List.forall_mem_cons] at small
    obtain ⟨ha, hb, hc, hd, -⟩ := small
    have first : (UInt8.ofNat (a * 4 + b / 16)).toNat = a * 4 + b / 16 :=
      UInt8.toNat_ofNat_of_lt' (by change _ < 256; omega)
    have second : (UInt8.ofNat (b % 16 * 16 + c / 4)).toNat = b % 16 * 16 + c / 4 :=
      UInt8.toNat_ofNat_of_lt' (by change _ < 256; omega)
    have third : (UInt8.ofNat (c % 4 * 64 + d)).toNat = c % 4 * 64 + d :=
      UInt8.toNat_ofNat_of_lt' (by change _ < 256; omega)
    have one : (a * 4 + b / 16) / 4 = a := by omega
    have two : (a * 4 + b / 16) % 4 * 16 + (b % 16 * 16 + c / 4) / 16 = b := by omega
    have three : (b % 16 * 16 + c / 4) % 16 * 4 + (c % 4 * 64 + d) / 64 = c := by omega
    have four : (c % 4 * 64 + d) % 64 = d := by omega
    simp only [encodeBytes, first, second, third, one, two, three, four]
    rfl
  · cases h

/-- A whole group in front of more text is written again as it stood. -/
theorem encodeBytes_append_of_lastBytes? {a b c d : Nat} (small : ∀ n ∈ [a, b, c, d], n < 64)
    (rest : Bytes) : encodeBytes ((lastBytes? [a, b, c, d]).getD [] ++ rest) =
      [a, b, c, d].map symbol ++ encodeBytes rest := by
  have alone := encodeBytes_of_lastBytes? small (rfl : lastBytes? [a, b, c, d] = some _)
  simp only [encodeBytes, List.map_cons, List.map_nil, List.length_cons, List.length_nil, Nat.reduceAdd,
    Nat.sub_self, List.replicate_zero, List.append_nil, List.cons.injEq, and_true] at alone
  obtain ⟨first, second, third, fourth⟩ := alone
  simp only [lastBytes?, Option.getD_some, List.cons_append, List.nil_append, encodeBytes, first, second,
    third, fourth, List.map_cons, List.map_nil]

theorem encodeBytes_of_decodeLast {size offset : Nat} {group bytes : Bytes}
    (h : decodeLast size offset group = .ok bytes) : encodeBytes bytes = group := by
  unfold decodeLast at h
  obtain ⟨⟨symbols, pads⟩, read, h⟩ := bind_ok h
  obtain ⟨text, small, -⟩ := lastGroup_ok read
  by_cases few : symbols.length < 2
  · simp only [if_pos few] at h
    cases h
  · by_cases whole : symbols.length + pads ≠ 4
    · simp only [if_neg few, if_pos whole] at h
      cases h
    · simp only [if_neg few, if_neg whole] at h
      cases written : lastBytes? symbols with
      | none =>
        simp only [written] at h
        cases h
      | some own =>
        simp only [written] at h
        cases h
        have fill : 4 - symbols.length = pads := by omega
        rw [encodeBytes_of_lastBytes? small written, fill, text]

/-! ## Whole texts -/

theorem encodeBytes_of_decodeFrom {size offset : Nat} {text bytes : Bytes}
    (h : decodeFrom size offset text = .ok bytes) : encodeBytes bytes = text := by
  fun_induction decodeFrom size offset text generalizing bytes with
  | case1 =>
    cases h
    rfl
  | case2 offset a b c d e rest ih =>
    obtain ⟨numbers, group, h⟩ := bind_ok h
    obtain ⟨more, tail, h⟩ := bind_ok h
    cases h
    obtain ⟨own, small⟩ := values_ok group
    obtain ⟨i, j, k, l, rfl⟩ : ∃ i j k l, numbers = [i, j, k, l] := by
      have four : numbers.length = 4 := by simpa using (congrArg List.length own).symm
      match numbers, four with
      | [i, j, k, l], _ => exact ⟨i, j, k, l, rfl⟩
    rw [encodeBytes_append_of_lastBytes? small, ih tail, ← own]
    rfl
  | case3 => exact encodeBytes_of_decodeLast h

theorem encodeBytes_of_decodeBytes {text bytes : Bytes} (h : decodeBytes text = .ok bytes) :
    encodeBytes bytes = text := by
  unfold decodeBytes at h
  split at h
  · split at h
    · cases h
    · exact encodeBytes_of_decodeFrom h
  · next empty =>
    cases h
    rw [List.getLast?_eq_none_iff.mp empty]
    rfl

/-- Texts that are sent as the same bytes are the same. -/
theorem eq_of_utf8_eq {s t : String} (h : Text.utf8 s = Text.utf8 t) : s = t := by
  have read := congrArg Text.ofUtf8? h
  rw [Text.ofUtf8?_utf8, Text.ofUtf8?_utf8] at read
  exact Option.some.inj read

/-- **A text is read as base64 exactly if it is what is written for the bytes that it is read as.** -/
theorem decode_eq_ok_iff (text : String) (bytes : Bytes) :
    decode text = .ok bytes ↔ text = encode bytes := by
  constructor
  · intro h
    have written : encodeBytes bytes = Text.utf8 text := encodeBytes_of_decodeBytes h
    rw [← utf8_encode] at written
    exact (eq_of_utf8_eq written).symm
  · rintro rfl
    exact decode_encode bytes

end Base64

end SatelliteTrack
