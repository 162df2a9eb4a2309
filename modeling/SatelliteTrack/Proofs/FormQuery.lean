import Mathlib
import SatelliteTrack.Proofs.Files
import SatelliteTrack.Text.Form

/-!
# A query reads back

A query is written from pairs of a name and a value, and whatever the two are, it reads back as these
pairs: `Form.pairs?_query`. So no value can end its pair, begin another one or change a name.

Two facts carry it. Every byte reads back from what is written for it, whatever follows
(`decodeBytes_encodeByte`), and nothing that is written for a byte is a separator (`notMem_encode`). Both
are facts about the 256 bytes, since a text is written byte by byte.
-/

namespace SatelliteTrack.Text

/-- What holds of the 256 numbers below 256 holds of every byte. -/
theorem forall_byte {p : UInt8 → Prop} (all : ∀ n : Fin 256, p (UInt8.ofNat n)) (b : UInt8) : p b := by
  have own := all ⟨b.toNat, b.toNat_lt⟩
  rwa [UInt8.ofNat_toNat] at own

/-- A separator cuts a text in two. -/
theorem pieces_append_cons (mark : Char) (front rest : List Char) :
    pieces mark (front ++ mark :: rest) = pieces mark front ++ pieces mark rest := by
  induction front with
  | nil =>
    obtain ⟨piece, more, cut⟩ := List.exists_cons_of_ne_nil (pieces_ne_nil mark rest)
    simp only [List.nil_append, pieces, cut, ↓reduceIte, List.cons_append]
  | cons c front ih =>
    obtain ⟨piece, more, cut⟩ := List.exists_cons_of_ne_nil (pieces_ne_nil mark front)
    simp only [List.cons_append, pieces, ih, cut]
    split <;> rfl

/-- Texts without separators are the pieces of what they make with separators between them. -/
theorem pieces_intercalate {mark : Char} {texts : List (List Char)} (nonempty : texts ≠ [])
    (clean : ∀ text ∈ texts, mark ∉ text) : pieces mark ([mark].intercalate texts) = texts := by
  induction texts with
  | nil => exact absurd rfl nonempty
  | cons first rest ih =>
    obtain ⟨own, others⟩ := List.forall_mem_cons.mp clean
    cases rest with
    | nil => rw [List.intercalate_singleton, pieces_of_notMem own]
    | cons second rest =>
      rw [List.intercalate_cons_cons, List.append_assoc, List.singleton_append, pieces_append_cons,
        pieces_of_notMem own, ih (List.cons_ne_nil _ _) others]
      rfl

namespace Form

/-! ## Bytes -/

/-- A byte that stands for itself is the only byte of its character, which has no meaning of its own. -/
theorem isPlain_spec (b : UInt8) (plain : isPlain b = true) : Char.ofNat b.toNat ≠ '+' ∧
    Char.ofNat b.toNat ≠ '%' ∧ String.utf8EncodeChar (Char.ofNat b.toNat) = [b] := by
  revert plain b
  exact forall_byte (by decide +kernel)

/-- The two digits of a byte are those of its value. -/
theorem percent_spec (b : UInt8) : ∃ high low, percent b = ['%', high, low] ∧
    hexValue? high = some (b.toNat / 16) ∧ hexValue? low = some (b.toNat % 16) := by
  refine ⟨_, _, rfl, ?_, ?_⟩
  · revert b
    exact forall_byte (by decide +kernel)
  · revert b
    exact forall_byte (by decide +kernel)

/-- **A byte reads back**, whatever follows. -/
theorem decodeBytes_encodeByte (b : UInt8) (rest : List Char) :
    decodeBytes (encodeByte b ++ rest) = b :: decodeBytes rest := by
  unfold encodeByte
  split
  · next plain =>
    obtain ⟨plus, percent, itself⟩ := isPlain_spec b plain
    rw [List.singleton_append, decodeBytes_plain plus percent, itself, List.singleton_append]
  split
  · next space =>
    obtain rfl := eq_of_beq space
    exact decodeBytes_plus rest
  · obtain ⟨high, low, written, h, l⟩ := percent_spec b
    have whole : b.toNat / 16 * 16 + b.toNat % 16 = b.toNat := by omega
    rw [written]
    show decodeBytes ('%' :: high :: low :: rest) = _
    rw [decodeBytes, h, l]
    simp only [whole, UInt8.ofNat_toNat]

theorem decodeBytes_encode (text : String) : decodeBytes (encode text) = utf8 text := by
  unfold encode
  induction utf8 text with
  | nil => rfl
  | cons b bytes ih => rw [List.flatMap_cons, decodeBytes_encodeByte, ih]

/-- Nothing that is written for a byte separates names, values or pairs. -/
theorem notMem_encodeByte (b : UInt8) : '&' ∉ encodeByte b ∧ '=' ∉ encodeByte b := by
  revert b
  exact forall_byte (by decide +kernel)

theorem notMem_encode (text : String) : '&' ∉ encode text ∧ '=' ∉ encode text := by
  constructor <;> intro mem <;> obtain ⟨b, -, inside⟩ := List.mem_flatMap.mp mem
  · exact (notMem_encodeByte b).1 inside
  · exact (notMem_encodeByte b).2 inside

/-! ## Pairs -/

theorem ofUtf8?_decodeBytes_encode (text : String) : ofUtf8? (decodeBytes (encode text)) = some text := by
  rw [decodeBytes_encode, ofUtf8?_utf8]

/-- A pair reads back. -/
theorem pair?_encode (name value : String) :
    pair? (encode name ++ '=' :: encode value) = some (name, value) := by
  have ends : ∀ c ∈ encode name, decide (c ≠ '=') = true := by
    intro c mem
    rw [decide_eq_true_iff]
    rintro rfl
    exact (notMem_encode name).2 mem
  rw [pair?, List.takeWhile_append_of_pos ends, List.dropWhile_append_of_pos ends]
  simp [ofUtf8?_decodeBytes_encode]

/-- **A query reads back** as the pairs that it was written from. -/
theorem pairs?_query {pairs : List (String × String)} (nonempty : pairs ≠ []) :
    pairs? (query pairs) = some pairs := by
  have written : query pairs =
    List.intercalate ['&'] (pairs.map fun pair => encode pair.1 ++ '=' :: encode pair.2) := rfl
  have clean : ∀ text ∈ pairs.map fun pair => encode pair.1 ++ '=' :: encode pair.2, '&' ∉ text := by
    intro text mem inside
    obtain ⟨pair, -, rfl⟩ := List.mem_map.mp mem
    obtain inName | inValue := List.mem_append.mp inside
    · exact (notMem_encode pair.1).1 inName
    · obtain same | inValue := List.mem_cons.mp inValue
      · exact absurd same (by decide)
      · exact (notMem_encode pair.2).1 inValue
  have each : (pair? ∘ fun pair => encode pair.1 ++ '=' :: encode pair.2) = fun pair => pure pair :=
    funext fun pair => pair?_encode pair.1 pair.2
  rw [pairs?, written, pieces_intercalate (by simpa using nonempty) clean, List.mapM_map, each,
    List.mapM_pure, List.map_id']
  rfl

end Form

end SatelliteTrack.Text
