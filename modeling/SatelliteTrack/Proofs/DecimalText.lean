import SatelliteTrack.Decimal.Layout
import SatelliteTrack.Proofs.WholeNumbers

/-!
# What the text of a double is made of

Whatever the format, the text of a double is digits, a point, signs and the mark of an exponent, or one
of the three words of the format (`Layout.forall_mem_text`), and it is never empty (`Layout.text_ne`).
So what separates such texts in a file need not be escaped in them, whichever double they stand for.
-/

namespace SatelliteTrack.Decimal

/-- A property of characters that those of every number have. -/
structure CoversNumbers (P : Char → Prop) : Prop where
  digit : ∀ c : Char, c.isDigit = true → P c
  point : P '.'
  minus : P '-'
  plus : P '+'
  exponent : P 'e'

section

variable {P : Char → Prop} (covers : CoversNumbers P)
include covers

theorem forall_mem_toString (n : Nat) : ∀ c ∈ (toString n).toList, P c :=
  fun c h => covers.digit c (Text.isDigit_of_mem_toString h)

theorem forall_mem_zeros (n : Nat) : ∀ c ∈ (String.ofList (List.replicate n '0')).toList, P c := by
  intro c h
  rw [String.toList_ofList] at h
  rw [List.eq_of_mem_replicate h]
  exact covers.digit '0' rfl

theorem forall_mem_positionalText {digits : String} (all : ∀ c ∈ digits.toList, P c) (wholePoint : Bool)
    (place : Int) : ∀ c ∈ (positionalText wholePoint digits place).toList, P c := by
  have zeros := forall_mem_zeros covers
  have zero : P '0' := covers.digit '0' rfl
  have pointZero : ".0".toList = ['.', '0'] := rfl
  have zeroPoint : "0.".toList = ['0', '.'] := rfl
  have justPoint : ".".toList = ['.'] := rfl
  unfold positionalText
  intro c h
  split at h
  · simp only [String.toList_append, List.mem_append, zeroPoint, List.mem_cons, List.not_mem_nil,
      or_false] at h
    obtain ((rfl | rfl) | h) | h := h
    · exact zero
    · exact covers.point
    · exact zeros _ c h
    · exact all c h
  · split at h
    · simp only [String.toList_append, List.mem_append] at h
      obtain (h | h) | h := h
      · exact all c h
      · exact zeros _ c h
      · split at h
        · simp only [pointZero, List.mem_cons, List.not_mem_nil, or_false] at h
          obtain rfl | rfl := h
          · exact covers.point
          · exact zero
        · cases h
    · simp only [String.toList_append, List.mem_append, String.toList_ofList, justPoint,
        List.mem_singleton] at h
      obtain (h | rfl) | h := h
      · exact all c (List.mem_of_mem_take h)
      · exact covers.point
      · exact all c (List.mem_of_mem_drop h)

theorem forall_mem_exponentText {digits : String} (all : ∀ c ∈ digits.toList, P c) (sign : Bool)
    (place : Int) : ∀ c ∈ (exponentText sign digits place).toList, P c := by
  have justPoint : ".".toList = ['.'] := rfl
  have mark : "e".toList = ['e'] := rfl
  unfold exponentText
  intro c h
  simp only [String.toList_append, List.mem_append, String.toList_ofList, mark,
    List.mem_singleton] at h
  obtain (((h | h) | rfl) | h) | h := h
  · exact all c (List.mem_of_mem_take h)
  · split at h
    · cases h
    · simp only [String.toList_append, List.mem_append, String.toList_ofList, justPoint,
        List.mem_singleton] at h
      obtain rfl | h := h
      · exact covers.point
      · exact all c (List.mem_of_mem_drop h)
  · exact covers.exponent
  · split at h
    · obtain rfl : c = '-' := List.mem_singleton.mp h
      exact covers.minus
    · split at h
      · obtain rfl : c = '+' := List.mem_singleton.mp h
        exact covers.plus
      · cases h
  · exact forall_mem_toString covers _ c h

theorem Layout.forall_mem_sizeText (layout : Layout) (x : Binary) :
    ∀ c ∈ (layout.sizeText x).toList, P c := by
  have zero : P '0' := covers.digit '0' rfl
  have whole : "0.0".toList = ['0', '.', '0'] := rfl
  have just : "0".toList = ['0'] := rfl
  unfold Layout.sizeText
  split
  · split
    · simp [whole, zero, covers.point]
    · simp [just, zero]
  · have digits := forall_mem_toString covers (x.shortest layout.tie).digits
    dsimp only
    split
    · split
      · exact forall_mem_positionalText covers digits _ _
      · exact forall_mem_exponentText covers digits _ _
    · split
      · exact forall_mem_positionalText covers digits _ _
      · exact forall_mem_exponentText covers digits _ _

/-- **The characters of a double's text** are digits, the point, the signs, the mark of the exponent,
and those of the words of its format. -/
theorem Layout.forall_mem_text (layout : Layout) (notANumber : ∀ c ∈ layout.notANumber.toList, P c)
    (infinite : ∀ c ∈ layout.infinite.toList, P c)
    (negativeInfinite : ∀ c ∈ layout.negativeInfinite.toList, P c) (x : Float) :
    ∀ c ∈ (layout.text x).toList, P c := by
  unfold Layout.text
  split
  · exact notANumber
  · split
    · exact negativeInfinite
    · exact infinite
  · intro c h
    rw [String.toList_append, List.mem_append] at h
    obtain h | h := h
    · split at h
      · obtain rfl : c = '-' := List.mem_singleton.mp h
        exact covers.minus
      · cases h
    · exact layout.forall_mem_sizeText covers _ c h

end

/-! ## No text is empty -/

theorem positionalText_ne {digits : String} (nonempty : digits.toList ≠ []) (wholePoint : Bool)
    (place : Int) : (positionalText wholePoint digits place).toList ≠ [] := by
  unfold positionalText
  split
  · simp
  · split
    · simp [nonempty]
    · simp

theorem exponentText_ne (digits : String) (sign : Bool) (place : Int) :
    (exponentText sign digits place).toList ≠ [] := by
  simp [exponentText]

theorem Layout.sizeText_ne (layout : Layout) (x : Binary) : (layout.sizeText x).toList ≠ [] := by
  unfold Layout.sizeText
  split
  · split <;> simp
  · have digits : (toString (x.shortest layout.tie).digits).toList ≠ [] := by
      rw [Text.toList_toString]
      exact Nat.toDigits_ne_nil
    dsimp only
    split
    · split
      · exact positionalText_ne digits _ _
      · exact exponentText_ne _ _ _
    · split
      · exact positionalText_ne digits _ _
      · exact exponentText_ne _ _ _

/-- **No double has an empty text**, unless a word of the format is empty. -/
theorem Layout.text_ne (layout : Layout) (notANumber : layout.notANumber.toList ≠ [])
    (infinite : layout.infinite.toList ≠ []) (negativeInfinite : layout.negativeInfinite.toList ≠ [])
    (x : Float) : (layout.text x).toList ≠ [] := by
  unfold Layout.text
  split
  · exact notANumber
  · split
    · exact negativeInfinite
    · exact infinite
  · rw [String.toList_append]
    exact List.append_ne_nil_of_right_ne_nil _ (layout.sizeText_ne _)

end SatelliteTrack.Decimal
