import Mathlib.Data.List.Forall2
import SatelliteTrack.Proofs.JsonSkipping

/-!
# Items between brackets

Between brackets stand texts with commas between them, and blanks anywhere around them (`Listed`). Which
texts these are is left open here: the laws are about `items` and `members` with any reader for what
stands between the commas. If the reader takes each text for its value, whatever follows, then `items`
gives the list of the values (`Scan.items_listed`). The members of an object change a state one after the
other; if the reader of a member takes each text for a step of the state, then `members` makes all the
steps (`Scan.members_listed`).

A round is spent on each item and one on the closing bracket. There are never more items than characters,
so the rounds that the readers are given suffice.
-/

namespace SatelliteTrack.Json

open Scan

/-! ## Commas -/

/-- What stands before an item: blanks before the first one, a comma with blanks around it before any
other. -/
inductive Separates : (first : Bool) → List Char → Prop
  | first {blank : List Char} (isBlank : Blank blank) : Separates true blank
  | comma {before after : List Char} (isBefore : Blank before) (isAfter : Blank after) :
      Separates false (before ++ ',' :: after)

/-- What stands up to the closing bracket when these texts are the items: from the opening bracket on, or
after an item that is not `first`. -/
inductive Listed : (first : Bool) → List (List Char) → List Char → Prop
  | nil {first : Bool} {blank : List Char} (isBlank : Blank blank) : Listed first [] blank
  | cons {first : Bool} {lead text cs : List Char} {texts : List (List Char)}
      (separates : Separates first lead) (others : Listed false texts cs) :
      Listed first (text :: texts) (lead ++ text ++ cs)

theorem Separates.length_pos {lead : List Char} (h : Separates false lead) : 0 < lead.length := by
  cases h with
  | comma =>
    rw [List.length_append, List.length_cons]
    omega

/-- There is room for all texts but the first one, which may be empty, and for each of them. -/
theorem Listed.length_le {first : Bool} {texts : List (List Char)} {cs : List Char}
    (h : Listed first texts cs) :
    texts.length ≤ cs.length + first.toNat ∧ ∀ text ∈ texts, text.length ≤ cs.length := by
  induction h with
  | nil => exact ⟨Nat.zero_le _, fun _ mem => absurd mem List.not_mem_nil⟩
  | @cons first lead text cs texts separates others ih =>
    obtain ⟨few, short⟩ := ih
    have room : 0 < lead.length + first.toNat := by
      cases first with
      | true => exact Nat.succ_pos _
      | false => exact separates.length_pos
    rw [Bool.toNat_false] at few
    simp only [List.length_append, List.length_cons]
    refine ⟨by omega, fun t mem => ?_⟩
    obtain rfl | later := List.mem_cons.mp mem
    · omega
    · have := short t later
      omega

namespace Scan

/-- An item ends where a comma or the closing bracket follows. -/
theorem delimits_listed {texts : List (List Char)} {cs : List Char} (h : Listed false texts cs)
    (frame : Frame) (rest : List Char) : Delimits (cs ++ frame.close :: rest) := by
  cases h with
  | nil isBlank => exact delimits_blank isBlank (delimits_close frame rest)
  | cons separates _ =>
    cases separates with
    | comma isBefore _ =>
      simp only [List.append_assoc]
      exact delimits_blank isBefore (delimits_comma _)

/-! ## Lists -/

theorem nextItem_close (first : Bool) {blank : List Char} (isBlank : Blank blank) (cs : List Char) :
    nextItem first (blank ++ ']' :: cs) = .ok (.closed cs) := by
  rw [nextItem, skipSpace_blank isBlank (by decide)]
  exact if_pos rfl

theorem nextItem_item {first : Bool} {lead : List Char} (separates : Separates first lead) {c : Char}
    (opens : Opens c) (cs : List Char) : nextItem first (lead ++ c :: cs) = .ok (.item (c :: cs)) := by
  have noClose : c ≠ ']' := opens.2 .list
  cases separates with
  | first isBlank =>
    rw [nextItem, skipSpace_blank isBlank opens.1]
    show (if _ then _ else _) = _
    rw [if_neg noClose, if_pos rfl]
  | comma isBefore isAfter =>
    rw [List.append_assoc, nextItem, List.cons_append, skipSpace_blank isBefore (by decide)]
    show (if _ then _ else if _ then _ else if _ then _ else _) = _
    rw [if_neg (by decide), if_neg (by decide), if_pos rfl, skipSpace_blank isAfter opens.1]
    exact if_neg noClose

/-- The reader takes the text for the value, whatever follows. -/
structure ReadsAs {α : Type} (item : List Char → Scan α) (x : α) (text : List Char) : Prop where
  begins : ∃ c more, text = c :: more ∧ Opens c
  read : ∀ rest, Delimits rest → item (text ++ rest) = .ok (x, rest)

/-- The reader of a list comes to a text that stands next, and its own reader takes it. -/
theorem nextItem_readsAs {α : Type} {item : List Char → Scan α} {x : α} {first : Bool}
    {lead text cs : List Char} {texts : List (List Char)} (separates : Separates first lead)
    (reads : ReadsAs item x text) (others : Listed false texts cs) (rest : List Char) :
    nextItem first (lead ++ text ++ cs ++ ']' :: rest) = .ok (.item (text ++ (cs ++ ']' :: rest))) ∧
      item (text ++ (cs ++ ']' :: rest)) = .ok (x, cs ++ ']' :: rest) := by
  have ends : Delimits (cs ++ ']' :: rest) := delimits_listed others .list rest
  refine ⟨?_, reads.read _ ends⟩
  obtain ⟨c, more, rfl, opens⟩ := reads.begins
  rw [List.append_assoc, List.append_assoc, List.cons_append, nextItem_item separates opens]

/-- **The items of a list** are read in their order. -/
theorem items_listed {α : Type} {item : List Char → Scan α} {xs : List α} {texts : List (List Char)}
    (each : List.Forall₂ (ReadsAs item) xs texts) (read : List α) {cs : List Char}
    (h : Listed read.isEmpty texts cs) {rounds : Nat} (enough : texts.length < rounds)
    (rest : List Char) :
    items item rounds read (cs ++ ']' :: rest) = .ok (read.reverse ++ xs, rest) := by
  induction each generalizing read cs rounds with
  | nil =>
    obtain _ | rounds := rounds
    · exact absurd enough (Nat.not_lt_zero _)
    · cases h with
      | nil isBlank => rw [items, nextItem_close _ isBlank, List.append_nil]
  | @cons x text xs texts reads _ ih =>
    obtain _ | rounds := rounds
    · exact absurd enough (Nat.not_lt_zero _)
    · cases h with
      | cons separates others =>
        obtain ⟨next, own⟩ := nextItem_readsAs separates reads others rest
        simp only [items, next, own]
        rw [ih (x :: read) others (Nat.lt_of_succ_lt_succ enough), List.reverse_cons, List.append_assoc,
          List.singleton_append]

/-! ## Objects -/

theorem nextMember_close (first : Bool) {blank : List Char} (isBlank : Blank blank) (cs : List Char) :
    nextMember first (blank ++ '\x7d' :: cs) = .ok (.closed cs) := by
  rw [nextMember, skipSpace_blank isBlank (by decide)]
  exact if_pos rfl

theorem nextMember_key {first : Bool} {lead : List Char} (separates : Separates first lead)
    (cs : List Char) : nextMember first (lead ++ '"' :: cs) = .ok (.item cs) := by
  cases separates with
  | first isBlank =>
    rw [nextMember, skipSpace_blank isBlank (by decide)]
    rfl
  | comma isBefore isAfter =>
    rw [List.append_assoc, nextMember, List.cons_append, skipSpace_blank isBefore (by decide)]
    show (if _ then _ else if _ then _ else if _ then _ else _) = _
    rw [if_neg (by decide), if_neg (by decide), if_pos rfl, skipSpace_blank isAfter (by decide)]
    rfl

section

variable {σ : Type} {member : String → σ → List Char → Scan σ} {s s' : σ} {texts : List (List Char)}

/-- The text is a key with more after it, for which the reader takes the state to another one. -/
inductive Joins (member : String → σ → List Char → Scan σ) (s s' : σ) : List Char → Prop
  | key {key : String} {body more : List Char} (chars : SpellsChars key.toList body)
      (read : ∀ rest, Delimits rest → member key s (more ++ rest) = .ok (s', rest)) :
      Joins member s s' ('"' :: body ++ '"' :: more)

/-- The texts take the state to another one, one after the other. -/
inductive JoinAll (member : String → σ → List Char → Scan σ) : σ → σ → List (List Char) → Prop
  | nil {s : σ} : JoinAll member s s []
  | cons {s s' s'' : σ} {text : List Char} {texts : List (List Char)} (first : Joins member s s' text)
      (others : JoinAll member s' s'' texts) : JoinAll member s s'' (text :: texts)

/-- One round takes one member. -/
theorem members_joins {first : Bool} {lead text cs : List Char} (separates : Separates first lead)
    (joins : Joins member s s' text) (others : Listed false texts cs) (rounds : Nat) (rest : List Char) :
    members member (rounds + 1) first s (lead ++ text ++ cs ++ '\x7d' :: rest) =
      members member rounds false s' (cs ++ '\x7d' :: rest) := by
  have ends : Delimits (cs ++ '\x7d' :: rest) := delimits_listed others .object rest
  obtain @⟨key, body, more, chars, read⟩ := joins
  have begins : lead ++ ('"' :: body ++ '"' :: more) ++ cs ++ '\x7d' :: rest =
      lead ++ '"' :: (body ++ '"' :: (more ++ (cs ++ '\x7d' :: rest))) := by
    simp only [List.append_assoc, List.cons_append]
  rw [begins, members, nextMember_key separates]
  simp only [string_spelled chars, read _ ends]

/-- **The members of an object** change the state in their order. -/
theorem members_listed (all : JoinAll member s s' texts) {first : Bool} {cs : List Char}
    (h : Listed first texts cs) {rounds : Nat} (enough : texts.length < rounds) (rest : List Char) :
    members member rounds first s (cs ++ '\x7d' :: rest) = .ok (s', rest) := by
  induction all generalizing first cs rounds with
  | nil =>
    obtain _ | rounds := rounds
    · exact absurd enough (Nat.not_lt_zero _)
    · cases h with
      | nil isBlank => rw [members, nextMember_close _ isBlank]
  | cons joins _ ih =>
    obtain _ | rounds := rounds
    · exact absurd enough (Nat.not_lt_zero _)
    · cases h with
      | cons separates others =>
        rw [members_joins separates joins others, ih others (Nat.lt_of_succ_lt_succ enough)]

end

end Scan

end SatelliteTrack.Json
