import SatelliteTrack.Proofs.Base64Strictness
import SatelliteTrack.Proofs.JsonListing

/-!
# Only JSON is read

What a reader takes off the front of a text is in the grammar of its part. This is the converse of the
laws that every spelling is read: together they say that a reader accepts its grammar and nothing else.
Names, strings and numbers come first, then the values that are passed over (`passValue_ok`), then the
items between brackets, with any reader for what stands between the commas (`items_ok`, `members_ok`).

The reader of strings looks an escape ahead and counts down its characters, so its law is one about a text
whose first characters are still to be passed over. The reader that passes over a value keeps a list of
open brackets; what it still has to read is told from this list (`Finishes`), and each of its steps puts
one rule of the grammar in front of what the later steps have read.
-/

namespace SatelliteTrack.Json

namespace Scan

/-! ## Blanks and names -/

/-- Only blanks are skipped. -/
theorem skipSpace_ok (cs : List Char) : ∃ blank, Blank blank ∧ cs = blank ++ skipSpace cs := by
  refine ⟨cs.takeWhile isSpace, fun c mem => ?_, List.takeWhile_append_dropWhile.symm⟩
  exact (isSpace_iff c).mp (List.all_eq_true.mp List.all_takeWhile c mem)

theorem skipSpace_eq_cons {cs rest : List Char} {c : Char} (h : skipSpace cs = c :: rest) :
    ∃ blank, Blank blank ∧ cs = blank ++ c :: rest := by
  obtain ⟨blank, isBlank, text⟩ := skipSpace_ok cs
  rw [h] at text
  exact ⟨blank, isBlank, text⟩

theorem skipSpace_eq_nil {cs : List Char} (h : skipSpace cs = []) : Blank cs := by
  obtain ⟨blank, isBlank, text⟩ := skipSpace_ok cs
  rw [h, List.append_nil] at text
  rwa [text]

theorem blank_append {cs ds : List Char} (first : Blank cs) (second : Blank ds) : Blank (cs ++ ds) := by
  intro c mem
  rcases List.mem_append.mp mem with mem | mem
  · exact first c mem
  · exact second c mem

/-- After blanks the text begins with one of this kind, and this is the rest. -/
def Begins (kind : List Char → Prop) (cs rest : List Char) : Prop :=
  ∃ blank text, Blank blank ∧ kind text ∧ cs = blank ++ text ++ rest

theorem keyword_ok {word cs rest : List Char} (h : keyword word cs = .ok rest) : cs = word ++ rest := by
  induction word generalizing cs with
  | nil =>
    cases h
    rfl
  | cons w word ih =>
    cases cs with
    | nil => cases h
    | cons c cs =>
      rw [keyword] at h
      split at h
      · next same => rw [same, ih h, List.cons_append]
      · cases h

theorem colon_ok {cs rest : List Char} (h : colon cs = .ok rest) :
    ∃ blank, Blank blank ∧ cs = blank ++ ':' :: rest := by
  unfold colon at h
  split at h
  · cases h
  · next c more skipped =>
    split at h
    · next same =>
      cases h
      rw [same] at skipped
      exact skipSpace_eq_cons skipped
    · cases h

/-! ## Strings -/

theorem spellsDigit_of_hexValue? {c : Char} {n : Nat} (h : Text.hexValue? c = some n) :
    SpellsDigit c n := by
  have ascii : c.toNat < 128 := by
    have upTo : ∀ d : Char, c ≤ d → c.toNat ≤ d.toNat := fun d le => UInt32.le_iff_toNat_le.mp le
    unfold Text.hexValue? at h
    split at h
    · next range => exact Nat.lt_of_le_of_lt (upTo '9' range.2) (by decide)
    · split at h
      · next range => exact Nat.lt_of_le_of_lt (upTo 'f' range.2) (by decide)
      · split at h
        · next range => exact Nat.lt_of_le_of_lt (upTo 'F' range.2) (by decide)
        · cases h
  have all : ∀ m : Fin 128,
      (Text.hexValue? (Char.ofNat m)).all fun k => SpellsDigit (Char.ofNat m) k := by
    decide +kernel
  have own := all ⟨c.toNat, ascii⟩
  rw [Char.ofNat_toNat, h] at own
  exact of_decide_eq_true own

theorem fourDigits_ok {cs : List Char} {n : Nat} (h : fourDigits cs = .ok n) :
    ∃ ds rest, cs = ds ++ rest ∧ SpellsUnit ds n := by
  unfold fourDigits at h
  split at h
  · next a b c d rest =>
    split at h
    · next first second third fourth =>
      cases h
      exact ⟨[a, b, c, d], rest, rfl, .digits (spellsDigit_of_hexValue? first)
        (spellsDigit_of_hexValue? second) (spellsDigit_of_hexValue? third)
        (spellsDigit_of_hexValue? fourth)⟩
    · cases h
  · cases h

theorem lt_of_spellsUnit {ds : List Char} {n : Nat} (h : SpellsUnit ds n) : n < 0x10000 := by
  have small : ∀ {c : Char} {i : Nat}, SpellsDigit c i → i < 16 := by
    rintro c i (lower | upper)
    · exact (List.getElem?_eq_some_iff.mp lower).1
    · exact (List.getElem?_eq_some_iff.mp upper).1
  obtain ⟨first, second, third, fourth⟩ := h
  have := small first
  have := small second
  have := small third
  have := small fourth
  omega

theorem letterEscape?_ok {l c : Char} (h : letterEscape? l = some c) : (l, c) ∈ letterEscapes := by
  unfold letterEscape? at h
  split at h <;> cases h <;> decide

theorem toNat_ofNat_of_valid {n : Nat} (valid : n.isValidChar) : (Char.ofNat n).toNat = n := by
  rw [Char.ofNat, dif_pos valid]
  rfl

/-- A unit that is no half of a pair is the number of a character. -/
theorem toNat_ofNat_unit {n : Nat} (small : n < 0x10000) (noHigh : isHighSurrogate n = false)
    (noLow : isLowSurrogate n = false) : (Char.ofNat n).toNat = n := by
  simp only [isHighSurrogate, isLowSurrogate, Bool.and_eq_false_iff, decide_eq_false_iff_not] at noHigh noLow
  refine toNat_ofNat_of_valid ?_
  unfold Nat.isValidChar
  omega

/-- Two halves of a pair are the number of a character. -/
theorem spellsChar_pair {ds es : List Char} {first second : Nat} (unit : SpellsUnit ds first)
    (unit' : SpellsUnit es second) (high : isHighSurrogate first = true) (low : isLowSurrogate second = true) :
    SpellsChar (Char.ofNat (0x10000 + (first - 0xd800) * 0x400 + (second - 0xdc00)))
      ('\\' :: 'u' :: ds ++ '\\' :: 'u' :: es) := by
  simp only [isHighSurrogate, isLowSurrogate, Bool.and_eq_true, decide_eq_true_eq] at high low
  obtain ⟨i, rfl⟩ := Nat.exists_eq_add_of_le high.1
  obtain ⟨j, rfl⟩ := Nat.exists_eq_add_of_le low.1
  rw [Nat.add_sub_cancel_left, Nat.add_sub_cancel_left]
  have valid : (0x10000 + i * 0x400 + j).isValidChar := by
    unfold Nat.isValidChar
    omega
  exact .pair unit unit' (by omega) (by omega) (toNat_ofNat_of_valid valid)

theorem numberedEscape_ok {cs : List Char} {c : Char} {taken : Nat}
    (h : numberedEscape cs = .ok (c, taken)) :
    ∃ own rest, cs = own ++ rest ∧ own.length = taken ∧ SpellsChar c ('\\' :: 'u' :: own) := by
  obtain ⟨first, read, own⟩ := bind_ok h
  obtain ⟨ds, rest, rfl, unit⟩ := fourDigits_ok read
  have four : ds.length = 4 := (fourDigits_of_spellsUnit unit []).1
  have past : (ds ++ rest).drop 4 = rest := by rw [← four, List.drop_left]
  rw [past] at own
  cases low : isLowSurrogate first with
  | true =>
    rw [if_pos low] at own
    cases own
  | false =>
    rw [low, if_neg Bool.false_ne_true] at own
    cases high : isHighSurrogate first with
    | false =>
      rw [high] at own
      cases own
      have value : (Char.ofNat first).toNat = first := toNat_ofNat_unit (lt_of_spellsUnit unit) high low
      exact ⟨ds, rest, rfl, four, .unit (by rwa [value])⟩
    | true =>
      rw [high, if_neg (by decide)] at own
      dsimp only at own
      split at own
      · cases own
      · cases own
      · next more =>
        obtain ⟨second, read', both⟩ := bind_ok own
        obtain ⟨es, rest', rfl, unit'⟩ := fourDigits_ok read'
        have four' : es.length = 4 := (fourDigits_of_spellsUnit unit' []).1
        split at both
        · next low' =>
          obtain ⟨rfl, rfl⟩ := Prod.mk.inj (Except.ok.inj both)
          refine ⟨ds ++ '\\' :: 'u' :: es, rest', ?_, ?_, spellsChar_pair unit unit' high low'⟩
          · simp only [List.append_assoc, List.cons_append]
          · rw [List.length_append, List.length_cons, List.length_cons, four, four']
        · cases both
      · cases own

/-- An escape spells the character that it is read as. -/
theorem escape_ok {cs : List Char} {c : Char} {taken : Nat} (h : escape cs = .ok (c, taken)) :
    ∃ own rest, cs = own ++ rest ∧ own.length = taken ∧ SpellsChar c ('\\' :: own) := by
  unfold escape at h
  split at h
  · cases h
  · next more =>
    obtain ⟨⟨d, length⟩, read, same⟩ := map_ok h
    cases same
    obtain ⟨own, rest, rfl, rfl, spelled⟩ := numberedEscape_ok read
    exact ⟨'u' :: own, rest, rfl, rfl, spelled⟩
  · next letter rest _ =>
    split at h
    · next meaning =>
      cases h
      exact ⟨[letter], rest, rfl, rfl, .letter (letterEscape?_ok meaning)⟩
    · cases h

theorem stringFrom_ok {read cs rest : List Char} {taken : Nat} {s : String}
    (h : stringFrom read taken cs = .ok (s, rest)) :
    ∃ skipped chars body, skipped.length = taken ∧ cs = skipped ++ body ++ '"' :: rest ∧
      SpellsChars chars body ∧ s.toList = read.reverse ++ chars := by
  induction cs generalizing read taken with
  | nil => cases taken <;> cases h
  | cons c cs ih =>
    cases taken with
    | succ taken =>
      obtain ⟨skipped, chars, body, length, rfl, spelled, value⟩ := ih h
      exact ⟨c :: skipped, chars, body, congrArg Nat.succ length, rfl, spelled, value⟩
    | zero =>
      rw [stringFrom] at h
      split at h
      · next quote =>
        cases h
        exact ⟨[], [], [], rfl, by rw [quote]; rfl, .nil, by simp⟩
      · next noQuote =>
        split at h
        · next backslash =>
          split at h
          · cases h
          · next d taken own =>
            obtain ⟨escaped, after, text, length, spelled⟩ := escape_ok own
            obtain ⟨skipped, chars, body, length', text', others, value⟩ := ih h
            -- The characters that were looked at ahead are the ones that are then passed over.
            have both : escaped ++ after = skipped ++ (body ++ '"' :: rest) := by
              rw [← text, text', List.append_assoc]
            obtain ⟨rfl, rfl⟩ := List.append_inj both (length.trans length'.symm)
            refine ⟨[], d :: chars, '\\' :: escaped ++ body, rfl, ?_, .cons spelled others, ?_⟩
            · rw [backslash, text]
              simp only [List.append_assoc, List.cons_append, List.nil_append]
            · rw [value, List.reverse_cons, List.append_assoc, List.singleton_append]
        · next noBackslash =>
          split at h
          · cases h
          · next printable =>
            obtain ⟨skipped, chars, body, length, rfl, others, value⟩ := ih h
            obtain rfl := List.eq_nil_of_length_eq_zero length
            refine ⟨[], c :: chars, [c] ++ body, rfl, rfl, ?_, ?_⟩
            · exact .cons (.plain (Nat.not_lt.mp printable) noQuote noBackslash) others
            · rw [value, List.reverse_cons, List.append_assoc, List.singleton_append]

/-- **A string** that is read is spelled by what stands up to its closing quote. -/
theorem string_ok {cs rest : List Char} {s : String} (h : string cs = .ok (s, rest)) :
    ∃ body, cs = body ++ '"' :: rest ∧ SpellsChars s.toList body := by
  obtain ⟨skipped, chars, body, length, rfl, spelled, value⟩ := stringFrom_ok h
  obtain rfl := List.eq_nil_of_length_eq_zero length
  rw [List.reverse_nil, List.nil_append] at value
  exact ⟨body, rfl, by rwa [value]⟩

theorem escapeLength_ok {cs : List Char} {taken : Nat} (h : escapeLength cs = .ok taken) :
    ∃ own rest, cs = own ++ rest ∧ own.length = taken ∧
      ∀ more, StringBody more → StringBody ('\\' :: own ++ more) := by
  unfold escapeLength at h
  split at h
  · cases h
  · next more =>
    obtain ⟨n, read, same⟩ := map_ok h
    cases same
    obtain ⟨ds, rest, rfl, unit⟩ := fourDigits_ok read
    refine ⟨'u' :: ds, rest, rfl, ?_, fun more => .unit unit⟩
    rw [List.length_cons, (fourDigits_of_spellsUnit unit []).1]
  · next letter rest _ =>
    split at h
    · next meaning =>
      cases h
      obtain ⟨c, some⟩ := Option.isSome_iff_exists.mp meaning
      exact ⟨[letter], rest, rfl, rfl, fun more => .letter (letterEscape?_ok some)⟩
    · cases h

/-- A string that is passed over has the syntax of one. -/
theorem passString_ok {cs rest : List Char} {taken : Nat} (h : passString taken cs = .ok rest) :
    ∃ skipped body, skipped.length = taken ∧ cs = skipped ++ body ++ '"' :: rest ∧ StringBody body := by
  induction cs generalizing taken with
  | nil => cases taken <;> cases h
  | cons c cs ih =>
    cases taken with
    | succ taken =>
      obtain ⟨skipped, body, length, rfl, isBody⟩ := ih h
      exact ⟨c :: skipped, body, congrArg Nat.succ length, rfl, isBody⟩
    | zero =>
      rw [passString] at h
      split at h
      · next quote =>
        cases h
        exact ⟨[], [], rfl, by rw [quote]; rfl, .nil⟩
      · next noQuote =>
        split at h
        · next backslash =>
          split at h
          · cases h
          · next taken own =>
            obtain ⟨escaped, after, text, length, escapes⟩ := escapeLength_ok own
            obtain ⟨skipped, body, length', text', others⟩ := ih h
            have both : escaped ++ after = skipped ++ (body ++ '"' :: rest) := by
              rw [← text, text', List.append_assoc]
            obtain ⟨rfl, rfl⟩ := List.append_inj both (length.trans length'.symm)
            refine ⟨[], '\\' :: escaped ++ body, rfl, ?_, escapes body others⟩
            rw [backslash, text]
            simp only [List.append_assoc, List.cons_append, List.nil_append]
        · next noBackslash =>
          split at h
          · cases h
          · next printable =>
            obtain ⟨skipped, body, length, rfl, others⟩ := ih h
            obtain rfl := List.eq_nil_of_length_eq_zero length
            exact ⟨[], c :: body, rfl, rfl,
              .plain (Nat.not_lt.mp printable) noQuote noBackslash others⟩

/-! ## Numbers -/

theorem delimits_nil : Delimits [] := fun _ mem => by cases mem

/-- **A number** that is read stands in the text up to the rest, and by itself it is read as the same. -/
theorem number_ok {cs rest : List Char} {n : Number} (h : number cs = .ok (n, rest)) :
    ∃ text, cs = text ++ rest ∧ number text = .ok (n, []) := by
  obtain ⟨⟨l, past⟩, read, valued⟩ := bind_ok h
  obtain ⟨text, rfl, writes⟩ := writes_of_literal read
  have alone : literal .endOfValue text = .ok (l, []) := by
    have append := @literal_of_writes .endOfValue l text [] writes delimits_nil
    rwa [List.append_nil] at append
  dsimp only at valued
  cases worth : l.number? with
  | none =>
    rw [worth] at valued
    cases valued
  | some m =>
    rw [worth] at valued
    cases valued
    refine ⟨text, rfl, ?_⟩
    simp only [number, alone, worth, bind, Except.bind]
    rfl

theorem passNumber_ok {cs rest : List Char} (h : passNumber cs = .ok rest) :
    ∃ text, cs = text ++ rest ∧ Written .value text := by
  obtain ⟨⟨l, past⟩, read, same⟩ := map_ok h
  cases same
  obtain ⟨text, rfl, writes⟩ := writes_of_literal read
  exact ⟨text, rfl, .number writes⟩

/-! ## Values that are passed over -/

theorem passWord_ok {cs rest : List Char} (h : passWord cs = .ok rest) :
    ∃ v, cs = v ++ rest ∧ Written .value v := by
  unfold passWord at h
  split at h
  · cases h
  · next c more =>
    split at h
    · next first => exact ⟨_, by rw [first, keyword_ok h]; rfl, .null⟩
    · split at h
      · next first => exact ⟨_, by rw [first, keyword_ok h]; rfl, .true⟩
      · split at h
        · next first => exact ⟨_, by rw [first, keyword_ok h]; rfl, .false⟩
        · split at h
          · next quote =>
            obtain ⟨skipped, body, length, rfl, isBody⟩ := passString_ok h
            obtain rfl := List.eq_nil_of_length_eq_zero length
            refine ⟨_, ?_, .string isBody⟩
            rw [quote]
            simp only [List.append_assoc, List.cons_append, List.nil_append]
          · split at h
            · exact passNumber_ok h
            · cases h

/-- What is read before a value leads to it, with any blanks around it. -/
theorem beforeValue_ok {frame : Frame} {cs rest : List Char} (h : frame.beforeValue cs = .ok rest) :
    ∃ lead, cs = lead ++ rest ∧
      ∀ before after, Blank before → Blank after → Lead frame (before ++ lead ++ after) := by
  cases frame with
  | list =>
    cases h
    refine ⟨[], rfl, fun before after isBefore isAfter => ?_⟩
    rw [List.append_nil]
    exact .list (blank_append isBefore isAfter)
  | object =>
    rw [Frame.beforeValue] at h
    split at h
    · cases h
    · next c more skipped =>
      obtain ⟨first, isFirst, rfl⟩ := skipSpace_eq_cons skipped
      split at h
      · next quote =>
        split at h
        · cases h
        · next past key =>
          obtain ⟨none, body, length, rfl, isBody⟩ := passString_ok key
          obtain rfl := List.eq_nil_of_length_eq_zero length
          obtain ⟨second, isSecond, rfl⟩ := colon_ok h
          refine ⟨first ++ '"' :: body ++ '"' :: second ++ [':'], ?_, fun before after isBefore isAfter => ?_⟩
          · rw [quote]
            simp only [List.append_assoc, List.cons_append, List.nil_append]
          · have lead := Lead.object (blank_append isBefore isFirst) isBody isSecond isAfter
            simpa only [List.append_assoc, List.cons_append, List.nil_append] using lead
      · cases h

/-- What is still to be read where the text stands, for these open brackets: the rest of the value that is
under way, and then the tail of each bracket. -/
inductive Finishes : Place → List Frame → List Char → Prop
  | done {place : Place} (noValue : place ≠ .before) : Finishes place [] []
  | past {frame : Frame} {frames : List Frame} {tail cs : List Char} (isTail : Written (.tail frame) tail)
      (others : Finishes .past frames cs) : Finishes .past (frame :: frames) (tail ++ cs)
  | before {frames : List Frame} {blank v cs : List Char} (isBlank : Blank blank)
      (isValue : Written .value v) (others : Finishes .past frames cs) :
      Finishes .before frames (blank ++ v ++ cs)
  | opened {frame : Frame} {frames : List Frame} {inside cs : List Char}
      (isValue : Written .value (frame.opening :: inside)) (others : Finishes .past frames cs) :
      Finishes .opened (frame :: frames) (inside ++ cs)

/-- A bracket that opens is the front of the value that is closed later. -/
theorem Finishes.opening {frame : Frame} {frames : List Frame} {blank cs : List Char}
    (isBlank : Blank blank) (h : Finishes .opened (frame :: frames) cs) :
    Finishes .before frames (blank ++ frame.opening :: cs) := by
  cases h with
  | opened isValue others =>
    have value := Finishes.before isBlank isValue others
    rwa [List.append_assoc] at value

/-- A first item, and what follows it, fill the bracket. -/
theorem Finishes.first {frame : Frame} {frames : List Frame} {lead cs : List Char}
    (leads : ∀ after, Blank after → Lead frame (lead ++ after))
    (h : Finishes .before (frame :: frames) cs) : Finishes .opened (frame :: frames) (lead ++ cs) := by
  cases h with
  | before isBlank isValue others =>
    cases others with
    | past isTail others =>
      have filled := Finishes.opened (.filled (leads _ isBlank) isValue isTail) others
      simpa only [List.append_assoc, List.append_eq] using filled

/-- A later item goes into the tail of the bracket. -/
theorem Finishes.next {frame : Frame} {frames : List Frame} {blank lead cs : List Char}
    (isBlank : Blank blank) (leads : ∀ after, Blank after → Lead frame (lead ++ after))
    (h : Finishes .before (frame :: frames) cs) :
    Finishes .past (frame :: frames) (blank ++ ',' :: lead ++ cs) := by
  cases h with
  | before isBlank' isValue others =>
    cases others with
    | past isTail others =>
      have tail := Finishes.past (.next isBlank (leads _ isBlank') isValue isTail) others
      simpa only [List.append_assoc, List.cons_append] using tail

/-- Each step of the reader puts one rule of the syntax in front. -/
theorem pass_ok {steps : Nat} {place : Place} {frames : List Frame} {cs rest : List Char}
    (h : pass steps place frames cs = .ok rest) :
    ∃ text, cs = text ++ rest ∧ Finishes place frames text := by
  fun_induction pass steps place frames cs with
  | case1 | case3 | case6 | case9 | case11 | case13 | case15 | case17 => cases h
  | case2 | case8 =>
    cases h
    exact ⟨[], rfl, .done (by decide)⟩
  | case4 steps frames cs more skipped ih | case5 steps frames cs more skipped _ ih =>
    obtain ⟨blank, isBlank, rfl⟩ := skipSpace_eq_cons skipped
    obtain ⟨text, rfl, others⟩ := ih h
    exact ⟨_, by rw [List.append_assoc]; rfl, others.opening isBlank⟩
  | case7 steps frames cs c more skipped _ _ past word ih =>
    obtain ⟨blank, isBlank, rfl⟩ := skipSpace_eq_cons skipped
    obtain ⟨v, text, isValue⟩ := passWord_ok word
    obtain ⟨text', rfl, others⟩ := ih h
    refine ⟨blank ++ v ++ text', ?_, .before isBlank isValue others⟩
    rw [text]
    simp only [List.append_assoc]
  | case10 steps frame frames cs more skipped ih =>
    obtain ⟨blank, isBlank, rfl⟩ := skipSpace_eq_cons skipped
    obtain ⟨text, rfl, others⟩ := ih h
    refine ⟨blank ++ [frame.close] ++ text, ?_, .opened (.empty frame isBlank) others⟩
    simp only [List.append_assoc, List.cons_append, List.nil_append]
  | case12 steps frame frames cs c more skipped _ past read ih =>
    obtain ⟨blank, isBlank, rfl⟩ := skipSpace_eq_cons skipped
    obtain ⟨lead, text, leads⟩ := beforeValue_ok read
    obtain ⟨text', rfl, others⟩ := ih h
    refine ⟨blank ++ lead ++ text', ?_, others.first fun after => leads blank after isBlank⟩
    rw [text]
    simp only [List.append_assoc]
  | case14 steps frame frames cs more skipped ih =>
    obtain ⟨blank, isBlank, rfl⟩ := skipSpace_eq_cons skipped
    obtain ⟨text, rfl, others⟩ := ih h
    refine ⟨blank ++ [frame.close] ++ text, ?_, .past (.close frame isBlank) others⟩
    simp only [List.append_assoc, List.cons_append, List.nil_append]
  | case16 steps frame frames cs more past read skipped _ ih =>
    obtain ⟨blank, isBlank, rfl⟩ := skipSpace_eq_cons skipped
    obtain ⟨lead, rfl, leads⟩ := beforeValue_ok read
    obtain ⟨text, rfl, others⟩ := ih h
    refine ⟨blank ++ ',' :: lead ++ text, ?_, others.next isBlank fun after => leads [] after blank_nil⟩
    simp only [List.append_assoc, List.cons_append]

/-- **Only a value is passed over.** -/
theorem passValue_ok {rounds : Nat} {cs rest : List Char} (h : passValue rounds cs = .ok rest) :
    Begins (Written .value) cs rest := by
  obtain ⟨text, rfl, finishes⟩ := pass_ok h
  cases finishes with
  | done noValue => exact absurd rfl noValue
  | @before _ blank v _ isBlank isValue others =>
    cases others with
    | done => exact ⟨blank, v, isBlank, isValue, by rw [List.append_nil]⟩

/-! ## Items between brackets -/

theorem separates_append {first : Bool} {lead blank : List Char} (h : Separates first lead)
    (isBlank : Blank blank) : Separates first (lead ++ blank) := by
  cases h with
  | first isLead => exact .first (blank_append isLead isBlank)
  | comma isBefore isAfter =>
    rw [List.append_assoc, List.cons_append]
    exact .comma isBefore (blank_append isAfter isBlank)

theorem nextItem_closed_ok {first : Bool} {cs rest : List Char} (h : nextItem first cs = .ok (.closed rest)) :
    ∃ blank, Blank blank ∧ cs = blank ++ ']' :: rest := by
  unfold nextItem at h
  split at h
  · cases h
  · next c more skipped =>
    split at h
    · next same =>
      cases h
      rw [same] at skipped
      exact skipSpace_eq_cons skipped
    · split at h
      · cases h
      · split at h
        · split at h
          · cases h
          · split at h <;> cases h
        · cases h

theorem nextItem_item_ok {first : Bool} {cs rest : List Char} (h : nextItem first cs = .ok (.item rest)) :
    ∃ lead, Separates first lead ∧ cs = lead ++ rest := by
  unfold nextItem at h
  split at h
  · cases h
  · next c more skipped =>
    obtain ⟨blank, isBlank, rfl⟩ := skipSpace_eq_cons skipped
    split at h
    · cases h
    · split at h
      · next isFirst =>
        cases h
        rw [isFirst]
        exact ⟨blank, .first isBlank, rfl⟩
      · next notFirst =>
        split at h
        · next comma =>
          split at h
          · cases h
          · next d past skipped' =>
            obtain ⟨blank', isBlank', rfl⟩ := skipSpace_eq_cons skipped'
            split at h
            · cases h
            · cases h
              rw [Bool.not_eq_true] at notFirst
              rw [notFirst, comma]
              exact ⟨_, .comma isBlank isBlank', by rw [List.append_assoc]; rfl⟩
        · cases h

/-- **The items of a list** that are read stand between its commas, if the reader of an item takes only
texts of its kind. -/
theorem items_ok {α : Type} {item : List Char → Scan α} {spells : α → List Char → Prop}
    (only : ∀ {cs rest : List Char} {x : α}, item cs = .ok (x, rest) → Begins (spells x) cs rest)
    {rounds : Nat} {read xs : List α} {cs rest : List Char}
    (h : items item rounds read cs = .ok (xs, rest)) :
    ∃ ys texts inside, xs = read.reverse ++ ys ∧ cs = inside ++ ']' :: rest ∧
      List.Forall₂ spells ys texts ∧ Listed read.isEmpty texts inside := by
  induction rounds generalizing read cs with
  | zero => cases h
  | succ rounds ih =>
    rw [items] at h
    split at h
    · cases h
    · next past closed =>
      cases h
      obtain ⟨blank, isBlank, rfl⟩ := nextItem_closed_ok closed
      exact ⟨[], [], blank, (List.append_nil _).symm, rfl, .nil, .nil isBlank⟩
    · next past next =>
      obtain ⟨lead, separates, rfl⟩ := nextItem_item_ok next
      split at h
      · cases h
      · next x past' own =>
        obtain ⟨blank, text, isBlank, spelled, rfl⟩ := only own
        obtain ⟨ys, texts, inside, rfl, rfl, each, listed⟩ := ih h
        refine ⟨x :: ys, text :: texts, lead ++ blank ++ text ++ inside, ?_, ?_, .cons spelled each,
          .cons (separates_append separates isBlank) listed⟩
        · rw [List.reverse_cons, List.append_assoc, List.singleton_append]
        · simp only [List.append_assoc]

theorem nextMember_closed_ok {first : Bool} {cs rest : List Char}
    (h : nextMember first cs = .ok (.closed rest)) : ∃ blank, Blank blank ∧ cs = blank ++ '\x7d' :: rest := by
  unfold nextMember at h
  split at h
  · cases h
  · next c more skipped =>
    split at h
    · next same =>
      cases h
      rw [same] at skipped
      exact skipSpace_eq_cons skipped
    · split at h
      · split at h <;> cases h
      · split at h
        · split at h
          · cases h
          · split at h
            · cases h
            · split at h <;> cases h
        · cases h

theorem nextMember_item_ok {first : Bool} {cs rest : List Char}
    (h : nextMember first cs = .ok (.item rest)) :
    ∃ lead, Separates first lead ∧ cs = lead ++ '"' :: rest := by
  unfold nextMember at h
  split at h
  · cases h
  · next c more skipped =>
    obtain ⟨blank, isBlank, rfl⟩ := skipSpace_eq_cons skipped
    split at h
    · cases h
    · split at h
      · next isFirst =>
        split at h
        · next quote =>
          cases h
          rw [isFirst, quote]
          exact ⟨blank, .first isBlank, rfl⟩
        · cases h
      · next notFirst =>
        split at h
        · next comma =>
          split at h
          · cases h
          · next d past skipped' =>
            obtain ⟨blank', isBlank', rfl⟩ := skipSpace_eq_cons skipped'
            split at h
            · next quote =>
              cases h
              rw [Bool.not_eq_true] at notFirst
              rw [notFirst, comma, quote]
              exact ⟨_, .comma isBlank isBlank', by rw [List.append_assoc]; rfl⟩
            · split at h <;> cases h
        · cases h

section

variable {σ : Type} {member : String → σ → List Char → Scan σ}
  {step : String → σ → σ → List Char → Prop}

/-- The texts are keys with more after them, and each one takes the state one step further. -/
inductive Steps (step : String → σ → σ → List Char → Prop) : σ → σ → List (List Char) → Prop
  | nil {s : σ} : Steps step s s []
  | cons {s s' s'' : σ} {key : String} {body more : List Char} {texts : List (List Char)}
      (chars : SpellsChars key.toList body) (first : step key s s' more)
      (others : Steps step s' s'' texts) : Steps step s s'' (('"' :: body ++ '"' :: more) :: texts)

/-- **The members of an object** that are read stand between its commas, if the reader of a member takes
only texts for the steps that it makes. -/
theorem members_ok
    (only : ∀ {key : String} {s s' : σ} {cs rest : List Char}, member key s cs = .ok (s', rest) →
      ∃ more, cs = more ++ rest ∧ step key s s' more)
    {rounds : Nat} {first : Bool} {s s' : σ} {cs rest : List Char}
    (h : members member rounds first s cs = .ok (s', rest)) :
    ∃ texts inside, cs = inside ++ '\x7d' :: rest ∧ Listed first texts inside ∧ Steps step s s' texts := by
  induction rounds generalizing first s cs with
  | zero => cases h
  | succ rounds ih =>
    rw [members] at h
    split at h
    · cases h
    · next past closed =>
      cases h
      obtain ⟨blank, isBlank, rfl⟩ := nextMember_closed_ok closed
      exact ⟨[], blank, rfl, .nil isBlank, .nil⟩
    · next past next =>
      obtain ⟨lead, separates, rfl⟩ := nextMember_item_ok next
      split at h
      · cases h
      · next key past' read =>
        obtain ⟨body, rfl, chars⟩ := string_ok read
        split at h
        · cases h
        · next s'' past'' own =>
          obtain ⟨more, rfl, stepped⟩ := only own
          obtain ⟨texts, inside, rfl, listed, others⟩ := ih h
          refine ⟨_, _, ?_, .cons separates listed, .cons chars stepped others⟩
          simp only [List.append_assoc, List.cons_append]

end

end Scan

end SatelliteTrack.Json
