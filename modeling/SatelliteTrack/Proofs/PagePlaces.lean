import Mathlib.Data.List.Infix
import SatelliteTrack.Track.MapPage

/-!
# The places of the page

A page is made by putting three texts into a template, one after another, and each time the whole page is
gone through, with what was put in before. `Stretch` is a part of a page, a text or a place that is still to
be filled, and the template is a list of them (`chars_stretches`). **The laws**: a place stands in a page as
often as in its stretches (`occurrences_chars`), and filling places fills those of the stretches
(`foldl_fill`). **The theorem** (`foldl_fill_template`): if no text that is put in holds a place, the page
is the same in whatever order the places are filled, and no place is left in it.

What carries all this is `Plain`: in such a text no place begins, even one that would end behind it. A
single brace at its end is therefore too much.
-/

namespace SatelliteTrack.MapPage

/-! ## Texts without a place -/

/-- What the mark of every place begins with. -/
def opening : List Char := ['\x7b', '\x7b']

/-- No place begins in the text, whatever follows it. -/
def Plain (cs : List Char) : Prop := ¬ opening <:+: cs ++ ['\x7b']

instance (cs : List Char) : Decidable (Plain cs) := inferInstanceAs (Decidable (¬ _))

theorem plain_nil : Plain [] := by decide

/-- A text without braces is plain. -/
theorem Plain.of_notMem {cs : List Char} (h : '\x7b' ∉ cs) : Plain cs := by
  intro inside
  have two := inside.sublist.count_le '\x7b'
  rw [List.count_append, List.count_eq_zero_of_not_mem h] at two
  exact absurd two (by decide)

theorem Plain.tail {c : Char} {cs : List Char} (h : Plain (c :: cs)) : Plain cs :=
  fun inside => h (List.infix_cons inside)

/-- At the head of a plain text stands no place. -/
theorem Plain.not_prefix {c : Char} {cs : List Char} (h : Plain (c :: cs)) (rest : List Char) :
    ¬ opening <+: c :: (cs ++ rest) := by
  intro begins
  obtain ⟨rfl, second⟩ := List.cons_prefix_cons.mp begins
  refine h (List.IsPrefix.isInfix (List.cons_prefix_cons.mpr ⟨rfl, ?_⟩))
  cases cs with
  | nil => exact List.prefix_rfl
  | cons d cs =>
    obtain ⟨rfl, -⟩ := List.cons_prefix_cons.mp second
    exact List.prefix_append ['\x7b'] (cs ++ ['\x7b'])

theorem Plain.append {cs ds : List Char} (h : Plain cs) (h' : Plain ds) : Plain (cs ++ ds) := by
  induction cs with
  | nil => exact h'
  | cons c cs ih =>
    intro inside
    rw [List.cons_append, List.cons_append, List.append_assoc] at inside
    obtain begins | inside := List.infix_cons_iff.mp inside
    · exact h.not_prefix _ begins
    · rw [← List.append_assoc] at inside
      exact ih h.tail inside

theorem Plain.flatMap {α : Type} {text : α → List Char} {xs : List α} (h : ∀ x ∈ xs, Plain (text x)) :
    Plain (xs.flatMap text) := by
  induction xs with
  | nil => exact plain_nil
  | cons x xs ih =>
    rw [List.flatMap_cons]
    exact (h x List.mem_cons_self).append (ih fun y mem => h y (List.mem_cons_of_mem _ mem))

/-! ## The places -/

/-- The places of the page. -/
inductive Place where
  | center
  | zoom
  | points
deriving DecidableEq

/-- What stands in the mark of the place. -/
def Place.name : Place → String
  | .center => "CENTER"
  | .zoom => "ZOOM"
  | .points => "POINTS"

theorem opening_prefix_place (name : String) : opening <+: place name :=
  ⟨name.toList ++ ['\x7d', '\x7d'], rfl⟩

/-- Behind its first character the mark of a place is a plain text. -/
theorem Place.exists_mark (p : Place) : ∃ mark, place p.name = '\x7b' :: mark ∧ Plain mark := by
  cases p <;> exact ⟨_, rfl, by decide⟩

/-- Where one place begins no other one does. -/
theorem Place.prefix_iff {p q : Place} (rest : List Char) :
    place p.name <+: place q.name ++ rest ↔ q = p := by
  constructor
  · intro begins
    rw [← List.isPrefixOf_iff_prefix] at begins
    -- the three names differ in their first letters
    cases p <;> cases q <;> first | rfl | cases begins
  · rintro rfl
    exact List.prefix_append _ _

/-! ## One text through a page -/

theorem replaceFrom_skipped (pattern value rest : List Char) (skipped : List Char) :
    replaceFrom pattern value skipped.length (skipped ++ rest) = replaceFrom pattern value 0 rest := by
  induction skipped with
  | nil => rfl
  | cons c skipped ih => exact ih

/-- A character with which no place begins stays. -/
theorem fill_cons {c : Char} {rest : List Char} {name : String} (value : String)
    (h : ¬ place name <+: c :: rest) : fill name value (c :: rest) = c :: fill name value rest := by
  have differs : (place name).isPrefixOf (c :: rest) = false :=
    Bool.eq_false_iff.mpr fun same => h (List.isPrefixOf_iff_prefix.mp same)
  rw [fill, replaceFrom, differs, if_neg Bool.false_ne_true]
  rfl

/-- **A plain text stays.** -/
theorem fill_plain (name value : String) {cs : List Char} (plain : Plain cs) (rest : List Char) :
    fill name value (cs ++ rest) = cs ++ fill name value rest := by
  induction cs with
  | nil => rfl
  | cons c cs ih =>
    have differs : ¬ place name <+: c :: (cs ++ rest) := fun begins =>
      plain.not_prefix rest ((opening_prefix_place name).trans begins)
    rw [List.cons_append, fill_cons value differs, ih plain.tail, List.cons_append]

/-- **The place of the name is replaced.** -/
theorem fill_place (name value : String) (rest : List Char) :
    fill name value (place name ++ rest) = value.toList ++ fill name value rest := by
  obtain ⟨c, mark, split⟩ : ∃ c mark, place name = c :: mark := ⟨_, _, rfl⟩
  have begins : (c :: mark).isPrefixOf (c :: (mark ++ rest)) = true :=
    List.isPrefixOf_iff_prefix.mpr (List.prefix_append (c :: mark) rest)
  rw [fill, fill, split, List.cons_append, replaceFrom, if_pos begins, List.length_cons,
    Nat.add_sub_cancel, replaceFrom_skipped]

/-- **The place of another name stays.** -/
theorem fill_other {p q : Place} (different : q ≠ p) (value : String) (rest : List Char) :
    fill p.name value (place q.name ++ rest) = place q.name ++ fill p.name value rest := by
  obtain ⟨mark, split, plain⟩ := q.exists_mark
  have differs : ¬ place p.name <+: place q.name ++ rest := mt (Place.prefix_iff rest).mp different
  rw [split, List.cons_append] at differs ⊢
  rw [fill_cons value differs, fill_plain _ _ plain, List.cons_append]

/-- How often a text stands in another one. -/
def occurrences (pattern cs : List Char) : Nat := cs.tails.countP fun rest => pattern.isPrefixOf rest

theorem occurrences_cons (pattern : List Char) (c : Char) (rest : List Char) :
    occurrences pattern (c :: rest) =
      occurrences pattern rest + if pattern <+: c :: rest then 1 else 0 := by
  simp only [occurrences, List.tails_cons, List.countP_cons, List.isPrefixOf_iff_prefix]

theorem occurrences_plain (name : String) {cs : List Char} (plain : Plain cs) (rest : List Char) :
    occurrences (place name) (cs ++ rest) = occurrences (place name) rest := by
  induction cs with
  | nil => rfl
  | cons c cs ih =>
    have differs : ¬ place name <+: c :: (cs ++ rest) := fun begins =>
      plain.not_prefix rest ((opening_prefix_place name).trans begins)
    rw [List.cons_append, occurrences_cons, if_neg differs, Nat.add_zero, ih plain.tail]

theorem occurrences_place (p q : Place) (rest : List Char) :
    occurrences (place p.name) (place q.name ++ rest) =
      occurrences (place p.name) rest + if q = p then 1 else 0 := by
  obtain ⟨mark, split, plain⟩ := q.exists_mark
  have begins := Place.prefix_iff (p := p) (q := q) rest
  rw [split, List.cons_append] at begins ⊢
  rw [occurrences_cons, occurrences_plain _ plain]
  simp only [begins]

/-! ## Pages in stretches -/

/-- A stretch of a page: a text, or a place that is still to be filled. -/
inductive Stretch where
  | plain (cs : List Char)
  | place (p : Place)
deriving DecidableEq

namespace Stretch

def chars : Stretch → List Char
  | .plain cs => cs
  | .place p => MapPage.place p.name

/-- No place is hidden in the text of a stretch. -/
def Sound : Stretch → Prop
  | .plain cs => Plain cs
  | .place _ => True

variable (values : Place → String)

/-- The stretch when these places are filled. -/
def fill (filled : List Place) : Stretch → Stretch
  | .plain cs => .plain cs
  | .place p => if p ∈ filled then .plain (values p).toList else .place p

/-- The text of the stretch when every place is filled. -/
def settled : Stretch → List Char
  | .plain cs => cs
  | .place p => (values p).toList

theorem fill_nil (s : Stretch) : s.fill values [] = s := by
  cases s with
  | plain cs => rfl
  | place p => rw [fill, if_neg List.not_mem_nil]

theorem fill_fill (p : Place) (filled : List Place) (s : Stretch) :
    (s.fill values [p]).fill values filled = s.fill values (p :: filled) := by
  cases s with
  | plain cs => rfl
  | place q =>
    by_cases same : q = p
    · simp [fill, same]
    · simp [fill, same]

theorem chars_fill {filled : List Place} (all : ∀ p, p ∈ filled) (s : Stretch) :
    (s.fill values filled).chars = s.settled values := by
  cases s with
  | plain cs => rfl
  | place p => rw [fill, if_pos (all p)]; rfl

variable {values} (plain : ∀ p, Plain (values p).toList)
include plain

theorem Sound.fill (filled : List Place) {s : Stretch} (h : s.Sound) : (s.fill values filled).Sound := by
  cases s with
  | plain cs => exact h
  | place p =>
    rw [Stretch.fill]
    split
    · exact plain p
    · trivial

theorem Sound.settled {s : Stretch} (h : s.Sound) : Plain (s.settled values) := by
  cases s with
  | plain cs => exact h
  | place p => exact plain p

end Stretch

/-- **A place stands in a page as often as in its stretches.** -/
theorem occurrences_chars (p : Place) {page : List Stretch} (sound : ∀ s ∈ page, s.Sound) :
    occurrences (place p.name) (page.flatMap Stretch.chars) = page.count (.place p) := by
  induction page with
  | nil => cases p <;> decide
  | cons s page ih =>
    have rest := ih fun t mem => sound t (List.mem_cons_of_mem _ mem)
    rw [List.flatMap_cons, List.count_cons, ← rest]
    cases s with
    | plain cs => exact occurrences_plain _ (sound _ List.mem_cons_self) _
    | place q =>
      rw [Stretch.chars, occurrences_place]
      simp only [beq_iff_eq, Stretch.place.injEq]

variable {values : Place → String}

/-- One text goes into the stretches of its place. -/
theorem fill_chars (values : Place → String) (p : Place) {page : List Stretch} (sound : ∀ s ∈ page, s.Sound) :
    fill p.name (values p) (page.flatMap Stretch.chars) =
      (page.map (Stretch.fill values [p])).flatMap Stretch.chars := by
  induction page with
  | nil => rfl
  | cons s page ih =>
    have rest := ih fun t mem => sound t (List.mem_cons_of_mem _ mem)
    rw [List.flatMap_cons, List.map_cons, List.flatMap_cons, ← rest]
    cases s with
    | plain cs => exact fill_plain _ _ (sound _ List.mem_cons_self) _
    | place q =>
      by_cases same : q = p
      · subst same
        rw [Stretch.fill, if_pos List.mem_cons_self]
        exact fill_place _ _ _
      · rw [Stretch.fill, if_neg fun mem => same (List.mem_singleton.mp mem)]
        exact fill_other same _ _

/-- **Filling places fills those of the stretches.** -/
theorem foldl_fill (plain : ∀ p, Plain (values p).toList) (order : List Place) {page : List Stretch}
    (sound : ∀ s ∈ page, s.Sound) :
    order.foldl (fun text p => fill p.name (values p) text) (page.flatMap Stretch.chars) =
      (page.map (Stretch.fill values order)).flatMap Stretch.chars := by
  induction order generalizing page with
  | nil => rw [List.map_congr_left fun s _ => s.fill_nil values, List.map_id']; rfl
  | cons p order ih =>
    have still : ∀ s ∈ page.map (Stretch.fill values [p]), s.Sound := by
      intro s mem
      obtain ⟨t, inPage, rfl⟩ := List.mem_map.mp mem
      exact (sound t inPage).fill plain [p]
    rw [List.foldl_cons, fill_chars values p sound, ih still, List.map_map]
    exact congrArg (List.flatMap Stretch.chars) (List.map_congr_left fun s _ => s.fill_fill values p order)

/-! ## The template -/

/-- Lines, each of them closed by a line feed. -/
def textOf (lines : List String) : List Char := lines.flatMap fun line => line.toList ++ ['\n']

/-- The lines before the one that sets the view. -/
def linesBefore : List String := templateLines.take 13

/-- The lines between the one that sets the view and the one that lists the points. -/
def linesBetween : List String := (templateLines.drop 14).take 4

/-- The lines after the one that lists the points. -/
def linesAfter : List String := templateLines.drop 19

def viewStart : String := "        var map = L.map(\"map\").setView("

def pointsStart : String := "        var points = "

/-- The template in stretches. -/
def stretches : List Stretch :=
  [ .plain (textOf linesBefore ++ viewStart.toList), .place .center, .plain ", ".toList, .place .zoom,
    .plain (");\n".toList ++ textOf linesBetween ++ pointsStart.toList), .place .points,
    .plain (";\n".toList ++ textOf linesAfter) ]

theorem chars_stretches : stretches.flatMap Stretch.chars = template := by
  have lines : templateLines = linesBefore ++
      "        var map = L.map(\"map\").setView(\x7b\x7bCENTER\x7d\x7d, \x7b\x7bZOOM\x7d\x7d);" ::
      (linesBetween ++ "        var points = \x7b\x7bPOINTS\x7d\x7d;" :: linesAfter) := rfl
  have view : "        var map = L.map(\"map\").setView(\x7b\x7bCENTER\x7d\x7d, \x7b\x7bZOOM\x7d\x7d);".toList ++
      ['\n'] = viewStart.toList ++ place "CENTER" ++ ", ".toList ++ place "ZOOM" ++ ");\n".toList := rfl
  have points : "        var points = \x7b\x7bPOINTS\x7d\x7d;".toList ++ ['\n'] =
      pointsStart.toList ++ place "POINTS" ++ ";\n".toList := rfl
  rw [template, lines, List.flatMap_append, List.flatMap_cons, view, List.flatMap_append,
    List.flatMap_cons, points]
  simp only [stretches, textOf, Stretch.chars, Place.name, List.flatMap_cons, List.flatMap_nil,
    List.append_assoc, List.append_nil]

/-- A line of the template that holds no place, and is not taken for one of the two that do. -/
structure FixedLine (line : String) : Prop where
  plain : Plain (line.toList ++ ['\n'])
  lineFeed : '\n' ∉ line.toList
  notView : ¬ viewStart.toList <+: line.toList
  notPoints : ¬ pointsStart.toList <+: line.toList

/-- A line that is given by its characters is judged by them. -/
theorem FixedLine.of_chars {cs view points : List Char} (viewChars : viewStart = String.ofList view)
    (pointsChars : pointsStart = String.ofList points) (plain : Plain (cs ++ ['\n'])) (lineFeed : '\n' ∉ cs)
    (notView : ¬ view <+: cs) (notPoints : ¬ points <+: cs) : FixedLine (String.ofList cs) where
  plain := by rwa [String.toList_ofList]
  lineFeed := by rwa [String.toList_ofList]
  notView := by rwa [viewChars, String.toList_ofList, String.toList_ofList]
  notPoints := by rwa [pointsChars, String.toList_ofList, String.toList_ofList]

theorem fixedLine : ∀ line ∈ linesBefore ++ linesBetween ++ linesAfter, FixedLine line := by
  refine List.forall_iff_forall_mem.mp ?_
  repeat' apply And.intro
  all_goals
    exact .of_chars rfl rfl (by decide +kernel) (by decide +kernel) (by decide +kernel) (by decide +kernel)

theorem plain_textOf {lines : List String} (fixed : ∀ line ∈ lines, FixedLine line) : Plain (textOf lines) :=
  Plain.flatMap fun line mem => (fixed line mem).plain

theorem stretches_sound : ∀ s ∈ stretches, s.Sound := by
  have before : Plain (textOf linesBefore) := plain_textOf fun line mem =>
    fixedLine line (List.mem_append_left _ (List.mem_append_left _ mem))
  have between : Plain (textOf linesBetween) := plain_textOf fun line mem =>
    fixedLine line (List.mem_append_left _ (List.mem_append_right _ mem))
  have after : Plain (textOf linesAfter) := plain_textOf fun line mem =>
    fixedLine line (List.mem_append_right _ mem)
  have view : Plain viewStart.toList := by decide
  have points : Plain pointsStart.toList := by decide
  have comma : Plain ", ".toList := by decide
  have viewEnd : Plain ");\n".toList := by decide
  have pointsEnd : Plain ";\n".toList := by decide
  refine List.forall_iff_forall_mem.mp ?_
  exact ⟨before.append view, trivial, comma, trivial, (viewEnd.append between).append points, trivial,
    pointsEnd.append after⟩

/-- **Each place stands in the template once.** -/
theorem occurrences_template (p : Place) : occurrences (place p.name) template = 1 := by
  rw [← chars_stretches, occurrences_chars p stretches_sound]
  cases p <;> rfl

/-- **The order does not matter.** Whichever order the places are filled in, once each of them was, the page
is that of the stretches, and no place is left in it. -/
theorem foldl_fill_template (plain : ∀ p, Plain (values p).toList) {order : List Place}
    (all : ∀ p, p ∈ order) :
    order.foldl (fun text p => fill p.name (values p) text) template =
      stretches.flatMap (Stretch.settled values) ∧
    ¬ opening <:+: stretches.flatMap (Stretch.settled values) := by
  constructor
  · rw [← chars_stretches, foldl_fill plain order stretches_sound, List.flatMap_map]
    exact List.flatMap_congr fun s _ => s.chars_fill values all
  · have settled : Plain (stretches.flatMap (Stretch.settled values)) :=
      Plain.flatMap fun s mem => (stretches_sound s mem).settled plain
    exact fun inside => settled (inside.trans (List.prefix_append _ _).isInfix)

/-- A filled page is the template with a text in each place. -/
theorem exists_surroundings (values : Place → String) : ∃ before comma between after : List Char,
    template = before ++ place "CENTER" ++ comma ++ place "ZOOM" ++ between ++ place "POINTS" ++ after ∧
    stretches.flatMap (Stretch.settled values) = before ++ (values .center).toList ++ comma ++
      (values .zoom).toList ++ between ++ (values .points).toList ++ after := by
  refine ⟨textOf linesBefore ++ viewStart.toList, ", ".toList,
    ");\n".toList ++ textOf linesBetween ++ pointsStart.toList, ";\n".toList ++ textOf linesAfter, ?_, ?_⟩
  · rw [← chars_stretches]
    simp only [stretches, Stretch.chars, Place.name, List.flatMap_cons, List.flatMap_nil,
      List.append_assoc, List.append_nil]
  · simp only [stretches, Stretch.settled, List.flatMap_cons, List.flatMap_nil, List.append_assoc,
      List.append_nil]

/-- The lines of a page that is filled. -/
def settledLines (values : Place → String) : List String :=
  linesBefore ++ (viewStart ++ values .center ++ ", " ++ values .zoom ++ ");") ::
    (linesBetween ++ (pointsStart ++ values .points ++ ";") :: linesAfter)

/-- A page that is filled, line by line. -/
theorem settled_stretches (values : Place → String) :
    stretches.flatMap (Stretch.settled values) = textOf (settledLines values) := by
  have view : ");\n".toList = ");".toList ++ ['\n'] := rfl
  have points : ";\n".toList = ";".toList ++ ['\n'] := rfl
  simp only [stretches, settledLines, textOf, view, points, Stretch.settled, String.toList_append,
    List.flatMap_cons, List.flatMap_nil, List.flatMap_append, List.append_assoc, List.append_nil]

/-- A line of a filled page is one of the two that were filled or a fixed one. -/
theorem mem_settledLines {line : String} : line ∈ settledLines values ↔
    line = viewStart ++ values .center ++ ", " ++ values .zoom ++ ");" ∨
    line = pointsStart ++ values .points ++ ";" ∨ line ∈ linesBefore ++ linesBetween ++ linesAfter := by
  simp only [settledLines, List.mem_append, List.mem_cons]
  tauto

/-- No line of a filled page goes on in the next one, if no text that was put in does. -/
theorem lineFeed_notMem_settledLines (inside : ∀ p, '\n' ∉ (values p).toList) :
    ∀ line ∈ settledLines values, '\n' ∉ line.toList := by
  have view : '\n' ∉ viewStart.toList := by decide
  have points : '\n' ∉ pointsStart.toList := by decide
  have comma : '\n' ∉ ", ".toList := by decide
  have viewEnd : '\n' ∉ ");".toList := by decide
  have pointsEnd : '\n' ∉ ";".toList := by decide
  intro line mem
  obtain rfl | rfl | fixed := mem_settledLines.mp mem
  · simp only [String.toList_append, List.mem_append, not_or]
    exact ⟨⟨⟨⟨view, inside _⟩, comma⟩, inside _⟩, viewEnd⟩
  · simp only [String.toList_append, List.mem_append, not_or]
    exact ⟨⟨points, inside _⟩, pointsEnd⟩
  · exact (fixedLine line fixed).lineFeed

end SatelliteTrack.MapPage
