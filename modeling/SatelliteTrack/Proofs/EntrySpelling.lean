import SatelliteTrack.Feed.MessageList
import SatelliteTrack.Proofs.JsonListing

/-!
# How the elements of a message list are written

The message service may write the elements of its list in many ways: with blanks anywhere, with any
escapes in its strings and in its keys, each element as an object or as a list of four, the members of an
object in any order and among members of other names with any values. `MessageList.Spells` says which
texts write a list of elements. It says nothing about the payloads: an element holds any text in their
place. Nothing in it refers to the reader of the list; only the value of a written number is the one that
the reader of numbers gives it.

**The law** is that each such text is read as exactly the elements that it writes
(`MessageList.entries_of_spells`).

The members of an object are read one by one into the fields of an element. Which fields are filled does
not depend on the order, so the state after some members is told by their names (`Fields.after`), and each
member takes this state one step further.
-/

namespace SatelliteTrack

open Json Json.Scan

/-! ## Spellings -/

/-- A latitude or a longitude: null, or a number that the reader of numbers accepts. -/
inductive SpellsCoordinate : Option Float → List Char → Prop
  | null : SpellsCoordinate none ['n', 'u', 'l', 'l']
  | number {text : List Char} {n : Number} (accepted : number text = .ok (n, [])) :
      SpellsCoordinate (some n.toFloat) text

/-- What a message says about itself. -/
inductive MessageField where
  | data
  | latitude
  | longitude
  | created
deriving DecidableEq

def MessageField.key : MessageField → String
  | .data => "data"
  | .latitude => "latitude"
  | .longitude => "longitude"
  | .created => "createdDate"

namespace MessageField

/-- What stands in the field. -/
def Value : MessageField → Type
  | .data => String
  | .latitude => Option Float
  | .longitude => Option Float
  | .created => String

/-- The text is a value for the field. -/
def Spells : (field : MessageField) → field.Value → List Char → Prop
  | .data => SpellsString
  | .latitude => SpellsCoordinate
  | .longitude => SpellsCoordinate
  | .created => SpellsString

/-- The reader of the field. -/
def read : (field : MessageField) → List Char → Scan field.Value
  | .data => stringField
  | .latitude => coordinateField
  | .longitude => coordinateField
  | .created => stringField

end MessageField

namespace FeedEntry

/-- What stands in a field of the element. -/
def value (x : FeedEntry) : (field : MessageField) → field.Value
  | .data => x.data
  | .latitude => x.latitude
  | .longitude => x.longitude
  | .created => x.created

/-- The text is a value for the field of the element. -/
def SpellsField (x : FeedEntry) (field : MessageField) (text : List Char) : Prop :=
  field.Spells (x.value field) text

/-- A member of an object that writes the element: one of its fields, or a member of any other name with
any value. -/
inductive SpellsMember (x : FeedEntry) : Option MessageField → List Char → Prop
  | known {field : MessageField} {key before after value : List Char} (name : SpellsString field.key key)
      (isBefore : Blank before) (isAfter : Blank after) (spelled : x.SpellsField field value) :
      SpellsMember x (some field) (key ++ before ++ ':' :: after ++ value)
  | unknown {name : String} {key before after value : List Char} (spelled : SpellsString name key)
      (other : ∀ field : MessageField, name ≠ field.key) (isBefore : Blank before)
      (isAfter : Blank after) (written : Written .value value) :
      SpellsMember x none (key ++ before ++ ':' :: after ++ value)

/-- An element of the list. No field is written twice; the two coordinates may be left out where the
element has none. -/
inductive Spells (x : FeedEntry) : List Char → Prop
  | object {members : List (Option MessageField)} {texts : List (List Char)} {inside : List Char}
      (each : List.Forall₂ (SpellsMember x) members texts) (listed : Listed true texts inside)
      (once : ∀ field : MessageField, members.count (some field) ≤ 1)
      (hasData : some .data ∈ members) (hasCreated : some .created ∈ members)
      (noLatitude : some .latitude ∉ members → x.latitude = none)
      (noLongitude : some .longitude ∉ members → x.longitude = none) :
      Spells x ('\x7b' :: inside ++ ['\x7d'])
  | list {data latitude longitude created inside : List Char} (isData : x.SpellsField .data data)
      (isLatitude : x.SpellsField .latitude latitude) (isLongitude : x.SpellsField .longitude longitude)
      (isCreated : x.SpellsField .created created)
      (listed : Listed true [data, latitude, longitude, created] inside) :
      Spells x ('[' :: inside ++ [']'])

end FeedEntry

/-- **A text that writes a list of elements.** -/
inductive MessageList.Spells (xs : List FeedEntry) : List Char → Prop
  | list {texts : List (List Char)} {before inside after : List Char} (isBefore : Blank before)
      (each : List.Forall₂ FeedEntry.Spells xs texts) (listed : Listed true texts inside)
      (isAfter : Blank after) : Spells xs (before ++ '[' :: inside ++ ']' :: after)

/-! ## Fields -/

namespace Json.Scan

theorem stringField_spelled {s : String} {blank text : List Char} (isBlank : Blank blank)
    (h : SpellsString s text) (rest : List Char) : stringField (blank ++ text ++ rest) = .ok (s, rest) := by
  obtain @⟨body, chars⟩ := h
  have begins : blank ++ ('"' :: body ++ ['"']) ++ rest = blank ++ '"' :: (body ++ '"' :: rest) := by
    simp only [List.append_assoc, List.cons_append, List.nil_append]
  rw [begins]
  simp only [stringField, skipSpace_blank isBlank (by decide : '"' ∉ blanks), string_spelled chars]

theorem readsAs_string {s : String} {text : List Char} (h : SpellsString s text) :
    ReadsAs stringField s text where
  begins := by
    obtain ⟨-⟩ := h
    exact ⟨'"', _, rfl, opens_of_ne (by decide)⟩
  read _ _ := stringField_spelled blank_nil h _

/-- A number begins with a character that opens a value and is the beginning of no name. -/
theorem number_begins {c : Char} (first : c = '-' ∨ c.isDigit = true) : Opens c ∧ c ≠ 'n' := by
  obtain rfl | digit := first
  · exact ⟨opens_of_ne (by decide), by decide⟩
  · exact ⟨opens_of_digit digit, ne_of_isDigit digit (by decide)⟩

theorem coordinateField_spelled {x : Option Float} {blank text rest : List Char} (isBlank : Blank blank)
    (h : SpellsCoordinate x text) (ends : Delimits rest) :
    coordinateField (blank ++ text ++ rest) = .ok (x, rest) := by
  cases h with
  | null =>
    rw [List.append_assoc, coordinateField, List.cons_append, skipSpace_blank isBlank (by decide)]
    rfl
  | number accepted =>
    obtain ⟨read, c, more, rfl, first⟩ := number_append accepted ends
    obtain ⟨opens, noName⟩ := number_begins first
    rw [List.append_assoc, coordinateField, List.cons_append, skipSpace_blank isBlank opens.1]
    show (if _ then _ else if _ then _ else _) = _
    rw [if_neg noName, if_pos first, ← List.cons_append, read]
    rfl

theorem readsAs_coordinate {x : Option Float} {text : List Char} (h : SpellsCoordinate x text) :
    ReadsAs coordinateField x text where
  begins := by
    cases h with
    | null => exact ⟨'n', _, rfl, opens_of_ne (by decide)⟩
    | number accepted =>
      obtain ⟨-, c, more, rfl, first⟩ := number_append accepted (delimits_comma [])
      exact ⟨c, more, rfl, (number_begins first).1⟩
  read _ ends := coordinateField_spelled blank_nil h ends

end Json.Scan

theorem MessageField.read_spelled (field : MessageField) {x : field.Value} {blank text rest : List Char}
    (isBlank : Blank blank) (h : field.Spells x text) (ends : Delimits rest) :
    field.read (blank ++ text ++ rest) = .ok (x, rest) := by
  cases field with
  | data => exact stringField_spelled isBlank h rest
  | latitude => exact coordinateField_spelled isBlank h ends
  | longitude => exact coordinateField_spelled isBlank h ends
  | created => exact stringField_spelled isBlank h rest

namespace FeedEntry

/-- What has been read into a field, if it has been there. -/
def Fields.get (fields : Fields) : (field : MessageField) → Option field.Value
  | .data => fields.data
  | .latitude => fields.latitude
  | .longitude => fields.longitude
  | .created => fields.created

/-- A field is filled. -/
def Fields.put (fields : Fields) : (field : MessageField) → field.Value → Fields
  | .data, x => { fields with data := some x }
  | .latitude, x => { fields with latitude := some x }
  | .longitude, x => { fields with longitude := some x }
  | .created, x => { fields with created := some x }

theorem Fields.get_put_self (fields : Fields) (field : MessageField) (x : field.Value) :
    (fields.put field x).get field = some x := by
  cases field <;> rfl

theorem Fields.get_put_other (fields : Fields) {field other : MessageField} (ne : other ≠ field)
    (x : field.Value) : (fields.put field x).get other = fields.get other := by
  cases field <;> cases other <;> first | rfl | exact absurd rfl ne

/-- The four fields are read in the same way, each with its own reader. -/
theorem Fields.member_key (rounds : Nat) (fields : Fields) (field : MessageField) (cs : List Char) :
    Fields.member rounds field.key fields cs =
      (once field.key (fields.get field) field.read cs).map
        fun (x, rest) => (fields.put field x, rest) := by
  cases field with
  | data => exact if_pos rfl
  | latitude => exact (if_neg (by decide)).trans (if_pos rfl)
  | longitude => exact (if_neg (by decide)).trans ((if_neg (by decide)).trans (if_pos rfl))
  | created =>
    exact (if_neg (by decide)).trans ((if_neg (by decide)).trans ((if_neg (by decide)).trans (if_pos rfl)))

/-- A member of another name is passed over. -/
theorem Fields.member_other {name : String} (other : ∀ field : MessageField, name ≠ field.key)
    (rounds : Nat) (fields : Fields) (cs : List Char) :
    Fields.member rounds name fields cs =
      match colon cs with
      | .error fault => .error fault
      | .ok rest => (passValue rounds rest).map fun rest => (fields, rest) := by
  have noData : name ≠ "data" := other .data
  have noLatitude : name ≠ "latitude" := other .latitude
  have noLongitude : name ≠ "longitude" := other .longitude
  have noCreated : name ≠ "createdDate" := other .created
  exact (if_neg noData).trans ((if_neg noLatitude).trans ((if_neg noLongitude).trans (if_neg noCreated)))

/-- The fields of the element that are filled after some members of its object, the last one first. -/
def Fields.after (x : FeedEntry) (members : List (Option MessageField)) : Fields where
  data := if some .data ∈ members then some x.data else none
  latitude := if some .latitude ∈ members then some x.latitude else none
  longitude := if some .longitude ∈ members then some x.longitude else none
  created := if some .created ∈ members then some x.created else none

theorem Fields.get_after (x : FeedEntry) (members : List (Option MessageField)) (field : MessageField) :
    (Fields.after x members).get field = if some field ∈ members then some (x.value field) else none := by
  cases field <;> rfl

theorem Fields.put_after (x : FeedEntry) (members : List (Option MessageField)) (field : MessageField) :
    (Fields.after x members).put field (x.value field) = Fields.after x (some field :: members) := by
  cases field <;> simp [Fields.after, Fields.put, value]

theorem once_colon {α : Type} (name : String) (field : List Char → Scan α) {before : List Char}
    (isBefore : Blank before) (cs : List Char) :
    once name none field (before ++ ':' :: cs) = field cs := by
  simp only [once, colon_blank isBefore]
  rfl

variable {x : FeedEntry} {members : List (Option MessageField)}

/-- A field that has not been there yet is filled. -/
theorem Fields.member_known {field : MessageField} {before after value rest : List Char}
    (fresh : some field ∉ members) (isBefore : Blank before) (isAfter : Blank after)
    (spelled : x.SpellsField field value) (ends : Delimits rest) (rounds : Nat) :
    Fields.member rounds field.key (Fields.after x members) (before ++ ':' :: after ++ value ++ rest) =
      .ok (Fields.after x (some field :: members), rest) := by
  have text : before ++ ':' :: after ++ value ++ rest = before ++ ':' :: (after ++ value ++ rest) := by
    simp only [List.append_assoc, List.cons_append]
  have read : field.read (after ++ value ++ rest) = .ok (x.value field, rest) :=
    field.read_spelled isAfter spelled ends
  rw [text, Fields.member_key, Fields.get_after, if_neg fresh, once_colon _ _ isBefore, read,
    ← Fields.put_after]
  rfl

/-- A member of another name changes nothing, whatever its value. -/
theorem Fields.member_unknown {name : String} {before after value rest : List Char}
    (other : ∀ field : MessageField, name ≠ field.key) (isBefore : Blank before)
    (isAfter : Blank after) (written : Written .value value) (ends : Delimits rest) {rounds : Nat}
    (enough : value.length ≤ rounds) (fields : Fields) :
    Fields.member rounds name fields (before ++ ':' :: after ++ value ++ rest) = .ok (fields, rest) := by
  have text : before ++ ':' :: after ++ value ++ rest = before ++ ':' :: (after ++ value ++ rest) := by
    simp only [List.append_assoc, List.cons_append]
  rw [text, Fields.member_other other, colon_blank isBefore]
  simp only [passValue_written isAfter written ends enough, Except.map]

/-! ## Elements -/

/-- A member takes the fields one step further. -/
theorem Fields.joins {member : Option MessageField} {text : List Char} (h : SpellsMember x member text)
    (fresh : ∀ field, member = some field → some field ∉ members) {rounds : Nat}
    (enough : text.length ≤ rounds) :
    Joins (Fields.member rounds) (Fields.after x members) (Fields.after x (member :: members)) text := by
  cases h with
  | @known field key before after value name isBefore isAfter spelled =>
    obtain @⟨body, chars⟩ := name
    have text : '"' :: body ++ ['"'] ++ before ++ ':' :: after ++ value =
        '"' :: body ++ '"' :: (before ++ ':' :: after ++ value) := by
      simp only [List.append_assoc, List.cons_append, List.nil_append]
    rw [text]
    exact .key chars fun rest ends =>
      Fields.member_known (fresh field rfl) isBefore isAfter spelled ends rounds
  | @unknown name key before after value spelled other isBefore isAfter written =>
    obtain @⟨body, chars⟩ := spelled
    have text : '"' :: body ++ ['"'] ++ before ++ ':' :: after ++ value =
        '"' :: body ++ '"' :: (before ++ ':' :: after ++ value) := by
      simp only [List.append_assoc, List.cons_append, List.nil_append]
    have short : value.length ≤ rounds := by
      simp only [List.length_append] at enough
      omega
    have same : Fields.after x (none :: members) = Fields.after x members := by
      simp [Fields.after]
    rw [text, same]
    exact .key chars fun rest ends =>
      Fields.member_unknown other isBefore isAfter written ends short (Fields.after x members)

theorem Fields.joinAll {todo : List (Option MessageField)} {texts : List (List Char)}
    (each : List.Forall₂ (SpellsMember x) todo texts)
    (once : ∀ field : MessageField, (todo ++ members).count (some field) ≤ 1) {rounds : Nat}
    (enough : ∀ text ∈ texts, text.length ≤ rounds) :
    JoinAll (Fields.member rounds) (Fields.after x members) (Fields.after x (todo.reverse ++ members))
      texts := by
  induction each generalizing members with
  | nil => exact .nil
  | @cons member text todo texts first _ ih =>
    have fresh : ∀ field, member = some field → some field ∉ members := by
      rintro field rfl
      have count := once field
      rw [List.cons_append, List.count_cons_self, List.count_append] at count
      exact List.count_eq_zero.mp (by omega)
    have once' : ∀ field : MessageField, (todo ++ member :: members).count (some field) ≤ 1 := by
      intro field
      rw [List.perm_middle.count_eq]
      exact once field
    have joins := Fields.joins first fresh (enough text List.mem_cons_self)
    have joinAll := ih once' fun text mem => enough text (List.mem_cons_of_mem _ mem)
    rw [List.reverse_cons, List.append_assoc, List.singleton_append]
    exact .cons joins joinAll

theorem ofFields_after (hasData : some .data ∈ members) (hasCreated : some .created ∈ members)
    (noLatitude : some .latitude ∉ members → x.latitude = none)
    (noLongitude : some .longitude ∉ members → x.longitude = none) :
    ofFields (Fields.after x members) = .ok x := by
  have latitude : (if some .latitude ∈ members then some x.latitude else none).join = x.latitude := by
    by_cases present : some .latitude ∈ members
    · rw [if_pos present]
      rfl
    · rw [if_neg present, noLatitude present]
      rfl
  have longitude : (if some .longitude ∈ members then some x.longitude else none).join = x.longitude := by
    by_cases present : some .longitude ∈ members
    · rw [if_pos present]
      rfl
    · rw [if_neg present, noLongitude present]
      rfl
  simp only [ofFields, Fields.after, if_pos hasData, if_pos hasCreated, latitude, longitude]

theorem nextField_readsAs {α : Type} {field : List Char → Scan α} {x : α} {first : Bool}
    {lead text cs : List Char} {texts : List (List Char)} (separates : Separates first lead)
    (reads : ReadsAs field x text) (others : Listed false texts cs) (rest : List Char) :
    nextField first field (lead ++ text ++ cs ++ ']' :: rest) = .ok (some x, cs ++ ']' :: rest) := by
  obtain ⟨next, own⟩ := nextItem_readsAs separates reads others rest
  rw [nextField, next]
  show (field (text ++ (cs ++ ']' :: rest))).map _ = _
  rw [own]
  rfl

theorem closeList_blank {blank : List Char} (isBlank : Blank blank) (rest : List Char) :
    closeList (blank ++ ']' :: rest) = .ok rest := by
  rw [closeList, skipSpace_blank isBlank (by decide)]
  exact if_pos rfl

theorem ofList_spelled {data latitude longitude created inside : List Char}
    (isData : x.SpellsField .data data) (isLatitude : x.SpellsField .latitude latitude)
    (isLongitude : x.SpellsField .longitude longitude) (isCreated : x.SpellsField .created created)
    (listed : Listed true [data, latitude, longitude, created] inside) (rest : List Char) :
    ofList (inside ++ ']' :: rest) = .ok (x, rest) := by
  obtain _ | ⟨separates, others⟩ := listed
  have first := nextField_readsAs separates (readsAs_string isData) others rest
  obtain _ | ⟨separates, others⟩ := others
  have second := nextField_readsAs separates (readsAs_coordinate isLatitude) others rest
  obtain _ | ⟨separates, others⟩ := others
  have third := nextField_readsAs separates (readsAs_coordinate isLongitude) others rest
  obtain _ | ⟨separates, others⟩ := others
  have fourth := nextField_readsAs separates (readsAs_string isCreated) others rest
  obtain ⟨isBlank⟩ := others
  simp only [ofList, first, second, third, fourth, closeList_blank isBlank, bind, Except.bind]
  rfl

/-- **An element** is read from every text that writes it. -/
theorem readsAs_spelled {text : List Char} (h : Spells x text) {rounds : Nat}
    (enough : text.length ≤ rounds) : ReadsAs (scan rounds) x text := by
  cases h with
  | @object members texts inside each listed once hasData hasCreated noLatitude noLongitude =>
    obtain ⟨few, short⟩ := listed.length_le
    rw [Bool.toNat_true] at few
    simp only [List.length_append, List.length_cons, List.length_nil] at enough
    have none : ({} : Fields) = Fields.after x [] := by simp [Fields.after]
    have all : JoinAll (Fields.member rounds) {} (Fields.after x members.reverse) texts := by
      rw [none, ← List.append_nil members.reverse]
      refine Fields.joinAll each (fun field => ?_) fun text mem => ?_
      · rw [List.append_nil]
        exact once field
      · exact Nat.le_trans (short text mem) (by omega)
    have fields : ofFields (Fields.after x members.reverse) = .ok x :=
      ofFields_after (List.mem_reverse.mpr hasData) (List.mem_reverse.mpr hasCreated)
        (fun absent => noLatitude fun mem => absent (List.mem_reverse.mpr mem))
        (fun absent => noLongitude fun mem => absent (List.mem_reverse.mpr mem))
    refine ⟨⟨'\x7b', _, rfl, opens_of_ne (by decide)⟩, fun rest _ => ?_⟩
    have read : Json.Scan.members (Fields.member rounds) rounds true {} (inside ++ '\x7d' :: rest) =
        .ok (Fields.after x members.reverse, rest) := members_listed all listed (by omega) rest
    rw [List.append_assoc, List.cons_append, scan, skipSpace_cons (by decide)]
    show ofObject rounds (inside ++ '\x7d' :: rest) = _
    simp only [ofObject, read, fields, Except.map]
  | @list data latitude longitude created inside isData isLatitude isLongitude isCreated listed =>
    refine ⟨⟨'[', _, rfl, opens_of_ne (by decide)⟩, fun rest _ => ?_⟩
    rw [List.append_assoc, List.cons_append, scan, skipSpace_cons (by decide)]
    exact ofList_spelled isData isLatitude isLongitude isCreated listed rest

theorem readsAs_all {xs : List FeedEntry} {texts : List (List Char)} (each : List.Forall₂ Spells xs texts)
    {rounds : Nat} (enough : ∀ text ∈ texts, text.length ≤ rounds) :
    List.Forall₂ (ReadsAs (scan rounds)) xs texts := by
  induction each with
  | nil => exact .nil
  | @cons x text xs texts first _ ih =>
    exact .cons (readsAs_spelled first (enough text List.mem_cons_self))
      (ih fun text mem => enough text (List.mem_cons_of_mem _ mem))

end FeedEntry

/-! ## The list -/

namespace MessageList

/-- **A list of elements** is read from every text that writes it. -/
theorem entries_of_spells {xs : List FeedEntry} {body : List Char} (h : MessageList.Spells xs body) :
    entries body = .ok xs := by
  obtain @⟨texts, before, inside, after, isBefore, each, listed, isAfter⟩ := h
  obtain ⟨few, short⟩ := listed.length_le
  have length : inside.length < (inside ++ ']' :: after).length := by
    rw [List.length_append, List.length_cons]
    omega
  have elements := FeedEntry.readsAs_all each fun text mem => Nat.le_succ_of_le <|
    Nat.le_trans (short text mem) (Nat.le_of_lt length)
  have read := items_listed elements [] listed (Nat.lt_succ_of_le (Nat.le_trans few length)) after
  rw [List.append_assoc, List.cons_append, entries, skipSpace_blank isBefore (by decide)]
  simp only [↓reduceIte, read, skipSpace_all isAfter, List.isEmpty_nil, List.reverse_nil, List.nil_append]

end MessageList

end SatelliteTrack
