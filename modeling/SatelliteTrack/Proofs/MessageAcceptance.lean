import SatelliteTrack.Feed.Client
import SatelliteTrack.Proofs.Base64Strictness
import SatelliteTrack.Proofs.JsonRecognition
import SatelliteTrack.Proofs.MessageSpelling

/-!
# Which message lists are accepted

The reader of a message list takes exactly the texts that write a list of elements
(`MessageList.entries_eq_ok_iff`), and a payload is taken exactly if it is what is written in base64 for
some bytes. So the answer to a body is told from the body alone, without the reader.

**The theorem** (`FeedClient.messages_verdict`): a body is accepted, as these messages, if and only if it
writes the elements that they are written as. It is refused as no list if it writes no elements at all, be
there a bad payload in front of its fault or not; and if it writes elements, but some payload is not
base64, then the first of these payloads is named.

The members of an object are read into fields, each of which is filled at most once and keeps its value.
So a member that wrote a field when it was read still writes it at the end
(`FeedEntry.spells_of_steps`).
-/

namespace SatelliteTrack

open Json Json.Scan

/-! ## Fields -/

namespace Json.Scan

theorem stringField_ok {cs rest : List Char} {s : String} (h : stringField cs = .ok (s, rest)) :
    Begins (SpellsString s) cs rest := by
  unfold stringField at h
  split at h
  · next more skipped =>
    obtain ⟨blank, isBlank, rfl⟩ := skipSpace_eq_cons skipped
    obtain ⟨body, rfl, chars⟩ := string_ok h
    refine ⟨blank, _, isBlank, .quoted chars, ?_⟩
    simp only [List.append_assoc, List.cons_append, List.nil_append]
  · cases h

theorem coordinateField_ok {cs rest : List Char} {x : Option Float}
    (h : coordinateField cs = .ok (x, rest)) : Begins (SpellsCoordinate x) cs rest := by
  unfold coordinateField at h
  split at h
  · cases h
  · next c more skipped =>
    obtain ⟨blank, isBlank, rfl⟩ := skipSpace_eq_cons skipped
    split at h
    · next isNull =>
      obtain ⟨past, read, same⟩ := map_ok h
      cases same
      exact ⟨blank, _, isBlank, .null, by rw [isNull, keyword_ok read, List.append_assoc]; rfl⟩
    · split at h
      · obtain ⟨⟨n, past⟩, read, same⟩ := map_ok h
        cases same
        obtain ⟨text, split, accepted⟩ := number_ok read
        exact ⟨blank, text, isBlank, .number accepted, by rw [split, List.append_assoc]⟩
      · cases h

end Json.Scan

theorem MessageField.read_ok (field : MessageField) {cs rest : List Char} {x : field.Value}
    (h : field.read cs = .ok (x, rest)) : Begins (field.Spells x) cs rest := by
  cases field with
  | data => exact stringField_ok h
  | latitude => exact coordinateField_ok h
  | longitude => exact coordinateField_ok h
  | created => exact stringField_ok h

namespace FeedEntry

/-- A value is read once, after a colon. -/
theorem once_ok {α : Type} {name : String} {earlier : Option α} {field : List Char → Scan α}
    {spells : α → List Char → Prop}
    (only : ∀ {cs rest : List Char} {x : α}, field cs = .ok (x, rest) → Begins (spells x) cs rest)
    {cs rest : List Char} {x : α} (h : once name earlier field cs = .ok (x, rest)) :
    earlier = none ∧ ∃ before after value, Blank before ∧ Blank after ∧ spells x value ∧
      cs = before ++ ':' :: after ++ value ++ rest := by
  unfold once at h
  split at h
  · cases h
  · next absent =>
    rw [Bool.not_eq_true, Option.isSome_eq_false_iff, Option.isNone_iff_eq_none] at absent
    split at h
    · cases h
    · next past read =>
      obtain ⟨before, isBefore, rfl⟩ := colon_ok read
      obtain ⟨after, value, isAfter, spelled, rfl⟩ := only h
      refine ⟨absent, before, after, value, isBefore, isAfter, spelled, ?_⟩
      simp only [List.append_assoc, List.cons_append]

/-- What follows a key takes the fields one step further: it fills the field of this name, which was
empty; after any other key it changes nothing. -/
inductive Fields.Step (key : String) (fields : Fields) : Fields → List Char → Prop
  | known {field : MessageField} {x : field.Value} {before after value : List Char}
      (name : key = field.key) (fresh : fields.get field = none) (isBefore : Blank before)
      (isAfter : Blank after) (spelled : field.Spells x value) :
      Step key fields (fields.put field x) (before ++ ':' :: after ++ value)
  | unknown {before after value : List Char} (other : ∀ field : MessageField, key ≠ field.key)
      (isBefore : Blank before) (isAfter : Blank after) (written : Written .value value) :
      Step key fields fields (before ++ ':' :: after ++ value)

theorem Fields.member_ok {rounds : Nat} {key : String} {fields fields' : Fields} {cs rest : List Char}
    (h : Fields.member rounds key fields cs = .ok (fields', rest)) :
    ∃ more, cs = more ++ rest ∧ Fields.Step key fields fields' more := by
  by_cases known : ∃ field : MessageField, key = field.key
  · obtain ⟨field, rfl⟩ := known
    rw [Fields.member_key] at h
    obtain ⟨⟨x, past⟩, read, same⟩ := map_ok h
    cases same
    obtain ⟨fresh, before, after, value, isBefore, isAfter, spelled, rfl⟩ := once_ok field.read_ok read
    exact ⟨_, rfl, .known rfl fresh isBefore isAfter spelled⟩
  · have other : ∀ field : MessageField, key ≠ field.key := fun field same => known ⟨field, same⟩
    rw [Fields.member_other other] at h
    split at h
    · cases h
    · next past read =>
      obtain ⟨before, isBefore, rfl⟩ := colon_ok read
      obtain ⟨past', passed, same⟩ := map_ok h
      cases same
      obtain ⟨after, value, isAfter, written, rfl⟩ := passValue_ok passed
      refine ⟨before ++ ':' :: after ++ value, ?_, .unknown other isBefore isAfter written⟩
      simp only [List.append_assoc, List.cons_append]

/-! ## Elements -/

variable {x : FeedEntry}

/-- Members that were read one after the other write the element that holds what they have left in the
fields. Each of them has filled one field more, or none. -/
theorem spells_of_steps {fields fields' : Fields} {texts : List (List Char)}
    (h : Steps Fields.Step fields fields' texts)
    (holds : ∀ field v, fields'.get field = some v → x.value field = v) :
    ∃ members, List.Forall₂ (SpellsMember x) members texts ∧
      (∀ field, (fields.get field).isSome.toNat + members.count (some field) =
        (fields'.get field).isSome.toNat) ∧
      ∀ field v, fields.get field = some v → x.value field = v := by
  induction h with
  | nil => exact ⟨[], .nil, fun _ => rfl, holds⟩
  | @cons fields next fields' key body more texts chars first _ ih =>
    obtain ⟨members, each, counts, kept⟩ := ih holds
    cases first with
    | @known field v before after value name fresh isBefore isAfter spelled =>
      have own : x.SpellsField field value := by
        rwa [SpellsField, kept field v (fields.get_put_self field v)]
      refine ⟨some field :: members, ?_, fun other => ?_, fun other w old => ?_⟩
      · have member := SpellsMember.known (.quoted (name ▸ chars)) isBefore isAfter own
        simp only [List.append_assoc, List.cons_append, List.nil_append] at member ⊢
        exact .cons member each
      · by_cases same : other = field
        · subst same
          have count := counts other
          rw [fields.get_put_self, Option.isSome_some, Bool.toNat_true] at count
          rw [fresh, Option.isSome_none, Bool.toNat_false, List.count_cons_self]
          omega
        · have count := counts other
          rw [fields.get_put_other same] at count
          rwa [List.count_cons_of_ne fun eq => same (Option.some.inj eq).symm]
      · by_cases same : other = field
        · subst same
          rw [fresh] at old
          cases old
        · exact kept other w (by rwa [fields.get_put_other same])
    | @unknown before after value other isBefore isAfter written =>
      refine ⟨none :: members, ?_, fun field => ?_, kept⟩
      · have member : SpellsMember x none _ := .unknown (.quoted chars) other isBefore isAfter written
        simp only [List.append_assoc, List.cons_append, List.nil_append] at member ⊢
        exact .cons member each
      · rw [List.count_cons_of_ne (by simp)]
        exact counts field

/-- An element holds what is in the fields that it is made of; the coordinates may be missing there. -/
theorem ofFields_ok {fields : Fields} (h : ofFields fields = .ok x) :
    (∀ field v, fields.get field = some v → x.value field = v) ∧
      (fields.get .data).isSome ∧ (fields.get .created).isSome ∧
      (fields.get .latitude = none → x.latitude = none) ∧
      (fields.get .longitude = none → x.longitude = none) := by
  obtain ⟨data, latitude, longitude, created⟩ := fields
  cases data with
  | none => cases h
  | some data =>
    cases created with
    | none => cases h
    | some created =>
      cases h
      refine ⟨fun field v present => ?_, rfl, rfl, fun absent => ?_, fun absent => ?_⟩
      · cases field with
        | data => exact Option.some.inj present
        | latitude =>
          rw [Fields.get] at present
          rw [value, present]
          rfl
        | longitude =>
          rw [Fields.get] at present
          rw [value, present]
          rfl
        | created => exact Option.some.inj present
      · rw [Fields.get] at absent
        rw [absent]
        rfl
      · rw [Fields.get] at absent
        rw [absent]
        rfl

theorem ofObject_ok {rounds : Nat} {cs rest : List Char} (h : ofObject rounds cs = .ok (x, rest)) :
    ∃ inside, cs = inside ++ '\x7d' :: rest ∧ x.Spells ('\x7b' :: inside ++ ['\x7d']) := by
  unfold ofObject at h
  split at h
  · cases h
  · next fields past read =>
    obtain ⟨own, made, same⟩ := map_ok h
    cases same
    obtain ⟨texts, inside, rfl, listed, steps⟩ := members_ok (@Fields.member_ok rounds) read
    obtain ⟨holds, data, created, noLatitude, noLongitude⟩ := ofFields_ok made
    obtain ⟨members, each, counts, -⟩ := spells_of_steps steps holds
    have filled : ∀ field, members.count (some field) = (fields.get field).isSome.toNat := by
      intro field
      have empty : (({} : Fields).get field).isSome.toNat = 0 := by cases field <;> rfl
      rw [← counts field, empty, Nat.zero_add]
    have present : ∀ field, (fields.get field).isSome → some field ∈ members := by
      intro field some
      refine List.count_pos_iff.mp ?_
      rw [filled, some]
      exact Nat.one_pos
    have absent : ∀ field, some field ∉ members → fields.get field = none := by
      intro field missing
      by_contra some
      exact missing (present field (Option.isSome_iff_ne_none.mpr some))
    refine ⟨inside, rfl, .object each listed (fun field => ?_) (present _ data) (present _ created)
      (fun missing => noLatitude (absent _ missing)) fun missing => noLongitude (absent _ missing)⟩
    rw [filled]
    exact Bool.toNat_le _

theorem nextField_some_ok {α : Type} {first : Bool} {field : List Char → Scan α}
    {spells : α → List Char → Prop}
    (only : ∀ {cs rest : List Char} {v : α}, field cs = .ok (v, rest) → Begins (spells v) cs rest)
    {cs rest : List Char} {v : α} (h : nextField first field cs = .ok (some v, rest)) :
    ∃ lead text, Separates first lead ∧ spells v text ∧ cs = lead ++ text ++ rest := by
  unfold nextField at h
  split at h
  · cases h
  · cases h
  · next past next =>
    obtain ⟨lead, separates, rfl⟩ := nextItem_item_ok next
    obtain ⟨⟨w, past'⟩, read, same⟩ := map_ok h
    cases same
    obtain ⟨blank, text, isBlank, spelled, rfl⟩ := only read
    refine ⟨lead ++ blank, text, separates_append separates isBlank, spelled, ?_⟩
    simp only [List.append_assoc]

/-- When the list has ended it has ended for the later fields as well. -/
theorem nextField_none_ok {α β : Type} {first : Bool} {field : List Char → Scan α} {cs rest : List Char}
    (h : nextField first field cs = .ok (none, rest)) (later : List Char → Scan β) :
    rest = cs ∧ nextField first later cs = .ok (none, cs) := by
  unfold nextField at h
  split at h
  · cases h
  · next past closed =>
    cases h
    refine ⟨rfl, ?_⟩
    rw [nextField, closed]
  · next past _ =>
    obtain ⟨own, read, same⟩ := map_ok h
    cases same

theorem closeList_ok {cs rest : List Char} (h : closeList cs = .ok rest) :
    ∃ blank, Blank blank ∧ cs = blank ++ ']' :: rest := by
  unfold closeList at h
  split at h
  · cases h
  · next c more skipped =>
    split at h
    · next same =>
      cases h
      rw [same] at skipped
      exact skipSpace_eq_cons skipped
    · split at h <;> cases h

/-- An element that is a list has all four fields. -/
theorem ofList_ok {cs rest : List Char} (h : ofList cs = .ok (x, rest)) :
    ∃ inside, cs = inside ++ ']' :: rest ∧ x.Spells ('[' :: inside ++ [']']) := by
  obtain ⟨⟨data, cs₁⟩, first, h⟩ := bind_ok h
  cases data with
  | none => cases h
  | some data =>
    obtain ⟨⟨latitude, cs₂⟩, second, h⟩ := bind_ok h
    obtain ⟨⟨longitude, cs₃⟩, third, h⟩ := bind_ok h
    obtain ⟨⟨created, cs₄⟩, fourth, h⟩ := bind_ok h
    cases created with
    | none => cases h
    | some created =>
      obtain ⟨past, closes, h⟩ := bind_ok h
      cases h
      cases longitude with
      | none =>
        obtain ⟨rfl, ended⟩ := nextField_none_ok third stringField
        rw [ended] at fourth
        cases fourth
      | some longitude =>
        cases latitude with
        | none =>
          obtain ⟨rfl, ended⟩ := nextField_none_ok second coordinateField
          rw [ended] at third
          cases third
        | some latitude =>
          obtain ⟨lead₁, text₁, separates₁, isData, rfl⟩ := nextField_some_ok stringField_ok first
          obtain ⟨lead₂, text₂, separates₂, isLatitude, rfl⟩ := nextField_some_ok coordinateField_ok second
          obtain ⟨lead₃, text₃, separates₃, isLongitude, rfl⟩ := nextField_some_ok coordinateField_ok third
          obtain ⟨lead₄, text₄, separates₄, isCreated, rfl⟩ := nextField_some_ok stringField_ok fourth
          obtain ⟨blank, isBlank, rfl⟩ := closeList_ok closes
          refine ⟨_, ?_, .list isData isLatitude isLongitude isCreated (.cons separates₁ (.cons separates₂
            (.cons separates₃ (.cons separates₄ (.nil isBlank)))))⟩
          simp only [List.append_assoc]

theorem scan_ok {rounds : Nat} {cs rest : List Char} (h : scan rounds cs = .ok (x, rest)) :
    Begins x.Spells cs rest := by
  unfold scan at h
  split at h
  · cases h
  · next c more skipped =>
    obtain ⟨blank, isBlank, rfl⟩ := skipSpace_eq_cons skipped
    split at h
    · next isObject =>
      obtain ⟨inside, rfl, spells⟩ := ofObject_ok h
      refine ⟨blank, _, isBlank, spells, ?_⟩
      rw [isObject]
      simp only [List.append_assoc, List.cons_append, List.nil_append]
    · split at h
      · next isList =>
        obtain ⟨inside, rfl, spells⟩ := ofList_ok h
        refine ⟨blank, _, isBlank, spells, ?_⟩
        rw [isList]
        simp only [List.append_assoc, List.cons_append, List.nil_append]
      · cases h

/-- **An element gives a message** exactly if it is the one that the message is written as. -/
theorem toMessage_eq_ok_iff (x : FeedEntry) (m : Message) : x.toMessage = .ok m ↔ x = ofMessage m := by
  constructor
  · intro h
    unfold toMessage at h
    split at h
    · cases h
    · next payload read =>
      cases h
      have written : x.data = Base64.encode payload := (Base64.decode_eq_ok_iff _ _).mp read
      rw [ofMessage, ← written]
  · rintro rfl
    exact toMessage_ofMessage m

/-- The payload is what is written for some bytes. -/
def IsEncoded (x : FeedEntry) : Prop := ∃ payload, x.data = Base64.encode payload

theorem isEncoded_iff (x : FeedEntry) : x.IsEncoded ↔ ∃ m, x.toMessage = .ok m := by
  constructor
  · rintro ⟨payload, written⟩
    refine ⟨⟨payload, x.latitude, x.longitude, x.created⟩, ?_⟩
    rw [toMessage, written, Base64.decode_encode]
  · rintro ⟨m, read⟩
    rw [(toMessage_eq_ok_iff x m).mp read]
    exact ⟨m.payload, rfl⟩

/-- An element that gives no message is refused by its payload. -/
theorem toMessage_error {x : FeedEntry} {fault : ResponseFault} (h : x.toMessage = .error fault) :
    ∃ cause, fault = .messageData x.data cause := by
  unfold toMessage at h
  split at h
  · next cause _ =>
    cases h
    exact ⟨cause, rfl⟩
  · cases h

end FeedEntry

/-! ## The list -/

namespace MessageList

/-- **Elements are read** exactly from the texts that write them. -/
theorem entries_eq_ok_iff (cs : List Char) (xs : List FeedEntry) :
    entries cs = .ok xs ↔ MessageList.Spells xs cs := by
  constructor
  · intro h
    unfold entries at h
    split at h
    · cases h
    · next c more skipped =>
      obtain ⟨before, isBefore, rfl⟩ := skipSpace_eq_cons skipped
      split at h
      · next isList =>
        split at h
        · cases h
        · next ys past read =>
          split at h
          · next ended =>
            cases h
            obtain ⟨ys, texts, inside, rfl, rfl, each, listed⟩ := items_ok FeedEntry.scan_ok read
            have isAfter : Blank past := skipSpace_eq_nil (List.isEmpty_iff.mp ended)
            rw [isList, ← List.cons_append, ← List.append_assoc]
            exact .list isBefore each listed isAfter
          · cases h
      · cases h
  · exact entries_of_spells

theorem messages_eq_ok_iff (xs : List FeedEntry) (ms : List Message) :
    messages xs = .ok ms ↔ xs = ms.map FeedEntry.ofMessage := by
  constructor
  · intro h
    induction xs generalizing ms with
    | nil =>
      cases h
      rfl
    | cons x xs ih =>
      unfold messages at h
      split at h
      · cases h
      · next m own =>
        obtain ⟨rest, others, rfl⟩ := map_ok h
        rw [List.map_cons, ← ih rest others, ← (x.toMessage_eq_ok_iff m).mp own]
  · rintro rfl
    exact messages_ofMessage ms

/-- The first element that gives no message is the one that is named. -/
theorem messages_eq_error_iff (xs : List FeedEntry) (fault : ResponseFault) :
    messages xs = .error fault ↔ ∃ before x after, xs = before ++ x :: after ∧
      (∀ y ∈ before, y.IsEncoded) ∧ x.toMessage = .error fault := by
  induction xs with
  | nil =>
    constructor
    · intro h
      cases h
    · rintro ⟨before, x, after, none, -⟩
      simp at none
  | cons x xs ih =>
    cases own : x.toMessage with
    | error cause =>
      have refused : messages (x :: xs) = .error cause := by rw [messages, own]
      rw [refused]
      constructor
      · rintro same
        cases same
        exact ⟨[], x, xs, rfl, fun y mem => absurd mem List.not_mem_nil, own⟩
      · rintro ⟨before, y, after, split, encoded, named⟩
        cases before with
        | nil =>
          cases split
          rw [own] at named
          rw [Except.error.inj named]
        | cons z before =>
          cases split
          obtain ⟨m, read⟩ := x.isEncoded_iff.mp (encoded x List.mem_cons_self)
          rw [own] at read
          cases read
    | ok m =>
      have past : messages (x :: xs) = (messages xs).map (m :: ·) := by rw [messages, own]
      have encoded : x.IsEncoded := x.isEncoded_iff.mpr ⟨m, own⟩
      have later : messages (x :: xs) = .error fault ↔ messages xs = .error fault := by
        rw [past]
        cases messages xs with
        | error cause => exact Iff.rfl
        | ok ms =>
          constructor
          · intro h
            cases h
          · intro h
            cases h
      rw [later, ih]
      constructor
      · rintro ⟨before, y, after, rfl, others, named⟩
        exact ⟨x :: before, y, after, rfl, List.forall_mem_cons.mpr ⟨encoded, others⟩, named⟩
      · rintro ⟨before, y, after, split, others, named⟩
        cases before with
        | nil =>
          cases split
          rw [own] at named
          cases named
        | cons z before =>
          cases split
          exact ⟨before, y, after, rfl, (List.forall_mem_cons.mp others).2, named⟩

theorem ofText_of_spells {body : String} {xs : List FeedEntry} (h : MessageList.Spells xs body.toList) :
    ofText body = messages xs := by
  rw [ofText, entries_of_spells h]

theorem ofText_of_not_spells {body : String} (h : ∀ xs, ¬ MessageList.Spells xs body.toList) :
    ∃ cause, ofText body = .error (.messageList cause) := by
  cases read : entries body.toList with
  | error cause => exact ⟨cause, by rw [ofText, read]⟩
  | ok xs => exact absurd ((entries_eq_ok_iff _ xs).mp read) (h xs)

theorem message_messageData (data : String) (cause : Base64.Fault) :
    (ResponseFault.messageData data cause).message =
      "message data " ++ Text.quoted data ++ ": " ++ cause.message := rfl

theorem message_messageList (cause : Json.Fault) :
    (ResponseFault.messageList cause).message = "message list: " ++ cause.message := rfl

/-- The two kinds of refusals are told apart by how they begin. -/
theorem not_prefix_messageData (data : String) (cause : Base64.Fault) :
    ¬ "message list: ".toList <+: (ResponseFault.messageData data cause).message.toList := by
  intro list
  have begins : "message data ".toList <+: (ResponseFault.messageData data cause).message.toList := by
    rw [message_messageData, String.toList_append, String.toList_append, String.toList_append,
      List.append_assoc, List.append_assoc]
    exact List.prefix_append "message data ".toList _
  have both : "message data ".toList <+: "message list: ".toList :=
    List.prefix_of_prefix_length_le begins list (by decide)
  exact absurd both (by decide)

/-- Elements that do not all give messages are refused by the first payload that is written for no
bytes. -/
theorem messages_eq_messageData_iff (xs : List FeedEntry) (data : String) :
    (∃ cause, messages xs = .error (.messageData data cause)) ↔ ∃ before x after,
      xs = before ++ x :: after ∧ (∀ y ∈ before, y.IsEncoded) ∧ ¬ x.IsEncoded ∧ x.data = data := by
  constructor
  · rintro ⟨cause, h⟩
    obtain ⟨before, x, after, rfl, encoded, own⟩ := (messages_eq_error_iff xs _).mp h
    obtain ⟨cause', same⟩ := FeedEntry.toMessage_error own
    refine ⟨before, x, after, rfl, encoded, fun isEncoded => ?_, (ResponseFault.messageData.inj same).1.symm⟩
    obtain ⟨m, read⟩ := x.isEncoded_iff.mp isEncoded
    rw [own] at read
    cases read
  · rintro ⟨before, x, after, rfl, encoded, not, rfl⟩
    cases own : x.toMessage with
    | error fault =>
      obtain ⟨cause, rfl⟩ := FeedEntry.toMessage_error own
      exact ⟨cause, (messages_eq_error_iff _ _).mpr ⟨before, x, after, rfl, encoded, own⟩⟩
    | ok m => exact absurd (x.isEncoded_iff.mpr ⟨m, own⟩) not

/-- A body is refused as no list or by one of its payloads. -/
theorem ofText_error {body : String} {fault : ResponseFault} (h : ofText body = .error fault) :
    (∃ cause, fault = .messageList cause) ∨ ∃ data cause, fault = .messageData data cause := by
  unfold ofText at h
  split at h
  · next cause _ =>
    cases h
    exact .inl ⟨cause, rfl⟩
  · next xs _ =>
    obtain ⟨before, x, after, -, -, own⟩ := (messages_eq_error_iff xs fault).mp h
    obtain ⟨cause, rfl⟩ := FeedEntry.toMessage_error own
    exact .inr ⟨x.data, cause, rfl⟩

/-- A body that writes no elements is refused as no list, and this is the only way to be refused so. -/
theorem ofText_eq_messageList_iff (body : String) :
    (∃ cause, ofText body = .error (.messageList cause)) ↔ ∀ xs, ¬ MessageList.Spells xs body.toList := by
  constructor
  · rintro ⟨cause, h⟩ xs spells
    rw [ofText_of_spells spells] at h
    obtain ⟨before, x, after, -, -, own⟩ := (messages_eq_error_iff xs _).mp h
    obtain ⟨cause', same⟩ := FeedEntry.toMessage_error own
    cases same
  · exact ofText_of_not_spells

theorem ofText_eq_messageData_iff (body : String) (data : String) :
    (∃ cause, ofText body = .error (.messageData data cause)) ↔ ∃ before x after,
      MessageList.Spells (before ++ x :: after) body.toList ∧ (∀ y ∈ before, y.IsEncoded) ∧
        ¬ x.IsEncoded ∧ x.data = data := by
  constructor
  · rintro ⟨cause, h⟩
    cases read : entries body.toList with
    | error fault =>
      rw [ofText, read] at h
      cases h
    | ok xs =>
      have spells : MessageList.Spells xs body.toList := (entries_eq_ok_iff _ xs).mp read
      rw [ofText_of_spells spells] at h
      obtain ⟨before, x, after, rfl, others⟩ := (messages_eq_messageData_iff xs data).mp ⟨cause, h⟩
      exact ⟨before, x, after, spells, others⟩
  · rintro ⟨before, x, after, spells, others⟩
    rw [ofText_of_spells spells]
    exact (messages_eq_messageData_iff _ data).mpr ⟨before, x, after, rfl, others⟩

theorem ofText_eq_ok_iff (body : String) (ms : List Message) :
    ofText body = .ok ms ↔ MessageList.Spells (ms.map FeedEntry.ofMessage) body.toList := by
  constructor
  · intro h
    cases read : entries body.toList with
    | error fault =>
      rw [ofText, read] at h
      cases h
    | ok xs =>
      have spells : MessageList.Spells xs body.toList := (entries_eq_ok_iff _ xs).mp read
      rw [ofText_of_spells spells] at h
      rwa [← (messages_eq_ok_iff xs ms).mp h]
  · intro spells
    rw [ofText_of_spells spells]
    exact messages_ofMessage ms

end MessageList

namespace FeedClient

theorem messages_eq_ok_iff (body : String) (ms : List Message) :
    messages (.ok body) = .ok ms ↔ MessageList.ofText body = .ok ms := by
  rw [messages]
  cases MessageList.ofText body with
  | error fault =>
    constructor
    · intro h
      cases h
    · intro h
      cases h
  | ok read => exact ⟨fun h => congrArg _ (Except.ok.inj h), fun h => congrArg _ (Except.ok.inj h)⟩

theorem messages_eq_error_iff (body : String) (fault : ResponseFault) :
    messages (.ok body) = .error (.response fault) ↔ MessageList.ofText body = .error fault := by
  rw [messages]
  cases MessageList.ofText body with
  | error own =>
    constructor
    · intro h
      cases h
      rfl
    · intro h
      cases h
      rfl
  | ok read =>
    constructor
    · intro h
      cases h
    · intro h
      cases h

/-- **A body is answered by what it writes.** It is accepted, as these messages, exactly if it writes the
elements that the messages are written as, so that each payload is one of its texts read back. It is
refused as no message list exactly if it writes no elements at all, whatever their payloads. Otherwise the
first element is named whose payload is written for no bytes. And payloads that differ in their texts
differ in their bytes. -/
theorem messages_verdict (body : String) :
    (∀ ms, messages (.ok body) = .ok ms ↔
      MessageList.Spells (ms.map FeedEntry.ofMessage) body.toList) ∧
    ((∃ fault, messages (.ok body) = .error (.response fault) ∧
        "message list: ".toList <+: fault.message.toList) ↔
      ∀ xs, ¬ MessageList.Spells xs body.toList) ∧
    (∀ data, (∃ cause, messages (.ok body) = .error (.response (.messageData data cause)) ∧
        (ResponseFault.messageData data cause).message =
          "message data " ++ Text.quoted data ++ ": " ++ cause.message) ↔
      ∃ before x after, MessageList.Spells (before ++ x :: after) body.toList ∧
        (∀ y ∈ before, y.IsEncoded) ∧ ¬ x.IsEncoded ∧ x.data = data) ∧
    ∀ (x y : FeedEntry) (m n : Message), x.toMessage = .ok m → y.toMessage = .ok n →
      m.payload = n.payload → x.data = y.data := by
  refine ⟨fun ms => ?accepted, ?noList, fun data => ?noBase64, fun x y m n own own' same => ?distinct⟩
  case accepted => rw [messages_eq_ok_iff, MessageList.ofText_eq_ok_iff]
  case noList =>
    rw [← MessageList.ofText_eq_messageList_iff]
    constructor
    · rintro ⟨fault, h, begins⟩
      have own : MessageList.ofText body = .error fault := (messages_eq_error_iff body fault).mp h
      rcases MessageList.ofText_error own with ⟨cause, rfl⟩ | ⟨data, cause, rfl⟩
      · exact ⟨cause, own⟩
      · exact absurd begins (MessageList.not_prefix_messageData data cause)
    · rintro ⟨cause, h⟩
      refine ⟨.messageList cause, (messages_eq_error_iff body _).mpr h, ?_⟩
      rw [MessageList.message_messageList, String.toList_append]
      exact List.prefix_append "message list: ".toList _
  case noBase64 =>
    rw [← MessageList.ofText_eq_messageData_iff]
    constructor
    · rintro ⟨cause, h, -⟩
      exact ⟨cause, (messages_eq_error_iff body _).mp h⟩
    · rintro ⟨cause, h⟩
      exact ⟨cause, (messages_eq_error_iff body _).mpr h, MessageList.message_messageData data cause⟩
  case distinct =>
    rw [(x.toMessage_eq_ok_iff m).mp own, (y.toMessage_eq_ok_iff n).mp own']
    exact congrArg Base64.encode same

end FeedClient

end SatelliteTrack
