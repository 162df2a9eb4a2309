import SatelliteTrack.Proofs.Base64Codec
import SatelliteTrack.Proofs.EntrySpelling

/-!
# A message list reads back

A message is written as an element of the list with its payload in base64 (`FeedEntry.ofMessage`), and an
element may be written in many ways, as `FeedEntry.Spells` says: with blanks anywhere, with any escapes in
its strings and in its keys, as an object or as a list of four, the members of an object in any order and
among members of other names with any values. So do messages (`SpellsMessages`). Nothing in it refers to
the reader of the list; only the value of a written number is the one that the reader of numbers gives it.

**The theorem.** Each such text reads back as exactly the messages that it writes
(`MessageList.ofText_spelled`). There is such a text for all messages whose coordinates can be written as
numbers at all (`exists_spellsMessages`).
-/

namespace SatelliteTrack

open Json Json.Scan

/-! ## Messages as elements -/

namespace FeedEntry

/-- The element that a message is written as. -/
def ofMessage (m : Message) : FeedEntry where
  data := Base64.encode m.payload
  latitude := m.latitude
  longitude := m.longitude
  created := m.created

theorem toMessage_ofMessage (m : Message) : (ofMessage m).toMessage = .ok m := by
  rw [toMessage, ofMessage, Base64.decode_encode]

end FeedEntry

/-- The text writes a message, as an element of the list. -/
def SpellsMessage (m : Message) (text : List Char) : Prop := (FeedEntry.ofMessage m).Spells text

/-- **The text writes a list of messages.** -/
def SpellsMessages (messages : List Message) (text : List Char) : Prop :=
  MessageList.Spells (messages.map FeedEntry.ofMessage) text

theorem SpellsMessages.list {messages : List Message} {texts : List (List Char)}
    {before inside after : List Char} (isBefore : Blank before)
    (each : List.Forall₂ SpellsMessage messages texts) (listed : Listed true texts inside)
    (isAfter : Blank after) : SpellsMessages messages (before ++ '[' :: inside ++ ']' :: after) :=
  MessageList.Spells.list isBefore (List.forall₂_map_left_iff.mpr each) listed isAfter

/-! ## Every list can be written -/

theorem exists_listed (first : Bool) (texts : List (List Char)) : ∃ cs, Listed first texts cs := by
  induction texts generalizing first with
  | nil => exact ⟨[], .nil blank_nil⟩
  | cons text texts ih =>
    obtain ⟨cs, others⟩ := ih false
    cases first with
    | true => exact ⟨_, .cons (.first blank_nil) others⟩
    | false => exact ⟨_, .cons (.comma blank_nil blank_nil) others⟩

/-- The coordinates of the message are such as can be written: each one is missing, or it is the value of
a written number. -/
def Message.Writable (m : Message) : Prop :=
  (∃ text, SpellsCoordinate m.latitude text) ∧ ∃ text, SpellsCoordinate m.longitude text

theorem exists_spellsMessage {m : Message} (h : m.Writable) : ∃ text, SpellsMessage m text := by
  obtain ⟨⟨latitude, isLatitude⟩, longitude, isLongitude⟩ := h
  obtain ⟨data, isData⟩ := exists_spellsString (Base64.encode m.payload)
  obtain ⟨created, isCreated⟩ := exists_spellsString m.created
  obtain ⟨inside, listed⟩ := exists_listed true [data, latitude, longitude, created]
  exact ⟨_, FeedEntry.Spells.list isData isLatitude isLongitude isCreated listed⟩

/-- **Messages with any payloads and any dates can be written**, if their coordinates can. -/
theorem exists_spellsMessages {messages : List Message} (h : ∀ m ∈ messages, m.Writable) :
    ∃ body, SpellsMessages messages body := by
  have elements : ∃ texts, List.Forall₂ SpellsMessage messages texts := by
    induction messages with
    | nil => exact ⟨[], .nil⟩
    | cons m messages ih =>
      obtain ⟨text, first⟩ := exists_spellsMessage (h m List.mem_cons_self)
      obtain ⟨texts, others⟩ := ih fun m' mem => h m' (List.mem_cons_of_mem m mem)
      exact ⟨text :: texts, .cons first others⟩
  obtain ⟨texts, each⟩ := elements
  obtain ⟨inside, listed⟩ := exists_listed true texts
  exact ⟨_, SpellsMessages.list blank_nil each listed blank_nil⟩

/-! ## The list -/

namespace MessageList

theorem messages_ofMessage (messages : List Message) :
    MessageList.messages (messages.map FeedEntry.ofMessage) = .ok messages := by
  induction messages with
  | nil => rfl
  | cons m rest ih =>
    rw [List.map_cons, MessageList.messages, FeedEntry.toMessage_ofMessage, ih]
    rfl

/-- **A list of messages reads back** from every text that writes it. -/
theorem ofText_spelled {messages : List Message} {body : String}
    (h : SpellsMessages messages body.toList) : ofText body = .ok messages := by
  rw [ofText, entries_of_spells h]
  exact messages_ofMessage messages

/-! ### A list of two messages -/

/-- A message with a latitude alone. -/
def northward : Message where
  payload := [0x01]
  latitude := some (Number.natural 45).toFloat
  longitude := none
  created := "\u00e9"

/-- A message with a longitude alone and without a payload. -/
def westward : Message where
  payload := []
  latitude := none
  longitude := some (Number.negative 73).toFloat
  created := "😀"

/-- An object: its members out of order, one of them unknown, a key and a value escaped, no longitude. -/
def northwardText : String :=
  "\x7b\"createdDate\" : \"\\u00E9\", \"x\":[\x7b\x7d,-1e5],\n\"\\u0064ata\":\"AQ==\",\"latitude\":45\x7d"

/-- A list, with a character that is escaped as a pair. -/
def westwardText : String := "[\"\",null,-73,\"\\ud83d\\uDE00\"]"

def mixedBody : String := " [" ++ northwardText ++ "," ++ westwardText ++ "]\n"

theorem northward_spelled : SpellsMessage northward northwardText.toList := by
  have space : Blank [' '] := by decide
  have line : Blank ['\n'] := by decide
  have acute : SpellsUnit ['0', '0', 'E', '9'] '\u00e9'.toNat :=
    @SpellsUnit.digits _ _ _ _ 0 0 14 9 (by decide) (by decide) (by decide) (by decide)
  have letter : SpellsUnit ['0', '0', '6', '4'] 'd'.toNat :=
    @SpellsUnit.digits _ _ _ _ 0 0 6 4 (by decide) (by decide) (by decide) (by decide)
  have created : (FeedEntry.ofMessage northward).SpellsField .created _ := .quoted (.cons (.unit acute) .nil)
  have key : SpellsString MessageField.data.key _ :=
    .quoted (.cons (.unit letter) (@spellsChars_self ['a', 't', 'a'] (by decide)))
  have encoded : Base64.encode [0x01] = "AQ==" := rfl
  have data : (FeedEntry.ofMessage northward).SpellsField .data ('"' :: "AQ==".toList ++ ['"']) := by
    have quoted : SpellsString "AQ==" ('"' :: "AQ==".toList ++ ['"']) := .quoted (spellsChars_self (by decide))
    exact encoded ▸ quoted
  have latitude : (FeedEntry.ofMessage northward).SpellsField .latitude ['4', '5'] := .number rfl
  have number : Written .value ['-', '1', 'e', '5'] :=
    .number (@Literal.Writes.parts ⟨true, ['1'], none, some (false, ['5'])⟩ [] ['e', '5']
      (.inr ⟨⟨by decide, List.all_eq_true.mp (by decide)⟩, by decide⟩) .none
      (@ExponentText.some 'e' false [] ['5'] (.inl rfl) .none
        ⟨by decide, List.all_eq_true.mp (by decide)⟩))
  have unknown : Written .value ['[', '\x7b', '\x7d', ',', '-', '1', 'e', '5', ']'] :=
    @Written.filled .list [] _ _ (.list blank_nil) (.empty .object blank_nil)
      (@Written.next .list [] [] _ _ blank_nil (.list blank_nil) number (.close .list blank_nil))
  have other : ∀ field : MessageField, "x" ≠ field.key := by
    intro field
    cases field <;> decide
  have each : List.Forall₂ (FeedEntry.ofMessage northward).SpellsMember
      [some .created, none, some .data, some .latitude] _ :=
    .cons (.known (.quoted (spellsChars_self (by decide))) space space created)
      (.cons (.unknown (.quoted (spellsChars_self (by decide))) other blank_nil blank_nil unknown)
        (.cons (.known key blank_nil blank_nil data)
          (.cons (.known (.quoted (spellsChars_self (by decide))) blank_nil blank_nil latitude) .nil)))
  have once : ∀ field : MessageField,
      [some .created, none, some .data, some .latitude].count (some field) ≤ 1 := by
    intro field
    cases field <;> decide
  have object := FeedEntry.Spells.object each
    (.cons (.first blank_nil) (.cons (.comma blank_nil space) (.cons (.comma blank_nil line)
      (.cons (.comma blank_nil blank_nil) (.nil blank_nil)))))
    once (by decide) (by decide) (fun absent => absurd (by decide) absent) fun _ => rfl
  simpa [SpellsMessage, northwardText, MessageField.key] using object

theorem westward_spelled : SpellsMessage westward westwardText.toList := by
  have data : (FeedEntry.ofMessage westward).SpellsField .data _ := .quoted (@spellsChars_self [] (by decide))
  have longitude : (FeedEntry.ofMessage westward).SpellsField .longitude ['-', '7', '3'] := .number rfl
  have high : SpellsUnit ['d', '8', '3', 'd'] (0xd800 + 0x3d) :=
    @SpellsUnit.digits _ _ _ _ 13 8 3 13 (by decide) (by decide) (by decide) (by decide)
  have low : SpellsUnit ['D', 'E', '0', '0'] (0xdc00 + 0x200) :=
    @SpellsUnit.digits _ _ _ _ 13 14 0 0 (by decide) (by decide) (by decide) (by decide)
  have smile : SpellsChar '😀' _ := .pair high low (by decide) (by decide) (by decide)
  have created : (FeedEntry.ofMessage westward).SpellsField .created _ := .quoted (.cons smile .nil)
  have list := FeedEntry.Spells.list data .null longitude created
    (.cons (.first blank_nil) (.cons (.comma blank_nil blank_nil) (.cons (.comma blank_nil blank_nil)
      (.cons (.comma blank_nil blank_nil) (.nil blank_nil)))))
  simpa [SpellsMessage, westwardText] using list

theorem ofText_spelled_mixed : SpellsMessages [northward, westward] mixedBody.toList ∧
    ofText mixedBody = .ok [northward, westward] := by
  have spelled : SpellsMessages [northward, westward] mixedBody.toList := by
    have space : Blank [' '] := by decide
    have line : Blank ['\n'] := by decide
    have list := SpellsMessages.list space (.cons northward_spelled (.cons westward_spelled .nil))
      (.cons (.first blank_nil) (.cons (.comma blank_nil blank_nil) (.nil blank_nil))) line
    simpa [mixedBody, String.toList_append] using list
  exact ⟨spelled, ofText_spelled spelled⟩

end MessageList

end SatelliteTrack
