import Lifecycle.Binary.Snapshot
import Lifecycle.Document.Snapshot
import Lifecycle.Proofs.Json.Tokens
import Mathlib.Algebra.Group.Nat.Defs
import Mathlib.Data.List.Basic

/-!
# What is written of a snapshot

The two encodings of a snapshot, spelled out. As bytes, the fields stand one behind the other:
integers of a fixed width with the least byte first, and a count of eight bytes before everything
whose length is not fixed. As a document, it is an object without white space, in which the names of
the fields are fixed and those of the attributes ascend.

Both are described without the formats that read and write, so that `toBytes_eq` and `toText_eq` tie
the formats to a layout that others can follow.
-/

namespace Lifecycle

namespace Wire

/-! ### Bytes -/

namespace Bytes

open Text.Utf8 (encode)

/-- An integer of `width` bytes, the least first. -/
def word (width value : Nat) : List UInt8 :=
  (List.range width).map fun index => UInt8.ofNat (value / 256 ^ index)

/-- Bytes behind their number. -/
def block (bytes : List UInt8) : List UInt8 :=
  word 8 bytes.length ++ bytes

/-- The bytes of a text behind their number. -/
def text (content : String) : List UInt8 :=
  block (encode content.toList)

/-- Items behind their number. -/
def counted (write : α → List UInt8) (items : List α) : List UInt8 :=
  word 8 items.length ++ items.flatMap write

def step (step : Step) : List UInt8 :=
  text step.transition ++ (text step.origin.name ++ (text step.target.name ++
    (text step.time.text ++ if step.recovery then [1] else [0])))

def record (record : Record) : List UInt8 :=
  block record.id.toBytes ++ (text record.state.name ++
    (counted (fun (name, content) => text name ++ text content) record.attributes.entries ++
      (counted step record.history.steps ++ word 8 record.version.toNat)))

def snapshot (snapshot : Snapshot) : List UInt8 :=
  word 4 snapshot.version.toNat ++ (text snapshot.takenAt.text ++ record snapshot.record)

theorem writeNatural_eq (width value : Nat) : Binary.writeNatural width value = word width value := by
  induction width generalizing value with
  | zero => rfl
  | succ width ih =>
    -- behind the least byte stands what is left of the value, in one byte less
    have hhigher (index : Nat) : value / 256 / 256 ^ index = value / 256 ^ (index + 1) := by
      rw [Nat.div_div_eq_div_mul, Nat.pow_succ']
    rw [Binary.writeNatural, ih, word, word, List.range_succ_eq_map, List.map_cons, List.map_map,
      Nat.pow_zero, Nat.div_one]
    simp only [hhigher, Function.comp_def]

theorem writeBlock_eq (bytes : List UInt8) : Binary.writeBlock bytes = block bytes := by
  rw [Binary.writeBlock, writeNatural_eq, block]

theorem write_text (meaning : String → Except String α) (content : α → String) (value : α) :
    (Binary.Format.text meaning content).write value = text (content value) :=
  writeBlock_eq _

theorem write_list (format : Binary.Format α) (values : List α) :
    (Binary.Format.list format).write values = counted format.write values := by
  rw [counted, ← writeNatural_eq]
  rfl

theorem write_step : Step.binary.write = step := by
  funext value
  simp only [Step.binary, State.binary, Time.Instant.binary, Binary.Format.transfer,
    Binary.Format.pair, Binary.Format.string, Binary.Format.boolean, write_text, id, step]

theorem write_record (value : Record) : Record.binary.write value = record value := by
  simp only [Record.binary, Uuid.binary, State.binary, Attributes.binary, History.binary,
    Binary.Format.transfer, Binary.Format.pair, Binary.Format.string, Binary.Format.word64,
    Binary.Format.block, write_text, write_list, write_step, writeBlock_eq, writeNatural_eq, id,
    record]

/-- The bytes of a snapshot are its fields, one behind the other. -/
theorem toBytes_eq (value : Snapshot) : value.toBytes = snapshot value := by
  simp only [Snapshot.toBytes, Snapshot.binary, Time.Instant.binary, Binary.Format.transfer,
    Binary.Format.pair, Binary.Format.word32, write_text, write_record, writeNatural_eq, snapshot]

end Bytes

/-! ### Documents -/

namespace Document

open Json (Layout Value writeString writeBoolean)

/-- Items between brackets, with commas between them. -/
def list (items : List (List Char)) : List Char :=
  '[' :: [','].intercalate items ++ [']']

/-- A key and its value, with a colon between them. -/
def member (key : String) (value : List Char) : List Char :=
  writeString key ++ ':' :: value

/-- Members between braces, with commas between them. -/
def object (members : List (List Char)) : List Char :=
  '\x7b' :: [','].intercalate members ++ ['\x7d']

def step (step : Step) : List Char :=
  object [member "transition" (writeString step.transition),
    member "from" (writeString step.origin.name), member "to" (writeString step.target.name),
    member "timestamp" (writeString step.time.text), member "recovery" (writeBoolean step.recovery)]

def attributes (attributes : Attributes) : List Char :=
  object (attributes.entries.map fun (name, content) => member name (writeString content))

def record (record : Record) : List Char :=
  object [member "id" (writeString record.id.text), member "state" (writeString record.state.name),
    member "attributes" (attributes record.attributes),
    member "history" (object [member "transitions" (list (record.history.steps.map step))]),
    member "version" (Nat.toDigits 10 record.version.toNat)]

def snapshot (snapshot : Snapshot) : List Char :=
  object [member "version" (Nat.toDigits 10 snapshot.version.toNat),
    member "taken_at" (writeString snapshot.takenAt.text), member "record" (record snapshot.record)]

theorem intercalate_cons (text : List Char) (texts : List (List Char)) :
    [','].intercalate (text :: texts) = text ++ texts.flatMap (',' :: ·) := by
  induction texts generalizing text with
  | nil => simp
  | cons next texts ih => rw [List.intercalate_cons_cons, ih, List.flatMap_cons]; simp

theorem writeItems_compact (level : Nat) (items : List Value) :
    Json.writeItems .compact level items =
      (items.map fun item => item.write .compact level).flatMap (',' :: ·) := by
  induction items with
  | nil => rfl
  | cons item items ih =>
    rw [Json.writeItems, ih, List.map_cons, List.flatMap_cons]
    rfl

theorem writeMembers_compact (level : Nat) (members : List (String × Value)) :
    Json.writeMembers .compact level members =
      (members.map fun (key, value) => member key (value.write .compact level)).flatMap
        (',' :: ·) := by
  induction members with
  | nil => rfl
  | cons entry members ih =>
    rw [Json.writeMembers, ih, List.map_cons, List.flatMap_cons]
    simp [member, Layout.compact]

/-- An array is written as its items are. -/
theorem write_array (level : Nat) (items : List Value) :
    (Value.array items).write .compact level =
      list (items.map fun item => item.write .compact (level + 1)) := by
  cases items with
  | nil => rw [Value.write]; rfl
  | cons item items =>
    rw [Value.write, writeItems_compact, list, List.map_cons, intercalate_cons]
    simp [Layout.compact]

/-- An object is written as its members are. -/
theorem write_object (level : Nat) (members : List (String × Value)) :
    (Value.object members).write .compact level =
      object (members.map fun (key, value) => member key (value.write .compact (level + 1))) := by
  cases members with
  | nil => rw [Value.write]; rfl
  | cons entry members =>
    rw [Value.write, writeMembers_compact, object, List.map_cons, intercalate_cons]
    simp [member, Layout.compact]

theorem write_string (level : Nat) (text : String) :
    (Value.string text).write .compact level = writeString text := by
  rw [Value.write]

theorem write_boolean (level : Nat) (value : Bool) :
    (Value.boolean value).write .compact level = writeBoolean value := by
  rw [Value.write]

theorem write_natural (level number : Nat) :
    (Value.natural number).write .compact level = Nat.toDigits 10 number := by
  rw [Value.natural, Value.write, Json.writeNumeral_natural]

theorem write_step (level : Nat) (value : Step) :
    (Step.format.write value).write .compact level = step value := by
  have htree : Step.format.write value = .object [("transition", .string value.transition),
      ("from", .string value.origin.name), ("to", .string value.target.name),
      ("timestamp", .string value.time.text), ("recovery", .boolean value.recovery)] := rfl
  simp only [htree, write_object, List.map_cons, List.map_nil, write_string, write_boolean, step]

theorem write_attributes (level : Nat) (value : Attributes) :
    (Attributes.format.write value).write .compact level = attributes value := by
  simp only [Attributes.format, write_object, List.map_map, Function.comp_def, write_string,
    attributes]

theorem write_record (level : Nat) (value : Record) :
    (Record.format.write value).write .compact level = record value := by
  have htree : Record.format.write value = .object [("id", .string value.id.text),
      ("state", .string value.state.name), ("attributes", Attributes.format.write value.attributes),
      ("history", .object [("transitions", .array (value.history.steps.map Step.format.write))]),
      ("version", .natural value.version.toNat)] := rfl
  simp only [htree, write_object, write_array, List.map_cons, List.map_nil, List.map_map,
    Function.comp_def, write_string, write_natural, write_attributes, write_step, record]

/-- The text of a snapshot is an object of its fields. -/
theorem toText_eq (value : Snapshot) : value.toText = String.ofList (snapshot value) := by
  have htree : Snapshot.format.write value = .object
      [("version", .natural value.version.toNat), ("taken_at", .string value.takenAt.text),
        ("record", Record.format.write value.record)] := rfl
  rw [Snapshot.toText, Json.Format.compact, Value.compact, htree]
  simp only [write_object, List.map_cons, List.map_nil, write_string, write_natural, write_record,
    snapshot]

end Document

end Wire

end Lifecycle
