import Lifecycle.Json.Reader

/-!
# Formats

A format says how values of a type are read from and written to JSON. Objects are described by
their fields: `Fields.format` reads them in any order, or from an array in the order of the
fields, and writes them in that order.
-/

namespace Lifecycle

namespace Json

/-- How values of a type are read and written. -/
structure Format (α : Type) where
  /-- Read a value. -/
  read : Reader α
  /-- Write a value. -/
  write : α → Value

namespace Format

/-- Read a whole document. -/
def parse (format : Format α) (document : String) : Except Error α :=
  format.read.run document

/-- Write a document without white space. -/
def compact (format : Format α) (value : α) : String :=
  (format.write value).compact

/-- Write a document with each item on a line of its own. -/
def indented (format : Format α) (value : α) : String :=
  (format.write value).indented

/-- A string whose content means something. -/
def text (expected : String) (meaning : String → Except String α) (content : α → String) :
    Format α where
  read := .text expected meaning
  write value := .string (content value)

/-- A string. -/
def string : Format String :=
  text "a string" .ok id

/-- A truth value. -/
def boolean : Format Bool where
  read := .boolean
  write := .boolean

/-- A natural of 32 bits. -/
def word32 : Format UInt32 where
  read depth document := do
    let (value, rest) ← Reader.natural "u32" UInt32.size depth document
    return (UInt32.ofNat value, rest)
  write value := .natural value.toNat

/-- A natural of 64 bits. -/
def word64 : Format UInt64 where
  read depth document := do
    let (value, rest) ← Reader.natural "u64" UInt64.size depth document
    return (UInt64.ofNat value, rest)
  write value := .natural value.toNat

/-- A value that may be absent, written as `null` where it is. -/
def nullable (format : Format α) : Format (Option α) where
  read := .nullable format.read
  write
    | some value => format.write value
    | none => .null

/-- An array. -/
def list (format : Format α) : Format (List α) where
  read := .list format.read
  write values := .array (values.map format.write)

/-- The format of a type whose values stand for those of another. -/
def transfer (format : Format α) (wrap : α → β) (unwrap : β → α) : Format β where
  read depth document := do
    let (value, rest) ← format.read depth document
    return (wrap value, rest)
  write value := format.write (unwrap value)

end Format

/-- A field of an object. -/
structure Field (τ : Type) where
  /-- The key of the field. -/
  key : String
  /-- How the value is read and written. -/
  format : Format τ
  /-- The value of a field that is left out. Without one, the field must be there. -/
  absent : Option τ := none
  /-- Whether a value is left out in writing. -/
  omitted : τ → Bool := fun _ => false

/-- The fields of an object, in order. -/
inductive Fields : List Type → Type 1 where
  /-- No fields. -/
  | nil : Fields []
  /-- One field before others. -/
  | cons : Field τ → Fields τs → Fields (τ :: τs)

/-- A value for every field. -/
def Row : List Type → Type
  | [] => Unit
  | τ :: τs => τ × Row τs

/-- The values of those fields that were met so far. -/
def Slots : List Type → Type
  | [] => Unit
  | τ :: τs => Option τ × Slots τs

namespace Fields

/-- No field was met yet. -/
def empty : Fields τs → Slots τs
  | nil => ()
  | cons _ fields => (none, fields.empty)

/-- Read the value of a member after its key. A member with an unknown key is passed over; one with
the key of a field that was met before is a fault, whatever its value. -/
def readMember (depth : Nat) (key : String) :
    Fields τs → Slots τs → List Char → Except Error (Slots τs × List Char)
  | nil, slots, document => do
    let document ← readColon document
    return (slots, ← Skip.value document)
  | cons field fields, (slot, slots), document =>
    if field.key = key then
      match slot with
      | some _ => .error (.duplicateField key)
      | none => do
        let document ← readColon document
        let (value, document) ← field.format.read depth document
        return ((some value, slots), document)
    else do
      let (slots, document) ← fields.readMember depth key slots document
      return ((slot, slots), document)

/-- Complete the values that were met by those that may be left out. The first field that may not
is reported. -/
def complete : Fields τs → Slots τs → Except Error (Row τs)
  | nil, _ => .ok ()
  | cons field fields, (slot, slots) =>
    match slot, field.absent with
    | some value, _ | none, some value => do
      let row ← fields.complete slots
      return (value, row)
    | none, none => .error (.missingField field.key)

/-- Read the values from the items of an array, the first of which has the given index. -/
def readItems (expected : String) (depth : Nat) :
    Fields τs → (index : Nat) → List Char → Except Error (Row τs × List Char)
  | nil, _, document => .ok ((), document)
  | cons field fields, index, document => do
    match ← Reader.nextItem (index == 0) document with
    | some document =>
      let (value, document) ← field.format.read depth document
      let (row, document) ← fields.readItems expected depth (index + 1) document
      return ((value, row), document)
    | none =>
      match field.absent with
      | some value =>
        let (row, document) ← fields.readItems expected depth (index + 1) document
        return ((value, row), document)
      | none => .error (.invalidLength index expected)

/-- The members of the object that holds a row. -/
def writeMembers : Fields τs → Row τs → List (String × Value)
  | nil, _ => []
  | cons field fields, (value, row) =>
    if field.omitted value then fields.writeMembers row
    else (field.key, field.format.write value) :: fields.writeMembers row

/-- The number of fields. -/
def count : Fields τs → Nat
  | nil => 0
  | cons _ fields => fields.count + 1

/-- What an array of too few elements is told. -/
def expectedLength (title : String) (fields : Fields τs) : String :=
  title ++ " with " ++ toString fields.count ++
    (if fields.count = 1 then " element" else " elements")

/-- Read a row from an object, or from an array of the values in the order of the fields. -/
def read (title : String) (fields : Fields τs) : Reader (Row τs) := fun depth document =>
  match Text.skipInsignificant document with
  | '[' :: rest => do
    let depth ← enter depth
    let (row, rest) ← fields.readItems (fields.expectedLength title) depth 0 rest
    let rest ← Reader.closeList rest
    return (row, rest)
  | '\x7b' :: rest => do
    let depth ← enter depth
    let step key slots document := fields.readMember depth key slots document
    let (slots, rest) ← Reader.members step (rest.length + 1) true fields.empty rest
    -- what is missing is reported ahead of whatever is wrong with the end of the object
    let row ← fields.complete slots
    let rest ← Reader.closeObject rest
    return (row, rest)
  | other => .error (mismatch title other)

/-- The format of rows. -/
def format (title : String) (fields : Fields τs) : Format (Row τs) where
  read := fields.read title
  write row := .object (fields.writeMembers row)

end Fields

end Json

end Lifecycle
