import Lifecycle.Json.Skip
import Lifecycle.Json.Value

/-!
# Readers of JSON documents

A reader takes a value of a given type from the front of a document, without building a tree
first, and returns it with what follows. It is told how many more arrays and objects may be
opened. Readers report the first fault in reading order, whether it is one of grammar or of
content.
-/

namespace Lifecycle

namespace Json

/-- Reads a value from the front of a text, given how many brackets may still be opened. -/
abbrev Reader (α : Type) := Nat → List Char → Except Error (α × List Char)

/-- The number of brackets that a document may have open at once. -/
def depthLimit : Nat := 127

/-- Open one more bracket. -/
def enter : Nat → Except Error Nat
  | 0 => .error .tooDeep
  | depth + 1 => .ok depth

/-- The fault of a text that begins with something else than what is asked for. Words, numbers and
strings are read in full to say what they are, and may turn out to be broken themselves. -/
def mismatch (expected : String) (text : List Char) : Error :=
  let found : Except Error Found := match text with
    | 'n' :: rest => (readWord ['u', 'l', 'l'] rest).map fun _ => .null
    | 't' :: rest => (readWord ['r', 'u', 'e'] rest).map fun _ => .boolean true
    | 'f' :: rest => (readWord ['a', 'l', 's', 'e'] rest).map fun _ => .boolean false
    | '"' :: rest => (readString rest).map fun (content, _) => .string content
    | '[' :: _ => .ok .sequence
    | '\x7b' :: _ => .ok .mapping
    | c :: rest =>
      if c = '-' ∨ c.isDigit then
        (readNumeral (c :: rest)).map fun (value, _) => .number value
      else .error .expectedValue
    | [] => .error .endInValue
  match found with
  | .ok found => .invalidType found expected
  | .error error => error

namespace Reader

/-- A string whose content means something, and what is asked for where there is none. -/
def text (expected : String) (meaning : String → Except String α) : Reader α := fun _ document =>
  match Text.skipInsignificant document with
  | '"' :: rest => do
    let (content, rest) ← readString rest
    match meaning content with
    | .ok value => return (value, rest)
    | .error reason => throw (.refused reason)
  | other => .error (mismatch expected other)

/-- A string. -/
def string : Reader String :=
  text "a string" .ok

/-- A truth value. -/
def boolean : Reader Bool := fun _ document =>
  match Text.skipInsignificant document with
  | 't' :: rest => (readWord ['r', 'u', 'e'] rest).map fun rest => (true, rest)
  | 'f' :: rest => (readWord ['a', 'l', 's', 'e'] rest).map fun rest => (false, rest)
  | other => .error (mismatch "a boolean" other)

/-- A natural below a bound. -/
def natural (expected : String) (bound : Nat) : Reader Nat := fun _ document =>
  match Text.skipInsignificant document with
  | [] => .error .endInValue
  | c :: rest =>
    if c = '-' ∨ c.isDigit then do
      let (value, rest) ← readNumeral (c :: rest)
      match value with
      | .integer value =>
        if 0 ≤ value ∧ value < bound then return (value.toNat, rest)
        else throw (.invalidInteger value expected)
      | .real _ _ => throw (.invalidType (.number value) expected)
    else .error (mismatch expected (c :: rest))

/-- A value, or the word `null`. -/
def nullable (read : Reader α) : Reader (Option α) := fun depth document =>
  match Text.skipInsignificant document with
  | 'n' :: rest => (readWord ['u', 'l', 'l'] rest).map fun rest => (none, rest)
  | other => (read depth other).map fun (value, rest) => (some value, rest)

/-- Whether an array goes on, and the text of its next item. At the end, the bracket is left. -/
def nextItem (first : Bool) (document : List Char) : Except Error (Option (List Char)) :=
  match Text.skipInsignificant document with
  | [] => .error .endInList
  | c :: rest =>
    if c = ']' then .ok none
    else if first then .ok (some (c :: rest))
    else if c = ',' then
      match Text.skipInsignificant rest with
      | [] => .error .endInValue
      | d :: rest => if d = ']' then .error .trailingComma else .ok (some (d :: rest))
    else .error .expectedListCommaOrEnd

/-- The items of an array up to its end. Each takes at least one character, so that `fuel` never
runs out when it exceeds the length of the text. -/
def items (read : List Char → Except Error (α × List Char)) :
    (fuel : Nat) → (first : Bool) → List Char → Except Error (List α × List Char)
  | 0, _, _ => .error .endInList
  | fuel + 1, first, document => do
    match ← nextItem first document with
    | none => return ([], document)
    | some document =>
      let (value, document) ← read document
      let (values, document) ← items read fuel false document
      return (value :: values, document)

/-- The end of an array from which nothing more is read. -/
def closeList (document : List Char) : Except Error (List Char) :=
  match Text.skipInsignificant document with
  | [] => .error .endInList
  | c :: rest =>
    if c = ']' then .ok rest
    else if c = ',' then
      match Text.skipInsignificant rest with
      | ']' :: _ => .error .trailingComma
      | _ => .error .trailingCharacters
    else .error .trailingCharacters

/-- An array. -/
def list (read : Reader α) : Reader (List α) := fun depth document =>
  match Text.skipInsignificant document with
  | '[' :: rest => do
    let depth ← enter depth
    let (values, rest) ← items (read depth) (rest.length + 1) true rest
    let rest ← closeList rest
    return (values, rest)
  | other => .error (mismatch "a sequence" other)

/-- Whether an object goes on, and the text after the opening quote of its next key. At the end,
the bracket is left. -/
def nextKey (first : Bool) (document : List Char) : Except Error (Option (List Char)) :=
  match Text.skipInsignificant document with
  | [] => .error .endInObject
  | c :: rest =>
    if c = '\x7d' then .ok none
    else if first then
      if c = '"' then .ok (some rest) else .error .keyNotString
    else if c = ',' then
      match Text.skipInsignificant rest with
      | [] => .error .endInValue
      | d :: rest =>
        if d = '"' then .ok (some rest)
        else if d = '\x7d' then .error .trailingComma
        else .error .keyNotString
    else .error .expectedObjectCommaOrEnd

/-- The members of an object up to its end. After each key, `step` reads what follows and updates
what was gathered so far. Each member takes at least one character, so that `fuel` never runs out
when it exceeds the length of the text. -/
def members (step : String → σ → List Char → Except Error (σ × List Char)) :
    (fuel : Nat) → (first : Bool) → σ → List Char → Except Error (σ × List Char)
  | 0, _, _, _ => .error .endInObject
  | fuel + 1, first, gathered, document => do
    match ← nextKey first document with
    | none => return (gathered, document)
    | some document =>
      let (key, document) ← readString document
      let (gathered, document) ← step key gathered document
      members step fuel false gathered document

/-- The end of an object from which nothing more is read. -/
def closeObject (document : List Char) : Except Error (List Char) :=
  match Text.skipInsignificant document with
  | [] => .error .endInObject
  | c :: rest =>
    if c = '\x7d' then .ok rest
    else if c = ',' then .error .trailingComma
    else .error .trailingCharacters

/-- An object with keys of any kind, gathered member by member. -/
def mapping (read : Reader α) (empty : σ) (insert : String → α → σ → σ) : Reader σ :=
  fun depth document =>
    match Text.skipInsignificant document with
    | '\x7b' :: rest => do
      let depth ← enter depth
      let step key gathered document := do
        let document ← readColon document
        let (value, document) ← read depth document
        return (insert key value gathered, document)
      let (gathered, rest) ← members step (rest.length + 1) true empty rest
      let rest ← closeObject rest
      return (gathered, rest)
    | other => .error (mismatch "a map" other)

/-- Any value at all. Arrays and objects are read by the reader for the depth below. -/
def any : Reader Value := fun depth document =>
  match Text.skipInsignificant document with
  | [] => .error .endInValue
  | 'n' :: rest => (readWord ['u', 'l', 'l'] rest).map fun rest => (.null, rest)
  | 't' :: rest => (readWord ['r', 'u', 'e'] rest).map fun rest => (.boolean true, rest)
  | 'f' :: rest => (readWord ['a', 'l', 's', 'e'] rest).map fun rest => (.boolean false, rest)
  | '"' :: rest => (readString rest).map fun (content, rest) => (.string content, rest)
  | '[' :: rest =>
    match depth with
    | 0 => .error .tooDeep
    | depth + 1 => do
      let (values, rest) ← items (any depth) (rest.length + 1) true rest
      let rest ← closeList rest
      return (.array values, rest)
  | '\x7b' :: rest =>
    match depth with
    | 0 => .error .tooDeep
    | depth + 1 => do
      let step key gathered document := do
        let document ← readColon document
        let (value, document) ← any depth document
        return (gathered ++ [(key, value)], document)
      let (gathered, rest) ← members step (rest.length + 1) true [] rest
      let rest ← closeObject rest
      return (.object gathered, rest)
  | c :: rest =>
    if c = '-' ∨ c.isDigit then
      (readNumeral (c :: rest)).map fun (value, rest) => (.number value, rest)
    else .error .expectedValue

/-- Read a whole document: nothing but white space may follow the value. -/
def run (read : Reader α) (document : String) : Except Error α := do
  let (value, rest) ← read depthLimit document.toList
  if (Text.skipInsignificant rest).isEmpty then return value else throw .trailingCharacters

end Reader

end Json

end Lifecycle
