import Lifecycle.Json.Characters

/-!
# JSON values and their text

A value is a tree; the members of an object keep their order. `Layout` says what stands between
the tokens, so that one printer gives the compact and the indented text.
-/

namespace Lifecycle

namespace Json

/-- A JSON value. -/
inductive Value where
  /-- The word `null`. -/
  | null
  /-- A truth value. -/
  | boolean (value : Bool)
  /-- A number. -/
  | number (value : Numeral)
  /-- A string. -/
  | string (text : String)
  /-- An array. -/
  | array (items : List Value)
  /-- An object, its members in order. -/
  | object (members : List (String × Value))
deriving Repr

/-- The white space between the tokens of a document. -/
structure Layout where
  /-- What stands before each item of an array or object, and before its end, at a level of
  nesting. -/
  separator : Nat → List Char
  /-- What stands between a key and its value. -/
  colon : List Char

namespace Layout

/-- No white space at all. -/
def compact : Layout where
  separator _ := []
  colon := [':']

/-- Each item on a line of its own, indented by two spaces for each level. -/
def indented : Layout where
  separator level := '\n' :: List.replicate (2 * level) ' '
  colon := [':', ' ']

end Layout

/-- The text of a number. -/
def writeNumeral : Numeral → List Char
  | .integer value => (toString value).toList
  | .real negative magnitude =>
    (if negative then ['-'] else []) ++
      (Number.Style.standard.render magnitude.shortest).toList

/-- The text of a truth value. -/
def writeBoolean (value : Bool) : List Char :=
  if value then ['t', 'r', 'u', 'e'] else ['f', 'a', 'l', 's', 'e']

mutual

/-- The text of a value at a level of nesting. -/
def Value.write (layout : Layout) (level : Nat) : Value → List Char
  | .null => ['n', 'u', 'l', 'l']
  | .boolean value => writeBoolean value
  | .number value => writeNumeral value
  | .string text => writeString text
  | .array [] => ['[', ']']
  | .array (item :: items) =>
    '[' :: layout.separator (level + 1) ++ item.write layout (level + 1) ++
      writeItems layout (level + 1) items ++ layout.separator level ++ [']']
  | .object [] => ['\x7b', '\x7d']
  | .object ((key, value) :: members) =>
    '\x7b' :: layout.separator (level + 1) ++ writeString key ++ layout.colon ++
      value.write layout (level + 1) ++ writeMembers layout (level + 1) members ++
      layout.separator level ++ ['\x7d']

/-- The text of the further items of an array. -/
def writeItems (layout : Layout) (level : Nat) : List Value → List Char
  | [] => []
  | item :: items =>
    ',' :: layout.separator level ++ item.write layout level ++ writeItems layout level items

/-- The text of the further members of an object. -/
def writeMembers (layout : Layout) (level : Nat) : List (String × Value) → List Char
  | [] => []
  | (key, value) :: members =>
    ',' :: layout.separator level ++ writeString key ++ layout.colon ++
      value.write layout level ++ writeMembers layout level members

end

namespace Value

/-- The document that holds a value, with no white space. -/
def compact (value : Value) : String :=
  String.ofList (value.write .compact 0)

/-- The document that holds a value, each item on a line of its own. -/
def indented (value : Value) : String :=
  String.ofList (value.write .indented 0)

/-- A natural as a number. -/
def natural (value : Nat) : Value :=
  .number (.integer value)

end Value

end Json

end Lifecycle
