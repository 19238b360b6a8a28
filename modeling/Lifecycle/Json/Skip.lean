import Lifecycle.Json.Characters
import Lifecycle.Json.Numeral
import Lifecycle.Text.Blank

/-!
# Passing over a value

The members of an object that nobody asked for are passed over: they must be well formed, but are
neither kept nor limited in their depth. The brackets that are open are a stack, and `Skip.value`
goes on until the stack is empty.
-/

namespace Lifecycle

namespace Json

/-- Read the rest of one of the words `null`, `true` and `false`. -/
def readWord : (due : List Char) → List Char → Except Error (List Char)
  | [], text => .ok text
  | _ :: _, [] => .error .endInValue
  | c :: due, d :: text => if c = d then readWord due text else .error .expectedWord

/-- The colon between a key and its value. -/
def readColon (text : List Char) : Except Error (List Char) :=
  match Text.skipInsignificant text with
  | [] => .error .endInObject
  | c :: rest => if c = ':' then .ok rest else .error .expectedColon

namespace Skip

/-- An open bracket. -/
inductive Bracket where
  /-- An array is open. -/
  | list
  /-- An object is open. -/
  | mapping
deriving DecidableEq, Repr

namespace Bracket

/-- The character that closes the bracket. -/
def closer : Bracket → Char
  | list => ']'
  | mapping => '\x7d'

/-- The fault of a document that ends within the bracket. -/
def ended : Bracket → Error
  | list => .endInList
  | mapping => .endInObject

/-- The fault of an item that neither a comma nor the end of the bracket follows. -/
def expectedCommaOrEnd : Bracket → Error
  | list => .expectedListCommaOrEnd
  | mapping => .expectedObjectCommaOrEnd

end Bracket

/-- After a value: close the brackets that end here. The result is the brackets that are still
open, of which the innermost goes on with another item, and the text after the comma. -/
def afterValue : List Bracket → List Char → Except Error (List Bracket × List Char)
  | [], text => .ok ([], text)
  | bracket :: stack, text =>
    match Text.skipInsignificant text with
    | [] => .error bracket.ended
    | c :: rest =>
      if c = ',' then .ok (bracket :: stack, rest)
      else if c = bracket.closer then afterValue stack rest
      else .error bracket.expectedCommaOrEnd

/-- After an opening bracket: it may end at once. -/
def afterOpening (bracket : Bracket) (stack : List Bracket) (text : List Char) :
    Except Error (List Bracket × List Char) :=
  match Text.skipInsignificant text with
  | [] => .error bracket.ended
  | c :: rest =>
    if c = bracket.closer then afterValue stack rest else .ok (bracket :: stack, c :: rest)

/-- Before an item: in an object the key and its colon come first. -/
def beforeItem (stack : List Bracket) (text : List Char) : Except Error (List Char) :=
  match stack with
  | .mapping :: _ =>
    match Text.skipInsignificant text with
    | [] => .error .endInObject
    | c :: rest => if c = '"' then skipString rest >>= readColon else .error .keyNotString
  | _ => .ok text

/-- Pass over one scalar, or over an opening bracket, and over what is closed after it. -/
def token (stack : List Bracket) (text : List Char) :
    Except Error (List Bracket × List Char) :=
  match Text.skipInsignificant text with
  | [] => .error .endInValue
  | 'n' :: rest => readWord ['u', 'l', 'l'] rest >>= afterValue stack
  | 't' :: rest => readWord ['r', 'u', 'e'] rest >>= afterValue stack
  | 'f' :: rest => readWord ['a', 'l', 's', 'e'] rest >>= afterValue stack
  | '"' :: rest => skipString rest >>= afterValue stack
  | '[' :: rest => afterOpening .list stack rest
  | '\x7b' :: rest => afterOpening .mapping stack rest
  | c :: rest =>
    if c = '-' ∨ c.isDigit then skipNumeral (c :: rest) >>= afterValue stack
    else .error .expectedValue

/-- Pass over tokens until no bracket is open. Each token takes at least one character, so that
`fuel` never runs out when it exceeds the length of the text. -/
def tokens : (fuel : Nat) → List Bracket → List Char → Except Error (List Char)
  | 0, _, _ => .error .endInValue
  | fuel + 1, stack, text => do
    let (stack, rest) ← token stack text
    if stack.isEmpty then return rest
    else beforeItem stack rest >>= tokens fuel stack

/-- Pass over one value. -/
def value (text : List Char) : Except Error (List Char) :=
  tokens (text.length + 1) [] text

end Skip

end Json

end Lifecycle
