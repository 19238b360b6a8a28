import Lifecycle.Number.Shortest
import Lifecycle.Text.Quoted

/-!
# Faults of JSON documents

A document is read from left to right, and the first fault ends the reading. A fault is either an
early end of the document, or a breach of the grammar, or well-formed content that does not fit
what is asked for.
-/

namespace Lifecycle

namespace Json

open Number (Binary64)

/-- The value of a number of a document. Integers that fit 64 bits stay exact. -/
inductive Numeral where
  /-- An integer between `-2 ^ 63` and `2 ^ 64 - 1`. Minus zero is none. -/
  | integer (value : Int)
  /-- Any other number. -/
  | real (negative : Bool) (magnitude : Binary64)
deriving DecidableEq, Repr

/-- What stands in a document in place of what is asked for. -/
inductive Found where
  /-- The word `null`. -/
  | null
  /-- A truth value. -/
  | boolean (value : Bool)
  /-- A number. -/
  | number (value : Numeral)
  /-- A string. -/
  | string (text : String)
  /-- An array. -/
  | sequence
  /-- An object. -/
  | mapping
  /-- The name of an alternative without the content that belongs to it. -/
  | bareAlternative
deriving DecidableEq, Repr

/-- Why a document is refused. -/
inductive Error where
  /-- The document ends where a value is due. -/
  | endInValue
  /-- The document ends within an array. -/
  | endInList
  /-- The document ends within an object. -/
  | endInObject
  /-- The document ends within a string. -/
  | endInString
  /-- No colon follows a key. -/
  | expectedColon
  /-- An array goes on with neither a comma nor its end. -/
  | expectedListCommaOrEnd
  /-- An object goes on with neither a comma nor its end. -/
  | expectedObjectCommaOrEnd
  /-- A word begins like `null`, `true` or `false` and goes on differently. -/
  | expectedWord
  /-- No value begins here. -/
  | expectedValue
  /-- A backslash stands before something that it cannot escape. -/
  | invalidEscape
  /-- A number breaks the grammar. -/
  | invalidNumber
  /-- A number is too large for the number format. -/
  | numberOutOfRange
  /-- A string holds a bare control character. -/
  | controlCharacter
  /-- The key of a member is no string. -/
  | keyNotString
  /-- An escape spells half of a surrogate pair without the other half. -/
  | loneSurrogate
  /-- No escape follows the first half of a surrogate pair. -/
  | unpairedSurrogate
  /-- A comma stands before the end of an array or object. -/
  | trailingComma
  /-- Something follows where nothing more is due. -/
  | trailingCharacters
  /-- Arrays and objects are nested too deeply. -/
  | tooDeep
  /-- A member that must be there is not. -/
  | missingField (key : String)
  /-- A member is there twice. -/
  | duplicateField (key : String)
  /-- A value has the wrong type. -/
  | invalidType (found : Found) (expected : String)
  /-- An integer lies outside the range that is asked for. -/
  | invalidInteger (value : Int) (expected : String)
  /-- An array has too few elements. -/
  | invalidLength (length : Nat) (expected : String)
  /-- No alternative has this name. -/
  | unknownAlternative (name : String) (expected : String)
  /-- A value fits none of the alternatives that are told apart by their content. -/
  | noAlternative (type : String)
  /-- The text of a string is refused by whoever reads it. -/
  | refused (reason : String)
deriving DecidableEq, Repr

/-- The three classes of faults. -/
inductive Error.Category where
  /-- The document ends too early. -/
  | ended
  /-- The document breaks the grammar. -/
  | malformed
  /-- The content does not fit. -/
  | unfit
deriving DecidableEq, Repr

namespace Numeral

/-- The number as faults show it. -/
def display : Numeral → String
  | integer value => "integer `" ++ toString value ++ "`"
  | real negative magnitude =>
    "floating point `" ++ (if negative then "-" else "") ++
      Number.Style.standard.render magnitude.shortest ++ "`"

end Numeral

namespace Found

/-- What was found, in words. -/
def display : Found → String
  | null => "null"
  | boolean value => "boolean `" ++ (if value then "true" else "false") ++ "`"
  | number value => value.display
  | string text => "string " ++ Text.quote text
  | sequence => "sequence"
  | mapping => "map"
  | bareAlternative => "unit variant"

end Found

namespace Error

/-- The class of a fault. -/
def category : Error → Category
  | endInValue | endInList | endInObject | endInString => .ended
  | expectedColon | expectedListCommaOrEnd | expectedObjectCommaOrEnd | expectedWord
  | expectedValue | invalidEscape | invalidNumber | numberOutOfRange | controlCharacter
  | keyNotString | loneSurrogate | unpairedSurrogate | trailingComma | trailingCharacters
  | tooDeep => .malformed
  | missingField _ | duplicateField _ | invalidType _ _ | invalidInteger _ _
  | invalidLength _ _ | unknownAlternative _ _ | noAlternative _ | refused _ => .unfit

/-- The fault in words. -/
def message : Error → String
  | endInValue => "EOF while parsing a value"
  | endInList => "EOF while parsing a list"
  | endInObject => "EOF while parsing an object"
  | endInString => "EOF while parsing a string"
  | expectedColon => "expected `:`"
  | expectedListCommaOrEnd => "expected `,` or `]`"
  | expectedObjectCommaOrEnd => "expected `,` or `\x7d`"
  | expectedWord => "expected ident"
  | expectedValue => "expected value"
  | invalidEscape => "invalid escape"
  | invalidNumber => "invalid number"
  | numberOutOfRange => "number out of range"
  | controlCharacter =>
    "control character (\\u0000-\\u001F) found while parsing a string"
  | keyNotString => "key must be a string"
  | loneSurrogate => "lone leading surrogate in hex escape"
  | unpairedSurrogate => "unexpected end of hex escape"
  | trailingComma => "trailing comma"
  | trailingCharacters => "trailing characters"
  | tooDeep => "recursion limit exceeded"
  | missingField key => "missing field `" ++ key ++ "`"
  | duplicateField key => "duplicate field `" ++ key ++ "`"
  | invalidType found expected =>
    "invalid type: " ++ found.display ++ ", expected " ++ expected
  | invalidInteger value expected =>
    "invalid value: integer `" ++ toString value ++ "`, expected " ++ expected
  | invalidLength length expected =>
    "invalid length " ++ toString length ++ ", expected " ++ expected
  | unknownAlternative name expected =>
    "unknown variant `" ++ name ++ "`, expected " ++ expected
  | noAlternative type => "data did not match any variant of untagged enum " ++ type
  | refused reason => reason

end Error

end Json

end Lifecycle
