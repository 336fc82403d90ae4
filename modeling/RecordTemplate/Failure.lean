/-
  RecordTemplate.Failure

  The causes for which reading a value, applying a filter or asking a data source can fail,
  and the one wording of each.
-/

import RecordTemplate.Text.Quoted
import RecordTemplate.Number.Digits

namespace RecordTemplate

/-- Why an operation failed. -/
inductive Failure where
  /-- The value is no number; `shown` is the value as it is written in messages. -/
  | notANumber (shown : String)
  /-- A number was asked of a text without characters. -/
  | emptyNumber
  /-- The text has the shape of a number and is none. -/
  | notAFloat (literal : String)
  /-- The text is no whole number; messages show the beginning of its literal. -/
  | notAnInteger (literal : List Char)
  /-- The text of a whole number has more digits than are allowed. -/
  | integerTooLong (limit digits : Nat)
  /-- A whole number was asked of a value of this type. -/
  | noInteger (type : String)
  /-- A number was asked of a value of this type. -/
  | noFloat (type : String)
  /-- The value is no date; `shown` is the value as it is written in messages. -/
  | notADate (shown : String)
  /-- A date was asked of an absent value or the empty text. -/
  | emptyDate
  /-- A date was asked of a text of white space. -/
  | blankDate
  /-- The integer is beyond the range of double precision numbers. -/
  | integerTooLarge
  /-- An integer was asked of an infinity; `shown` names it in messages. -/
  | infinityToInteger (shown : String)
  /-- An integer was asked of what is not a number. -/
  | nanToInteger (shown : String)
  | signalingNanToFloat
  /-- The decimal operation has no result of twenty-eight digits. -/
  | invalidDecimal
  /-- A decimal was divided whose quotient has more than twenty-eight digits. -/
  | divisionImpossible
  /-- Seconds since the epoch that are not a number. -/
  | timestampNotANumber
  /-- Seconds since the epoch beyond sixty-four bits. -/
  | timestampOutOfRange
  /-- A year beyond thirty-two bits. -/
  | yearTooLarge
  /-- A year outside the calendar. -/
  | yearOutOfRange (year : Int)
  /-- A zone a day or more away from UTC. -/
  | offsetOutOfRange
  /-- No argument stands that far from the end. -/
  | noArgument
  /-- A local moment and one with a zone have no distance. -/
  | mixedZones
  /-- A value of this type cannot be a key. -/
  | unhashable (type : String)
  /-- What signals that it is not a number cannot be a key. -/
  | unhashableNan
  /-- A value of this type has no attribute of this name. -/
  | noAttribute (type name : String)
  /-- A value of this type was to be called. -/
  | notCallable (type : String)
  /-- A value of this type was taken for a mapping. -/
  | notMapping (type : String)
  /-- There is nothing under this name. -/
  | unknownName (name : String)
  /-- A value of this type has no items. -/
  | notIterable (type : String)
  /-- Two values of these types cannot be joined. -/
  | notJoinable (left right : String)
  /-- The part at an index, of this type, cannot be joined with texts. -/
  | notTextPart (index : Nat) (type : String)
  /-- A template must be a text, and this is a value of another type. -/
  | notText (type : String)
  | unknownFilter (name : String)
  /-- A data source could not answer. -/
  | source (name message : String)
  /-- Code of the host failed. -/
  | host (message : String)
  /-- The remote cache is not reachable. -/
  | connection (message : String)
  deriving DecidableEq, Repr

namespace Failure

/-- The failures that mean "this value cannot be read"; the filters fall back on them. -/
def isUnreadable : Failure → Bool
  | notANumber _ | emptyNumber | notAFloat _ | notAnInteger _ | integerTooLong ..
  | notADate _ | emptyDate | blankDate | nanToInteger _ | signalingNanToFloat
  | timestampNotANumber | yearOutOfRange _ | offsetOutOfRange => true
  | _ => false

/-- The wording of a failure. -/
def message : Failure → String
  | notANumber shown => "Cannot parse " ++ shown ++ " as number"
  | emptyNumber => "Cannot parse empty string as number"
  | notAFloat literal => "could not convert string to float: " ++ literal
  | notAnInteger literal =>
    "invalid literal for int() with base 10: " ++ String.ofList (literal.take 200)
  | integerTooLong limit digits =>
    "Exceeds the limit (" ++ String.ofList (Number.digits limit) ++
      " digits) for integer string conversion: value has " ++
      String.ofList (Number.digits digits) ++
      " digits; use sys.set_int_max_str_digits() to increase the limit"
  | noInteger type =>
    "int() argument must be a string, a bytes-like object or a real number, not '" ++ type ++ "'"
  | noFloat type => "float() argument must be a string or a real number, not '" ++ type ++ "'"
  | notADate shown => "Cannot parse '" ++ shown ++ "' as date"
  | emptyDate => "Cannot parse empty value as date"
  | blankDate => "Cannot parse empty string as date"
  | integerTooLarge => "int too large to convert to float"
  | infinityToInteger shown | nanToInteger shown => "cannot convert " ++ shown ++ " to integer"
  | signalingNanToFloat => "cannot convert signaling NaN to float"
  | invalidDecimal => "[<class 'decimal.InvalidOperation'>]"
  | divisionImpossible => "[<class 'decimal.DivisionImpossible'>]"
  | timestampNotANumber => "Invalid value NaN (not a number)"
  | timestampOutOfRange => "timestamp out of range for platform time_t"
  | yearTooLarge => "[Errno 75] Value too large for defined data type"
  | yearOutOfRange year =>
    "year " ++ String.ofList (Number.intText year) ++ " is out of range"
  | offsetOutOfRange =>
    "offset must be a timedelta strictly between -timedelta(hours=24) and timedelta(hours=24)."
  | noArgument => "list index out of range"
  | mixedZones => "can't subtract offset-naive and offset-aware datetimes"
  | unhashable type => "unhashable type: '" ++ type ++ "'"
  | unhashableNan => "Cannot hash a signaling NaN value"
  | noAttribute type name => "'" ++ type ++ "' object has no attribute '" ++ name ++ "'"
  | notCallable type => "'" ++ type ++ "' object is not callable"
  | notMapping type => "'" ++ type ++ "' object is not a mapping"
  | unknownName name => String.ofList (Text.quoted name.toList)
  | notIterable type => "'" ++ type ++ "' object is not iterable"
  | notJoinable "bytes" right => "can't concat " ++ right ++ " to bytes"
  | notJoinable left right =>
    if ["str", "list", "tuple"].contains left then
      "can only concatenate " ++ left ++ " (not \"" ++ right ++ "\") to " ++ left
    else "unsupported operand type(s) for +: '" ++ left ++ "' and '" ++ right ++ "'"
  | notTextPart index type =>
    "sequence item " ++ String.ofList (Number.digits index) ++
      ": expected str instance, " ++ type ++ " found"
  | notText "bytes" => "cannot use a string pattern on a bytes-like object"
  | notText type => "expected string or bytes-like object, got '" ++ type ++ "'"
  | unknownFilter name => "Filter '" ++ name ++ "' failed: Unknown filter: " ++ name
  | source name message => "Data source '" ++ name ++ "' failed: " ++ message
  | host message => message
  | connection message => message

end Failure
end RecordTemplate
