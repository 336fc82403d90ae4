/-
  RecordTemplate.Value.Attribute

  The attributes of a value: those that an object or a term was given, and those that every
  number or moment has.  The names of operations are attributes as well; an operation is a
  value without a text.
-/

import RecordTemplate.Value.Literal

namespace RecordTemplate

open RecordTemplate.Calendar RecordTemplate.Number

namespace Value

/-! ## Fields of objects -/

/-- The attributes that an object or a term was given. -/
def attributes? : Value → Option Entries
  | object es => some es
  | term t => some t.attributes
  | _ => none

/-! ## Operations -/

/-- Names of operations, separated by blanks. -/
def operationNames (names : String) : List String := names.splitOn " "

def integerOperations : List String :=
  operationNames "as_integer_ratio bit_count bit_length conjugate from_bytes to_bytes"

def floatOperations : List String :=
  operationNames "as_integer_ratio conjugate fromhex hex is_integer"

def decimalOperations : List String :=
  operationNames ("adjusted as_integer_ratio as_tuple canonical compare compare_signal " ++
    "compare_total compare_total_mag conjugate copy_abs copy_negate copy_sign exp fma " ++
    "from_float is_canonical is_finite is_infinite is_nan is_normal is_qnan is_signed is_snan " ++
    "is_subnormal is_zero ln log10 logb logical_and logical_invert logical_or logical_xor max " ++
    "max_mag min min_mag next_minus next_plus next_toward normalize number_class quantize " ++
    "radix remainder_near rotate same_quantum scaleb shift sqrt to_eng_string to_integral " ++
    "to_integral_exact to_integral_value")

/-- What texts and bytes have in common. -/
def stringOperations : List String :=
  operationNames ("capitalize center count endswith expandtabs find index isalnum isalpha " ++
    "isascii isdigit islower isspace istitle isupper join ljust lower lstrip maketrans " ++
    "partition removeprefix removesuffix replace rfind rindex rjust rpartition rsplit rstrip " ++
    "split splitlines startswith strip swapcase title translate upper zfill")

def textOperations : List String :=
  stringOperations ++ operationNames ("casefold encode format format_map isdecimal " ++
    "isidentifier isnumeric isprintable")

def bytesOperations : List String := stringOperations ++ operationNames "decode fromhex hex"

def listOperations : List String :=
  operationNames "append clear copy count extend index insert pop remove reverse sort"

def tupleOperations : List String := operationNames "count index"

def setOperations : List String :=
  operationNames ("add clear copy difference difference_update discard intersection " ++
    "intersection_update isdisjoint issubset issuperset pop remove symmetric_difference " ++
    "symmetric_difference_update union update")

def dateOperations : List String :=
  operationNames ("ctime fromisocalendar fromisoformat fromordinal fromtimestamp isocalendar " ++
    "isoformat isoweekday replace strftime timetuple today toordinal weekday")

def dateTimeOperations : List String :=
  dateOperations ++ operationNames ("astimezone combine date dst now strptime time timestamp " ++
    "timetz tzname utcfromtimestamp utcnow utcoffset utctimetuple")

/-- The names of the operations of a value. -/
def operations : Value → List String
  | bool _ | int _ => integerOperations
  | float _ => floatOperations
  | decimal _ => decimalOperations
  | text _ => textOperations
  | bytes _ => bytesOperations
  | list _ => listOperations
  | tuple _ => tupleOperations
  | set _ => setOperations
  | date _ => dateOperations
  | dateTime _ => dateTimeOperations
  | _ => []

/-- An operation of a value. -/
def operation : Value := other "builtin_function_or_method"

/-! ## Parts of numbers and moments -/

/-- An integer as a complex number and as a quotient. -/
def integerParts (n : Int) : Entries :=
  [("real", int n), ("imag", int 0), ("numerator", int n), ("denominator", int 1)]

def dateParts (d : Date) : Entries :=
  [("year", int d.year), ("month", int d.month), ("day", int d.day)]

/-- The first and the last day of the calendar, and the distance of neighbouring days. -/
def dateLimits : Entries :=
  [("min", date ⟨minYear, 1, 1, by decide⟩), ("max", date ⟨maxYear, 12, 31, by decide⟩),
    ("resolution", other "datetime.timedelta")]

def clockParts (t : Time) : Entries :=
  [("hour", int t.hour), ("minute", int t.minute), ("second", int t.second),
    ("microsecond", int t.microsecond), ("fold", int 0)]

/-- The first and the last moment of the calendar, and the distance of neighbours. -/
def momentLimits : Entries :=
  [("min", dateTime ⟨⟨minYear, 1, 1, by decide⟩, .midnight, none⟩),
    ("max", dateTime ⟨⟨maxYear, 12, 31, by decide⟩, .lastOfDay, none⟩),
    ("resolution", other "datetime.timedelta")]

def zonePart (z : Option Zone) : Value := if z.isSome then other "datetime.timezone" else null

/-- The attributes that a value has by its type, operations left out. -/
def parts : Value → Entries
  | bool b => integerParts (if b then 1 else 0)
  | int n => integerParts n
  | float x => [("real", float x), ("imag", float (.zero false))]
  | decimal d => [("real", decimal d), ("imag", decimal (.finite false 0 0))]
  | date d => dateParts d ++ dateLimits
  | dateTime t =>
    dateParts t.date ++ clockParts t.time ++ [("tzinfo", zonePart t.zone)] ++ momentLimits
  | v => v.attributes?.getD []

/-- The attribute of a value with a given name. -/
def attribute? (v : Value) (name : String) : Option Value :=
  match Entries.value? v.parts name with
  | some w => some w
  | none => if v.operations.contains name then some operation else none

end Value
end RecordTemplate
