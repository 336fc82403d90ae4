/-
  RecordTemplate.Filter.Number

  Filters on numbers.  A value that cannot be read as a number is left as its text.
-/

import RecordTemplate.Filter.Basic
import RecordTemplate.Number.Grouped
import RecordTemplate.Text.Case

namespace RecordTemplate.Filter

open RecordTemplate.Text RecordTemplate.Number

/-! ## Falling back on the text -/

/-- The answer for a value that can be read, the text of the value for one that cannot. -/
def orText {α : Type} (v : Value) (reading : Except Failure α) (f : α → Except Failure Value) :
    Except Failure Value :=
  match reading with
  | .ok a => f a
  | .error e => if e.isUnreadable then .ok (.text v.render) else .error e

/-! ## Layout and rounding -/

/-- A value laid out as a number.  A value that cannot be read as one, or cannot be rounded to
    the places, is written as it is. -/
def formatNumber (l : Layout) (v : Value) : Except Failure String :=
  match v.asBinary64 with
  | .ok x => (l.write? x).map fun s => (s.map String.ofList).getD v.display
  | .error e => if e.isUnreadable then .ok v.display else .error e

def numberFormat : Filter where
  name := "number_format"
  args := ["decimals", "dec_point", "thousands_sep"]
  description := "Format a number"
  apply := fun _ v args => do
    match ← v.strictNumber? with
    | none => return .text v.render
    | some x =>
      let places ← intArgument args 0 2
      let layout : Layout := ⟨places.toNat, (textArgument args 1 ".").toList,
        (textArgument args 2 ",").toList⟩
      return .text (← formatNumber layout (.float x))

/-- A number rounded to decimal places, a half away from zero. -/
def roundTo (x : Binary64) (places : Nat) : Except Failure Binary64 :=
  match x with
  | .nan => if Decimal.maxPlaces < places then .error .invalidDecimal else .ok .nan
  | .infinite _ => .error .invalidDecimal
  | .finite negative m e =>
    let (c, k) := Binary64.shortest m e
    match Decimal.roundTo? c k places with
    | none => .error .invalidDecimal
    | some rounded => .ok (.ofDecimal negative rounded (-(places : Int)))

/-- Rounding to no decimal places gives an integer. -/
def rounded : Filter where
  name := "round"
  args := ["decimals"]
  description := "Round a number"
  apply := fun _ v args => orText v v.readNumber fun x => do
    let places ← intArgument args 0 0
    let x ← roundTo x places.toNat
    if places ≤ 0 then return .int (← x.toInteger) else return .float x

def absolute : Filter where
  name := "abs"
  description := "Absolute value"
  apply := fun _ v _ => orText v v.readNumber fun x => .ok (.float x.abs)

/-! ## Percentages and money -/

/-- The words that keep a percentage from being multiplied. -/
def falseWords : List String := ["false", "0", "no", "off"]

/-- The decimal separator of a locale: a comma in Portuguese and Polish. -/
def decimalPoint (locale : String) : List Char :=
  if startsWith "pt".toList locale.toList ∨ startsWith "pl".toList locale.toList then [',']
  else ['.']

def percent : Filter where
  name := "percent"
  aliases := ["percentage"]
  args := ["decimals", "multiply"]
  description := "Format as percentage"
  apply := fun context v args => orText v v.readNumber fun x => do
    let x := if falseWords.contains (wordOf (textArgument args 1 "true")) then x
      else x.mulNat 100
    let places ← intArgument args 0 0
    let layout : Layout := ⟨places.toNat, decimalPoint context.locale, []⟩
      return .text ((← formatNumber layout (.float x)) ++ "%")

/-- How amounts of a currency are written. -/
structure Currency where
  symbol : String
  layout : Layout
  symbolFirst : Bool
  spaced : Bool

namespace Currency

def dollar : Currency := ⟨"$", ⟨2, ['.'], [',']⟩, true, false⟩
def euro : Currency := ⟨"€", ⟨2, [','], ['.']⟩, false, true⟩
def pound : Currency := ⟨"£", ⟨2, ['.'], [',']⟩, true, false⟩
def zloty : Currency := ⟨"zł", ⟨2, [','], [' ']⟩, false, true⟩
def real : Currency := ⟨"R$", ⟨2, [','], ['.']⟩, true, true⟩

/-- The currency of a code; the dollar for codes that are not known. -/
def ofCode (code : String) : Currency :=
  match code with
  | "EUR" => euro
  | "GBP" => pound
  | "PLN" => zloty
  | "BRL" => real
  | _ => dollar

/-- An amount with the symbol of the currency. -/
def write (c : Currency) (amount : String) : String :=
  let space := if c.spaced then " " else ""
  if c.symbolFirst then c.symbol ++ space ++ amount else amount ++ space ++ c.symbol

end Currency

def currency : Filter where
  name := "currency"
  aliases := ["money"]
  args := ["currency_code"]
  description := "Format as currency"
  apply := fun _ v args =>
    if v.render = "" then .ok (.text "")
    else orText v v.readNumber fun x => do
      let c := Currency.ofCode (String.ofList (upper (textArgument args 0 "USD").toList))
      return .text (c.write (← formatNumber c.layout (.float x)))

def numberFilters : List Filter := [numberFormat, rounded, absolute, percent, currency]

end RecordTemplate.Filter
