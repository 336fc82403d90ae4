/-
  RecordTemplate.Filter.Date

  Filters on dates.  A value that cannot be read as a date renders as nothing.
-/

import RecordTemplate.Calendar.Distance
import RecordTemplate.Calendar.Format
import RecordTemplate.Filter.Basic

namespace RecordTemplate.Filter

open RecordTemplate.Calendar RecordTemplate.Number

/-- The format of dates unless a tag gives another. -/
def defaultDateFormat : String := "Y-m-d H:i:s"

/-- The text computed from the moment of a value, empty if it has none. -/
def onMoment (context : FilterContext) (v : Value) (f : DateTime → Except Failure String) :
    Except Failure Value :=
  match v.readMoment context.now.date with
  | .ok t => (f t).map .text
  | .error e => if e.isUnreadable then .ok (.text "") else .error e

def dateFormat : Filter where
  name := "date_format"
  aliases := ["date"]
  args := ["format", "locale"]
  description := "Format a date"
  apply := fun context v args => onMoment context v fun t => do
    let locale := Calendar.Locale.ofName (filledArgument args 1 context.locale)
    return String.ofList (← t.format locale (filledArgument args 0 defaultDateFormat).toList)

/-- The distance of a moment from now in words. -/
def relativePhrase (now : DateTime) (l : Calendar.Locale) (t : DateTime) :
    Except Failure String := do
  let now := now.asUtc
  let t := t.asUtc
  let (count, unit) ← now.distance? t
  let words := natText count ++ " " ++ l.unitName unit count
  return if t.instant ≤ now.instant then l.ago words else l.ahead words

def relativeDate : Filter where
  name := "relative_date"
  aliases := ["timeago", "ago"]
  args := ["locale"]
  description := "Time distance from now"
  apply := fun context v args => onMoment context v
    (relativePhrase context.now (Calendar.Locale.ofName (filledArgument args 0 context.locale)))

def dateFilters : List Filter := [dateFormat, relativeDate]

end RecordTemplate.Filter
