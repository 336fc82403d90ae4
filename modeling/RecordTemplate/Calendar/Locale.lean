/-
  RecordTemplate.Calendar.Locale

  The locales that dates are written in: names of months and weekdays, names of units of
  time in singular and plural, and the phrases for past and future.
-/

import RecordTemplate.Failure
import RecordTemplate.Text.Case
import RecordTemplate.Text.Search

namespace RecordTemplate.Calendar

open RecordTemplate.Text

/-- The supported locales. -/
inductive Locale where
  | english
  | portuguese
  | polish
  deriving DecidableEq, Repr

namespace Locale

/-- The locales in the order in which a prefix is looked up. -/
def all : List Locale := [english, portuguese, polish]

def code : Locale → String
  | english => "en_US"
  | portuguese => "pt_BR"
  | polish => "pl_PL"

/-- The locale with a code, which must be one of those supported. -/
def ofCode (code : String) : Except Failure Locale :=
  match all.find? fun l => l.code == code with
  | some l => .ok l
  | none => .error (.unknownName code)

/-- The locale that a name stands for: its code, with hyphen or underscore, or a code that
    starts with its first two letters in any case; English for everything else. -/
def ofName (name : String) : Locale :=
  if name = "" then english
  else
    let name := (trim name.toList).map fun c => if c = '-' then '_' else c
    match all.find? fun l => l.code.toList == name with
    | some l => l
    | none =>
      -- the language alone decides between regions
      let start := lower (name.take 2)
      (all.find? fun l => startsWith start (lower l.code.toList)).getD english

/-! ## Months and weekdays -/

/-- The names of the months, January first. -/
def months : Locale → List String
  | english => ["January", "February", "March", "April", "May", "June", "July", "August",
      "September", "October", "November", "December"]
  | portuguese => ["Janeiro", "Fevereiro", "Março", "Abril", "Maio", "Junho", "Julho", "Agosto",
      "Setembro", "Outubro", "Novembro", "Dezembro"]
  | polish => ["Styczeń", "Luty", "Marzec", "Kwiecień", "Maj", "Czerwiec", "Lipiec", "Sierpień",
      "Wrzesień", "Październik", "Listopad", "Grudzień"]

/-- The names of the weekdays, Monday first. -/
def weekdays : Locale → List String
  | english => ["Monday", "Tuesday", "Wednesday", "Thursday", "Friday", "Saturday", "Sunday"]
  | portuguese => ["Segunda-feira", "Terça-feira", "Quarta-feira", "Quinta-feira",
      "Sexta-feira", "Sábado", "Domingo"]
  | polish => ["Poniedziałek", "Wtorek", "Środa", "Czwartek", "Piątek", "Sobota", "Niedziela"]

end Locale

/-! ## Units of time -/

/-- Units in which a distance in time is given. -/
inductive TimeUnit where
  | second
  | minute
  | hour
  | day
  | week
  | month
  | year
  deriving DecidableEq, Repr

namespace TimeUnit

def all : List TimeUnit := [second, minute, hour, day, week, month, year]

def name : TimeUnit → String
  | second => "second"
  | minute => "minute"
  | hour => "hour"
  | day => "day"
  | week => "week"
  | month => "month"
  | year => "year"

/-- The unit of a name. -/
def ofName (name : String) : Except Failure TimeUnit :=
  match all.find? fun unit => unit.name == name with
  | some unit => .ok unit
  | none => .error (.unknownName name)

end TimeUnit

/-- The forms of a noun after one, after a few and after many. -/
structure NounForms where
  one : String
  few : String
  many : String

namespace Locale

/-- The forms of the name of a unit. -/
def unitForms : Locale → TimeUnit → NounForms
  | english, .second => ⟨"second", "seconds", "seconds"⟩
  | english, .minute => ⟨"minute", "minutes", "minutes"⟩
  | english, .hour => ⟨"hour", "hours", "hours"⟩
  | english, .day => ⟨"day", "days", "days"⟩
  | english, .week => ⟨"week", "weeks", "weeks"⟩
  | english, .month => ⟨"month", "months", "months"⟩
  | english, .year => ⟨"year", "years", "years"⟩
  | portuguese, .second => ⟨"segundo", "segundos", "segundos"⟩
  | portuguese, .minute => ⟨"minuto", "minutos", "minutos"⟩
  | portuguese, .hour => ⟨"hora", "horas", "horas"⟩
  | portuguese, .day => ⟨"dia", "dias", "dias"⟩
  | portuguese, .week => ⟨"semana", "semanas", "semanas"⟩
  | portuguese, .month => ⟨"mês", "meses", "meses"⟩
  | portuguese, .year => ⟨"ano", "anos", "anos"⟩
  | polish, .second => ⟨"sekundę", "sekundy", "sekund"⟩
  | polish, .minute => ⟨"minutę", "minuty", "minut"⟩
  | polish, .hour => ⟨"godzinę", "godziny", "godzin"⟩
  | polish, .day => ⟨"dzień", "dni", "dni"⟩
  | polish, .week => ⟨"tydzień", "tygodnie", "tygodni"⟩
  | polish, .month => ⟨"miesiąc", "miesiące", "miesięcy"⟩
  | polish, .year => ⟨"rok", "lata", "lat"⟩

/-- The name of a unit after a count.  In Polish the counts that end in 2, 3 or 4, but not
    in 12, 13 or 14, are few; elsewhere all counts but one take the same form. -/
def unitName (l : Locale) (unit : TimeUnit) (count : Int) : String :=
  let forms := l.unitForms unit
  if count = 1 then forms.one
  else if l = polish then
    let unitDigit := Int.fmod count 10
    let tens := Int.fmod count 100
    if (unitDigit = 2 ∨ unitDigit = 3 ∨ unitDigit = 4) ∧ tens ≠ 12 ∧ tens ≠ 13 ∧ tens ≠ 14 then
      forms.few
    else forms.many
  else forms.few

/-- A distance in the past. -/
def ago (l : Locale) (distance : String) : String :=
  match l with
  | english => distance ++ " ago"
  | portuguese => "há " ++ distance
  | polish => distance ++ " temu"

/-- A distance in the future. -/
def ahead (l : Locale) (distance : String) : String :=
  match l with
  | english => "in " ++ distance
  | portuguese => "em " ++ distance
  | polish => "za " ++ distance

end Locale
end RecordTemplate.Calendar
