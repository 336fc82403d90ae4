/-
  RecordTemplate.Calendar.FreeForm

  Dates in free form, such as `Mon, 15 Jan 2024 2:05 PM` or `15/01/2024`.  A text is cut
  into words, numbers and single marks; the pieces are read from left to right, each by the
  first rule that applies to it; and the numbers that may be year, month or day are told
  apart at the end.  Fields that the text does not name are taken from today at midnight.
-/

import RecordTemplate.Calendar.DateTime
import RecordTemplate.Number.Reader
import RecordTemplate.Text.Case

namespace RecordTemplate.Calendar.FreeForm

open RecordTemplate.Text RecordTemplate.Number

/-! ## Pieces -/

/-- What kind of piece is being read. -/
inductive Mode where
  | word
  | number
  | dottedWord
  | dottedNumber
  deriving DecidableEq

/-- A piece under construction: its characters in reverse, whether a letter has been looked
    for in it, and its kind. -/
structure Piece where
  mode : Mode
  reversed : List Char
  sawWord : Bool

/-- The rest of a piece: a word takes letters, a number takes digits; after a point either
    may go on. -/
def extend (p : Piece) : List Char → Piece × List Char
  | [] => (p, [])
  | c :: s =>
    let afterPoint := p.reversed.head? == some '.'
    let take (mode : Mode) (sawWord : Bool) := extend ⟨mode, c :: p.reversed, sawWord⟩ s
    match p.mode with
    | .word =>
      -- a point may belong to an abbreviation, which is told later
      if isLetter c then take .word true
      else if c = '.' then take .dottedWord true
      else ({ p with sawWord := true }, c :: s)
    | .number =>
      if isDigit c then take .number p.sawWord
      -- a comma counts only behind two digits, where it may mark a fraction
      else if c = '.' ∨ (c = ',' ∧ 2 ≤ p.reversed.length) then take .dottedNumber p.sawWord
      else (p, c :: s)
    | .dottedWord =>
      if c = '.' ∨ isLetter c then take .dottedWord true
      else if isDigit c ∧ afterPoint then take .dottedNumber true
      else ({ p with sawWord := true }, c :: s)
    | .dottedNumber =>
      if c = '.' ∨ isDigit c then take .dottedNumber p.sawWord
      else if isLetter c ∧ afterPoint then take .dottedWord p.sawWord
      else (p, c :: s)

theorem extend_length (s : List Char) : ∀ p : Piece, (extend p s).2.length ≤ s.length := by
  induction s with
  | nil => intro p; simp [extend]
  | cons c s ih =>
    intro p
    have step : ∀ q : Piece, (extend q s).2.length ≤ s.length + 1 :=
      fun q => Nat.le_succ_of_le (ih q)
    unfold extend
    cases p.mode <;> simp only <;> split <;> (try split) <;>
      first
        | exact step _
        | simp

/-- The parts of a piece between its points and commas, and the points and commas. -/
def splitPoints : List Char → List (List Char)
  | [] => [[]]
  | c :: s =>
    if c = '.' ∨ c = ',' then [] :: [c] :: splitPoints s
    else match splitPoints s with
      | first :: rest => (c :: first) :: rest
      | [] => [[c]]

/-- The finished parts of a piece.  A piece with a point is cut at its points, unless it is
    one number with a point or comma between digits. -/
def Piece.parts (p : Piece) : List (List Char) :=
  let token := p.reversed.reverse
  let dotted := p.mode = .dottedWord ∨ p.mode = .dottedNumber
  let last := p.reversed.headD ' '
  if dotted ∧ (p.sawWord ∨ 1 < token.count '.' ∨ last = '.' ∨ last = ',') then
    (splitPoints token).filter (· ≠ [])
  else if p.mode = .dottedNumber ∧ !token.contains '.' then
    [token.map fun c => if c = ',' then '.' else c]
  else [token]

/-- The pieces of a text.  White space is a piece of its own, written as a plain space, and
    any mark that is neither letter nor digit stands alone. -/
def pieces (s : List Char) : List (List Char) :=
  match s with
  | [] => []
  | c :: s =>
    if isLetter c then
      let r := extend ⟨.word, [c], false⟩ s
      r.1.parts ++ pieces r.2
    else if isDigit c then
      let r := extend ⟨.number, [c], false⟩ s
      r.1.parts ++ pieces r.2
    else if isSpace c then [' '] :: pieces s
    else [c] :: pieces s
termination_by s.length
decreasing_by
  all_goals first
    | exact Nat.lt_succ_of_le (extend_length _ _)
    | simp

/-! ## Words -/

/-- The position of a word in a list of lists of synonyms. -/
def indexOf? (table : List (List String)) (word : List Char) : Option Nat :=
  let w := String.ofList (lower word)
  table.findIdx? fun synonyms => synonyms.contains w

def weekdayNames : List (List String) :=
  [["mon", "monday"], ["tue", "tuesday"], ["wed", "wednesday"], ["thu", "thursday"],
    ["fri", "friday"], ["sat", "saturday"], ["sun", "sunday"]]

def monthNames : List (List String) :=
  [["jan", "january"], ["feb", "february"], ["mar", "march"], ["apr", "april"], ["may"],
    ["jun", "june"], ["jul", "july"], ["aug", "august"], ["sep", "sept", "september"],
    ["oct", "october"], ["nov", "november"], ["dec", "december"]]

/-- Words that make the number before them hours, minutes or seconds. -/
def clockNames : List (List String) :=
  [["h", "hour", "hours"], ["m", "minute", "minutes"], ["s", "second", "seconds"]]

def halfDayNames : List (List String) := [["am", "a"], ["pm", "p"]]

def fillers : List String :=
  [" ", ".", ",", ";", "-", "/", "'", "at", "on", "and", "ad", "m", "t", "of", "st", "nd",
    "rd", "th"]

/-- Words that may stand anywhere and mean nothing. -/
def isFiller (word : List Char) : Bool := fillers.contains (String.ofList (lower word))

/-- The number of a month, from 1. -/
def month? (word : List Char) : Option Nat := (indexOf? monthNames word).map (· + 1)

def clockUnit? (word : List Char) : Option Nat := indexOf? clockNames word

def halfDay? (word : List Char) : Option Nat := indexOf? halfDayNames word

/-- Names of UTC in any case. -/
def isUtcName (word : List Char) : Bool :=
  ["utc", "gmt", "z"].contains (String.ofList (lower word))

/-! ## Numbers -/

/-- Why a text could not be read. -/
inductive Fault where
  /-- The text is no date. -/
  | unreadable
  /-- A number was divided whose whole part has more digits than a decimal keeps. -/
  | divisionImpossible
  deriving DecidableEq, Repr

/-- What a text must have to be a date. -/
def require {α : Type} (a : Option α) : Except Fault α :=
  match a with
  | some a => .ok a
  | none => .error .unreadable

/-- A number with decimal places: `coefficient` divided by ten to the power `places`. -/
structure Quantity where
  coefficient : Nat
  places : Nat

namespace Quantity

def unit (q : Quantity) : Nat := Nat.pow 10 q.places
def whole (q : Quantity) : Nat := q.coefficient / q.unit

/-- A number with as many digits as a decimal keeps. -/
def rounded (q : Quantity) : Quantity :=
  let extra := digitCount q.coefficient - Decimal.precision
  ⟨roundDiv .toEven q.coefficient (Nat.pow 10 extra), q.places - extra⟩

/-- What a division by one leaves over. -/
def fraction (q : Quantity) : Except Fault Quantity :=
  if Decimal.precision < digitCount q.whole then .error .divisionImpossible
  else .ok (rounded ⟨q.coefficient % q.unit, q.places⟩)

/-- The fraction in sixtieths, without a fraction of its own; nothing for a whole number. -/
def sixtieths? (q : Quantity) : Except Fault (Option Nat) := do
  let r ← q.fraction
  if r.coefficient = 0 then return none
  else return some (rounded ⟨60 * r.coefficient, r.places⟩).whole

def le (q : Quantity) (n : Nat) : Bool := q.coefficient ≤ n * q.unit
def lt (q : Quantity) (n : Nat) : Bool := q.coefficient < n * q.unit

end Quantity

/-- The number that a piece is. -/
def quantity? (word : List Char) : Option Quantity :=
  (Decimal.readFinite? word).map fun (_, c, e) => ⟨c, (-e).toNat⟩

/-- Whether a piece is read as a number, be it one that has no value. -/
def isNumber (word : List Char) : Bool := (readFloat? word).isSome

/-- The whole number that a piece is. -/
def nat? (word : List Char) : Option Nat :=
  match readInteger word with
  | .ok n => if n < 0 then none else some n.toNat
  | .error _ => none

/-- Seconds and microseconds of a piece. -/
def seconds? (word : List Char) : Option (Nat × Nat) :=
  if !word.contains '.' then (nat? word).map (·, 0)
  else match splitOn ['.'] word with
    | [i, f] => do
      let s ← nat? i
      let u ← nat? ((f ++ List.replicate (6 - f.length) '0').take 6)
      some (s, u)
    | _ => none

/-! ## Year, month and day -/

/-- The numbers that stand for year, month and day, in the order of the text, the positions
    of those already told apart, and whether a year was written with its century. -/
structure Ymd where
  values : List Nat := []
  century : Bool := false
  yearAt : Option Nat := none
  monthAt : Option Nat := none
  dayAt : Option Nat := none

namespace Ymd

/-- Adds a number that is known to be the year. -/
def addYear? (d : Ymd) (n : Nat) : Option Ymd :=
  if d.yearAt.isSome then none
  else some { d with values := d.values ++ [n], yearAt := some d.values.length, century := true }

def addMonth? (d : Ymd) (n : Nat) : Option Ymd :=
  if d.monthAt.isSome then none
  else some { d with values := d.values ++ [n], monthAt := some d.values.length }

def add (d : Ymd) (n : Nat) : Ymd := { d with values := d.values ++ [n] }

/-- Adds a piece; one of more than two digits is the year. -/
def addWord? (d : Ymd) (word : List Char) : Option Ymd :=
  if word.all isDigit ∧ 2 < word.length then nat? word >>= d.addYear?
  else (nat? word).map d.add

/-- Adds a number; one above a hundred is the year. -/
def addQuantity? (d : Ymd) (q : Quantity) : Option Ymd :=
  if q.le 100 then some (d.add q.whole) else d.addYear? q.whole

/-- Whether a number may be the day, given what is known. -/
def couldBeDay (d : Ymd) (q : Quantity) : Bool :=
  let limit :=
    match d.monthAt.bind (d.values[·]?), d.yearAt.bind (d.values[·]?) with
    | none, _ => 31
    | some m, none => daysInMonth 2000 m
    | some m, some y => daysInMonth y m
  d.dayAt.isNone && !q.lt 1 && q.le limit

/-- Year, month and day of three numbers of which none is labelled by its position. -/
def ofThree (d : Ymd) (a b c : Nat) : Option Nat × Option Nat × Option Nat :=
  match d.monthAt with
  | some 0 => if 31 < b then (some b, some a, some c) else (some c, some a, some b)
  | some 1 => if 31 < a then (some a, some b, some c) else (some c, some b, some a)
  | some _ => if 31 < b then (some b, some c, some a) else (some a, some c, some b)
  | none =>
    if 31 < a ∨ d.yearAt = some 0 then (some a, some b, some c)
    else if 12 < a then (some c, some b, some a)
    else (some c, some a, some b)

/-- The position left over by two positions below three. -/
def missingOf (i j : Nat) : Nat := 3 - i - j

/-- Year, month and day, as far as the text names them; nothing if there are more than three
    numbers. -/
def resolve? (d : Ymd) : Option (Option Nat × Option Nat × Option Nat) :=
  let at? (i : Option Nat) : Option Nat := i.bind (d.values[·]?)
  let known := [d.yearAt, d.monthAt, d.dayAt].filterMap id
  if known.length = d.values.length ∧ 0 < known.length then
    some (at? d.yearAt, at? d.monthAt, at? d.dayAt)
  else if d.values.length = 3 ∧ known.length = 2 then
    let missing := some (missingOf (known.getD 0 0) (known.getD 1 0))
    some (at? (d.yearAt <|> missing), at? (d.monthAt <|> missing), at? (d.dayAt <|> missing))
  else match d.values with
    | [] => some (none, none, none)
    | [a] =>
      if d.monthAt.isSome then some (none, some a, none)
      else if 31 < a then some (some a, none, none)
      else some (none, none, some a)
    | [a, b] =>
      match d.monthAt with
      | some i =>
        let (m, other) := if i = 0 then (a, b) else (b, a)
        if 31 < other then some (some other, some m, none) else some (none, some m, some other)
      | none =>
        if 31 < a then some (some a, some b, none)
        else if 31 < b then some (some b, some a, none)
        else some (none, some a, some b)
    | [a, b, c] => some (d.ofThree a b c)
    | _ => none

end Ymd

/-! ## What has been read so far -/

/-- The fields that a text has named. -/
structure Fields where
  ymd : Ymd := {}
  weekday : Option Nat := none
  hour : Option Nat := none
  minute : Option Nat := none
  second : Option Nat := none
  microsecond : Option Nat := none
  zoneName : Option (List Char) := none
  /-- Seconds from UTC. -/
  zoneOffset : Option Int := none
  halfDay : Option Nat := none

/-- The hour of the day for an hour before or after noon. -/
def onHalfDay (hour half : Nat) : Nat :=
  if hour < 12 ∧ half = 1 then hour + 12
  else if hour = 12 ∧ half = 0 then 0
  else hour

namespace Fields

/-- Minutes, with a fraction as seconds. -/
def setMinutes (f : Fields) (q : Quantity) : Except Fault Fields := do
  return { f with minute := some q.whole, second := ← q.sixtieths? }

def setSeconds (f : Fields) (s : Nat × Nat) : Fields :=
  { f with second := some s.1, microsecond := some s.2 }

/-- Assigns a number to hours, minutes or seconds. -/
def setUnit (f : Fields) (word : List Char) (unit : Nat) : Except Fault Fields := do
  match unit with
  | 0 =>
    let q ← require (quantity? word)
    match ← q.sixtieths? with
    | some m => return { f with hour := some q.whole, minute := some m }
    | none => return { f with hour := some q.whole }
  | 1 => f.setMinutes (← require (quantity? word))
  | 2 => return f.setSeconds (← require (seconds? word))
  | _ => return f

/-- Whether a piece may be the name of a zone: after an hour, up to five capital letters. -/
def mayBeZone (f : Fields) (offset : Option Int) (word : List Char) : Bool :=
  f.hour.isSome && f.zoneName.isNone && offset.isNone && word.length ≤ 5 &&
    (word.all (fun c => 'A' ≤ c && c ≤ 'Z') || word == ['z'])

end Fields

/-! ## Reading a number -/

/-- Where the word that labels the number at `i` as hours, minutes or seconds stands: behind
    it, perhaps after a space, or before it. -/
def labelAt? (ps : List (List Char)) (i : Nat) : Option Nat :=
  let isLabel (j : Nat) : Bool := (ps[j]?).any fun w => (clockUnit? w).isSome
  let isBlank (j : Nat) : Bool := ps[j]? == some [' ']
  if isLabel (i + 1) then some (i + 1)
  else if isBlank (i + 1) && isLabel (i + 2) then some (i + 2)
  else if 0 < i && isLabel (i - 1) then some (i - 1)
  else if 1 < i && i + 1 = ps.length && isBlank (i - 1) && isLabel (i - 2) then some (i - 2)
  else none

/-- Reads two digits and, from a longer piece, the two behind them as a clock. -/
def readShortClock? (f : Fields) (word : List Char) : Option Fields := do
  let hour ← nat? (word.take 2)
  if word.length = 4 then
    let minute ← nat? (word.drop 2)
    some { f with hour := some hour, minute := some minute }
  else some { f with hour := some hour }

/-- Reads six digits as a date or, where a date has been read, a clock. -/
def readSix? (f : Fields) (word : List Char) : Option Fields := do
  if f.ymd.values = [] ∧ !word.contains '.' then
    let d ← f.ymd.addWord? (word.take 2)
    let d ← d.addWord? ((word.drop 2).take 2)
    let d ← d.addWord? (word.drop 4)
    some { f with ymd := d }
  else
    let hour ← nat? (word.take 2)
    let minute ← nat? ((word.drop 2).take 2)
    let s ← seconds? (word.drop 4)
    some ({ f with hour := some hour, minute := some minute }.setSeconds s)

/-- Reads eight digits as a date, with four or six more as the clock behind it. -/
def readLong? (f : Fields) (word : List Char) : Option Fields := do
  let year ← nat? (word.take 4)
  let d ← f.ymd.addYear? year
  let d ← d.addWord? ((word.drop 4).take 2)
  let d ← d.addWord? ((word.drop 6).take 2)
  let f := { f with ymd := d }
  if word.length = 8 then some f
  else
    let hour ← nat? ((word.drop 8).take 2)
    let minute ← nat? ((word.drop 10).take 2)
    let f := { f with hour := some hour, minute := some minute }
    if word.length = 12 then some f
    else
      let second ← nat? (word.drop 12)
      some { f with second := some second }

/-- Adds a month by name or a number. -/
def addMonthOrWord? (d : Ymd) (word : List Char) : Option Ymd :=
  match month? word with
  | some m => d.addMonth? m
  | none => d.addWord? word

/-- Reads a date whose parts are separated by one mark; the number at `i` is its first part.
    Gives the fields and the index of the last piece read. -/
def readSeparated? (f : Fields) (ps : List (List Char)) (i : Nat) (word mark : List Char) :
    Option (Fields × Nat) := do
  let d ← f.ymd.addWord? word
  match ps[i + 2]? with
  | none => some ({ f with ymd := d }, i + 1)
  | some next =>
    if isFiller next then some ({ f with ymd := d }, i + 1)
    else
      let d ← if next.all isDigit then d.addWord? next else month? next >>= d.addMonth?
      if ps[i + 3]? = some mark then
        let third ← ps[i + 4]?
        let d ← addMonthOrWord? d third
        some ({ f with ymd := d }, i + 4)
      else some ({ f with ymd := d }, i + 2)

/-- Reads hours and what follows their colon; the hours stand at `i`. -/
def readClock (f : Fields) (ps : List (List Char)) (i hour : Nat) :
    Except Fault (Fields × Nat) := do
  let minutes ← require (ps[i + 2]? >>= quantity?)
  let f ← { f with hour := some hour }.setMinutes minutes
  if ps[i + 3]? = some [':'] ∧ i + 4 < ps.length then
    let s ← require (ps[i + 4]? >>= seconds?)
    return (f.setSeconds s, i + 4)
  else return (f, i + 2)

/-- Reads a number that is a part of the date and stands at `i`. -/
def readDatePart? (f : Fields) (i : Nat) (q : Quantity) : Option (Fields × Nat) :=
  if f.ymd.couldBeDay q then (f.ymd.addQuantity? q).map fun d => ({ f with ymd := d }, i)
  else none

/-- Reads the number at `i`.  Gives the fields and the index of the last piece read. -/
def readNumber (f : Fields) (ps : List (List Char)) (i : Nat) (word : List Char) :
    Except Fault (Fields × Nat) := do
  let q ← require (quantity? word)
  let n := word.length
  let next := ps[i + 1]?
  let nextLabels := next.any fun w => (clockUnit? w).isSome
  if f.ymd.values.length = 3 ∧ (n = 2 ∨ n = 4) ∧ f.hour.isNone ∧ next ≠ some [':'] ∧
      !nextLabels then
    return (← require (readShortClock? f word), i)
  -- six digits: a short date, or a clock with or without a fraction
  else if n = 6 ∨ (6 < n ∧ (word.takeWhile (· ≠ '.')).length = 6) then
    return (← require (readSix? f word), i)
  -- eight digits and more: a date with its century, and a clock behind it
  else if n = 8 ∨ n = 12 ∨ n = 14 then
    return (← require (readLong? f word), i)
  -- a number with a unit of the clock
  else if let some j := labelAt? ps i then
    let unit ← require (ps[j]? >>= clockUnit?)
    if i < j then return (← f.setUnit word unit, j) else return (← f.setUnit word (unit + 1), i)
  -- a clock with colons
  else if next = some [':'] ∧ i + 2 < ps.length then readClock f ps i q.whole
  -- a date with marks between its parts
  else if next = some ['-'] ∨ next = some ['/'] ∨ next = some ['.'] then
    require (readSeparated? f ps i word (next.getD []))
  -- a number on its own, or an hour with a half of the day behind it
  else if next.all isFiller then
    match ps[i + 2]?.bind halfDay? with
    | some half => return ({ f with hour := some (onHalfDay q.whole half) }, i + 2)
    | none => require ((f.ymd.addQuantity? q).map fun d => ({ f with ymd := d }, i + 1))
  else
    match next.bind halfDay? with
    | some half =>
      if q.lt 24 then return ({ f with hour := some (onHalfDay q.whole half) }, i + 1)
      else require (readDatePart? f i q)
    | none => require (readDatePart? f i q)

/-! ## Reading other pieces -/

/-- The year with its century: the one within fifty years of today. -/
def fullYear (today : Date) (century : Bool) (year : Nat) : Nat :=
  if 100 ≤ year ∨ century then year
  else
    let y := year + today.year / 100 * 100
    if today.year + 50 ≤ y then y - 100
    else if y + 50 < today.year then y + 100
    else y

/-- Reads the name of the month at `i`, and a day or year that hangs on it. -/
def readMonth? (today : Date) (f : Fields) (ps : List (List Char)) (i month : Nat) :
    Option (Fields × Nat) := do
  let d ← f.ymd.addMonth? month
  match ps[i + 1]? with
  | none => some ({ f with ymd := d }, i)
  | some mark =>
    if mark = ['-'] ∨ mark = ['/'] then
      let d ← ps[i + 2]? >>= d.addWord?
      if ps[i + 3]? = some mark then
        let d ← ps[i + 4]? >>= d.addWord?
        some ({ f with ymd := d }, i + 4)
      else some ({ f with ymd := d }, i + 2)
    -- as in `Jan of 01`, where digits are the year and anything else is passed over
    else if mark = [' '] ∧ ps[i + 3]? = some [' '] ∧
        (ps[i + 2]?).any (fun w => lower w == "of".toList) then
      match ps[i + 4]? with
      | none => some ({ f with ymd := d }, i)
      | some w =>
        if w.all isDigit then
          let year ← nat? w
          let d ← d.addYear? (fullYear today false year)
          some ({ f with ymd := d }, i + 4)
        else some ({ f with ymd := d }, i + 4)
    else some ({ f with ymd := d }, i)

/-- Reads the distance of a zone whose sign stands at `i`, and a name in parentheses behind
    it. -/
def readOffset? (f : Fields) (ps : List (List Char)) (i : Nat) (negative : Bool) :
    Option (Fields × Nat) := do
  let w ← ps[i + 1]?
  let (hours, minutes, i) ←
    -- hours and minutes without a colon, with one, or hours alone
    if w.length = 4 then do
      let h ← nat? (w.take 2)
      let m ← nat? (w.drop 2)
      some (h, m, i)
    else if ps[i + 2]? = some [':'] then do
      let h ← nat? w
      let m ← ps[i + 3]? >>= nat?
      some (h, m, i + 2)
    else if w.length ≤ 2 then do
      let h ← nat? w
      some (h, 0, i)
    else none
  let n : Int := (hours * 3600 + minutes * 60 : Nat)
  let f := { f with zoneOffset := some (if negative then -n else n) }
  match ps[i + 4]? with
  | some name =>
    if i + 5 < ps.length ∧ (ps[i + 2]?).any isFiller ∧ ps[i + 3]? = some ['('] ∧
        ps[i + 5]? = some [')'] ∧ 3 ≤ name.length ∧ f.mayBeZone none name then
      some ({ f with zoneName := some name }, i + 5)
    else some (f, i + 1)
  | none => some (f, i + 1)

/-- Reads the piece at `i` by the first rule that applies.  Gives the fields, the pieces and
    the index of the last piece read; the sign behind the name of a zone is turned round,
    because `GMT+3` names the zone in which three more hours make it noon in UTC. -/
def readPiece (today : Date) (f : Fields) (ps : List (List Char)) (i : Nat) (w : List Char) :
    Except Fault (Fields × List (List Char) × Nat) :=
  let keep (r : Except Fault (Fields × Nat)) := r.map fun (f, j) => (f, ps, j)
  if isNumber w then keep (readNumber f ps i w)
  else if let some d := indexOf? weekdayNames w then .ok ({ f with weekday := some d }, ps, i)
  else if let some m := month? w then keep (require (readMonth? today f ps i m))
  else if let some half := halfDay? w then
    match f.hour with
    | some hour =>
      if hour ≤ 12 then
        .ok ({ f with hour := some (onHalfDay hour half), halfDay := some half }, ps, i)
      else .error .unreadable
    | none => .error .unreadable
  else if f.mayBeZone f.zoneOffset w then
    let offset : Option Int := if w = ['z'] then some 0 else none
    let named := { f with zoneName := some w, zoneOffset := offset }
    let turn (sign : Char) : Except Fault (Fields × List (List Char) × Nat) :=
      .ok ({ named with zoneOffset := none, zoneName := if isUtcName w then none else some w },
        ps.set (i + 1) [sign], i)
    -- the sign is read again as that of the distance
    match ps[i + 1]? with
    | some ['+'] => turn '-'
    | some ['-'] => turn '+'
    | _ => .ok (named, ps, i)
  else if f.hour.isSome ∧ (w = ['+'] ∨ w = ['-']) then
    keep (require (readOffset? f ps i (w = ['-'])))
  else if isFiller w then .ok (f, ps, i)
  else .error .unreadable

/-- Reads the pieces from index `i` on; the first argument bounds their number. -/
def readPieces (today : Date) : Nat → Fields → List (List Char) → Nat → Except Fault Fields
  | 0, f, _, _ => .ok f
  | count + 1, f, ps, i =>
    match ps[i]? with
    | none => .ok f
    | some w => do
      let (f, ps, j) ← readPiece today f ps i w
      readPieces today count f ps (j + 1)

/-! ## From fields to a moment -/

/-- Name and distance of the zone, with the names of UTC made one. -/
def Fields.zoneParts (f : Fields) : Option (List Char) × Option Int :=
  if (f.zoneOffset = some 0 ∧ f.zoneName.isNone) ∨ f.zoneName = some ['Z'] ∨
      f.zoneName = some ['z'] then
    (some "UTC".toList, some 0)
  else if f.zoneName.any isUtcName then (f.zoneName, some 0)
  else (f.zoneName, f.zoneOffset)

/-- The zone of a moment.  A name without a distance says nothing. -/
def Fields.zone? (f : Fields) : Option Zone :=
  match f.zoneParts with
  | (name, offset) =>
    if name = some "UTC".toList then some .utc
    else match offset with
      | none => none
      | some 0 => some .utc
      | some n => some ⟨n * 1000000, name.map String.ofList⟩

/-- Whether a zone can be as far away as a text says: less than a thousand million days. -/
def Fields.hasUsableZone (f : Fields) : Bool :=
  match f.zoneParts.2 with
  | some n => -86400 * 999999999 ≤ n && n < 86400 * 1000000000
  | none => true

/-- Whether a text has named no field at all. -/
def Fields.isEmpty (f : Fields) (y m d : Option Nat) : Bool :=
  [y, m, d, f.weekday, f.hour, f.minute, f.second, f.microsecond, f.halfDay].all
    Option.isNone && f.zoneName.isNone && f.zoneOffset.isNone

/-- The moment that the fields denote. -/
def Fields.moment? (today : Date) (f : Fields) : Option DateTime := do
  let (y, m, d) ← f.ymd.resolve?
  let zone := f.zone?
  -- a text that names nothing is no date
  if f.isEmpty y m d || !f.hasUsableZone then none
  let year := (y.map (fullYear today f.ymd.century)).getD today.year
  let month := m.getD today.month
  if month = 0 ∨ 12 < month then none
  let day := d.getD (min today.day (daysInMonth year month))
  let date ← Date.of? year month day
  let time ← Time.of? (f.hour.getD 0) (f.minute.getD 0) (f.second.getD 0) (f.microsecond.getD 0)
  -- a weekday moves the date on, unless the day of the month is given
  match f.weekday, d with
  | some w, none =>
    let date ← Date.ofOrdinal? (date.ordinal + (7 + w - date.weekday) % 7)
    some ⟨date, time, zone⟩
  | _, _ => some ⟨date, time, zone⟩

end FreeForm

/-- The moment written in free form; what the text leaves open is taken from today. -/
def DateTime.readFreeForm (today : Date) (text : List Char) : Except FreeForm.Fault DateTime := do
  let ps := FreeForm.pieces (text.filter (· ≠ '\x00'))
  FreeForm.require ((← FreeForm.readPieces today ps.length {} ps 0).moment? today)

end RecordTemplate.Calendar
