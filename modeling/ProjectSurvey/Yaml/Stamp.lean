import ProjectSurvey.Yaml.Cursor

/-! Dates and moments as they are written in YAML and as they are shown. -/

namespace ProjectSurvey.Yaml

structure Date where
  year : Nat
  month : Nat
  day : Nat
  deriving DecidableEq, Repr

/-- A time of day; the offset from universal time is in seconds. -/
structure Time where
  hour : Nat
  minute : Nat
  second : Nat
  microsecond : Nat
  offset : Option Int
  deriving DecidableEq, Repr

/-- A date with or without a time as it stands in a text, whether or not there is such a day. -/
structure Stamp where
  date : Date
  time : Option Time
  /-- Whether month and day are written with two digits each. -/
  isFull : Bool

/-! Reading -/

/-- From `least` to `most` digits at the start of a text, and what follows. -/
def digitsAt (least most : Nat) (text : Text) : Option (Text × Text) :=
  let digits := (text.take most).takeWhile isDecimalDigit
  if digits.length < least then none else some (digits, text.drop digits.length)

def after? (c : Char) (text : Text) : Option Text :=
  match text with
  | d :: rest => if d = c then some rest else none
  | [] => none

/-- A fraction of a second in millionths, further digits dropped. -/
def microsecondsOf (digits : Text) : Nat :=
  let digits := digits.take 6
  decimalValue digits * Nat.pow 10 (6 - digits.length)

/-- The offset that ends a text, `none` when there is none. -/
def offsetAt (text : Text) : Option (Option Int) :=
  if text.isEmpty then some none
  else
    match text.dropWhile isSpaceOrTab with
    | ['Z'] => some (some 0)
    | sign :: rest =>
      if sign = '+' || sign = '-' then do
        let (hours, rest) ← digitsAt 1 2 rest
        let minutes ←
          if rest.isEmpty then some []
          else do
            let (minutes, rest) ← digitsAt 2 2 (← after? ':' rest)
            if rest.isEmpty then some minutes else none
        let seconds : Int := decimalValue hours * 3600 + decimalValue minutes * 60
        some (some (if sign = '-' then -seconds else seconds))
      else none
    | [] => none

/-- The time of day at the start of a text, and what follows. -/
def clockAt (text : Text) : Option (Time × Text) := do
  let (hour, rest) ← digitsAt 1 2 text
  let (minute, rest) ← digitsAt 2 2 (← after? ':' rest)
  let (second, rest) ← digitsAt 2 2 (← after? ':' rest)
  let (fraction, rest) :=
    match rest with
    | '.' :: rest => (rest.takeWhile isDecimalDigit, rest.dropWhile isDecimalDigit)
    | _ => ([], rest)
  some (⟨decimalValue hour, decimalValue minute, decimalValue second, microsecondsOf fraction,
    none⟩, rest)

/-- The time of day after the character or the blanks that part it from the date. -/
def timeAt (text : Text) : Option Time := do
  let rest ←
    match text with
    | 'T' :: rest => some rest
    | 't' :: rest => some rest
    | c :: _ => if isSpaceOrTab c then some (text.dropWhile isSpaceOrTab) else none
    | [] => none
  let (time, rest) ← clockAt rest
  let offset ← offsetAt rest
  some { time with offset }

/-- The date, with a time or without, that a text consists of. -/
def Stamp.ofText? (text : Text) : Option Stamp := do
  let (year, rest) ← digitsAt 4 4 text
  let (month, rest) ← digitsAt 1 2 (← after? '-' rest)
  let (day, rest) ← digitsAt 1 2 (← after? '-' rest)
  let date : Date := ⟨decimalValue year, decimalValue month, decimalValue day⟩
  let isFull := month.length = 2 && day.length = 2
  if rest.isEmpty then some ⟨date, none, isFull⟩
  else do
    let time ← timeAt rest
    some ⟨date, some time, isFull⟩

/-- Whether a plain scalar with this text is a date or a moment. -/
def isStamp (text : Text) : Bool :=
  match Stamp.ofText? text with
  | some stamp => stamp.isFull || stamp.time.isSome
  | none => false

/-! What there is in the calendar -/

def isLeapYear (year : Nat) : Bool :=
  year % 4 = 0 && (year % 100 != 0 || year % 400 = 0)

def daysIn (year month : Nat) : Nat :=
  if month = 2 then if isLeapYear year then 29 else 28
  else if month = 4 || month = 6 || month = 9 || month = 11 then 30
  else 31

def Date.fault? (date : Date) : Option Fault :=
  if date.year = 0 then some (.yearOutOfRange date.year)
  else if date.month = 0 || 12 < date.month then some .monthOutOfRange
  else if date.day = 0 || daysIn date.year date.month < date.day then some .dayOutOfRange
  else none

def secondsPerDay : Int := 86400

/-- What is wrong with the offset of a time. -/
def Time.offsetFault? (time : Time) : Option Fault :=
  (time.offset.filter fun seconds => secondsPerDay ≤ seconds.natAbs).map .offsetOutOfRange

def Time.fault? (time : Time) : Option Fault :=
  if 23 < time.hour then some .hourOutOfRange
  else if 59 < time.minute then some .minuteOutOfRange
  else if 59 < time.second then some .secondOutOfRange
  else none

/-- What keeps a stamp from being a day or a moment: first its offset, then its date. -/
def Stamp.fault? (stamp : Stamp) : Option Fault :=
  (stamp.time.bind (·.offsetFault?)).or (stamp.date.fault?.or (stamp.time.bind (·.fault?)))

/-! Comparing -/

/-- The number of days before a date since the first one of the calendar. -/
def Date.ordinal (date : Date) : Nat :=
  let years := date.year - 1
  let before := 365 * years + years / 4 - years / 100 + years / 400
  let months := (List.range (date.month - 1)).map fun month => daysIn date.year (month + 1)
  months.foldl Nat.add before + date.day

/-- The microseconds that a moment is away from the start of the calendar, by its own clock less its
offset. -/
def microsecondsAt (date : Date) (time : Time) : Int :=
  let seconds : Int :=
    date.ordinal * secondsPerDay + time.hour * 3600 + time.minute * 60 + time.second
      - time.offset.getD 0
  seconds * 1000000 + time.microsecond

/-- Whether two moments are one. A moment with an offset is none without. -/
def isSameMoment (date : Date) (time : Time) (otherDate : Date) (otherTime : Time) : Bool :=
  time.offset.isSome == otherTime.offset.isSome
    && microsecondsAt date time == microsecondsAt otherDate otherTime

/-! Showing -/

def Date.toText (date : Date) : Text :=
  Text.padded 10 4 date.year ++ "-" ++ Text.padded 10 2 date.month ++ "-"
    ++ Text.padded 10 2 date.day

/-- An offset as hours and minutes with a sign. -/
def offsetText (seconds : Int) : Text :=
  let minutes := seconds.natAbs / 60
  (if seconds < 0 then "-" else "+") ++ Text.padded 10 2 (minutes / 60) ++ ":"
    ++ Text.padded 10 2 (minutes % 60)

def Time.toText (time : Time) : Text :=
  Text.padded 10 2 time.hour ++ ":" ++ Text.padded 10 2 time.minute ++ ":"
    ++ Text.padded 10 2 time.second
    ++ (if time.microsecond = 0 then [] else '.' :: Text.padded 10 6 time.microsecond)
    ++ ((time.offset.map offsetText).getD [])

def momentText (date : Date) (time : Time) : Text :=
  date.toText ++ " " ++ time.toText

def numbersText (numbers : List Nat) : Text :=
  Text.join ", " (numbers.map Text.ofNat)

def Date.fields (date : Date) : List Nat :=
  [date.year, date.month, date.day]

def Date.literal (date : Date) : Text :=
  "datetime.date(" ++ numbersText date.fields ++ ")"

/-- A difference of times as days and the seconds beyond them, of which those that are zero are
left out. -/
def differenceLiteral (seconds : Int) : Text :=
  let days := seconds.fdiv secondsPerDay
  let rest := seconds.fmod secondsPerDay
  let parts : List Text :=
    (if days = 0 then [] else ["days=" ++ Text.ofInt days]) ++
      (if rest = 0 then [] else ["seconds=" ++ Text.ofInt rest])
  "datetime.timedelta(" ++ (if parts.isEmpty then ['0'] else Text.join ", " parts) ++ ")"

def zoneLiteral (seconds : Int) : Text :=
  if seconds = 0 then "datetime.timezone.utc"
  else "datetime.timezone(" ++ differenceLiteral seconds ++ ")"

/-- The fields of a time that a literal shows: those at its end that are zero are left out. -/
def Time.fields (time : Time) : List Nat :=
  [time.hour, time.minute] ++
    (if time.microsecond != 0 then [time.second, time.microsecond]
    else if time.second != 0 then [time.second]
    else [])

def momentLiteral (date : Date) (time : Time) : Text :=
  "datetime.datetime(" ++ numbersText (date.fields ++ time.fields)
    ++ ((time.offset.map fun seconds => ", tzinfo=" ++ zoneLiteral seconds).getD []) ++ ")"

end ProjectSurvey.Yaml
