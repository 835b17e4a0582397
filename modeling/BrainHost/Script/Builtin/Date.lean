import BrainHost.Script.Evaluate
import BrainHost.Script.Builtin.Primitive

/-! # `Date`

Dates count milliseconds from the start of 1970. There is one time zone, and runs are repeatable:
the clock stands still. -/

namespace BrainHost.Script

open Act

def dayLength : Int := 86400000

/-- The number of the day of a date from 1970 on; months count from 0 and may exceed a year. -/
def dayOf (year month day : Int) : Int :=
  let y := year + month.fdiv 12
  let m := month.fmod 12
  -- Years that start in March put the leap day last.
  let y := if m < 2 then y - 1 else y
  let era := y.fdiv 400
  let yearOfEra := y.fmod 400
  let monthFromMarch := (m + 10).fmod 12
  let dayOfYear := (153 * monthFromMarch + 2) / 5
  era * 146097 + yearOfEra * 365 + yearOfEra / 4 - yearOfEra / 100 + dayOfYear - 719468 + day - 1

structure DateParts where
  year : Int
  month : Int
  date : Int
  hours : Int
  minutes : Int
  seconds : Int
  milliseconds : Int
  weekday : Int

def DateParts.of (t : Int) : DateParts :=
  let days := t.fdiv dayLength
  let rest := t.fmod dayLength
  let z := days + 719468
  let era := z.fdiv 146097
  let dayOfEra := z.fmod 146097
  let yearOfEra := (dayOfEra - dayOfEra / 1460 + dayOfEra / 36524 - dayOfEra / 146096) / 365
  let dayOfYear := dayOfEra - (365 * yearOfEra + yearOfEra / 4 - yearOfEra / 100)
  let m := (5 * dayOfYear + 2) / 153
  let month := if m < 10 then m + 2 else m - 10
  { year := yearOfEra + era * 400 + (if month ≤ 1 then 1 else 0)
    month
    date := dayOfYear - (153 * m + 2) / 5 + 1
    hours := rest / 3600000
    minutes := rest / 60000 % 60
    seconds := rest / 1000 % 60
    milliseconds := rest % 1000
    weekday := (days + 4).fmod 7 }

/-- The time of parts, of which every one may exceed its range. -/
def timeOf (year month date hours minutes seconds milliseconds : Int) : Int :=
  dayOf year month date * dayLength + hours * 3600000 + minutes * 60000 + seconds * 1000 + milliseconds

def clipTime (x : Float) : Float := if x.isFinite && x.abs ≤ 8.64e15 then intFloat (toInteger x) else nan

def zeroPadded (width : Nat) (n : Int) : String :=
  let s := toString n.natAbs
  (if n < 0 then "-" else "") ++ "".pushn '0' (width - s.length) ++ s

/-- The names of the days of a week, from Sunday on. -/
def weekdays : List String := ["Sun", "Mon", "Tue", "Wed", "Thu", "Fri", "Sat"]

def months : List String :=
  ["Jan", "Feb", "Mar", "Apr", "May", "Jun", "Jul", "Aug", "Sep", "Oct", "Nov", "Dec"]

namespace DateParts

def dayName (p : DateParts) : String := weekdays.getD p.weekday.toNat ""

def monthName (p : DateParts) : String := months.getD p.month.toNat ""

def clock (p : DateParts) : String :=
  zeroPadded 2 p.hours ++ ":" ++ zeroPadded 2 p.minutes ++ ":" ++ zeroPadded 2 p.seconds

def dayText (p : DateParts) : String :=
  p.dayName ++ " " ++ p.monthName ++ " " ++ zeroPadded 2 p.date ++ " " ++ zeroPadded 4 p.year

def isoText (p : DateParts) : String :=
  let year :=
    if 0 ≤ p.year && p.year ≤ 9999 then zeroPadded 4 p.year
    else (if p.year < 0 then "-" else "+") ++ zeroPadded 6 p.year.natAbs
  year ++ "-" ++ zeroPadded 2 (p.month + 1) ++ "-" ++ zeroPadded 2 p.date ++ "T" ++ p.clock ++ "."
    ++ zeroPadded 3 p.milliseconds ++ "Z"

end DateParts

/-! ## Reading dates -/

/-- Reads digits, between a least and a greatest count. -/
def readCount (least most : Nat) (cs : List Char) : Option (Int × List Char) :=
  let ds := (cs.takeWhile Char.isDigit).take most
  if ds.length < least then none
  else some (ds.foldl (fun (n : Int) c => n * 10 + (c.toNat - '0'.toNat : Nat)) 0, cs.drop ds.length)

/-- Reads a difference of time zones in minutes; what follows must be the end. -/
def readZone (cs : List Char) : Option Int :=
  match cs with
  | [] => some 0
  | ['Z'] => some 0
  | sign :: rest =>
    if sign ≠ '+' && sign ≠ '-' then none
    else
      match readCount 2 2 rest with
      | some (h, rest) =>
        let rest := if rest.head? = some ':' then rest.drop 1 else rest
        match readCount 2 2 rest with
        | some (m, []) => some ((if sign = '-' then -1 else 1) * (h * 60 + m))
        | _ => none
      | none => none

/-- Reads the time of a day and the zone after it. -/
def readClock (cs : List Char) : Option (Int × Int) := do
  let (h, rest) ← readCount 2 2 cs
  let (m, rest) ← readCount 2 2 (← expectChar ':' rest)
  let (s, ms, rest) ← match rest with
    | ':' :: rest => do
      let (s, rest) ← readCount 2 2 rest
      match rest with
      | '.' :: rest => do
        let (_, after) ← readCount 1 9 rest
        let digits := (rest.takeWhile Char.isDigit).take 3
        let ms := digits.foldl (fun (n : Int) c => n * 10 + (c.toNat - '0'.toNat : Nat)) 0
        some (s, ms * Nat.pow 10 (3 - digits.length), after)
      | rest => some (s, 0, rest)
    | rest => some ((0 : Int), (0 : Int), rest)
  let zone ← readZone rest
  if h < 25 && m < 60 && s < 60 then some (h * 3600000 + m * 60000 + s * 1000 + ms, zone) else none
where
  expectChar (c : Char) : List Char → Option (List Char)
    | d :: rest => if c = d then some rest else none
    | [] => none

def readIsoDate (cs : List Char) : Option Int := do
  let (year, rest) ← match cs with
    | '+' :: rest => readCount 6 6 rest
    | '-' :: rest => (readCount 6 6 rest).map fun (y, rest) => (-y, rest)
    | cs => readCount 4 4 cs
  let (month, rest) ← optionalPart rest
  let (date, rest) ← optionalPart rest
  if month < 1 || 12 < month || date < 1 || 31 < date then none
  else
    let day := dayOf year (month - 1) date * dayLength
    match rest with
    | [] => some day
    | sep :: rest =>
      if sep = 'T' || sep = ' ' then do
        let (clock, zone) ← readClock rest
        some (day + clock - zone * 60000)
      else none
where
  /-- Reads a month or a day, which may be left out. -/
  optionalPart : List Char → Option (Int × List Char)
    | '-' :: rest => readCount 2 2 rest
    | rest => some (1, rest)

/-- Reads a date in the format that dates are written in. -/
def readNamedDate (text : String) : Option Int := do
  let words := ((text.map fun c => if c = ',' then ' ' else c).splitOn " ").filter (· ≠ "")
  let words := if weekdays.contains (words.headD "") then words.drop 1 else words
  let (month, date, rest) ← match words with
    | a :: b :: rest =>
      if months.contains a then some (months.idxOf a, b, rest)
      else if months.contains b then some (months.idxOf b, a, rest)
      else none
    | _ => none
  let (date, _) ← readCount 1 2 date.toList
  let (year, rest) ← match rest with
    | y :: rest => (readCount 1 6 y.toList).map fun (n, _) => (n, rest)
    | [] => none
  let day := dayOf year month date * dayLength
  match rest with
  | [] => some day
  | clock :: zone => do
    let zone := String.ofList ((String.join zone).toList.filter fun c => !c.isAlpha)
    let (time, _) ← readClock clock.toList
    let zone ← readZone zone.toList
    some (day + time - zone * 60000)

/-- The time that a text writes, if it writes one. -/
def parseDate (s : Str) : Float :=
  let text := s.trim.toText
  match readIsoDate text.toList <|> readNamedDate text with
  | some t => clipTime (intFloat t)
  | none => nan

/-! ## Functions -/

/-- The time of the date that a method is called on. -/
def thisTime (v : Value) : Act Float := do
  match v with
  | .object ref =>
    match (← getObject ref).kind with
    | .date t => pure t
    | _ => typeError "not a Date object"
  | _ => typeError "not a Date object"

/-- A time with some of its parts replaced by arguments, from a part on. -/
def replaceParts (t : Float) (part : DatePart) (xs : List Float) : Float :=
  if t.isNaN && part ≠ .fullYear || xs.isEmpty || xs.any fun x => !x.isFinite then nan
  else
    let p := DateParts.of (toInteger t)
    let ns := xs.map toInteger
    let old := [p.year, p.month, p.date, p.hours, p.minutes, p.seconds, p.milliseconds]
    let (start, count) := match part with
      | .fullYear => (0, 3)
      | .month => (1, 2)
      | .date => (2, 1)
      | .hours => (3, 4)
      | .minutes => (4, 3)
      | .seconds => (5, 2)
      | _ => (6, 1)
    let new := old.zipIdx.map fun (n, i) =>
      if start ≤ i && i < start + min count ns.length then ns.getD (i - start) n else n
    match new with
    | [y, mo, d, h, mi, s, ms] => clipTime (intFloat (timeOf y mo d h mi s ms))
    | _ => nan

/-- The time of a year, a month and further parts. -/
def timeOfArguments (args : Array Value) : Act Float := do
  let xs ← (args.extract 0 7).toList.mapM toNumber
  if xs.isEmpty || xs.any fun x => !x.isFinite then pure nan
  else
    let ns := xs.map toInteger
    let year := ns.getD 0 0
    let year := if 0 ≤ year && year < 100 then year + 1900 else year
    pure (clipTime (intFloat (timeOf year (ns.getD 1 0) (ns.getD 2 1) (ns.getD 3 0) (ns.getD 4 0) (ns.getD 5 0)
      (ns.getD 6 0))))

def dateText (t : Float) (f : DateParts → String) : Value :=
  if t.isNaN then .text "Invalid Date" else .text (f (DateParts.of (toInteger t)))

def fullDateText (p : DateParts) : String := p.dayText ++ " " ++ p.clock ++ " GMT+0000"

def setTimeOf (this : Value) (t : Float) : Act Value := do
  match this with
  | .object ref => setKind ref (.date t)
  | _ => pure ()
  pure (.number t)

/-- The functions of `Date`. -/
def callDate (f : DateFunction) (this : Value) (args : Array Value) (newTarget : Value) : Act Value := do
  let first := argOf args 0
  match f with
  | .construct => do
    if newTarget.isUndefined then pure (dateText 0 fullDateText)
    else
      let t ←
        match args.size with
        | 0 => pure 0
        | 1 => do
          let own ← match first with
            | .object ref =>
              match (← getObject ref).kind with
              | .date t => pure (some t)
              | _ => pure none
            | _ => pure none
          match own with
          | some t => pure t
          | none =>
            match ← toPrimitive first .default with
            | .string s => pure (parseDate s)
            | v => do pure (clipTime (← toNumber v))
        | _ => timeOfArguments args
      let proto ← protoOfNew newTarget Intrinsic.datePrototype.ref
      pure (.object (← newObject { kind := .date t, proto := some proto }))
  | .now => pure (.number 0)
  | .parse => do pure (.number (parseDate (← toStr first)))
  | .utc => do pure (.number (← timeOfArguments args))
  | .get part => do
    let t ← thisTime this
    if t.isNaN then pure (.number nan)
    else
      let p := DateParts.of (toInteger t)
      pure (.number (intFloat (match part with
        | .fullYear => p.year
        | .month => p.month
        | .date => p.date
        | .hours => p.hours
        | .minutes => p.minutes
        | .seconds => p.seconds
        | .milliseconds => p.milliseconds
        | .day => p.weekday)))
  | .set part => do
    let t ← thisTime this
    let xs ← args.toList.mapM toNumber
    setTimeOf this (replaceParts (if t.isNaN && part = .fullYear then 0 else t) part xs)
  | .getTime => do pure (.number (← thisTime this))
  | .setTime => do
    let _ ← thisTime this
    setTimeOf this (clipTime (← toNumber first))
  | .getTimezoneOffset => do
    let t ← thisTime this
    pure (.number (if t.isNaN then nan else 0))
  | .toISOString => do
    let t ← thisTime this
    if t.isNaN then rangeError "Date value is NaN" else pure (dateText t DateParts.isoText)
  | .toJSON => do
    let ref ← toObject this
    match ← toPrimitive (.object ref) .number with
    | .number x => if x.isFinite then callMethod (.object ref) (.text "toISOString") #[] else pure .null
    | _ => callMethod (.object ref) (.text "toISOString") #[]
  | .toString => do pure (dateText (← thisTime this) fullDateText)
  | .toDateString => do pure (dateText (← thisTime this) DateParts.dayText)
  | .toTimeString => do pure (dateText (← thisTime this) fun p => p.clock ++ " GMT+0000")
  | .toUTCString => do
    pure (dateText (← thisTime this) fun p =>
      p.dayName ++ ", " ++ zeroPadded 2 p.date ++ " " ++ p.monthName ++ " " ++ zeroPadded 4 p.year ++ " " ++ p.clock
        ++ " GMT")
  | .toPrimitive => do
    let _ ← insistObject this
    match first with
    | .string s =>
      if s.isText "string" || s.isText "default" then firstPrimitive this ["toString", "valueOf"]
      else if s.isText "number" then firstPrimitive this ["valueOf", "toString"]
      else typeError "invalid hint"
    | _ => typeError "invalid hint"

end BrainHost.Script
