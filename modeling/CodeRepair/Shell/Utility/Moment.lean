import CodeRepair.Shell.Utility.Basic

/-!
# Moments

A moment is told by the seconds since the first of January 1970.  `date` writes one as a format asks
for it: as a day of the calendar, of a year or of a week, and as a time of the day.
-/

namespace CodeRepair.Shell

open Work

/-- A point in time. -/
structure Moment where
  seconds : Int
  nanoseconds : Nat := 0

/-- A day of the calendar. -/
structure CalendarDay where
  year : Int
  month : Nat
  day : Nat
  deriving DecidableEq, Repr

namespace CalendarDay

/-- The days since the first of January 1970.  Years are counted from March here, so that a leap day is
the last one of its year. -/
def toDays (date : CalendarDay) : Int :=
  let year := if date.month ≤ 2 then date.year - 1 else date.year
  let era := year.fdiv 400
  let yearOfEra := year - era * 400
  let month := (date.month + 9) % 12
  let dayOfYear := (153 * month + 2) / 5 + date.day - 1
  let dayOfEra := yearOfEra * 365 + yearOfEra / 4 - yearOfEra / 100 + dayOfYear
  era * 146097 + dayOfEra - 719468

/-- The day that is so many days behind the first of January 1970. -/
def ofDays (days : Int) : CalendarDay :=
  let days := days + 719468
  let era := days.fdiv 146097
  let dayOfEra := days - era * 146097
  let yearOfEra := (dayOfEra - dayOfEra / 1460 + dayOfEra / 36524 - dayOfEra / 146096) / 365
  let dayOfYear := (dayOfEra - (365 * yearOfEra + yearOfEra / 4 - yearOfEra / 100)).toNat
  let month := (5 * dayOfYear + 2) / 153
  let day := dayOfYear - (153 * month + 2) / 5 + 1
  let year := yearOfEra + era * 400
  if month < 10 then ⟨year, month + 3, day⟩ else ⟨year + 1, month - 9, day⟩

/-- Whether a day is one of the calendar. -/
def isValid (date : CalendarDay) : Bool :=
  ofDays date.toDays == date

/-- The days of a year before a day. -/
def dayOfYear (date : CalendarDay) : Nat :=
  (date.toDays - (⟨date.year, 1, 1⟩ : CalendarDay).toDays).toNat

/-- The day of the week, of which Sunday is the first. -/
def weekday (date : CalendarDay) : Nat :=
  ((date.toDays + 4) % 7).toNat

/-- The year that the week of a day belongs to and the number of the week; a week begins with Monday and
belongs to the year that most of it is in. -/
def weekOfYear (date : CalendarDay) : Int × Nat :=
  let thursday := ofDays (date.toDays - (date.weekday + 6 : Int) % 7 + 3)
  (thursday.year, thursday.dayOfYear / 7 + 1)

end CalendarDay

namespace Moment

/-- The day of a moment. -/
def day (moment : Moment) : CalendarDay :=
  .ofDays (moment.seconds.fdiv 86400)

/-- The seconds since the day of a moment began. -/
def secondOfDay (moment : Moment) : Nat :=
  (moment.seconds.fmod 86400).toNat

/-- The names of the days of a week. -/
def dayNames : List String :=
  ["Sunday", "Monday", "Tuesday", "Wednesday", "Thursday", "Friday", "Saturday"]

/-- The names of the months of a year. -/
def monthNames : List String :=
  ["January", "February", "March", "April", "May", "June", "July", "August", "September", "October",
    "November", "December"]

/-- What a letter of a format stands for. -/
inductive Part
  /-- A number with at least so many digits, filled up with a character. -/
  | number (width : Nat) (filler : Char) (value : Int)
  | text (text : Bytes)
  /-- What another format stands for. -/
  | format (format : String)

/-- What a letter stands for at a moment. -/
def part? (moment : Moment) (letter : UInt8) : Option Part :=
  let day := moment.day
  let second := moment.secondOfDay
  let hour := second / 3600
  let evening := 12 ≤ hour
  let hourOfHalf := (hour + 11) % 12 + 1
  let name := fun (names : List String) (n : Nat) ↦ bytes (names.getD n "")
  match Char.ofNat letter.toNat with
  | '%' => some (.text (bytes "%"))
  | 'n' => some (.text [lineEnd])
  | 't' => some (.text [0x09])
  | 'a' => some (.text ((name dayNames day.weekday).take 3))
  | 'A' => some (.text (name dayNames day.weekday))
  | 'b' | 'h' => some (.text ((name monthNames (day.month - 1)).take 3))
  | 'B' => some (.text (name monthNames (day.month - 1)))
  | 'c' => some (.format "%a %b %e %H:%M:%S %Y")
  | 'C' => some (.number 2 '0' (day.year.fdiv 100))
  | 'd' => some (.number 2 '0' day.day)
  | 'D' | 'x' => some (.format "%m/%d/%y")
  | 'e' => some (.number 2 ' ' day.day)
  | 'F' => some (.format "%Y-%m-%d")
  | 'g' => some (.number 2 '0' (day.weekOfYear.1.fmod 100))
  | 'G' => some (.number 4 '0' day.weekOfYear.1)
  | 'H' => some (.number 2 '0' hour)
  | 'I' => some (.number 2 '0' hourOfHalf)
  | 'j' => some (.number 3 '0' (day.dayOfYear + 1))
  | 'k' => some (.number 2 ' ' hour)
  | 'l' => some (.number 2 ' ' hourOfHalf)
  | 'm' => some (.number 2 '0' day.month)
  | 'M' => some (.number 2 '0' (second / 60 % 60))
  | 'N' => some (.number 9 '0' moment.nanoseconds)
  | 'p' => some (.text (bytes (if evening then "PM" else "AM")))
  | 'P' => some (.text (bytes (if evening then "pm" else "am")))
  | 'q' => some (.number 1 '0' ((day.month - 1) / 3 + 1 : Nat))
  | 'r' => some (.format "%I:%M:%S %p")
  | 'R' => some (.format "%H:%M")
  | 's' => some (.number 1 '0' moment.seconds)
  | 'S' => some (.number 2 '0' (second % 60))
  | 'T' | 'X' => some (.format "%H:%M:%S")
  | 'u' => some (.number 1 '0' ((day.weekday + 6) % 7 + 1 : Nat))
  | 'U' => some (.number 2 '0' ((day.dayOfYear + 7 - day.weekday) / 7 : Nat))
  | 'V' => some (.number 2 '0' day.weekOfYear.2)
  | 'w' => some (.number 1 '0' day.weekday)
  | 'W' => some (.number 2 '0' ((day.dayOfYear + 7 - (day.weekday + 6) % 7) / 7 : Nat))
  | 'y' => some (.number 2 '0' (day.year.fmod 100))
  | 'Y' => some (.number 4 '0' day.year)
  | 'z' => some (.text (bytes "+0000"))
  | 'Z' => some (.text (bytes "UTC"))
  | _ => none

/-- A text in the case that flags ask for. -/
def inCase (flags : Bytes) (letter : UInt8) (text : Bytes) : Bytes :=
  if flags.contains (byte '^') then text.map toCapital
  else if flags.contains (byte '#') then
    (if letter = byte 'p' || letter = byte 'Z' then text.map toSmall else text.map toCapital)
  else text

/-- The filler that flags ask for, if they do; there may be none at all. -/
def fillerOf? (flags : Bytes) : Option (Option Char) :=
  (flags.reverse.find? (bytes "-_0+").contains).map fun b ↦
    if b = byte '-' then none else if b = byte '_' then some ' ' else some '0'

/-- A moment as a format asks for it. -/
def write (moment : Moment) : Nat → Bytes → Bytes
  | 0, _ => []
  | _, [] => []
  | fuel + 1, b :: rest =>
    if b = byte '%' then
      let flags := rest.takeWhile (bytes "-_0^#+").contains
      let after := rest.drop flags.length
      let digits := after.takeWhile isDecimal
      let width := number 10 digits
      let after := (after.drop digits.length).dropWhile (bytes "EO").contains
      let colons := after.takeWhile (· == byte ':')
      match after.drop colons.length with
      | [] => b :: rest
      | letter :: after =>
        let shown := match colons.length, moment.part? letter with
          | 0, some part =>
            match part with
            | .number least filler value =>
              let filler? := (fillerOf? flags).getD (some filler)
              let width := if digits.isEmpty then least else width
              let digits := ofNatural value.natAbs
              let sign := if value < 0 then [byte '-'] else []
              if letter = byte 'N' then
                (padLeft 9 (byte '0') digits).take width
              else match filler? with
                | none => sign ++ digits
                | some ' ' => padLeft width (byte ' ') (sign ++ digits)
                | some _ => sign ++ padLeft (width - sign.length) (byte '0') digits
            | .text text =>
              let filler := if (fillerOf? flags) = some (some '0') then byte '0' else byte ' '
              padLeft width filler (inCase flags letter text)
            | .format format => padLeft width (byte ' ') (inCase flags letter (write moment fuel (bytes format)))
          | colons, _ =>
            if letter = byte 'z' && 0 < colons && colons < 4 then
              bytes ((["+00:00", "+00:00:00", "+00"] : List String).getD (colons - 1) "")
            else b :: rest.take (rest.length - after.length)
        shown ++ write moment fuel after
    else b :: write moment fuel rest

/-- The time of a day in seconds, from its parts. -/
def timeOfDay? (text : Bytes) : Option Nat :=
  let parts := cutAt (byte ':') text
  let isPart := fun (bound : Nat) (part : Bytes) ↦
    0 < part.length && part.length ≤ 2 && part.all isDecimal && number 10 part < bound
  match parts with
  | [hour, minute] =>
    if isPart 24 hour && isPart 60 minute then some (3600 * number 10 hour + 60 * number 10 minute) else none
  | [hour, minute, second] =>
    if isPart 24 hour && isPart 60 minute && isPart 60 second then
      some (3600 * number 10 hour + 60 * number 10 minute + number 10 second)
    else none
  | _ => none

/-- The moment that a text tells, either in seconds or as a day with or without a time. -/
def read? (text : Bytes) : Option Moment :=
  let text := (text.dropWhile isWhite).reverse.dropWhile isWhite |>.reverse
  match text with
  | [] => none
  | b :: rest =>
    if b = byte '@' then
      let whole := rest.takeWhile (· != byte '.')
      let places := rest.drop (whole.length + 1)
      if places.all isDecimal && (whole.length = rest.length || !places.isEmpty) then
        (integer? whole).map fun seconds ↦
          let nanoseconds := number 10 ((places ++ List.replicate 9 (byte '0')).take 9)
          if seconds < 0 && 0 < nanoseconds then ⟨seconds - 1, 1000000000 - nanoseconds⟩
          else ⟨seconds, nanoseconds⟩
      else none
    else
      let isBreak := fun (b : UInt8) ↦ b == byte ' ' || b == byte 'T'
      let dayText := text.takeWhile fun b ↦ !isBreak b
      let time := (text.drop dayText.length).dropWhile isBreak
      let time := ((["Z", "UTC", "GMT", "+00:00", "+0000"] : List String).find? fun zone ↦
        (bytes zone).isSuffixOf time).elim time fun zone ↦
          ((time.take (time.length - zone.length)).reverse.dropWhile isWhite).reverse
      let second? := if time.isEmpty then some 0 else timeOfDay? time
      match cutAt (byte '-') dayText, second? with
      | [year, month, day], some second =>
        if [year, month, day].all (fun part ↦ !part.isEmpty && part.all isDecimal) && year.length = 4 then
          let date : CalendarDay := ⟨number 10 year, number 10 month, number 10 day⟩
          if 1 ≤ date.month && date.month ≤ 12 && 1 ≤ date.day && date.isValid then
            some ⟨date.toDays * 86400 + second, 0⟩
          else none
        else none
      | _, _ => none

end Moment

/-- The formats of the days and times of a standard, by how exact they are. -/
def exactFormats : List (String × String) :=
  [("date", "%Y-%m-%d"), ("hours", "%Y-%m-%dT%H%:z"), ("minutes", "%Y-%m-%dT%H:%M%:z"),
    ("seconds", "%Y-%m-%dT%H:%M:%S%:z"), ("ns", "%Y-%m-%dT%H:%M:%S,%N%:z")]

/-- A value is none of those that an option may have. -/
def Work.refuseValue {α : Type} (option : String) (value : Bytes) (allowed : List String) : Work α := do
  warn (bytes "invalid argument " ++ quotedText value ++ bytes " for " ++ quotedText (bytes option))
  putError (bytes "Valid arguments are:\n" ++ allowed.flatMap fun word ↦
    bytes "  - " ++ quotedText (bytes word) ++ [lineEnd])
  putError (bytes "Try \x27" ++ (← called) ++ bytes " --help\x27 for more information.\n")
  quit 1

/-- A moment as a format asks for it.  Without one, it is told in full; the moment of the call is not
known. -/
def date : Utility := do
  let options ← options [taking 'd' "date", taking 'f' "file", ⟨some 'I', "iso-8601", .perhaps⟩,
    flag 'R' "rfc-email", ⟨none, "rfc-3339", .value⟩, taking 'r' "reference", taking 's' "set",
    flag 'u' "universal", long "utc", long "debug"] 1 false
  if let some extra := options.operands[1]? then
    misuse 1 (bytes "extra operand " ++ quotedText extra)
  let exact := fun (value : Bytes) (inTwo : Bool) ↦
    (exactFormats.find? fun entry ↦ value.isPrefixOf (bytes entry.1) && !value.isEmpty).map fun entry ↦
      (bytes entry.2).map fun b ↦ if inTwo && b = byte 'T' then byte ' ' else b
  let format ← match options.operands.head?, options.last? ["I", "R", "rfc-3339"] with
    | some operand, _ =>
      if operand.head? = some (byte '+') then pure (operand.drop 1)
      else fail 1 (bytes "invalid date " ++ quotedText operand)
    | none, some "I" =>
      let value := (options.value? "I").getD []
      match if value.isEmpty then some (bytes "%Y-%m-%d") else exact value false with
      | some format => pure format
      | none => refuseValue "--iso-8601" value ["hours", "minutes", "date", "seconds", "ns"]
    | none, some "R" => pure (bytes "%a, %d %b %Y %H:%M:%S %z")
    | none, some _ =>
      let value := (options.value? "rfc-3339").getD []
      match exact value true with
      | some format => pure (if value = bytes "ns" then format.map fun b ↦ if b = byte ',' then byte '.' else b
          else format)
      | none => refuseValue "--rfc-3339" value ["date", "seconds", "ns"]
    | none, none => pure (bytes "%a %b %e %H:%M:%S %Z %Y")
  if let some path := options.value? "r" then
    if let some fault ← missing? path then fail 1 (namedIn path ++ bytes ": " ++ Text.encode fault.reason)
  let moment ← match options.value? "d" with
    | some text =>
      match Moment.read? text with
      | some moment => pure moment
      | none => fail 1 (bytes "invalid date " ++ quotedText text)
    | none => pure ⟨0, 0⟩
  putLine (moment.write (2 * format.length + 40) format)

end CodeRepair.Shell
