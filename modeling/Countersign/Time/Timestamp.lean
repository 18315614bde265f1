import Countersign.Json.Numeral
import Countersign.Time.Instant

/-!
# Timestamps

A timestamp spells an instant as `YYYY-MM-DDThh:mm:ss` with an optional fraction and the offset of a
time zone.  Writing uses the offset `Z` and as many groups of three fraction digits as the instant
needs.
-/

namespace Countersign
namespace Timestamp

open Json (Digit)

/-- Reads exactly `count` digits as a number. -/
def readDigits? : (count : Nat) → List Char → Option (List Digit × List Char)
  | 0, rest => some ([], rest)
  | _ + 1, [] => none
  | count + 1, character :: rest => do
    let digit ← Digit.ofChar? character
    let (digits, rest) ← readDigits? count rest
    return (digit :: digits, rest)

/-- Reads a number of exactly `count` digits. -/
def readNumber? (count : Nat) (text : List Char) : Option (Nat × List Char) :=
  (readDigits? count text).map fun (digits, rest) => (Digit.value digits, rest)

/-- Reads a given character. -/
def readMark? (mark : Char) : List Char → Option (List Char)
  | [] => none
  | character :: rest => if character = mark then some rest else none

/-- Reads a date. -/
def readDate? (text : List Char) : Option (Calendar.Date × List Char) := do
  let (year, text) ← readNumber? 4 text
  let text ← readMark? '-' text
  let (month, text) ← readNumber? 2 text
  let text ← readMark? '-' text
  let (day, text) ← readNumber? 2 text
  return (⟨year, month, day⟩, text)

/-- Reads the mark between date and time. -/
def readSeparator? (text : List Char) : Option (List Char) :=
  match readMark? 'T' text with
  | some rest => some rest
  | none =>
    match readMark? 't' text with
    | some rest => some rest
    | none => readMark? ' ' text

/-- Reads hours, minutes and seconds. -/
def readTime? (text : List Char) : Option ((Nat × Nat × Nat) × List Char) := do
  let (hour, text) ← readNumber? 2 text
  let text ← readMark? ':' text
  let (minute, text) ← readNumber? 2 text
  let text ← readMark? ':' text
  let (second, text) ← readNumber? 2 text
  return ((hour, minute, second), text)

/-- Reads all digits that a text begins with. -/
def readAllDigits : List Char → List Digit × List Char
  | [] => ([], [])
  | character :: rest =>
    match Digit.ofChar? character with
    | some digit => let (digits, rest) := readAllDigits rest; (digit :: digits, rest)
    | none => ([], character :: rest)

/-- The digits of a fraction of a second that count. -/
def fractionDigits : Nat := 9

/-- The nanoseconds that the digits behind the point denote; further digits are cut off. -/
def fraction (digits : List Digit) : Nat :=
  Digit.value (digits.take fractionDigits) * Nat.pow 10 (fractionDigits - digits.length)

/-- Reads an optional fraction of a second as nanoseconds. -/
def readFraction? (text : List Char) : Option (Nat × List Char) :=
  match readMark? '.' text with
  | none => some (0, text)
  | some rest =>
    match readAllDigits rest with
    | ([], _) => none
    | (digits, rest) => some (fraction digits, rest)

/-- Reads hours and minutes of an offset. -/
def readOffsetSize? (text : List Char) : Option (Nat × List Char) := do
  let (hours, text) ← readNumber? 2 text
  let text ← readMark? ':' text
  let (minutes, text) ← readNumber? 2 text
  if hours < 24 ∧ minutes < 60 then return (hours * 60 + minutes, text) else none

/-- Reads the offset of a time zone from universal time, in minutes. -/
def readOffset? : List Char → Option (Int × List Char)
  | [] => none
  | mark :: rest =>
    if mark = 'Z' ∨ mark = 'z' then some (0, rest)
    else if mark = '+' then (readOffsetSize? rest).map fun (size, rest) => ((size : Int), rest)
    else if mark = '-' ∨ mark = '\u2212' then
      (readOffsetSize? rest).map fun (size, rest) => (-(size : Int), rest)
    else none

/-- The instant that the characters of a timestamp denote. -/
def readChars? (text : List Char) : Option Instant := do
  let (date, text) ← readDate? text
  let text ← readSeparator? text
  let ((hour, minute, second), text) ← readTime? text
  let (nanos, text) ← readFraction? text
  let (offset, text) ← readOffset? text
  if text.isEmpty then
    let instant ← Instant.ofParts? date hour minute second nanos
    return instant.addMinutes (-offset)
  else none

/-- The instant that a timestamp denotes. -/
def read? (text : String) : Option Instant :=
  readChars? text.toList

/-- The last `width` decimal digits of a number, with leading zeros. -/
def writeDigits : (width value : Nat) → List Char
  | 0, _ => []
  | width + 1, value => writeDigits width (value / 10) ++ [Nat.digitChar (value % 10)]

/-- A year: four digits, or a sign and at least four digits outside the years that four digits can
spell. -/
def writeYear (year : Int) : List Char :=
  if 0 ≤ year ∧ year ≤ 9999 then writeDigits 4 year.toNat
  else
    (if year < 0 then '-' else '+') ::
      writeDigits (max 4 (Nat.toDigits 10 year.natAbs).length) year.natAbs

/-- A fraction of a second in as few groups of three digits as spell it exactly. -/
def writeFraction (nanos : Nat) : List Char :=
  if nanos = 0 then []
  else if nanos % 1000000 = 0 then '.' :: writeDigits 3 (nanos / 1000000)
  else if nanos % 1000 = 0 then '.' :: writeDigits 6 (nanos / 1000)
  else '.' :: writeDigits 9 nanos

/-- The characters of the timestamp of an instant. -/
def writeChars (instant : Instant) : List Char :=
  let date := Calendar.dateOfDays (instant.seconds / 86400)
  let ofDay := (instant.seconds % 86400).toNat
  let second := ofDay % 60 + instant.nanos / nanosPerSecond
  writeYear date.year ++ ['-'] ++ writeDigits 2 date.month ++ ['-'] ++ writeDigits 2 date.day ++
    ['T'] ++ writeDigits 2 (ofDay / 3600) ++ [':'] ++ writeDigits 2 (ofDay / 60 % 60) ++ [':'] ++
    writeDigits 2 second ++ writeFraction (instant.nanos % nanosPerSecond) ++ ['Z']

/-- The timestamp of an instant in universal time. -/
def write (instant : Instant) : String :=
  String.ofList (writeChars instant)

end Timestamp
end Countersign
