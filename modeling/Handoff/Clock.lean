import Handoff.Decimal.Numeral
import Handoff.Text.Blank

/-!
# Dates and times

Dates like `12/31/2023` and times like `11:59 PM`, as people write them, in the form `2023-12-31`
and `23:59:00` that widgets expect.  No field is checked for its range, and a field that is no
number is kept as it is.
-/

namespace Handoff.Clock
open Decimal (word32?)
open Text (isBlank trim words)

/-- The number in a field. -/
def field? (field : List Char) : Option Nat :=
  word32? (trim field)

/-- `n` with at least two digits. -/
def twoDigits (n : Nat) : List Char :=
  if n < 10 then '0' :: Nat.toDigits 10 n else Nat.toDigits 10 n

/-- A field with at least two digits if it is a number. -/
def padded (field : List Char) : List Char :=
  match field? field with
  | some n => twoDigits n
  | none => trim field

/-- The hour of the day, for an hour in one half of it. -/
def dayHour (period : Option (List Char)) (hour : Nat) : Nat :=
  if period = some ['p', 'm'] && hour < 12 then hour + 12
  else if period = some ['a', 'm'] && hour = 12 then 0
  else hour

/-- A time of the form `H:M` or `H:M:S` with an optional half of the day behind it. -/
def isoTime (time : List Char) : List Char :=
  let parts := words time
  let period := parts[1]?.map (·.map Char.toLower)
  let fields := (parts[0]?.getD []).splitOn ':'
  let hours := fields[0]?.getD []
  let hour := match field? hours with
    | some h => twoDigits (dayHour period h)
    | none => padded hours
  hour ++ ':' :: padded (fields[1]?.getD []) ++ ':' :: padded (fields[2]?.getD ['0'])

/-- A date of the form `M/D/Y`. -/
def isoDate (date : List Char) : List Char :=
  let fields := (trim date).splitOn '/'
  let years := fields[2]?.getD []
  let year := match field? years with
    | some y => Nat.toDigits 10 y
    | none => padded years
  year ++ '-' :: padded (fields[0]?.getD []) ++ '-' :: padded (fields[1]?.getD [])

/-- Puts a character in front of the first of several texts. -/
def consFirst (c : Char) : List (List Char) → List (List Char)
  | [] => [[c]]
  | f :: fs => (c :: f) :: fs

/-- The texts between separators, each of which is a run of blanks with or without a comma in front;
`inside` a separator blanks are passed over. -/
def splitSeparators (inside : Bool) : List Char → List (List Char)
  | [] => [[]]
  | c :: cs =>
    if isBlank c then
      if inside then splitSeparators true cs else [] :: splitSeparators true cs
    else if c = ',' && cs.head?.any isBlank then [] :: splitSeparators true cs
    else consFirst c (splitSeparators false cs)

/-- A date and a time with a separator between them. -/
def isoDateTime (text : List Char) : List Char :=
  match splitSeparators false (trim text) with
  | [] => []
  | date :: time => isoDate date ++ 'T' :: isoTime ([' '].intercalate time)

end Handoff.Clock
