import MessageBus.Text.Blank
import MessageBus.Text.Decimal
import MessageBus.Time.Calendar
import MessageBus.Time.Instant
/-!
Date and time text. Instants are written in universal time with the fewest of 0, 3, 6 or 9 fraction
digits that are exact; a year outside 0 to 9999 carries a sign. Reading takes any offset and is
lenient about digits and blanks: fields may be short of digits, blanks may stand before a field or a
mark, and a blank may stand for the `T`.
-/

set_option autoImplicit false
set_option relaxedAutoImplicit false

namespace MessageBus.Rfc3339

open Decimal

def yearText (year : Int) : List Char :=
  if 0 ≤ year ∧ year ≤ 9999 then padded 4 year.toNat
  else if year < 0 then '-' :: padded 4 year.natAbs
  else '+' :: padded 4 year.toNat

def fractionText (nanos : Nat) : List Char :=
  if nanos = 0 then []
  else if nanos % 1000000 = 0 then '.' :: padded 3 (nanos / 1000000)
  else if nanos % 1000 = 0 then '.' :: padded 6 (nanos / 1000)
  else '.' :: padded 9 nanos

/-- The text of an instant, with `zone` as the name of universal time. -/
def write (t : Instant) (zone : String) : String :=
  let date := Date.ofDays (t.seconds / 86400)
  let second := (t.seconds % 86400).toNat
  let leap := t.nanos / Instant.nanosPerSecond
  String.ofList <|
    yearText date.year ++ '-' :: padded 2 date.month ++ '-' :: padded 2 date.day
      ++ 'T' :: padded 2 (second / 3600) ++ ':' :: padded 2 (second / 60 % 60)
      ++ ':' :: padded 2 (second % 60 + leap) ++ fractionText (t.nanos % Instant.nanosPerSecond)
      ++ zone.toList

def text (t : Instant) : String := write t "Z"

/-- Reads one to `most` digits, and leaves the rest. -/
def digits? (most : Nat) (s : List Char) : Option (List Char × List Char) :=
  let run := (s.take most).takeWhile isDigit
  if run = [] then none else some (run, s.drop run.length)

/-- Reads a number of at most two digits after blanks. -/
def field? (s : List Char) : Option (Nat × List Char) := do
  let (run, rest) ← digits? 2 (trimStart s)
  some (value run, rest)

/-- Reads a mark after blanks. -/
def mark? (c : Char) (s : List Char) : Option (List Char) :=
  match trimStart s with
  | d :: rest => if d = c then some rest else none
  | [] => none

/-- Reads a year of at most four digits, or of any number of them after a sign. -/
def year? (s : List Char) : Option (Int × List Char) :=
  match trimStart s with
  | '-' :: rest => do
    let (run, rest) ← digits? rest.length rest
    some (-(value run : Int), rest)
  | '+' :: rest => do
    let (run, rest) ← digits? rest.length rest
    some ((value run : Int), rest)
  | s => do
    let (run, rest) ← digits? 4 s
    some ((value run : Int), rest)

/-- Reads a fraction of a second; digits after the ninth are passed over. -/
def fraction? : List Char → Option (Nat × List Char)
  | '.' :: s => do
    let (run, rest) ← digits? 9 s
    some (value run * Nat.pow 10 (9 - run.length), rest.dropWhile isDigit)
  | s => some (0, s)

/-- Reads an offset from universal time in seconds: `Z`, `UTC`, or a sign, two digits of hours and
two of minutes. -/
def offset? (s : List Char) : Option (Int × List Char) :=
  match s with
  | 'Z' :: rest => some (0, rest)
  | 'z' :: rest => some (0, rest)
  | sign :: rest =>
    if ((s.take 3).map Char.toUpper) = ['U', 'T', 'C'] then some (0, s.drop 3)
    else if sign = '+' ∨ sign = '-' ∨ sign = '\u2212' then
      match rest with
      | a :: b :: rest =>
        match rest.dropWhile fun c ↦ c = ':' || isBlank c with
        | c :: d :: rest =>
          if isDigit a ∧ isDigit b ∧ '0' ≤ c ∧ c ≤ '5' ∧ isDigit d then
            let seconds : Int := value [a, b] * 3600 + value [c, d] * 60
            some (if sign = '+' then seconds else -seconds, rest)
          else none
        | _ => none
      | _ => none
    else none
  | [] => none

/-- The instant of a date and a time of day at an offset. Second sixty is a leap second of any
minute. -/
def instant? (date : Date) (hour minute second nanos : Nat) (offset : Int) : Option Instant :=
  if date.IsValid ∧ hour ≤ 23 ∧ minute ≤ 59 ∧ second ≤ 60 ∧ offset.natAbs < 86400 then
    let leap := if second = 60 then Instant.nanosPerSecond else 0
    let clock : Int := hour * 3600 + minute * 60 + (if second = 60 then 59 else second)
    let lastDay := Instant.maxSeconds / 86400
    let firstDay := Instant.minSeconds / 86400
    if firstDay ≤ date.toDays ∧ date.toDays ≤ lastDay then
      Instant.of? (date.toDays * 86400 + clock - offset) (nanos + leap)
    else none
  else none

def read? (text : String) : Option Instant := do
  let (year, s) ← year? text.toList
  let s ← mark? '-' s
  let (month, s) ← field? s
  let s ← mark? '-' s
  let (day, s) ← field? s
  let s ← match s with
    | c :: s => if c = 'T' ∨ c = 't' ∨ c = ' ' then some s else none
    | [] => none
  let (hour, s) ← field? s
  let s ← mark? ':' s
  let (minute, s) ← field? s
  let s ← mark? ':' s
  let (second, s) ← field? s
  let (nanos, s) ← fraction? s
  let (offset, s) ← offset? (trimStart s)
  if trimStart s = [] then instant? ⟨year, month, day⟩ hour minute second nanos offset else none

end MessageBus.Rfc3339
