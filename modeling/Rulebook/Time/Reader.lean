import Rulebook.Time.Timestamp
import Rulebook.Text.Blank
import Rulebook.Json.Number

/-!
# Reading instants

The reader is lenient where the writer is strict. A date and a time are parted by `T`, `t` or a
blank; blanks may stand before every number, around the dashes and colons, and at both ends; fields
may have one digit; the year may have a sign and then any number of digits. A fraction keeps nine
digits and drops the rest. The offset is `Z`, `UTC` in any case, or a sign with hours and minutes,
and the instant is carried to UTC. An offset has to be there and is less than a day.
-/

namespace Rulebook.Time

open Rulebook.Text (isBlank trimStart)
open Rulebook.Json.Number (naturalOf)

/-- The leading digits, at most `width` of them and at least one, as a number. -/
def number? (width : Nat) (cs : List Char) : Option (Nat × List Char) :=
  match (cs.take width).takeWhile Char.isDigit with
  | [] => none
  | ds => some (naturalOf ds, cs.drop ds.length)

/-- A number of one or two digits after blanks. -/
def short? (cs : List Char) : Option (Nat × List Char) :=
  number? 2 (trimStart cs)

/-- A year after blanks: up to four digits, or a sign and any number of digits. -/
def year? (cs : List Char) : Option (Int × List Char) :=
  match trimStart cs with
  | '-' :: rest => (number? rest.length rest).map fun (n, rest) => (-Int.ofNat n, rest)
  | '+' :: rest => (number? rest.length rest).map fun (n, rest) => (Int.ofNat n, rest)
  | rest => (number? 4 rest).map fun (n, rest) => (Int.ofNat n, rest)

/-- A mark after blanks. -/
def mark? (c : Char) (cs : List Char) : Option (List Char) :=
  match trimStart cs with
  | d :: rest => if d = c then some rest else none
  | [] => none

/-- The fraction of a second in nanoseconds, if a point is there. -/
def fraction? : List Char → Option (Nat × List Char)
  | '.' :: rest =>
    (number? 9 rest).map fun (n, after) =>
      (n * Nat.pow 10 (9 - (rest.length - after.length)), after.dropWhile Char.isDigit)
  | rest => some (0, rest)

/-- The minutes of an offset, which may follow colons and blanks. -/
def offsetMinutes? (cs : List Char) : Option (Nat × List Char) :=
  match cs.dropWhile fun c => c = ':' || isBlank c with
  | a :: b :: rest =>
    if a.isDigit && b.isDigit && naturalOf [a, b] ≤ 59 then some (naturalOf [a, b], rest) else none
  | _ => none

/-- A signed offset in minutes. -/
def signedOffset? (negative : Bool) : List Char → Option (Int × List Char)
  | a :: b :: rest =>
    if a.isDigit && b.isDigit then
      (offsetMinutes? rest).map fun (minutes, rest) =>
        let total := Int.ofNat (naturalOf [a, b] * 60 + minutes)
        (if negative then -total else total, rest)
    else none
  | _ => none

/-- An offset from UTC in minutes. -/
def offset? (cs : List Char) : Option (Int × List Char) :=
  match cs with
  | u :: t :: c :: rest =>
    if u.toLower = 'u' && t.toLower = 't' && c.toLower = 'c' then some (0, rest) else plain cs
  | cs => plain cs
where
  plain : List Char → Option (Int × List Char)
    | 'Z' :: rest => some (0, rest)
    | 'z' :: rest => some (0, rest)
    | '+' :: rest => signedOffset? false rest
    | '-' :: rest => signedOffset? true rest
    | '−' :: rest => signedOffset? true rest
    | _ => none

/-- The instant of a local date and time at an offset in minutes, less than a day. -/
def toUtc? (date : Date) (hour minute second nano : Nat) (offset : Int) : Option Timestamp :=
  if 1440 ≤ offset.natAbs then none
  else
    let shifted := Int.ofNat (hour * 60 + minute) - offset
    let day? :=
      if shifted < 0 then date.previous? else if 1440 ≤ shifted then date.next? else some date
    day?.bind fun day =>
      let minutes := (shifted % 1440).toNat
      if h : IsClock (minutes / 60) (minutes % 60) second nano then
        some ⟨day, minutes / 60, minutes % 60, second, nano, h⟩
      else none

/-- The instant a text stands for. -/
def Timestamp.parseChars? (cs : List Char) : Option Timestamp := do
  let (year, cs) ← year? cs
  let cs ← mark? '-' cs
  let (month, cs) ← short? cs
  let cs ← mark? '-' cs
  let (day, cs) ← short? cs
  let cs ← between? cs
  let (hour, cs) ← short? cs
  let cs ← mark? ':' cs
  let (minute, cs) ← short? cs
  let cs ← mark? ':' cs
  let (second, cs) ← short? cs
  let (nano, cs) ← fraction? cs
  let (offset, cs) ← offset? (trimStart cs)
  if cs.all isBlank && hour ≤ 23 && minute ≤ 59 then
    let date ← Date.of? year month day
    toUtc? date hour minute second nano offset
  else none
where
  /-- What parts the time from the date. -/
  between? : List Char → Option (List Char)
    | c :: rest => if c = 'T' || c = 't' || c = ' ' then some rest else none
    | [] => none

/-- The instant a text stands for. -/
def Timestamp.parse? (s : String) : Option Timestamp :=
  Timestamp.parseChars? s.toList

end Rulebook.Time
