import Attestor.Number.Literal

namespace Attestor.Toml

structure Day where
  year : Nat
  month : Nat
  day : Nat
deriving DecidableEq, Repr

structure Clock where
  hour : Nat
  minute : Nat
  second : Nat
  nanosecond : Nat
deriving DecidableEq, Repr

inductive Offset where
  | universal
  | minutes (ahead : Int)
deriving DecidableEq, Repr

inductive Moment where
  | day (day : Day)
  | clock (clock : Clock)
  | both (day : Day) (clock : Clock) (offset : Option Offset)
deriving DecidableEq, Repr

def number? : (width : Nat) → List Char → Option (Nat × List Char)
  | width, input =>
    let digits := input.take width
    if digits.length = width ∧ digits.all Char.isDigit then
      some (Number.ofDigits digits, input.drop width)
    else none

def two? (least greatest : Nat) (input : List Char) : Option (Nat × List Char) := do
  let (n, rest) ← number? 2 input
  if least ≤ n ∧ n ≤ greatest then return (n, rest) else none

def mark? (mark : Char) : List Char → Option (List Char)
  | c :: rest => if c = mark then some rest else none
  | [] => none

namespace Day

def isLeapYear (year : Nat) : Bool :=
  year % 4 == 0 && (year % 100 != 0 || year % 400 == 0)

def daysInMonth (year month : Nat) : Nat :=
  if month = 2 then if isLeapYear year then 29 else 28
  else if month ∈ [4, 6, 9, 11] then 30
  else 31

def read? (input : List Char) : Option (Day × List Char) := do
  let (year, rest) ← number? 4 input
  let (month, rest) ← two? 1 12 (← mark? '-' rest)
  let (day, rest) ← two? 1 (daysInMonth year month) (← mark? '-' rest)
  return ({ year, month, day }, rest)

end Day

namespace Clock

def nanoseconds (digits : List Char) : Nat :=
  Number.ofDigits ((digits ++ List.replicate 9 '0').take 9)

def fraction? : List Char → Option (Nat × List Char)
  | '.' :: rest =>
    match rest.takeWhile Char.isDigit with
    | [] => none
    | digits => some (nanoseconds digits, rest.dropWhile Char.isDigit)
  | input => some (0, input)

def read? (input : List Char) : Option (Clock × List Char) := do
  let (hour, rest) ← two? 0 23 input
  let (minute, rest) ← two? 0 59 (← mark? ':' rest)
  let (second, rest) ← two? 0 60 (← mark? ':' rest)
  let (nanosecond, rest) ← fraction? rest
  return ({ hour, minute, second, nanosecond }, rest)

end Clock

namespace Offset

def hours? (negative : Bool) (input : List Char) : Option (Offset × List Char) := do
  let (hour, rest) ← two? 0 23 input
  let (minute, rest) ← two? 0 59 (← mark? ':' rest)
  return (minutes (Number.applySign negative (60 * hour + minute)), rest)

def read? : List Char → Option (Offset × List Char)
  | 'Z' :: rest | 'z' :: rest => some (universal, rest)
  | '+' :: rest => hours? false rest
  | '-' :: rest => hours? true rest
  | _ => none

end Offset

namespace Moment

def after? (date : Day) : List Char → Option (Moment × List Char)
  | mark :: rest =>
    if mark = 'T' ∨ mark = 't' ∨ mark = ' ' then do
      let (time, rest) ← Clock.read? rest
      match Offset.read? rest with
      | some (offset, rest) => return (both date time (some offset), rest)
      | none => return (both date time none, rest)
    else none
  | [] => none

def read? (input : List Char) : Option (Moment × List Char) :=
  match Day.read? input with
  | some (date, rest) => (after? date rest).or (some (day date, rest))
  | none => (Clock.read? input).map fun (time, rest) => (clock time, rest)

end Moment

def padded (width n : Nat) : String :=
  let digits := Nat.toDigits 10 n
  String.ofList (List.replicate (width - digits.length) '0' ++ digits)

def Day.text (day : Day) : String :=
  padded 4 day.year ++ "-" ++ padded 2 day.month ++ "-" ++ padded 2 day.day

def Clock.text (clock : Clock) : String :=
  let fraction := (padded 9 clock.nanosecond).toList.reverse.dropWhile (· == '0')
  padded 2 clock.hour ++ ":" ++ padded 2 clock.minute ++ ":" ++ padded 2 clock.second ++
    if fraction.isEmpty then "" else "." ++ String.ofList fraction.reverse

def Offset.text : Offset → String
  | universal => "Z"
  | minutes ahead =>
    (if ahead < 0 then "-" else "+") ++ padded 2 (ahead.natAbs / 60) ++ ":" ++
      padded 2 (ahead.natAbs % 60)

def Moment.text : Moment → String
  | day found => found.text
  | clock found => found.text
  | both date time offset =>
    date.text ++ "T" ++ time.text ++ ((offset.map Offset.text).getD "")

end Attestor.Toml
