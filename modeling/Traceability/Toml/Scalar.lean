import Traceability.Text.Hexadecimal
import Traceability.Toml.Value

/-!
Contract: values that are neither texts nor collections.

Owns: truth values, numbers, dates and times.
Does not own: where such a value ends.
-/

namespace Traceability.Toml

open Traceability.Text

/-- The digits of a number without the underscores between them. -/
def groupedDigits? (isDigit : Char → Bool) : List Char → Option (List Char)
  | [] => none
  | [c] => if isDigit c then some [c] else none
  | c :: '_' :: rest =>
      if isDigit c then (groupedDigits? isDigit rest).map (c :: ·) else none
  | c :: next :: rest =>
      if isDigit c then (groupedDigits? isDigit (next :: rest)).map (c :: ·) else none

/-- The value of digits in a base of at most sixteen. -/
def valueOfDigits (base : Nat) (digits : List Char) : Nat :=
  digits.foldl (fun value c => base * value + (hexDigit? c).getD 0) 0

def isDigitOf (base : Nat) (c : Char) : Bool := (hexDigit? c).any (· < base)

/-- Digits without a zero in front of others. -/
def wholePart? (text : List Char) : Option (List Char) :=
  (groupedDigits? (isDigitOf 10) text).filter fun digits =>
    digits.head? ≠ some '0' || digits.length = 1

/-- A sign, which may be left out, and the rest. -/
def splitSign : List Char → Bool × List Char
  | '-' :: rest => (true, rest)
  | '+' :: rest => (false, rest)
  | text => (false, text)

/-- The integers that can be read: those of 64 bits, with or without a sign. -/
def isInRange (value : Int) : Bool :=
  if value < 0 then value.natAbs ≤ Nat.pow 2 63 else value.natAbs < Nat.pow 2 64

def integer? (text : List Char) : Option Int :=
  let value : Option Int :=
    match text with
    | '0' :: 'x' :: rest =>
        (groupedDigits? (isDigitOf 16) rest).map fun digits => valueOfDigits 16 digits
    | '0' :: 'o' :: rest =>
        (groupedDigits? (isDigitOf 8) rest).map fun digits => valueOfDigits 8 digits
    | '0' :: 'b' :: rest =>
        (groupedDigits? (isDigitOf 2) rest).map fun digits => valueOfDigits 2 digits
    | _ =>
        let (negative, digits) := splitSign text
        (wholePart? digits).map fun digits =>
          if negative then -(valueOfDigits 10 digits : Int) else valueOfDigits 10 digits
  value.filter isInRange

/-- Whether a text is a point and digits, or nothing. -/
def isFraction : List Char → Bool
  | [] => true
  | '.' :: digits => (groupedDigits? (isDigitOf 10) digits).isSome
  | _ => false

/-- Whether a text is the sign of an exponent and a number, or nothing. -/
def isExponent : List Char → Bool
  | [] => true
  | 'e' :: rest | 'E' :: rest => (groupedDigits? (isDigitOf 10) (splitSign rest).2).isSome
  | _ => false

/-- The value of digits that may stand in groups. -/
def valueOfGroups (text : List Char) : Nat :=
  valueOfDigits 10 (text.filter (· ≠ '_'))

/-- Whether `digits` times ten to the power of `exponent` is beyond the numbers
of 64 bits, that is, whether it is nearer to 2^1024 than to the largest number
below it, or as near. -/
def isBeyondFloats (digits : Nat) (exponent : Int) : Bool :=
  let size : Int := exponent + (Nat.toDigits 10 digits).length
  let limit := Nat.pow 2 1024 - Nat.pow 2 970
  if digits = 0 || size ≤ 308 then false
  else if 310 ≤ size then true
  else if 0 ≤ exponent then limit ≤ digits * Nat.pow 10 exponent.toNat
  else limit * Nat.pow 10 exponent.natAbs ≤ digits

/-- Whether a text is a number with a point or an exponent, and not too large. -/
def isFloat (text : List Char) : Bool :=
  let (_, number) := splitSign text
  let isExponentSign (c : Char) : Bool := c = 'e' || c = 'E'
  let beforeExponent := number.takeWhile (!isExponentSign ·)
  let whole := beforeExponent.takeWhile (· ≠ '.')
  let fraction := beforeExponent.dropWhile (· ≠ '.')
  let power := number.dropWhile (!isExponentSign ·)
  let (negative, exponent) := splitSign (power.drop 1)
  let places := ((fraction.drop 1).filter (· ≠ '_')).length
  let exponent : Int :=
    (if negative then -(valueOfGroups exponent : Int) else valueOfGroups exponent) - places
  number = "inf".toList || number = "nan".toList ||
    ((number.any fun c => c = '.' || isExponentSign c) && (wholePart? whole).isSome &&
      isFraction fraction && isExponent power &&
      !isBeyondFloats (valueOfGroups (whole ++ fraction.drop 1)) exponent)

/-- A number of exactly `length` digits. -/
def fixedNumber? (length : Nat) (text : List Char) : Option Nat :=
  let digits := text.take length
  if digits.length = length && digits.all Char.isDigit then some (valueOfDigits 10 digits)
  else none

def daysInMonth (year month : Nat) : Nat :=
  if month = 2 then
    if year % 4 = 0 && (year % 100 ≠ 0 || year % 400 = 0) then 29 else 28
  else if [4, 6, 9, 11].contains month then 30
  else 31

/-- Whether the first ten characters are a date. -/
def startsWithDate (text : List Char) : Bool :=
  match fixedNumber? 4 text, fixedNumber? 2 (text.drop 5), fixedNumber? 2 (text.drop 8) with
  | some year, some month, some day =>
      text[4]? = some '-' && text[7]? = some '-' && 1 ≤ month && month ≤ 12 && 1 ≤ day &&
        day ≤ daysInMonth year month
  | _, _, _ => false

/-- What follows the seconds of a time of day, if the text begins with them. -/
def afterSeconds? (text : List Char) : Option (List Char) :=
  if (fixedNumber? 2 text).any (· ≤ 60) then
    match text.drop 2 with
    | '.' :: rest =>
        if rest.head?.any Char.isDigit then some (rest.dropWhile Char.isDigit) else none
    | rest => some rest
  else none

/-- What follows a time of day, if the text begins with one. The seconds may be
left out. -/
def afterTime? (text : List Char) : Option (List Char) :=
  match fixedNumber? 2 text, fixedNumber? 2 (text.drop 3) with
  | some hour, some minute =>
      if text[2]? = some ':' && hour ≤ 23 && minute ≤ 59 then
        match text.drop 5 with
        | ':' :: rest => afterSeconds? rest
        | rest => some rest
      else none
  | _, _ => none

/-- Whether a text is an offset from universal time, or nothing. -/
def isOffset : List Char → Bool
  | [] => true
  | ['Z'] | ['z'] => true
  | sign :: rest =>
      (sign = '+' || sign = '-') && rest.length = 5 && rest[2]? = some ':' &&
        (fixedNumber? 2 rest).any (· ≤ 23) && (fixedNumber? 2 (rest.drop 3)).any (· ≤ 59)

def isDateTime (text : List Char) : Bool :=
  if startsWithDate text then
    match text.drop 10 with
    | [] => true
    | separator :: rest =>
        [' ', 'T', 't'].contains separator && (afterTime? rest).any isOffset
  else afterTime? text = some []

/-- The value that a text without quotes stands for. -/
def scalar? (text : List Char) : Option Value :=
  if text = "true".toList then some (.boolean true)
  else if text = "false".toList then some (.boolean false)
  else
    match integer? text with
    | some value => some (.integer value)
    | none =>
        if isFloat text then some (.float (String.ofList text))
        else if isDateTime text then some (.dateTime (String.ofList text))
        else none

end Traceability.Toml
