import ScopedResources.Document.Value
import ScopedResources.Fraction
import ScopedResources.Toml.Text

/-!
# Numbers, truth values and dates of TOML

A word is a truth value, an integer, a fraction, or a date, a time or both. Low lines may stand
between the digits of numbers. -/

namespace ScopedResources.Toml

open Document (Value)

def isWordChar (c : Char) : Bool :=
  c.isAlphanum || ['_', '+', '-', '.', ':'].contains c

/-- The digits of a number in a base, without the low lines, each of which stands between two
digits. -/
def digits? (base : Nat) : List Char → Option (List Nat)
  | [] => none
  | [c] => (digit? c).map ([·])
  | c :: '_' :: rest => do return (← digit? c) :: (← digits? base rest)
  | c :: rest => do return (← digit? c) :: (← digits? base rest)
where
  /-- The value of a digit of the base. -/
  digit? (c : Char) : Option Nat := (Url.hexDigit? c).filter (· < base)

def valueOf (base : Nat) (digits : List Nat) : Nat :=
  digits.foldl (· * base + ·) 0

/-- The digits of a decimal number that begins with no zero, unless it is zero. -/
def decimalDigits? (s : List Char) : Option (List Nat) :=
  match s with
  | '0' :: _ :: _ => none
  | _ => digits? 10 s

/-- The text without one sign in front, and whether the sign is a minus. -/
def splitSign : List Char → Bool × List Char
  | '-' :: rest => (true, rest)
  | '+' :: rest => (false, rest)
  | s => (false, s)

def integer? (s : List Char) : Option Int :=
  match s with
  | '0' :: 'x' :: rest => (digits? 16 rest).map fun d => valueOf 16 d
  | '0' :: 'o' :: rest => (digits? 8 rest).map fun d => valueOf 8 d
  | '0' :: 'b' :: rest => (digits? 2 rest).map fun d => valueOf 2 d
  | _ =>
    let (isNegative, body) := splitSign s
    (decimalDigits? body).map fun d => if isNegative then -(valueOf 10 d : Int) else valueOf 10 d

/-- Whether a word is a fraction within range. -/
def isFraction (s : List Char) : Bool :=
  let body := (splitSign s).2
  if body = ['i', 'n', 'f'] || body = ['n', 'a', 'n'] then true
  else
    let isExponent := fun c => c = 'e' || c = 'E'
    let number := body.takeWhile fun c => !isExponent c
    let exponent? := match body.dropWhile fun c => !isExponent c with
      | [] => some 0
      | _ :: power =>
        let (isNegative, power) := splitSign power
        (digits? 10 power).map fun d => if isNegative then -(valueOf 10 d : Int) else valueOf 10 d
    let whole := number.takeWhile (· ≠ '.')
    let part? := match number.dropWhile (· ≠ '.') with
      | [] => some []
      | _ :: part => digits? 10 part
    match decimalDigits? whole, part?, exponent? with
    | some whole, some part, some exponent =>
      (body.any fun c => isExponent c || c = '.') &&
        Fraction.isFinite (valueOf 10 (whole ++ part)) (exponent - part.length)
    | _, _, _ => false

/-- A number of a given count of decimal digits, and what follows it. -/
def fixedNumber? (count : Nat) (s : List Char) : Option (Nat × List Char) :=
  let digits := s.take count
  if digits.length = count && digits.all Char.isDigit then
    some (digits.foldl (fun n c => n * 10 + (c.toNat - 48)) 0, s.drop count)
  else none

/-- What follows a given character. -/
def afterChar? (char : Char) : List Char → Option (List Char)
  | c :: rest => if c = char then some rest else none
  | [] => none

def daysOfMonth (year month : Nat) : Nat :=
  if month = 2 then
    if year % 4 = 0 && (year % 100 ≠ 0 || year % 400 = 0) then 29 else 28
  else if [4, 6, 9, 11].contains month then 30
  else 31

def afterDate? (s : List Char) : Option (List Char) := do
  let (year, s) ← fixedNumber? 4 s
  let (month, s) ← fixedNumber? 2 (← afterChar? '-' s)
  let (day, s) ← fixedNumber? 2 (← afterChar? '-' s)
  if 1 ≤ month && month ≤ 12 && 1 ≤ day && day ≤ daysOfMonth year month then some s else none

/-- What follows a time of day; seconds and their parts may be left out. -/
def afterTime? (s : List Char) : Option (List Char) := do
  let (hour, s) ← fixedNumber? 2 s
  let (minute, s) ← fixedNumber? 2 (← afterChar? ':' s)
  if 23 < hour || 59 < minute then none
  match s with
  | ':' :: rest =>
    let (second, s) ← fixedNumber? 2 rest
    if 60 < second then none
    match s with
    | '.' :: part =>
        if part.head?.any Char.isDigit then some (part.dropWhile Char.isDigit) else none
    | s => some s
  | s => some s

/-- Whether a text is nothing, or the distance from universal time. -/
def isOffset : List Char → Bool
  | [] => true
  | [c] => c = 'Z' || c = 'z'
  | sign :: rest =>
    (sign = '+' || sign = '-') &&
      match fixedNumber? 2 rest with
      | some (hour, ':' :: rest) =>
        hour ≤ 23 && (fixedNumber? 2 rest).any fun (minute, rest) => minute ≤ 59 && rest.isEmpty
      | _ => false

/-- Whether a text is a date, a time of day, or both. -/
def isDateTime (s : List Char) : Bool :=
  match afterDate? s with
  | some [] => true
  | some (c :: time) =>
    (c = 'T' || c = 't' || c = ' ') && (afterTime? time).any isOffset
  | none => (afterTime? s).any List.isEmpty

/-- The value that a word is. An integer has to fit into 128 bits. -/
def word? (s : List Char) : Option Value :=
  if s = ['t', 'r', 'u', 'e'] then some (.bool true)
  else if s = ['f', 'a', 'l', 's', 'e'] then some (.bool false)
  else match integer? s with
    | some n => if -Int.pow 2 127 ≤ n && n < Int.pow 2 128 then some (.integer n) else none
    | none =>
      if isFraction s then some .fraction else if isDateTime s then some .dateTime else none

/-- Reads a word. A time may follow a date behind one space. -/
def scalar? (s : List Char) : Option (Value × List Char) :=
  let word := s.takeWhile isWordChar
  let rest := s.drop word.length
  let word := match afterDate? word, rest with
    | some [], ' ' :: d :: _ =>
      if d.isDigit then word ++ ' ' :: (rest.drop 1).takeWhile isWordChar else word
    | _, _ => word
  (word? word).map fun value => (value, s.drop word.length)

end ScopedResources.Toml
