import ScopedResources.Fraction
import ScopedResources.Url.Percent

/-!
# What plain scalars stand for

Where the kind of a value is left open, a plain scalar is read as nothing, a truth value, an
integer, a fraction or a text, in this order. Integers may be written in the bases 2, 8, 10 and 16;
digits behind a leading zero are a text. -/

namespace ScopedResources.Yaml.Plain

def isNull (text : String) : Bool :=
  ["null", "Null", "NULL", "~"].contains text

def bool? (text : String) : Option Bool :=
  if ["true", "True", "TRUE"].contains text then some true
  else if ["false", "False", "FALSE"].contains text then some false
  else none

/-- The value of one digit or more in a base. -/
def digits? (base : Nat) (s : List Char) : Option Nat :=
  if s.isEmpty then none
  else s.foldlM (fun value c => do
    let d ← Url.hexDigit? c
    if d < base then some (value * base + d) else none) 0

def withoutSign : List Char → List Char
  | '+' :: rest | '-' :: rest => rest
  | s => s

/-- Whether a text is a zero with further digits behind it. -/
def hasLeadingZero (s : List Char) : Bool :=
  match withoutSign s with
  | '0' :: d :: rest => (d :: rest).all Char.isDigit
  | _ => false

/-- The value of an integer in a base that is announced. -/
def announced? : List Char → Option Nat
  | '0' :: 'x' :: rest => digits? 16 rest
  | '0' :: 'o' :: rest => digits? 8 rest
  | '0' :: 'b' :: rest => digits? 2 rest
  | _ => none

def integer? (s : List Char) : Option Int :=
  let magnitude? (body : List Char) : Option Nat :=
    announced? body <|> (if hasLeadingZero s then none else digits? 10 body)
  match s with
  | '-' :: body => (magnitude? body).map fun n => -(n : Int)
  | '+' :: body => (magnitude? body).map Int.ofNat
  | body => (magnitude? body).map Int.ofNat

/-- Mantissa and exponent of an unsigned decimal number. -/
def decimal? (s : List Char) : Option (Nat × Int) := do
  let whole := s.takeWhile Char.isDigit
  let s := s.drop whole.length
  let (part, s) := match s with
    | '.' :: rest => (rest.takeWhile Char.isDigit, rest.dropWhile Char.isDigit)
    | _ => ([], s)
  let mantissa ← digits? 10 (whole ++ part)
  let exponent ← match s with
    | [] => some 0
    | c :: rest =>
      if c = 'e' || c = 'E' then
        match rest with
        | '-' :: digits => (digits? 10 digits).map fun n => -(n : Int)
        | '+' :: digits => (digits? 10 digits).map Int.ofNat
        | digits => (digits? 10 digits).map Int.ofNat
      else none
  return (mantissa, exponent - part.length)

def isFraction (text : String) : Bool :=
  [".inf", ".Inf", ".INF", "+.inf", "+.Inf", "+.INF", "-.inf", "-.Inf", "-.INF", ".nan", ".NaN",
    ".NAN"].contains text ||
  (!hasLeadingZero text.toList &&
    ((decimal? (withoutSign text.toList)).any fun (mantissa, exponent) =>
      Fraction.isFinite mantissa exponent))

end ScopedResources.Yaml.Plain
