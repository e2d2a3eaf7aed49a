/-!
# Decimal numerals of bounded size

A numeral is one or more decimal digits with an optional plus sign in front. Reading stops at the
first fault: a character that is no digit, or a digit that takes the value past the limit.
-/

namespace ScopedResources.Numeral

/-- Why a text is no numeral of the asked size. -/
inductive Fault where
  | empty
  | invalidDigit
  | tooLarge
  deriving DecidableEq

def Fault.message : Fault → String
  | .empty => "cannot parse integer from empty string"
  | .invalidDigit => "invalid digit found in string"
  | .tooLarge => "number too large to fit in target type"

def digit? (c : Char) : Option Nat :=
  if c.isDigit then some (c.toNat - 48) else none

/-- Reads the digits that follow the value `value`. -/
def readDigits (limit value : Nat) : List Char → Except Fault Nat
  | [] => .ok value
  | c :: rest =>
    match digit? c with
    | none => .error .invalidDigit
    | some d =>
      if value * 10 + d ≤ limit then readDigits limit (value * 10 + d) rest else .error .tooLarge

/-- Reads a numeral of at most `limit`. -/
def read (limit : Nat) : List Char → Except Fault Nat
  | [] => .error .empty
  | ['+'] => .error .invalidDigit
  | '+' :: rest => readDigits limit 0 rest
  | digits => readDigits limit 0 digits

def maxPort : Nat := 65535

def maxWord : Nat := 18446744073709551615

end ScopedResources.Numeral
