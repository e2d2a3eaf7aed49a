import ScopedResources.Text.Range
import ScopedResources.Text.HiddenRanges

/-!
# Quoted text

The form in which messages show a text that may hold anything: between double quotes, with a
backslash before a quote or a backslash, short names for the four common controls, and the number of
every character that has no visible form of its own.
-/

namespace ScopedResources.Text

/-- Whether a character is shown by its number. -/
def isHidden (c : Char) : Bool :=
  c.toNat < 0x20 || (0x7F ≤ c.toNat && inRanges c.toNat hiddenRanges)

/-- A character by its number, in small hexadecimal digits without leading zeros. -/
def byNumber (c : Char) : List Char :=
  ['\\', 'u', '\x7b'] ++ Nat.toDigits 16 c.toNat ++ ['\x7d']

/-- One character as it stands between the quotes. -/
def quotedChar (c : Char) : List Char :=
  if c.toNat = 0 then ['\\', '0']
  else if c = '\t' then ['\\', 't']
  else if c = '\n' then ['\\', 'n']
  else if c = '\r' then ['\\', 'r']
  else if c = '"' || c = '\\' then ['\\', c]
  else if isHidden c then byNumber c
  else [c]

def quoted (s : String) : String :=
  String.ofList ('"' :: s.toList.flatMap quotedChar ++ ['"'])

/-- A text that may be absent. -/
def quotedOption : Option String → String
  | none => "None"
  | some s => "Some(" ++ quoted s ++ ")"

def quotedList (texts : List String) : String :=
  "[" ++ ", ".intercalate (texts.map quoted) ++ "]"

def shownBool (b : Bool) : String :=
  if b then "true" else "false"

end ScopedResources.Text
