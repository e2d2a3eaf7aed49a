/-!
# Percent encoding

A character that a part of a URL does not hold as it is stands there as the bytes of its UTF-8 form,
each written as a percent sign and two hexadecimal digits. Which characters those are depends on the
part. Percent signs that are already there stay.
-/

namespace ScopedResources.Url

/-- A number below 16 as a hexadecimal digit, letters in upper case. -/
def upperHexDigit (n : Nat) : Char :=
  (Nat.digitChar n).toUpper

def encodedByte (b : UInt8) : List Char :=
  ['%', upperHexDigit (b.toNat / 16), upperHexDigit (b.toNat % 16)]

def encodedChar (c : Char) : List Char :=
  (String.utf8EncodeChar c).flatMap encodedByte

/-- Whether a character is encoded in every part: a control, or one beyond ASCII. -/
def isControlOrWide (c : Char) : Bool :=
  c.toNat < 0x20 || 0x7F ≤ c.toNat

/-- The characters that a path does not hold as they are. -/
def isEncodedInPath (c : Char) : Bool :=
  isControlOrWide c || [' ', '"', '<', '>', '`', '#', '?', '\x7b', '\x7d'].contains c

/-- The characters that a user name or a password does not hold as they are. -/
def isEncodedInLogin (c : Char) : Bool :=
  isEncodedInPath c || ['/', ':', ';', '=', '@', '[', '\\', ']', '^', '|'].contains c

/-- A text with the characters encoded that `mustEncode` names. -/
def encode (mustEncode : Char → Bool) (s : List Char) : List Char :=
  s.flatMap fun c => if mustEncode c then encodedChar c else [c]

def hexDigit? (c : Char) : Option Nat :=
  if c.isDigit then some (c.toNat - 48)
  else if 'a' ≤ c && c ≤ 'f' then some (c.toNat - 87)
  else if 'A' ≤ c && c ≤ 'F' then some (c.toNat - 55)
  else none

/-- The bytes that a text stands for once every encoded byte is decoded. A percent sign without two
digits after it stands for itself. -/
def decodedBytes : List Char → List UInt8
  | '%' :: a :: b :: rest =>
    match hexDigit? a, hexDigit? b with
    | some high, some low => (high * 16 + low).toUInt8 :: decodedBytes rest
    | _, _ => '%'.toUInt8 :: decodedBytes (a :: b :: rest)
  | c :: rest => String.utf8EncodeChar c ++ decodedBytes rest
  | [] => []

end ScopedResources.Url
