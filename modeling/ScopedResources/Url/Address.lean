import ScopedResources.Url.Percent
import ScopedResources.Url.Fault
import ScopedResources.Text.Parts

/-!
# Numeric addresses

An IPv4 address is up to four numbers between dots, each in decimal, octal (after `0`) or
hexadecimal digits (after `0x`); the last number fills all bytes that are left. An IPv6 address is
eight pieces of up to four hexadecimal digits between colons, one run of zeros of which may be left
out, and the last two of which may be written as four decimal bytes. It is shown in its shortest
form. -/

namespace ScopedResources.Url

namespace Ipv4

/-- The value of digits in a base, if all of them belong to it. -/
def digitsValue? (base : Nat) (digits : List Char) : Option Nat :=
  digits.foldlM (fun value c => do
    let d ← hexDigit? c
    if d < base then some (value * base + d) else none) 0

/-- The value of one part of an address. A part without digits after its mark is zero. -/
def number? : List Char → Option Nat
  | [] => none
  | '0' :: 'x' :: rest | '0' :: 'X' :: rest => digitsValue? 16 rest
  | '0' :: c :: rest => digitsValue? 8 (c :: rest)
  | digits => digitsValue? 10 digits

/-- The parts of a host between its dots, without an empty last one. -/
def parts (host : List Char) : List (List Char) :=
  let all := Text.parts (· = '.') host
  if 1 < all.length && all.getLast? = some [] then all.dropLast else all

/-- Whether the last part of a host is a number, so that the host can only be an address. -/
def endsInNumber (host : List Char) : Bool :=
  match (parts host).getLast? with
  | none => false
  | some last => (!last.isEmpty && last.all Char.isDigit) || (number? last).isSome

/-- The address that the numbers of its parts give. -/
def ofNumbers? (numbers : List Nat) : Option Nat :=
  match numbers.getLast? with
  | none => none
  | some last =>
    let front := numbers.dropLast
    if 3 < front.length || front.any (255 < ·) || Nat.pow 256 (4 - front.length) ≤ last then none
    else some ((front.foldl (· * 256 + ·) 0) * Nat.pow 256 (4 - front.length) + last)

def parse? (host : List Char) : Option Nat :=
  ((parts host).mapM number?).bind ofNumbers?

/-- An address as four decimal bytes. -/
def shown (address : Nat) : String :=
  ".".intercalate
    ([24, 16, 8, 0].map fun shift => toString (address / Nat.pow 2 shift % 256))

end Ipv4

namespace Ipv6

/-- The pieces read so far, and how many of them stand before the place of the left out zeros. -/
structure Progress where
  pieces : List Nat := []
  gap : Option Nat := none

/-- The address of eight pieces, once the left out zeros are put in. -/
def Progress.complete? (p : Progress) : Option (List Nat) :=
  match p.gap with
  | none => if p.pieces.length = 8 then some p.pieces else none
  | some gap =>
    some (p.pieces.take gap ++ List.replicate (8 - p.pieces.length) 0 ++ p.pieces.drop gap)

/-- A decimal byte without leading zeros, and what follows it. -/
def byte? (s : List Char) : Option (Nat × List Char) :=
  let digits := s.takeWhile Char.isDigit
  let value := digits.foldl (fun n c => n * 10 + (c.toNat - 48)) 0
  if digits.isEmpty || 255 < value || (1 < digits.length && digits.head? = some '0') then none
  else some (value, s.drop digits.length)

/-- The two pieces that four decimal bytes give; nothing may follow them. -/
def tail? (s : List Char) : Option (List Nat) := do
  let (a, s) ← byte? s
  let s ← afterDot? s
  let (b, s) ← byte? s
  let s ← afterDot? s
  let (c, s) ← byte? s
  let s ← afterDot? s
  let (d, s) ← byte? s
  if s.isEmpty then some [a * 256 + b, c * 256 + d] else none
where
  afterDot? : List Char → Option (List Char)
    | '.' :: rest => some rest
    | _ => none

/-- Reads the pieces of an address from the place after the first two colons of a leading gap on. -/
def readPieces : Nat → Progress → List Char → Option Progress
  | 0, _, _ => none
  | _ + 1, p, [] => some p
  | fuel + 1, p, ':' :: rest =>
    if p.pieces.length = 8 || p.gap.isSome then none
    else readPieces fuel ⟨p.pieces ++ [0], some (p.pieces.length + 1)⟩ rest
  | fuel + 1, p, s =>
    if p.pieces.length = 8 then none
    else
      let digits := (s.take 4).takeWhile fun c => (hexDigit? c).isSome
      let rest := s.drop digits.length
      let value := digits.foldl (fun n c => n * 16 + (hexDigit? c).getD 0) 0
      match rest with
      | '.' :: _ =>
        if digits.isEmpty || 6 < p.pieces.length then none
        else (tail? s).map fun pieces => ⟨p.pieces ++ pieces, p.gap⟩
      | [':'] => none
      | ':' :: more => readPieces fuel ⟨p.pieces ++ [value], p.gap⟩ more
      | [] => some ⟨p.pieces ++ [value], p.gap⟩
      | _ => none

def parse? (s : List Char) : Option (List Nat) :=
  let progress := match s with
    | ':' :: ':' :: rest => readPieces (s.length + 1) ⟨[0], some 1⟩ rest
    | ':' :: _ => none
    | _ => readPieces (s.length + 1) {} s
  progress.bind Progress.complete?

/-- Start and length of the first longest run of zeros among the pieces. -/
def longestZeros (pieces : List Nat) : Nat × Nat :=
  List.foldl (fun best start =>
    let run := ((pieces.drop start).takeWhile (· = 0)).length
    if best.2 < run then (start, run) else best) (0, 0) (List.range pieces.length)

/-- Pieces between colons. -/
def joined (pieces : List Nat) : String :=
  ":".intercalate (pieces.map fun n => String.ofList (Nat.toDigits 16 n))

/-- An address between brackets; the first longest run of at least two zeros is left out. -/
def shown (pieces : List Nat) : String :=
  let (start, run) := longestZeros pieces
  if run < 2 then "[" ++ joined pieces ++ "]"
  else "[" ++ joined (pieces.take start) ++ "::" ++ joined (pieces.drop (start + run)) ++ "]"

end Ipv6

end ScopedResources.Url
