import ScopedResources.Url.Percent

/-!
# Labels in ASCII letters

A label of a domain name with characters beyond ASCII is encoded in ASCII letters, digits and
hyphens. Its ASCII characters come first; behind a hyphen follow, in the order of their numbers, the
places of the others, as numbers of variable length in base 36. The thresholds of the digits adapt
to the numbers written so far. -/

namespace ScopedResources.Url.Punycode

/-- The number of the first character beyond ASCII. -/
def firstNumber : Nat := 0x80

/-- The first bias of the thresholds. -/
def firstBias : Nat := 72

/-- The threshold of a digit by its place. -/
def threshold (bias place : Nat) : Nat :=
  if place ≤ bias then 1 else if bias + 26 ≤ place then 26 else place - bias

/-- The bias for numbers of the size of `delta`, counted from a place. -/
def biasFrom (place delta : Nat) : Nat :=
  if 455 < delta then biasFrom (place + 36) (delta / 35) else place + 36 * delta / (delta + 38)
termination_by delta

/-- The bias after a number was written. -/
def adapted (delta count : Nat) (isFirst : Bool) : Nat :=
  let scaled := if isFirst then delta / 700 else delta / 2
  biasFrom 0 (scaled + scaled / count)

def digit (n : Nat) : Char :=
  if n < 26 then Char.ofNat (0x61 + n) else Char.ofNat (0x30 + (n - 26))

def digitValue? (c : Char) : Option Nat :=
  if c.isDigit then some (c.toNat - 0x30 + 26)
  else if c.isAlpha then some (c.toLower.toNat - 0x61)
  else none

def digits (bias place n : Nat) : List Char :=
  let t := threshold bias place
  if n < t then [digit n]
  else digit (t + (n - t) % (36 - t)) :: digits bias (place + 36) ((n - t) / (36 - t))
termination_by n
decreasing_by
  have ht : 0 < threshold bias place := by
    unfold threshold
    split
    · omega
    · split <;> omega
  have hdiv : (n - threshold bias place) / (36 - threshold bias place) ≤ n - threshold bias place :=
    Nat.div_le_self _ _
  omega

/-- What is known while a label is encoded: what was written, how many characters are done, the
bias, and the places passed since the last number. -/
structure Progress where
  written : List Char
  done : Nat
  bias : Nat := firstBias
  passed : Nat := 0

/-- Passes one character of the label while the character `n` is encoded. -/
def passOne (n basic : Nat) (progress : Progress) (c : Char) : Progress :=
  if c.toNat < n then { progress with passed := progress.passed + 1 }
  else if c.toNat = n then
    { written := progress.written ++ digits progress.bias 36 progress.passed
      done := progress.done + 1
      bias := adapted progress.passed (progress.done + 1) (progress.done = basic) }
  else progress

/-- Encodes the places of the characters in a list of numbers in rising order; `last` is the number
that is due. -/
def encodeFrom (label : List Char) (basic due : Nat) (progress : Progress) : List Nat → List Char
  | [] => progress.written
  | n :: rest =>
    let ready := { progress with passed := progress.passed + (n - due) * (progress.done + 1) }
    let after := label.foldl (passOne n basic) ready
    encodeFrom label basic (n + 1) { after with passed := after.passed + 1 } rest

def encode (label : List Char) : List Char :=
  let ascii := label.filter fun c => c.toNat < firstNumber
  let others := ((label.map Char.toNat).filter (firstNumber ≤ ·)).mergeSort.eraseDups
  let written := if ascii.isEmpty then [] else ascii ++ ['-']
  encodeFrom label ascii.length firstNumber { written, done := ascii.length } others

/-- The number that digits stand for from a place on, and what follows them. The last digit of a
number is the first one below its threshold. -/
def number? (bias place weight sum : Nat) : List Char → Option (Nat × List Char)
  | [] => none
  | c :: rest =>
    match digitValue? c with
    | none => none
    | some value =>
      let t := threshold bias place
      let sum := sum + value * weight
      if value < t then some (sum, rest)
      else number? bias (place + 36) (weight * (36 - t)) sum rest

theorem length_of_number? {bias place weight sum n : Nat} {s rest : List Char}
    (h : number? bias place weight sum s = some (n, rest)) : rest.length < s.length := by
  induction s generalizing place weight sum with
  | nil => simp [number?] at h
  | cons c s ih =>
    rw [number?] at h
    split at h
    · simp at h
    · dsimp only at h
      split at h
      · simp only [Option.some.injEq, Prod.mk.injEq] at h
        simp [← h.2]
      · exact Nat.lt_succ_of_lt (ih h)

/-- Puts the characters whose places are encoded into a label. -/
def decodeFrom (label : List Char) (bias due place : Nat) (isFirst : Bool) (s : List Char) :
    Option (List Char) :=
  match s with
  | [] => some label
  | c :: tail =>
    match h : number? bias 36 1 0 (c :: tail) with
    | none => none
    | some (delta, rest) =>
      let count := label.length + 1
      let n := due + (place + delta) / count
      if Nat.isValidChar n then
        decodeFrom (label.insertIdx ((place + delta) % count) (Char.ofNat n))
          (adapted delta count isFirst) n ((place + delta) % count + 1) false rest
      else none
termination_by s.length
decreasing_by
  have := length_of_number? h
  simpa using this

/-- The label that an encoded form stands for. What precedes the last hyphen stands for itself. -/
def decode? (s : List Char) : Option (List Char) :=
  let behind := (s.reverse.takeWhile (· ≠ '-')).reverse
  let front := s.take (s.length - behind.length - 1)
  if front.isEmpty then decodeFrom [] firstBias firstNumber 0 true s
  else if front.all fun c => c.toNat < firstNumber then
    decodeFrom front firstBias firstNumber 0 true behind
  else none

end ScopedResources.Url.Punycode
