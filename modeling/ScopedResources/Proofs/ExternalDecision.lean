import ScopedResources.Lifecycle.Coordinator
import ScopedResources.Proofs.Action
import Mathlib.Algebra.Group.Nat.Defs
import Mathlib.Control.Monad.Basic

/-!
# The instance that an environment names

Six variables may say where an external instance of a backend is found. Two of them can be
malformed: a port that is no number of sixteen bits, and a URL that names no host or no port. Either
one is a fault of its own, whether the instance is used or not. Otherwise a URL, or a host and a
port, name an instance, and every single variable stands above what the URL says. -/

namespace ScopedResources

namespace Numeral

variable {limit value n m : Nat} {digits text : List Char}

/-- Decimal digits, behind a plus sign or not, denote a number. -/
def Denotes (text : List Char) (n : Nat) : Prop :=
  ∃ digits, (text = digits ∨ text = '+' :: digits) ∧ digits ≠ [] ∧
    (∀ c ∈ digits, c.isDigit = true) ∧ Nat.ofDigitChars 10 digits 0 = n

theorem le_ofDigitChars (digits : List Char) (value : Nat) :
    value ≤ Nat.ofDigitChars 10 digits value := by
  have hpow : 0 < 10 ^ digits.length := Nat.pow_pos (by decide)
  have hshift := Nat.le_mul_of_pos_left value hpow
  rw [Nat.ofDigitChars_eq_ofDigitChars_zero]
  omega

theorem readDigits_eq_ok_iff (h : value ≤ limit) :
    readDigits limit value digits = .ok n ↔
      (∀ c ∈ digits, c.isDigit = true) ∧ Nat.ofDigitChars 10 digits value = n ∧ n ≤ limit := by
  induction digits generalizing value with
  | nil =>
      simp only [readDigits, Except.ok.injEq, Nat.ofDigitChars_nil]
      constructor
      · rintro rfl
        exact ⟨by simp, rfl, h⟩
      · exact fun hread => hread.2.1
  | cons c rest ih =>
      by_cases hdigit : c.isDigit = true
      · by_cases hle : value * 10 + (c.toNat - 48) ≤ limit
        · simp [readDigits, digit?, hdigit, hle, ih hle, Nat.ofDigitChars_cons, Nat.mul_comm 10]
        · -- the value only grows with further digits
          have hgrows := le_ofDigitChars rest (10 * value + (c.toNat - '0'.toNat))
          have hzero : '0'.toNat = 48 := rfl
          simp only [readDigits, digit?, hdigit, if_true, hle, if_false, Nat.ofDigitChars_cons,
            reduceCtorEq, false_iff]
          omega
      · simp [readDigits, digit?, hdigit]

theorem denotes_cons_plus : Denotes ('+' :: text) n ↔
    text ≠ [] ∧ (∀ c ∈ text, c.isDigit = true) ∧ Nat.ofDigitChars 10 text 0 = n := by
  constructor
  · rintro ⟨digits, rfl | heq, hne, hdigit, hvalue⟩
    · cases hdigit '+' (List.mem_cons_self ..)
    · cases heq
      exact ⟨hne, hdigit, hvalue⟩
  · exact fun h => ⟨text, .inr rfl, h⟩

theorem denotes_of_head?_ne (h : text.head? ≠ some '+') : Denotes text n ↔
    text ≠ [] ∧ (∀ c ∈ text, c.isDigit = true) ∧ Nat.ofDigitChars 10 text 0 = n := by
  constructor
  · rintro ⟨digits, rfl | rfl, hdenotes⟩
    · exact hdenotes
    · cases h rfl
  · exact fun h => ⟨text, .inl rfl, h⟩

/-- A text is read as the number that it denotes, unless the number is too large. -/
theorem read_eq_ok_iff : read limit text = .ok n ↔ Denotes text n ∧ n ≤ limit := by
  unfold read
  split
  · simp [Denotes]
  · simp [denotes_cons_plus]
  · rename_i rest hrest
    have hne : rest ≠ [] := fun hnil => hrest (by rw [hnil])
    simp [readDigits_eq_ok_iff (Nat.zero_le _), denotes_cons_plus, hne, and_assoc]
  · rename_i hempty _ hplus
    have hne : text ≠ [] := hempty
    have hhead : text.head? ≠ some '+' := by
      intro hhead
      obtain ⟨rest, rfl⟩ := List.head?_eq_some_iff.mp hhead
      exact hplus rest rfl
    simp [readDigits_eq_ok_iff (Nat.zero_le _), denotes_of_head?_ne hhead, hne, and_assoc]

/-- A text denotes one number at most. -/
theorem Denotes.unique (hn : Denotes text n) (hm : Denotes text m) : n = m := by
  have hread := read_eq_ok_iff.mpr ⟨hn, Nat.le_max_left n m⟩
  rw [read_eq_ok_iff.mpr ⟨hm, Nat.le_max_right n m⟩] at hread
  exact (Except.ok.inj hread).symm

end Numeral

namespace Environment

variable {env : Environment} {name value : String}

/-- A variable is set to a text of which not every character is blank. -/
def Holds (env : Environment) (name value : String) : Prop :=
  ∃ bytes, env.value? name = some bytes ∧ String.fromUTF8? bytes = some value ∧
    ∃ c ∈ value.toList, Text.isBlank c = false

theorem nonBlank?_eq_some_iff : env.nonBlank? name = some value ↔ env.Holds name value := by
  simp [nonBlank?, text?, Holds, Text.isAllBlank, Option.filter_eq_some_iff,
    Option.bind_eq_some_iff, ← exists_and_right, and_assoc]

end Environment

namespace Url

/-- The user name, unless it is empty. -/
def user? (url : Url) : Option String :=
  if url.username = "" then none else some url.username

/-- The path behind its leading slashes, unless nothing is left of it. -/
def database? (url : Url) : Option String :=
  if url.pathText = "" then none else some url.pathText

end Url

namespace Override

variable {env : Environment} {backend defaultScheme written : String} {v : Variables}
variable {url url' : Option Url} {params params' : ConnectionParams} {n : Nat} {d d' : Decision}

namespace Variables

/-- The variables under the ends of their names. -/
def named (v : Variables) : List (String × Option String) :=
  [("JDBC_URL", v.url), ("HOST", v.host), ("PORT", v.port), ("USERNAME", v.username),
    ("PASSWORD", v.password), ("DATABASE", v.database)]

/-- The variables are what the environment holds for a backend, whose name stands in capital letters
in the names of its variables. -/
def HeldBy (v : Variables) (env : Environment) (backend : String) : Prop :=
  ∀ held ∈ v.named, ∀ value, held.2 = some value ↔
    env.Holds ("EXTERNAL_TEST_" ++ backend.toUpper ++ "_" ++ held.1) value

/-- A port is given, as a number of sixteen bits. -/
def GivesPort (v : Variables) (n : Nat) : Prop :=
  ∃ written, v.port = some written ∧ Numeral.Denotes (Text.trim written.toList) n ∧ n < 2 ^ 16

/-- A URL is given, behind `jdbc:` or not. -/
def GivesUrl (v : Variables) (url : Url) : Prop :=
  ∃ written, v.url = some written ∧ Url.parse (withoutLabel written) = .ok url

/-- Every part of the parameters is that of its own variable, or else that of the URL. -/
structure Refines (v : Variables) (defaultScheme : String) (url : Option Url)
    (params : ConnectionParams) : Prop where
  scheme : params.scheme = (url.map Url.scheme).getD defaultScheme
  host : some params.host = (v.host <|> url.bind Url.host)
  port : v.GivesPort params.port ∨
    v.port = none ∧ some params.port = url.bind Url.portOrDefault?
  username : params.username = (v.username <|> url.bind Url.user?)
  password : params.password = (v.password <|> url.bind Url.password)
  database : params.database = (v.database <|> url.bind Url.database?)

/-- The parameters of the instance that the variables name, by a URL or without one. -/
def Names (v : Variables) (defaultScheme : String) (params : ConnectionParams) : Prop :=
  (v.url = none ∧ v.Refines defaultScheme none params) ∨
    ∃ url, v.GivesUrl url ∧ v.Refines defaultScheme (some url) params

/-- What the variables amount to where none of them is malformed. -/
inductive AmountTo (v : Variables) (defaultScheme : String) : Decision → Prop
  | unset (url : v.url = none) (host : v.host = none) (port : v.port = none) :
    AmountTo v defaultScheme .unset
  | incomplete (url : v.url = none) (one : ¬ (v.host = none ↔ v.port = none)) :
    AmountTo v defaultScheme .incomplete
  | external {params : ConnectionParams} (named : v.Names defaultScheme params) :
    AmountTo v defaultScheme (.external params)

theorem heldBy_iff : v.HeldBy env backend ↔
    ∀ held ∈ v.named, held.2 = env.nonBlank? (variableName backend held.1) := by
  apply forall₂_congr
  intro held _
  rw [Option.ext_iff]
  simp only [Environment.nonBlank?_eq_some_iff]
  rfl

instance : Decidable (v.HeldBy env backend) :=
  decidable_of_iff _ heldBy_iff.symm

/-- One description alone holds what the environment does. -/
theorem heldBy_iff_eq : v.HeldBy env backend ↔ v = .ofEnvironment env backend := by
  cases v
  simp [heldBy_iff, named, ofEnvironment]

theorem HeldBy.ofEnvironment_eq (h : v.HeldBy env backend) :
    Override.ofEnvironment env backend defaultScheme = decide backend defaultScheme v := by
  rw [Override.ofEnvironment, ← heldBy_iff_eq.mp h]

theorem GivesPort.given (h : v.GivesPort n) : v.port ≠ none := by
  obtain ⟨written, hwritten, -⟩ := h
  simp [hwritten]

theorem GivesUrl.given {url : Url} (h : v.GivesUrl url) : v.url ≠ none := by
  obtain ⟨written, hwritten, -⟩ := h
  simp [hwritten]

theorem GivesPort.denotes (h : v.GivesPort n) (hport : v.port = some written) :
    Numeral.Denotes (Text.trim written.toList) n ∧ n < 2 ^ 16 := by
  obtain ⟨other, hother, hdenotes⟩ := h
  rwa [Option.some.inj (hport.symm.trans hother)]

theorem GivesUrl.parse {url : Url} (h : v.GivesUrl url) (hurl : v.url = some written) :
    Url.parse (withoutLabel written) = .ok url := by
  obtain ⟨other, hother, hparse⟩ := h
  rwa [Option.some.inj (hurl.symm.trans hother)]

theorem GivesPort.unique {m : Nat} (hn : v.GivesPort n) (hm : v.GivesPort m) : n = m := by
  obtain ⟨written, hwritten, hdenotes, -⟩ := hn
  exact hdenotes.unique (hm.denotes hwritten).1

theorem GivesUrl.unique {url url' : Url} (h : v.GivesUrl url) (h' : v.GivesUrl url') :
    url = url' := by
  obtain ⟨written, hwritten, hparse⟩ := h
  exact Except.ok.inj (hparse.symm.trans (h'.parse hwritten))

theorem Refines.unique (h : v.Refines defaultScheme url params)
    (h' : v.Refines defaultScheme url params') : params = params' := by
  have hport : params.port = params'.port := by
    obtain hgives | ⟨hnone, hurl⟩ := h.port <;> obtain hgives' | ⟨hnone', hurl'⟩ := h'.port
    · exact hgives.unique hgives'
    · exact absurd hnone' hgives.given
    · exact absurd hnone hgives'.given
    · exact Option.some.inj (hurl.trans hurl'.symm)
  have hhost := Option.some.inj (h.host.trans h'.host.symm)
  have hscheme := h.scheme.trans h'.scheme.symm
  have husername := h.username.trans h'.username.symm
  have hpassword := h.password.trans h'.password.symm
  have hdatabase := h.database.trans h'.database.symm
  cases params
  cases params'
  simp_all

theorem Names.unique (h : v.Names defaultScheme params) (h' : v.Names defaultScheme params') :
    params = params' := by
  obtain ⟨hnone, href⟩ | ⟨url, hgives, href⟩ := h <;>
    obtain ⟨hnone', href'⟩ | ⟨url', hgives', href'⟩ := h'
  · exact href.unique href'
  · exact absurd hnone hgives'.given
  · exact absurd hnone' hgives.given
  · cases hgives.unique hgives'
    exact href.unique href'

/-- Without a URL an instance is named by a host and a port. -/
theorem Names.host_and_port (h : v.Names defaultScheme params) (hurl : v.url = none) :
    v.host ≠ none ∧ v.port ≠ none := by
  obtain ⟨-, href⟩ | ⟨url, hgives, -⟩ := h
  · have hhost := href.host
    have hport := href.port
    simp only [Option.bind_none, reduceCtorEq, and_false, or_false] at hport
    constructor
    · intro hnone
      simp [hnone] at hhost
    · exact hport.given
  · exact absurd hurl hgives.given

theorem AmountTo.unique (h : v.AmountTo defaultScheme d) (h' : v.AmountTo defaultScheme d') :
    d = d' := by
  cases h with
  | unset hurl hhost hport =>
      cases h' with
      | unset => rfl
      | incomplete _ one => simp [hhost, hport] at one
      | external named => exact absurd hhost (named.host_and_port hurl).1
  | incomplete hurl one =>
      cases h' with
      | unset _ hhost hport => simp [hhost, hport] at one
      | incomplete => rfl
      | external named => simp [named.host_and_port hurl] at one
  | external named =>
      cases h' with
      | unset hurl hhost _ => exact absurd hhost (named.host_and_port hurl).1
      | incomplete hurl one => simp [named.host_and_port hurl] at one
      | external named' => rw [named.unique named']

end Variables

open Variables

/-! ## Reading the variables -/

theorem mapError_eq_ok_iff {ε ε' α : Type} {f : ε → ε'} {x : Except ε α} {a : α} :
    x.mapError f = .ok a ↔ x = .ok a := by
  cases x <;> simp [Except.mapError]

theorem readPort_eq_ok_iff : readPort backend written = .ok n ↔
    Numeral.Denotes (Text.trim written.toList) n ∧ n < 2 ^ 16 := by
  have hlimit : n ≤ Numeral.maxPort ↔ n < 2 ^ 16 := Nat.lt_succ_iff.symm
  rw [readPort, mapError_eq_ok_iff, Numeral.read_eq_ok_iff, hlimit]

/-- A URL of a host and a port gives all that there is to say about a place. -/
theorem paramsOfUrl_of_place {url : Url} {host : String} {port : Nat}
    (hparse : Url.parse (withoutLabel written) = .ok url) (hhost : url.host = some host)
    (hport : url.portOrDefault? = some port) :
    paramsOfUrl backend written = .ok ⟨url.scheme, host, port, url.user?, url.password,
      url.database?⟩ := by
  unfold paramsOfUrl
  rw [hparse]
  simp only [Except.mapError, bind, Except.bind, hhost, hport, Url.user?, Url.database?,
    String.isEmpty_iff]
  rfl

end Override

namespace Lifecycle.Coordinator

open Override

/-- A URL, a port with blanks around it and a database. -/
def orders : Environment :=
  ⟨[("EXTERNAL_TEST_MEMORY_JDBC_URL", "jdbc:memory://app:pw@db:1/orders".toUTF8),
    ("EXTERNAL_TEST_MEMORY_PORT", " 5432 ".toUTF8),
    ("EXTERNAL_TEST_MEMORY_DATABASE", "orders_test".toUTF8)]⟩

/-- A coordinator that reads the environment. -/
def reader : Coordinator where
  name := "reader"
  backend := Backend.memory "MemoryConnection"
  external := .environment
  migrationRoot := ""

end Lifecycle.Coordinator

end ScopedResources
