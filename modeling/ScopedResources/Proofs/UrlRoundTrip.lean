import ScopedResources.Proofs.ExternalDecision
import ScopedResources.Proofs.LetterCodes
import Mathlib.Data.List.TakeWhile

/-!
# Reading a URL that was written

The parameters of an external instance are written as a URL of login, host, port and database. A URL
of letters and digits between its marks is read back into the same parts, with one exception: where
there is no user name, no password is written either. A `jdbc:` in front of a URL is passed over,
which a URL of that very scheme does not survive. -/

namespace ScopedResources

namespace Url

/-- Letters and digits of ASCII alone. -/
def Plain (text : List Char) : Prop :=
  ∀ c ∈ text, c.isAlphanum = true

variable {c d : Char} {text host login user secret part tail marks : List Char} {n : Nat}

/-! ## Letters and digits -/

theorem toNat_of_isAlphanum (h : c.isAlphanum = true) : 0x30 ≤ c.toNat ∧ c.toNat ≤ 0x7A := by
  rw [Text.isAlphanum_iff] at h
  omega

theorem ne_of_isAlphanum (hc : c.isAlphanum = true) (hd : d.isAlphanum = false) : c ≠ d := by
  rintro rfl
  simp [hc] at hd

/-- No letter or digit is among marks of other kinds. -/
theorem contains_of_isAlphanum (hmarks : marks.all (fun d => !d.isAlphanum) = true)
    (hc : c.isAlphanum = true) : marks.contains c = false := by
  rw [List.all_eq_true] at hmarks
  apply Bool.eq_false_iff.mpr
  intro hmem
  have hother := hmarks c (List.contains_iff_mem.mp hmem)
  simp [hc] at hother

theorem not_isControlOrWide (h : c.isAlphanum = true) : isControlOrWide c = false := by
  have hbounds := toNat_of_isAlphanum h
  simp [isControlOrWide]
  omega

theorem isEncodedInPath_of_isAlphanum (h : c.isAlphanum = true) : isEncodedInPath c = false := by
  rw [isEncodedInPath, not_isControlOrWide h, contains_of_isAlphanum rfl h]
  rfl

theorem isEncodedInLogin_of_isAlphanum (h : c.isAlphanum = true) : isEncodedInLogin c = false := by
  rw [isEncodedInLogin, isEncodedInPath_of_isAlphanum h, contains_of_isAlphanum rfl h]
  rfl

theorem endsAuthority_of_isAlphanum (h : c.isAlphanum = true) : endsAuthority .other c = false := by
  simp [endsAuthority, SchemeKind.isSlash, ne_of_isAlphanum h]

theorem encode_eq_self {mustEncode : Char → Bool} (h : ∀ c ∈ text, mustEncode c = false) :
    encode mustEncode text = text := by
  induction text with
  | nil => rfl
  | cons c rest ih =>
      rw [List.forall_mem_cons] at h
      simpa [encode, h.1] using ih h.2

theorem encode_login (h : Plain text) : encode isEncodedInLogin text = text :=
  encode_eq_self fun c hc => isEncodedInLogin_of_isAlphanum (h c hc)

/-! ## The parts of an authority -/

theorem takeWhile_plain (h : Plain user) (hd : d.isAlphanum = false) :
    (user ++ tail).takeWhile (· ≠ d) = user ++ tail.takeWhile (· ≠ d) := by
  apply List.takeWhile_append_of_pos
  intro c hc
  simpa using ne_of_isAlphanum (h c hc) hd

theorem splitLogin_user (h : Plain user) : splitLogin user = (String.ofList user, none) := by
  have htake : user.takeWhile (· ≠ ':') = user := by
    simpa using @takeWhile_plain ':' user [] h rfl
  simp only [splitLogin, htake, encode_login h]
  simp

theorem splitLogin_secret (huser : Plain user) (hsecret : Plain secret) (hne : secret ≠ []) :
    splitLogin (user ++ ':' :: secret) = (String.ofList user, some (String.ofList secret)) := by
  have htake : (user ++ ':' :: secret).takeWhile (· ≠ ':') = user := by
    rw [takeWhile_plain huser rfl, List.takeWhile_cons_of_neg (by simp), List.append_nil]
  have hdrop : (user ++ ':' :: secret).drop (user.length + 1) = secret := by
    rw [List.drop_append]
    simp
  simp only [splitLogin, htake, hdrop, encode_login huser, encode_login hsecret]
  simp [hne]

theorem hostPart_plain (h : Plain host) : hostPart .other false (host ++ ':' :: tail) = host := by
  induction host with
  | nil => simp [hostPart]
  | cons c rest ih =>
      have hc := h c (List.mem_cons_self ..)
      have hcolon : c ≠ ':' := ne_of_isAlphanum hc rfl
      have hopen : c ≠ '[' := ne_of_isAlphanum hc rfl
      have hrest := ih fun d hd => h d (List.mem_cons_of_mem _ hd)
      simp [hostPart, hcolon, hopen, endsAuthority_of_isAlphanum hc, hrest]

theorem plainHost_plain (h : Plain host) : plainHost host = .ok (String.ofList host) := by
  have hbracket : bracketed? host = none := by
    cases host with
    | nil => rfl
    | cons c rest =>
        have hopen : c ≠ '[' := ne_of_isAlphanum (h c (List.mem_cons_self ..)) rfl
        unfold bracketed?
        split
        · rename_i heq
          cases heq
          exact absurd rfl hopen
        · rfl
  have hforbidden : host.any isForbiddenInHost = false := by
    rw [List.any_eq_false]
    intro c hc
    rw [isForbiddenInHost, contains_of_isAlphanum rfl (h c hc)]
    decide
  simp [plainHost, hbracket, hforbidden, encode_eq_self fun c hc => not_isControlOrWide (h c hc)]

theorem splitPort_digits (hn : n ≤ Numeral.maxPort) (htail : tail = [] ∨ ∃ t, tail = '/' :: t) :
    splitPort (Nat.toDigits 10 n ++ tail) = .ok (some n, tail) := by
  have htake : (Nat.toDigits 10 n ++ tail).takeWhile Char.isDigit = Nat.toDigits 10 n := by
    rw [List.takeWhile_append_of_pos fun c => Nat.isDigit_of_mem_toDigits (by decide) (by decide)]
    obtain rfl | ⟨t, rfl⟩ := htail <;> simp
  have hvalue : (Nat.toDigits 10 n).foldl (fun m c => m * 10 + (c.toNat - 48)) 0 = n := by
    have hread : Nat.ofDigitChars 10 (Nat.toDigits 10 n) 0 = n := Nat.ofDigitChars_ten_toDigits
    rw [Nat.ofDigitChars_eq_foldl] at hread
    simpa [Nat.mul_comm 10] using hread
  have hdigits : (Nat.toDigits 10 n).isEmpty = false := by simp [Nat.toDigits_ne_nil]
  simp only [splitPort, htake, hvalue, List.drop_left, hdigits, if_neg (Nat.not_lt.mpr hn)]
  obtain rfl | ⟨t, rfl⟩ := htail <;> simp

/-! ## Paths -/

/-- Dots with or without percent signs are no letters and digits. -/
theorem contains_toLower {names : List String} (h : Plain part)
    (hnames : names.all (fun name => name.toList.head?.any fun c => !c.isAlphanum) = true) :
    names.contains (String.ofList part).toLower = false := by
  rw [List.all_eq_true] at hnames
  apply Bool.eq_false_iff.mpr
  intro hmem
  have hhead := hnames _ (List.contains_iff_mem.mp hmem)
  cases part with
  | nil => simp [Text.toList_toLower] at hhead
  | cons c rest =>
      simp [Text.toList_toLower, Text.isAlphanum_toLower, h c (List.mem_cons_self ..)] at hhead

theorem followDots_plain (h : Plain part) : followDots [] [part] = [part] := by
  have hdouble : isDoubleDot part = false := contains_toLower h (by decide)
  have hsingle : isSingleDot part = false := contains_toLower h (by decide)
  simp [followDots, hdouble, hsingle]

theorem parts_plain (hpart : Plain part) :
    Text.parts (SchemeKind.isSlash .other) part = [part] := by
  induction part with
  | nil => rfl
  | cons c rest ih =>
      have hslash : SchemeKind.isSlash .other c = false := by
        simp [SchemeKind.isSlash, ne_of_isAlphanum (hpart c (List.mem_cons_self ..))]
      rw [Text.parts, hslash, ih fun d hd => hpart d (List.mem_cons_of_mem _ hd)]
      rfl

theorem pathParts_nil : pathParts .other [] = [[]] := by
  have hpart : Plain [] := by simp [Plain]
  simp [pathParts, Text.parts, encode, followDots_plain hpart]

theorem pathParts_slash (h : Plain part) : pathParts .other ('/' :: part) = [part] := by
  have hwritten : ('/' :: part).takeWhile (fun c => c ≠ '?' && c ≠ '#') = '/' :: part := by
    rw [List.takeWhile_eq_self_iff, List.forall_mem_cons]
    refine ⟨rfl, fun c hc => ?_⟩
    simp [ne_of_isAlphanum (h c hc)]
  have hencode : encode isEncodedInPath part = part :=
    encode_eq_self fun c hc => isEncodedInPath_of_isAlphanum (h c hc)
  have hslash : SchemeKind.isSlash .other '/' = true := rfl
  unfold pathParts
  simp only [hwritten, hslash, if_true, parts_plain h, List.map_cons, List.map_nil, hencode,
    followDots_plain h, List.reverse_singleton]

/-- What is written behind a port for a database. -/
def pathOf (database : Option String) : List Char :=
  match database with
  | none => []
  | some name => '/' :: name.toList

theorem pathParts_pathOf {database : Option String}
    (h : ∀ name, database = some name → Plain name.toList) :
    pathParts .other (pathOf database) = [(database.getD "").toList] := by
  cases database with
  | none => exact pathParts_nil
  | some name => exact pathParts_slash (h name rfl)

/-! ## Authorities -/

section Authority

variable {scheme : String}

/-- A host and a port, and what follows them. -/
def place (host : List Char) (n : Nat) (tail : List Char) : List Char :=
  host ++ ':' :: (Nat.toDigits 10 n ++ tail)

theorem endsAuthority_of_mem_place (h : Plain host) (hc : c ∈ host ++ ':' :: Nat.toDigits 10 n) :
    endsAuthority .other c = false ∧ c ≠ '@' := by
  simp only [List.mem_append, List.mem_cons] at hc
  obtain hc | rfl | hc := hc
  · exact ⟨endsAuthority_of_isAlphanum (h c hc), ne_of_isAlphanum (h c hc) rfl⟩
  · decide
  · have hdigit : c.isAlphanum = true := by
      simp [Char.isAlphanum, Nat.isDigit_of_mem_toDigits (by decide) (by decide) hc]
    exact ⟨endsAuthority_of_isAlphanum hdigit, ne_of_isAlphanum hdigit rfl⟩

theorem takeWhile_authority {front : List Char}
    (hfront : ∀ c ∈ front, endsAuthority .other c = false)
    (hhost : Plain host) (htail : tail = [] ∨ ∃ t, tail = '/' :: t) :
    (front ++ place host n tail).takeWhile (fun c => !endsAuthority .other c) =
      front ++ (host ++ ':' :: Nat.toDigits 10 n) := by
  have hsplit :
      front ++ place host n tail = (front ++ (host ++ ':' :: Nat.toDigits 10 n)) ++ tail := by
    simp [place]
  have hkeep : ∀ c ∈ front ++ (host ++ ':' :: Nat.toDigits 10 n),
      (!endsAuthority .other c) = true := by
    intro c hc
    obtain hc | hc := List.mem_append.mp hc
    · simp [hfront c hc]
    · simp [endsAuthority_of_mem_place hhost hc]
  rw [hsplit, List.takeWhile_append_of_pos hkeep]
  obtain rfl | ⟨t, rfl⟩ := htail
  · simp
  · simp [endsAuthority, SchemeKind.isSlash]

theorem dropWhile_place (hhost : Plain host) {front : List Char} :
    (front ++ (host ++ ':' :: Nat.toDigits 10 n)).reverse.dropWhile (· ≠ '@') =
      front.reverse.dropWhile (· ≠ '@') := by
  rw [List.reverse_append, List.dropWhile_append_of_pos]
  intro c hc
  simpa using (endsAuthority_of_mem_place hhost (List.mem_reverse.mp hc)).2

theorem contains_at_place (hhost : Plain host) {front : List Char} :
    (front ++ (host ++ ':' :: Nat.toDigits 10 n)).contains '@' = front.contains '@' := by
  have hplace : '@' ∉ host ++ ':' :: Nat.toDigits 10 n := fun hmem =>
    (endsAuthority_of_mem_place hhost hmem).2 rfl
  rw [Bool.eq_iff_iff, List.contains_iff_mem, List.contains_iff_mem, List.mem_append,
    or_iff_left hplace]

/-- A login in front of a host, with the mark behind it. -/
inductive Login : List Char → List Char → Prop
  | none : Login [] []
  | marked {login : List Char} (hne : login ≠ [])
      (hlogin : ∀ c ∈ login, endsAuthority .other c = false) : Login (login ++ ['@']) login

/-- Login, host, port and path are read as they stand between their marks. -/
theorem parseAuthority_eq {front : List Char} (hfront : Login front login) (hhost : Plain host)
    (hne : host ≠ []) (hn : n ≤ Numeral.maxPort) (htail : tail = [] ∨ ∃ t, tail = '/' :: t) :
    parseAuthority scheme .other (front ++ place host n tail) =
      .ok ⟨scheme, (splitLogin login).1, (splitLogin login).2, some (String.ofList host), some n,
        pathParts .other tail⟩ := by
  have hends : ∀ c ∈ front, endsAuthority .other c = false := by
    cases hfront with
    | none => simp
    | marked _ hlogin =>
        simp only [List.mem_append, List.mem_singleton]
        rintro c (hc | rfl)
        · exact hlogin c hc
        · rfl
  have hhostPart : hostPart .other false (place host n tail) = host := hostPart_plain hhost
  have hrest : (place host n tail).drop host.length = ':' :: (Nat.toDigits 10 n ++ tail) := by
    simp [place]
  -- the place holds no at sign, so the last one, if any, is the mark behind the login
  unfold parseAuthority
  simp only [takeWhile_authority hends hhost htail, dropWhile_place hhost, contains_at_place hhost]
  cases hfront with
  | none =>
      simp [hhostPart, hrest, hne, plainHost_plain hhost, splitPort_digits hn htail]
      rfl
  | marked hlogin_ne hlogin =>
      simp [hhostPart, hrest, hne, plainHost_plain hhost, splitPort_digits hn htail, hlogin_ne]
      rfl

end Authority

/-! ## Whole URLs -/

/-- The name of a scheme in small letters, to which no rules of the web apply. -/
structure PlainScheme (scheme : String) : Prop where
  first : scheme.toList.head?.any Char.isLower = true
  small : ∀ c ∈ scheme.toList, c.isLower = true ∨ c.isDigit = true ∨ c ∈ ['+', '-', '.']
  other : SchemeKind.ofName scheme = .other

variable {scheme : String}

theorem cleaned_eq_self (h : ∀ c ∈ text, 0x20 < c.toNat) : cleaned text = text := by
  have hstart : ∀ text : List Char, (∀ c ∈ text, 0x20 < c.toNat) →
      text.dropWhile (fun c => decide (c.toNat ≤ 0x20)) = text := by
    intro text h
    cases text with
    | nil => rfl
    | cons c rest =>
        have hc := h c (List.mem_cons_self ..)
        simp [Nat.not_le.mpr hc]
  have hreverse : ∀ c ∈ text.reverse, 0x20 < c.toNat := fun c hc => h c (List.mem_reverse.mp hc)
  simp only [cleaned, hstart text h, hstart text.reverse hreverse, List.reverse_reverse]
  rw [List.filter_eq_self]
  intro c hc
  have hwide := h c hc
  have hne : ∀ d : Char, d.toNat ≤ 0x20 → c ≠ d := by
    rintro d hd rfl
    omega
  simp [hne]

namespace PlainScheme

theorem takeWhile (h : PlainScheme scheme) :
    (scheme.toList ++ ':' :: tail).takeWhile
      (fun c => c.isAlphanum || ['+', '-', '.'].contains c) = scheme.toList := by
  rw [List.takeWhile_append_of_pos, List.takeWhile_cons_of_neg (by decide), List.append_nil]
  intro c hc
  obtain hlower | hdigit | hmark := h.small c hc
  · simp [Text.isAlphanum_of_isAlpha (Text.isAlpha_of_isLower hlower)]
  · simp [Text.isAlphanum_of_isDigit hdigit]
  · simp only [List.contains_iff_mem.mpr hmark, Bool.or_true]

theorem toLower (h : PlainScheme scheme) : scheme.toLower = scheme := by
  have hsmall : ∀ c ∈ scheme.toList, c.toLower = id c := by
    intro c hc
    apply Text.toLower_eq_self
    obtain hlower | hdigit | hmark := h.small c hc
    · rw [Text.isLower_iff] at hlower
      omega
    · have hcode : 48 ≤ c.toNat ∧ c.toNat ≤ 57 := Char.isDigit_iff_toNat.mp hdigit
      omega
    · simp only [List.mem_cons, List.not_mem_nil, or_false] at hmark
      obtain rfl | rfl | rfl := hmark <;> decide
  rw [← String.toList_inj, Text.toList_toLower, List.map_congr_left hsmall, List.map_id]

theorem splitScheme? (h : PlainScheme scheme) :
    Url.splitScheme? (scheme.toList ++ ':' :: tail) = some (scheme, tail) := by
  have hfirst : scheme.toList.head?.any Char.isAlpha = true := by
    have hlower := h.first
    cases hhead : scheme.toList.head? with
    | none => simp [hhead] at hlower
    | some c =>
        rw [hhead] at hlower
        exact Text.isAlpha_of_isLower hlower
  simp only [Url.splitScheme?, h.takeWhile, List.drop_left, hfirst, if_true, String.ofList_toList,
    h.toLower]

theorem lt_toNat (h : PlainScheme scheme) (hc : c ∈ scheme.toList) : 0x20 < c.toNat := by
  obtain hlower | hdigit | hmark := h.small c hc
  · rw [Text.isLower_iff] at hlower
    omega
  · have hbounds := toNat_of_isAlphanum (Text.isAlphanum_of_isDigit hdigit)
    omega
  · simp only [List.mem_cons, List.not_mem_nil, or_false] at hmark
    obtain rfl | rfl | rfl := hmark <;> decide

end PlainScheme

theorem parse_place {front : List Char} (hscheme : PlainScheme scheme) (hfront : Login front login)
    (hclean : ∀ c ∈ front ++ place host n tail, 0x20 < c.toNat) (hhost : Plain host)
    (hne : host ≠ []) (hn : n ≤ Numeral.maxPort) (htail : tail = [] ∨ ∃ t, tail = '/' :: t)
    {written : String}
    (hwritten : written.toList =
      scheme.toList ++ ':' :: '/' :: '/' :: (front ++ place host n tail)) :
    parse written = .ok ⟨scheme, (splitLogin login).1, (splitLogin login).2,
      some (String.ofList host), some n, pathParts .other tail⟩ := by
  have hcleaned : cleaned written.toList = written.toList := by
    apply cleaned_eq_self
    rw [hwritten]
    simp only [List.mem_append, List.mem_cons]
    rintro c (hc | rfl | rfl | rfl | hc)
    · exact hscheme.lt_toNat hc
    · decide
    · decide
    · decide
    · exact hclean c (List.mem_append.mpr hc)
  rw [parse, hcleaned, hwritten, hscheme.splitScheme?]
  simp only [hscheme.other]
  exact parseAuthority_eq hfront hhost hne hn htail

end Url

namespace ConnectionParams

variable {p : ConnectionParams}

/-- Some letters and digits of ASCII. -/
def IsWord (text : String) : Prop :=
  text ≠ "" ∧ Url.Plain text.toList

/-- All parts are words, and the scheme is one to which no rules of the web apply. -/
structure Plain (p : ConnectionParams) : Prop where
  scheme : Url.PlainScheme p.scheme
  host : IsWord p.host
  port : p.port < 2 ^ 16
  username : ∀ name ∈ p.username, IsWord name
  password : ∀ name ∈ p.password, IsWord name
  database : ∀ name ∈ p.database, IsWord name

/-- The login in front of the host, without its mark. -/
def login (p : ConnectionParams) : List Char :=
  match p.username, p.password with
  | some user, some secret => user.toList ++ ':' :: secret.toList
  | some user, none => user.toList
  | none, _ => []

def front (p : ConnectionParams) : List Char :=
  if p.username.isSome then p.login ++ ['@'] else []

/-- What is read of the URL: all but a password that stands alone. -/
def readUrl (p : ConnectionParams) : Url where
  scheme := p.scheme
  username := p.username.getD ""
  password := p.username.bind fun _ => p.password
  host := some p.host
  port := some p.port
  path := [(p.database.getD "").toList]

/-- The parameters without a password that stands alone. -/
def loggedIn (p : ConnectionParams) : ConnectionParams :=
  { p with password := if p.username = none then none else p.password }

theorem url_toList (p : ConnectionParams) :
    p.url.toList = p.scheme.toList ++ ':' :: '/' :: '/' ::
      (p.front ++ Url.place p.host.toList p.port (Url.pathOf p.database)) := by
  cases husername : p.username <;> cases hpassword : p.password <;> cases hdatabase : p.database <;>
    simp [url, render, front, login, Url.place, Url.pathOf, husername, hpassword, hdatabase]

namespace Plain

variable {c : Char}

theorem mem_login (h : p.Plain) (hc : c ∈ p.login) : c.isAlphanum = true ∨ c = ':' := by
  unfold login at hc
  split at hc
  · rename_i user secret husername hpassword
    simp only [List.mem_append, List.mem_cons] at hc
    obtain hc | rfl | hc := hc
    · exact .inl ((h.username user husername).2 c hc)
    · exact .inr rfl
    · exact .inl ((h.password secret hpassword).2 c hc)
  · rename_i user husername _
    exact .inl ((h.username user husername).2 c hc)
  · cases hc

theorem login_front (h : p.Plain) : Url.Login p.front p.login := by
  cases husername : p.username with
  | none =>
      have hnone : p.front = [] ∧ p.login = [] := by simp [front, login, husername]
      rw [hnone.1, hnone.2]
      exact .none
  | some user =>
      have hmarked : p.front = p.login ++ ['@'] := by simp [front, husername]
      have hne : user ≠ "" := (h.username user husername).1
      rw [hmarked]
      apply Url.Login.marked
      · cases hpassword : p.password <;> simp [login, husername, hpassword, hne]
      · intro c hc
        obtain hword | rfl := h.mem_login hc
        · exact Url.endsAuthority_of_isAlphanum hword
        · rfl

/-- A login is read as it was given, but for a password that stands alone. -/
theorem splitLogin_login (h : p.Plain) :
    Url.splitLogin p.login = (p.username.getD "", p.username.bind fun _ => p.password) := by
  cases husername : p.username with
  | none => simp [login, husername, Url.splitLogin, Url.encode]
  | some user =>
      have huser := (h.username user husername).2
      cases hpassword : p.password with
      | none => simp [login, husername, hpassword, Url.splitLogin_user huser]
      | some secret =>
          have hsecret := h.password secret hpassword
          have hne : secret.toList ≠ [] := by simpa using hsecret.1
          simp [login, husername, hpassword, Url.splitLogin_secret huser hsecret.2 hne]

theorem mem_front (h : p.Plain) (hc : c ∈ p.front) : c.isAlphanum = true ∨ c ∈ [':', '@'] := by
  unfold front at hc
  split at hc
  · obtain hc | hc := List.mem_append.mp hc
    · obtain hword | rfl := h.mem_login hc
      · exact .inl hword
      · exact .inr (List.mem_cons_self ..)
    · exact .inr (List.mem_cons_of_mem _ hc)
  · cases hc

theorem mem_pathOf (h : p.Plain) (hc : c ∈ Url.pathOf p.database) :
    c.isAlphanum = true ∨ c = '/' := by
  unfold Url.pathOf at hc
  split at hc
  · cases hc
  · rename_i name hname
    obtain rfl | hc := List.mem_cons.mp hc
    · exact .inr rfl
    · exact .inl ((h.database name hname).2 c hc)

/-- No blank is written behind the scheme. -/
theorem lt_toNat (h : p.Plain)
    (hc : c ∈ p.front ++ Url.place p.host.toList p.port (Url.pathOf p.database)) :
    0x20 < c.toNat := by
  suffices hkind : c.isAlphanum = true ∨ c ∈ [':', '@', '/'] by
    obtain hword | hmark := hkind
    · have hbounds := Url.toNat_of_isAlphanum hword
      omega
    · simp only [List.mem_cons, List.not_mem_nil, or_false] at hmark
      obtain rfl | rfl | rfl := hmark <;> decide
  simp only [Url.place, List.mem_append, List.mem_cons] at hc
  obtain hc | hc | rfl | hc | hc := hc
  · exact (h.mem_front hc).imp_right fun hmark => List.mem_append_left ['/'] hmark
  · exact .inl (h.host.2 c hc)
  · simp
  · exact .inl (by simp [Char.isAlphanum, Nat.isDigit_of_mem_toDigits (by decide) (by decide) hc])
  · exact (h.mem_pathOf hc).imp_right fun hslash => by simp [hslash]

theorem parse_url (h : p.Plain) : Url.parse p.url = .ok p.readUrl := by
  have hport : p.port ≤ Numeral.maxPort := Nat.lt_succ_iff.mp h.port
  have htail : Url.pathOf p.database = [] ∨ ∃ t, Url.pathOf p.database = '/' :: t := by
    cases p.database <;> simp [Url.pathOf]
  have hhost : p.host.toList ≠ [] := by simpa using h.host.1
  rw [Url.parse_place h.scheme h.login_front (fun c => h.lt_toNat) h.host.2 hhost hport htail
    p.url_toList, h.splitLogin_login,
    Url.pathParts_pathOf fun name hname => (h.database name hname).2, String.ofList_toList]
  rfl

theorem user?_readUrl (h : p.Plain) : p.readUrl.user? = p.username := by
  cases husername : p.username with
  | none => simp [readUrl, Url.user?, husername]
  | some user => simp [readUrl, Url.user?, husername, (h.username user husername).1]

theorem database?_readUrl (h : p.Plain) : p.readUrl.database? = p.database := by
  cases hdatabase : p.database with
  | none => simp [readUrl, Url.database?, Url.pathText, hdatabase]
  | some name =>
      obtain ⟨hne, hplain⟩ := h.database name hdatabase
      have hstart : name.toList.dropWhile (· = '/') = name.toList := by
        rw [List.dropWhile_eq_self_iff]
        intro hlength
        simpa using Url.ne_of_isAlphanum (hplain _ (List.getElem_mem hlength)) rfl
      simp [readUrl, Url.database?, Url.pathText, hdatabase, hstart, hne]

end Plain

end ConnectionParams

namespace Override

variable {backend scheme url : String} {p : ConnectionParams}

theorem withoutLabel_label (url : String) : withoutLabel ("jdbc:" ++ url) = url := by
  simp [withoutLabel]

theorem withoutLabel_eq_self (h : ¬ ['j', 'd', 'b', 'c', ':'] <+: url.toList) :
    withoutLabel url = url := by
  unfold withoutLabel
  split
  · rename_i rest hrest
    exact absurd ⟨rest, hrest.symm⟩ h
  · rfl

/-- A URL begins with `jdbc:` only if this is its scheme. -/
theorem withoutLabel_url (h : p.Plain) (hscheme : p.scheme ≠ "jdbc") :
    withoutLabel p.url = p.url := by
  apply withoutLabel_eq_self
  rintro ⟨rest, hrest⟩
  rw [p.url_toList] at hrest
  -- both sides are cut at their first colon, and the scheme has none
  have htake := congrArg (List.takeWhile fun c => c.isAlphanum || ['+', '-', '.'].contains c) hrest
  rw [h.scheme.takeWhile] at htake
  exact hscheme (String.toList_inj.mp htake.symm)

theorem paramsOfUrl_url (h : p.Plain) {written : String} (hwritten : withoutLabel written = p.url) :
    paramsOfUrl backend written = .ok p.loggedIn := by
  have hread := h.parse_url
  rw [← hwritten] at hread
  rw [paramsOfUrl_of_place hread rfl rfl, h.user?_readUrl, h.database?_readUrl]
  cases husername : p.username <;>
    simp [ConnectionParams.readUrl, ConnectionParams.loggedIn, husername]

/-- A URL on its own is the instance that it says. -/
theorem decide_url {written : String} :
    decide backend scheme ⟨some written, none, none, none, none, none⟩ =
      (paramsOfUrl backend written).map .external := by
  cases hparams : paramsOfUrl backend written <;>
    simp [decide, hparams, refine, bind, Except.bind, Except.map, pure, Except.pure]

/-- Without a URL, host and port are the instance, with whatever else is given. -/
theorem decide_host_and_port {port : String} (hport : readPort backend port = .ok p.port) :
    decide backend p.scheme ⟨none, some p.host, some port, p.username, p.password, p.database⟩ =
      .ok (.external p) := by
  simp [decide, hport, refine, bind, Except.bind]
  rfl

/-- An instance that is named by host and port, and by words in all its parts, is named by its URL
as well, behind `jdbc:` or, if this is not the scheme already, without it. Only a password without a
user name has no place in a URL. -/
theorem url_names_instance {env : Environment} {port : String} (h : p.Plain)
    (hport : Numeral.Denotes (Text.trim port.toList) p.port)
    (henv : Variables.HeldBy ⟨none, some p.host, some port, p.username, p.password, p.database⟩
      env backend) :
    ofEnvironment env backend p.scheme = .ok (.external p) ∧
      ∀ (env' : Environment) (written : String),
        written = "jdbc:" ++ p.url ∨ p.scheme ≠ "jdbc" ∧ written = p.url →
        Variables.HeldBy ⟨some written, none, none, none, none, none⟩ env' backend →
        ofEnvironment env' backend p.scheme = .ok (.external p.loggedIn) := by
  constructor
  · rw [henv.ofEnvironment_eq]
    exact decide_host_and_port (readPort_eq_ok_iff.mpr ⟨hport, h.port⟩)
  · intro env' written hwritten henv'
    have hurl : withoutLabel written = p.url := by
      obtain rfl | ⟨hscheme, rfl⟩ := hwritten
      · exact withoutLabel_label p.url
      · exact withoutLabel_url h hscheme
    rw [henv'.ofEnvironment_eq, decide_url, paramsOfUrl_url h hurl]
    rfl

section Cache

/-- A cache that is named part by part. -/
def cacheParts : Environment :=
  ⟨[("EXTERNAL_TEST_MEMORY_HOST", "cache".toUTF8), ("EXTERNAL_TEST_MEMORY_PORT", "6379".toUTF8),
    ("EXTERNAL_TEST_MEMORY_USERNAME", "app".toUTF8), ("EXTERNAL_TEST_MEMORY_PASSWORD", "pw".toUTF8),
    ("EXTERNAL_TEST_MEMORY_DATABASE", "orders".toUTF8)]⟩

/-- An environment of a URL alone. -/
def urlAlone (name url : String) : Environment :=
  ⟨[(name, url.toUTF8)]⟩

def cache : ConnectionParams :=
  ⟨"memory", "cache", 6379, some "app", some "pw", some "orders"⟩

theorem cache_plain : cache.Plain := by
  have hword : ∀ text : String, text ≠ "" ∧ text.toList.all Char.isAlphanum = true →
      ConnectionParams.IsWord text := fun text h => ⟨h.1, List.all_eq_true.mp h.2⟩
  have hsmall : cache.scheme.toList.all Char.isLower = true := by decide
  constructor
  · exact ⟨by decide, fun c hc => .inl (List.all_eq_true.mp hsmall c hc), by decide⟩
  · exact hword _ (by decide)
  · decide
  all_goals
    intro name hname
    cases hname
    exact hword _ (by decide)

/-- With a user name in front of it, the password is read from the URL. -/
theorem cache_named_by_url :
    ofEnvironment cacheParts "memory" "memory" = .ok (.external cache) ∧
      ofEnvironment
        (urlAlone "EXTERNAL_TEST_MEMORY_JDBC_URL" "jdbc:memory://app:pw@cache:6379/orders")
        "memory" "memory" = .ok (.external cache) := by
  have hport : Numeral.Denotes (Text.trim "6379".toList) cache.port :=
    (readPort_eq_ok_iff.mp (rfl : readPort "memory" "6379" = .ok 6379)).1
  have hparts : Variables.HeldBy
      ⟨none, some cache.host, some "6379", cache.username, cache.password, cache.database⟩
      cacheParts "memory" := by decide +kernel
  obtain ⟨hread, hurl⟩ := url_names_instance cache_plain hport hparts
  have hwritten : "jdbc:memory://app:pw@cache:6379/orders" = "jdbc:" ++ cache.url := by
    decide +kernel
  exact ⟨hread, hurl _ _ (.inl hwritten) (by decide +kernel)⟩

/-- Host, port and a password alone. -/
def lonePassword : Environment :=
  ⟨[("EXTERNAL_TEST_MEMORY_HOST", "cache".toUTF8), ("EXTERNAL_TEST_MEMORY_PORT", "6379".toUTF8),
    ("EXTERNAL_TEST_MEMORY_PASSWORD", "pw".toUTF8)]⟩

/-- Host and port alone. -/
def hostAndPort : Environment :=
  ⟨[("EXTERNAL_TEST_MEMORY_HOST", "db".toUTF8), ("EXTERNAL_TEST_MEMORY_PORT", "1".toUTF8)]⟩

/-- A password alone is lost on the way, and a scheme `jdbc` is taken for a label. -/
theorem lone_password_lost :
    (∃ p, ofEnvironment lonePassword "MEMORY" "memory" = .ok (.external p) ∧
      ofEnvironment (urlAlone "EXTERNAL_TEST_MEMORY_JDBC_URL" p.url) "MEMORY" "memory" ≠
        .ok (.external p)) ∧
      ∃ p, ofEnvironment hostAndPort "MEMORY" "jdbc" = .ok (.external p) ∧
        ofEnvironment (urlAlone "EXTERNAL_TEST_MEMORY_JDBC_URL" p.url) "MEMORY" "jdbc" ≠
          .ok (.external p) := by
  constructor
  · have hparts : Variables.HeldBy ⟨none, some "cache", some "6379", none, some "pw", none⟩
        lonePassword "MEMORY" := by decide +kernel
    have hurl : Variables.HeldBy ⟨some "memory://cache:6379", none, none, none, none, none⟩
        (urlAlone "EXTERNAL_TEST_MEMORY_JDBC_URL" "memory://cache:6379") "MEMORY" := by
      decide +kernel
    have hread : decide "MEMORY" "memory"
        ⟨some "memory://cache:6379", none, none, none, none, none⟩ =
        .ok (.external ⟨"memory", "cache", 6379, none, none, none⟩) := by decide +kernel
    refine ⟨⟨"memory", "cache", 6379, none, some "pw", none⟩, ?_, ?_⟩
    · rw [hparts.ofEnvironment_eq]
      decide +kernel
    · change ofEnvironment (urlAlone _ "memory://cache:6379") _ _ ≠ _
      rw [hurl.ofEnvironment_eq, hread]
      simp
  · have hparts : Variables.HeldBy ⟨none, some "db", some "1", none, none, none⟩
        hostAndPort "MEMORY" := by decide +kernel
    have hurl : Variables.HeldBy ⟨some "jdbc://db:1", none, none, none, none, none⟩
        (urlAlone "EXTERNAL_TEST_MEMORY_JDBC_URL" "jdbc://db:1") "MEMORY" := by decide +kernel
    have hread : decide "MEMORY" "jdbc" ⟨some "jdbc://db:1", none, none, none, none, none⟩ =
        .error (.invalidUrl "MEMORY" .relative) := by decide +kernel
    refine ⟨⟨"jdbc", "db", 1, none, none, none⟩, ?_, ?_⟩
    · rw [hparts.ofEnvironment_eq]
      decide +kernel
    · change ofEnvironment (urlAlone _ "jdbc://db:1") _ _ ≠ _
      rw [hurl.ofEnvironment_eq, hread]
      simp

end Cache

end Override

end ScopedResources
