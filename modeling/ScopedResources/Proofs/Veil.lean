import ScopedResources.Proofs.ExternalDecision
import ScopedResources.Proofs.PlainFiles
import Mathlib.Data.List.Basic

/-!
# What shows of a password

The password of an external instance is read from one variable of the environment. Two environments
that differ in no other variable lead to the same decision, up to the password in the parameters,
and a text for people says of a password only whether there is one. -/

namespace ScopedResources

/-! ## Parameters -/

namespace ConnectionParams

/-- The parameters with asterisks in the place of the password. -/
def veiled (p : ConnectionParams) : ConnectionParams :=
  { p with password := p.password.map fun _ => mask }

theorem shown_veiled (p : ConnectionParams) : p.veiled.shown = p.shown := by
  unfold shown veiled
  rw [Option.map_map]
  rfl

theorem diagnostic_veiled (p : ConnectionParams) : p.veiled.diagnostic = p.diagnostic := by
  unfold diagnostic veiled
  rw [Option.map_map]
  rfl

/-- The same parameters, but for what the password is, in the same texts for people. -/
structure LooksLike (p q : ConnectionParams) : Prop where
  rest : q = { p with password := q.password }
  given : q.password.isSome = p.password.isSome
  shown : q.shown = p.shown
  diagnostic : q.diagnostic = p.diagnostic

theorem looksLike_of_veiled {p q : ConnectionParams} (h : q.veiled = p.veiled) : p.LooksLike q where
  rest := by
    obtain ⟨_, _, _, _, _, _⟩ := p
    obtain ⟨_, _, _, _, _, _⟩ := q
    simp only [veiled, mk.injEq] at h ⊢
    exact ⟨h.1, h.2.1, h.2.2.1, h.2.2.2.1, trivial, h.2.2.2.2.2⟩
  given := by
    have hpassword := congrArg (fun p => p.password.isSome) h
    simpa [veiled] using hpassword
  shown := by rw [← shown_veiled q, h, shown_veiled]
  diagnostic := by rw [← diagnostic_veiled q, h, diagnostic_veiled]

end ConnectionParams

/-! ## Environments -/

namespace Environment

variable {env env' : Environment} {name held : String}

theorem afterStart?_eq_some_iff {start bytes rest : List UInt8} :
    afterStart? start bytes = some rest ↔ bytes = start ++ rest := by
  induction start generalizing bytes with
  | nil => simp [afterStart?]
  | cons b start ih =>
      cases bytes with
      | nil => simp [afterStart?]
      | cons c bytes =>
          unfold afterStart?
          by_cases hbyte : b = c
          · subst hbyte
            simp [ih]
          · simp [hbyte, Ne.symm hbyte]

theorem toList_loop (bytes : ByteArray) (i : Nat) (done : List UInt8) :
    ByteArray.toList.loop bytes i done = done.reverse ++ bytes.data.toList.drop i := by
  fun_induction ByteArray.toList.loop bytes i done with
  | case1 i done hlt ih =>
      have hindex : i < bytes.data.toList.length := hlt
      have hget : bytes.get! i = bytes.data.toList[i] := getElem!_pos bytes.data i hlt
      rw [ih, List.drop_eq_getElem_cons hindex, List.reverse_cons, List.append_assoc, hget]
      rfl
  | case2 i done hge =>
      rw [List.drop_eq_nil_of_le (Nat.le_of_not_lt hge), List.append_nil]

theorem toList_eq (bytes : ByteArray) : bytes.toList = bytes.data.toList :=
  toList_loop bytes 0 []

theorem bytes_append (front back : String) :
    (front ++ back).toUTF8.toList = front.toUTF8.toList ++ back.toUTF8.toList := by
  have happend : (front ++ back).toUTF8 = front.toUTF8 ++ back.toUTF8 := String.toByteArray_append
  rw [toList_eq, toList_eq, toList_eq, happend, ByteArray.toList_data_append]

theorem bytes_mark : "=".toUTF8.toList = [61] := by
  rw [toList_eq]
  decide

theorem bytes_named (name : String) : (name ++ "=").toUTF8.toList = name.toUTF8.toList ++ [61] := by
  rw [bytes_append, bytes_mark]

/-- Looking for `name` may come upon the entry of the variable `held`: behind a name and its equals
sign, the entry may go on in the name that is looked for. -/
def Reads (name held : String) : Prop :=
  (held ++ "=").toUTF8.toList <+: (name ++ "=").toUTF8.toList

/-- There is no equals sign in the name. -/
def IsName (name : String) : Prop :=
  61 ∉ name.toUTF8.toList

/-- The environments are equal but for what the variable `held` holds. -/
def AgreeBut (held : String) (env env' : Environment) : Prop :=
  ∀ name, ¬ Reads name held → env'.value? name = env.value? name

theorem AgreeBut.nonBlank? (h : AgreeBut held env env') (hname : ¬ Reads name held) :
    env'.nonBlank? name = env.nonBlank? name := by
  unfold Environment.nonBlank? text?
  rw [h name hname]

theorem reads_iff (hname : IsName name) : Reads name held ↔ name = held := by
  constructor
  · intro h
    unfold Reads at h
    rw [bytes_named, bytes_named] at h
    rcases List.prefix_concat_iff.mp h with heq | hstart
    · have hbytes := List.append_cancel_right heq
      rw [toList_eq, toList_eq] at hbytes
      exact (String.toByteArray_inj.mp (ByteArray.ext (Array.ext' hbytes))).symm
    · exact absurd (hstart.subset (List.mem_append_right _ List.mem_cons_self)) hname
  · rintro rfl
    exact List.prefix_refl _

theorem isName_iff : IsName name ↔ 61 ∉ name.toUTF8.data.toList := by
  unfold IsName
  rw [toList_eq]

/-- Who does not look for a variable does not come upon its entry. -/
theorem afterStart?_eq_none (hheld : IsName held) (hname : ¬ Reads name held) (value : ByteArray) :
    afterStart? (name ++ "=").toUTF8.toList (entryBytes (held, value)) = none := by
  rw [Option.eq_none_iff_forall_ne_some]
  intro rest hsome
  rw [afterStart?_eq_some_iff] at hsome
  rcases List.append_eq_append_iff.mp hsome with ⟨more, hmore, -⟩ | ⟨more, hmore, -⟩
  · exact hname ⟨more, hmore.symm⟩
  · -- the shorter name would end with an equals sign inside the longer one
    rcases more.eq_nil_or_concat' with rfl | ⟨more, last, rfl⟩
    · exact hname ⟨[], by rw [List.append_nil, hmore, List.append_nil]⟩
    · rw [bytes_named held, bytes_named name, ← List.append_assoc] at hmore
      have hbytes := (List.append_inj' hmore rfl).1
      refine hheld (hbytes ▸ ?_)
      exact List.mem_append_left _ (List.mem_append_right _ List.mem_cons_self)

theorem afterStart?_self (held : String) (value : ByteArray) :
    afterStart? (held ++ "=").toUTF8.toList (entryBytes (held, value)) = some value.toList :=
  afterStart?_eq_some_iff.mpr rfl

/-- Whatever a variable is set to, the others stay as they are. -/
theorem set_agreeBut (env : Environment) (hheld : IsName held) (value value' : ByteArray) :
    AgreeBut held (env.set held value) (env.set held value') := by
  intro name hname
  have hnone := afterStart?_eq_none hheld hname
  unfold value? set
  split
  · rfl
  · congr 1
    split
    · rw [List.findSome?_map, List.findSome?_map]
      congr 1
      funext entry
      dsimp only [Function.comp]
      split
      · rw [hnone value, hnone value']
      · rfl
    · simp only [List.findSome?_append, List.findSome?_cons, hnone]

theorem set_mem (env : Environment) (held : String) (value : ByteArray) :
    (held, value) ∈ (env.set held value).entries := by
  unfold set
  split
  next hany =>
    obtain ⟨entry, hmem, hentry⟩ := List.any_eq_true.mp hany
    exact List.mem_map.mpr ⟨entry, hmem, if_pos (of_decide_eq_true hentry)⟩
  next => exact List.mem_append_right _ List.mem_cons_self

theorem mem_of_mem_set {entry : String × ByteArray} {value : ByteArray}
    (h : entry ∈ (env.set held value).entries) :
    entry = (held, value) ∨ entry ∈ env.entries ∧ entry.1 ≠ held := by
  unfold set at h
  split at h
  next =>
    obtain ⟨before, hmem, rfl⟩ := List.mem_map.mp h
    split
    next => exact .inl rfl
    next hne => exact .inr ⟨hmem, hne⟩
  next hany =>
    rcases List.mem_append.mp h with hmem | hmem
    · refine .inr ⟨hmem, fun heq => hany (List.any_eq_true.mpr ⟨entry, hmem, decide_eq_true heq⟩)⟩
    · exact .inl (List.mem_singleton.mp hmem)

/-- The entry of a variable is found where all entries have names. -/
theorem value?_set (hheld : IsName held) (hentries : ∀ entry ∈ env.entries, IsName entry.1)
    (hnamed : held.isEmpty = false) (hnull : held.toList.contains (Char.ofNat 0) = false)
    (value : ByteArray) : (env.set held value).value? held = some value := by
  have hother : ∀ entry ∈ env.entries, entry.1 ≠ held →
      afterStart? (held ++ "=").toUTF8.toList (entryBytes entry) = none := fun entry hmem hne =>
    afterStart?_eq_none (hentries entry hmem) (fun h => hne ((reads_iff hheld).mp h).symm) entry.2
  have hself : (afterStart? (held ++ "=").toUTF8.toList (entryBytes (held, value))).isSome := by
    rw [afterStart?_self]
    rfl
  have hfound : ((env.set held value).entries.findSome? fun entry =>
      afterStart? (held ++ "=").toUTF8.toList (entryBytes entry)).isSome :=
    List.findSome?_isSome_iff.mpr ⟨_, set_mem env held value, hself⟩
  obtain ⟨found, hfound⟩ := Option.isSome_iff_exists.mp hfound
  obtain ⟨entry, hmem, hentry⟩ := List.exists_of_findSome?_eq_some hfound
  unfold value?
  rw [hnamed, hnull, Bool.or_self, if_neg Bool.false_ne_true, hfound, ← hentry]
  rcases mem_of_mem_set hmem with rfl | ⟨hmem, hne⟩
  · rw [afterStart?_self, Option.map_some, toList_eq]
  · rw [hother entry hmem hne] at hentry
    cases hentry

theorem holds_set {secret : String} (hheld : IsName held)
    (hentries : ∀ entry ∈ env.entries, IsName entry.1) (hnamed : held.isEmpty = false)
    (hnull : held.toList.contains (Char.ofNat 0) = false)
    (hsecret : ∃ c ∈ secret.toList, Text.isBlank c = false) :
    (env.set held secret.toUTF8).Holds held secret :=
  ⟨_, value?_set hheld hentries hnamed hnull _, Files.fromUTF8?_toUTF8 secret, hsecret⟩

end Environment

namespace Override

variable {env env' : Environment} {backend defaultScheme secret : String} {v : Variables}

/-- The variable that holds the password for a backend. -/
abbrev passwordName (backend : String) : String :=
  variableName backend "PASSWORD"

theorem not_reads_password (suffix : String)
    (h : ¬ "PASSWORD=".toUTF8.data.toList <+: (suffix ++ "=").toUTF8.data.toList) :
    ¬ Environment.Reads (variableName backend suffix) (passwordName backend) := by
  unfold Environment.Reads passwordName variableName
  generalize "EXTERNAL_TEST_" ++ backend.toUpper ++ "_" = front
  rw [String.append_assoc, String.append_assoc, Environment.bytes_append,
    Environment.bytes_append front, List.prefix_append_right_inj, Environment.toList_eq,
    Environment.toList_eq]
  exact h

/-- The two environments hold the same variables of the backend, but for the password. -/
theorem Variables.ofEnvironment_agreeBut
    (h : Environment.AgreeBut (passwordName backend) env env') :
    Variables.ofEnvironment env' backend =
      { Variables.ofEnvironment env backend with
        password := env'.nonBlank? (passwordName backend) } := by
  unfold Variables.ofEnvironment
  dsimp only
  rw [h.nonBlank? (not_reads_password "JDBC_URL" (by decide)),
    h.nonBlank? (not_reads_password "HOST" (by decide)),
    h.nonBlank? (not_reads_password "PORT" (by decide)),
    h.nonBlank? (not_reads_password "USERNAME" (by decide)),
    h.nonBlank? (not_reads_password "DATABASE" (by decide))]

/-- The decision with asterisks in the place of the password. -/
def Decision.veiled : Decision → Decision
  | .external params => .external params.veiled
  | decision => decision

/-- Which password is given has no part in the decision. -/
theorem decide_veiled (hgiven : v.password.isSome) (backend defaultScheme secret : String) :
    (decide backend defaultScheme { v with password := some secret }).map Decision.veiled =
      (decide backend defaultScheme v).map Decision.veiled := by
  obtain ⟨url, host, written, username, password, database⟩ := v
  obtain ⟨known, rfl⟩ : ∃ known, password = some known := Option.isSome_iff_exists.mp hgiven
  have hrefine : ∀ port params,
      (refine ⟨url, host, written, username, some secret, database⟩ port params).veiled =
        (refine ⟨url, host, written, username, some known, database⟩ port params).veiled :=
    fun _ _ => rfl
  unfold decide
  dsimp only
  generalize written.mapM (readPort backend) = port
  simp only [bind, Except.bind, pure, Except.pure]
  rcases port with fault | port
  · rfl
  · cases url with
    | some url =>
        dsimp only
        generalize paramsOfUrl backend url = read
        cases read with
        | error fault => rfl
        | ok params => simp only [Except.map, Decision.veiled, hrefine]
    | none =>
        cases host with
        | none => cases port <;> rfl
        | some host =>
            cases port with
            | none => rfl
            | some number => simp only [Except.map, Decision.veiled, hrefine]

theorem Source.decide_veiled (source : Source)
    (h : Environment.AgreeBut (passwordName backend) env env')
    (hgiven : (env.nonBlank? (passwordName backend)).isSome)
    (hgiven' : (env'.nonBlank? (passwordName backend)).isSome) (defaultScheme : String) :
    (source.decide env' backend defaultScheme).map Decision.veiled =
      (source.decide env backend defaultScheme).map Decision.veiled := by
  cases source with
  | environment =>
      obtain ⟨secret, hsecret⟩ := Option.isSome_iff_exists.mp hgiven'
      unfold Source.decide ofEnvironment
      dsimp only
      rw [Variables.ofEnvironment_agreeBut h, hsecret]
      exact Override.decide_veiled hgiven backend defaultScheme secret
  | fixed instances => rfl
  | disabled => rfl

end Override

namespace Image

/-- The image is a placeholder, and looking for its variable may come upon the variable `held`. -/
def Reads (reference held : String) : Prop :=
  ∃ body, placeholder? (Text.trimmed reference).toList = some body ∧
    Environment.Reads (nameAndDefault body).1 held

theorem resolve_agreeBut {held reference : String} {env env' : Environment}
    (h : Environment.AgreeBut held env env') (himage : ¬ Reads reference held) :
    resolve env' reference = resolve env reference := by
  unfold resolve
  dsimp only
  cases hbody : placeholder? (Text.trimmed reference).toList with
  | none => rfl
  | some body =>
      dsimp only
      rw [h.nonBlank? fun hreads => himage ⟨body, hbody, hreads⟩]

end Image

end ScopedResources
