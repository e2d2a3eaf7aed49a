import ScopedResources.Files.Tree
import ScopedResources.Proofs.VersionNames
import Mathlib.Data.List.Basic

/-!
# Files beside a file

A path that is written in a file is looked for beside that file. Where it leads hangs on the place
of the file's directory alone, and neither on the text of the file's path nor on the links by which
the file was reached. So two paths that lead to one file in one directory can stand for each other,
whatever is looked for beside them. -/

namespace ScopedResources.Files

/-! ## Where names lead -/

/-- A name that leads from a directory to itself. -/
def IsIdle (name : String) : Prop :=
  name = "" ∨ name = "."

instance (name : String) : Decidable (IsIdle name) :=
  inferInstanceAs (Decidable (_ ∨ _))

namespace Tree

/-- Where a name leads from a directory, and the names of the link that is found there. -/
def turn? (t : Tree) (place : Place) (name : String) : Option (Place × List String) :=
  if (t.find? place).any Entry.isDirectory then
    if IsIdle name then some (place, [])
    else if name = ".." then some (place.dropLast, [])
    else match t.find? (place ++ [name]) with
      | none => none
      | some (.link path) => some (if Path.isAbsolute path then [] else place, Path.names path)
      | some _ => some (place ++ [name], [])
  else none

/-- Names lead from a place to another one, over however many links. -/
inductive Leads (t : Tree) : Place → List String → Place → Prop
  | here (place : Place) : Leads t place [] place
  | turn {place next target : Place} {name : String} {more rest : List String}
      (hturn : t.turn? place name = some (next, more))
      (hrest : Leads t next (more ++ rest) target) : Leads t place (name :: rest) target

variable {t : Tree} {place target other : Place} {name : String} {names front back : List String}

/-- A name that is no link leads on to the rest of the names alone. -/
theorem Leads.step {next : Place} (hturn : t.turn? place name = some (next, []))
    (hrest : t.Leads next names target) : t.Leads place (name :: names) target :=
  .turn hturn hrest

theorem leads_of_follow {links : Nat} (h : t.follow links place names = .ok target) :
    t.Leads place names target := by
  have hidle : ∀ {name : String},
      (decide (name = "") || decide (name = ".")) = true ↔ IsIdle name :=
    fun {name} => by rw [Bool.or_eq_true, decide_eq_true_eq, decide_eq_true_eq, IsIdle]
  induction links, place, names using Tree.follow.induct t with
  | case1 links place =>
      rw [follow] at h
      cases h
      exact .here _
  | case2 links place name rest hdir =>
      rw [follow, if_pos hdir] at h
      cases h
  | case3 links place name rest hdir hname ih =>
      rw [follow, if_neg hdir, if_pos hname] at h
      rw [Bool.not_eq_true', Bool.not_eq_false] at hdir
      refine .step ?_ (ih h)
      rw [turn?, if_pos hdir, if_pos (hidle.mp hname)]
  | case4 links place rest hdir hname ih =>
      rw [follow, if_neg hdir, if_neg hname, if_pos rfl] at h
      rw [Bool.not_eq_true', Bool.not_eq_false] at hdir
      refine .step ?_ (ih h)
      rw [turn?, if_pos hdir, if_neg (mt hidle.mpr hname), if_pos rfl]
  | case5 links place name rest hdir hname hup hlong =>
      rw [follow, if_neg hdir, if_neg hname, if_neg hup, if_pos hlong] at h
      cases h
  | case6 links place name rest hdir hname hup hshort hnone =>
      rw [follow, if_neg hdir, if_neg hname, if_neg hup, if_neg hshort, hnone] at h
      cases h
  | case7 place name rest hdir hname hup hshort path hentry =>
      rw [follow, if_neg hdir, if_neg hname, if_neg hup, if_neg hshort, hentry] at h
      cases h
  | case8 place name rest hdir hname hup hshort path hentry left ih =>
      rw [follow, if_neg hdir, if_neg hname, if_neg hup, if_neg hshort, hentry] at h
      rw [Bool.not_eq_true', Bool.not_eq_false] at hdir
      refine .turn ?_ (ih h)
      rw [turn?, if_pos hdir, if_neg (mt hidle.mpr hname), if_neg hup, hentry]
      rfl
  | case9 links place name rest hdir hname hup hshort entry hlink hentry ih =>
      rw [follow, if_neg hdir, if_neg hname, if_neg hup, if_neg hshort, hentry] at h
      rw [Bool.not_eq_true', Bool.not_eq_false] at hdir
      refine .step ?_ (ih ?_)
      · rw [turn?, if_pos hdir, if_neg (mt hidle.mpr hname), if_neg hup, hentry]
        cases entry with
        | link path => exact absurd rfl (hlink path)
        | file _ => rfl
        | directory => rfl
      · cases entry with
        | link path => exact absurd rfl (hlink path)
        | file _ => exact h
        | directory => exact h

namespace Leads

theorem append_inv (h : t.Leads place (front ++ back) target) :
    ∃ middle, t.Leads place front middle ∧ t.Leads middle back target := by
  generalize hnames : front ++ back = names at h
  induction h generalizing front with
  | here place =>
      obtain ⟨rfl, rfl⟩ := List.append_eq_nil_iff.mp hnames
      exact ⟨place, .here place, .here place⟩
  | @turn place next target name more rest hturn hrest ih =>
      cases front with
      | nil =>
          rw [List.nil_append] at hnames
          exact ⟨place, .here place, hnames ▸ .turn hturn hrest⟩
      | cons first others =>
          obtain ⟨rfl, rfl⟩ := List.cons.inj hnames
          obtain ⟨middle, hothers, hback⟩ := ih (List.append_assoc more others back)
          exact ⟨middle, .turn hturn hothers, hback⟩

theorem unique (h : t.Leads place names target) (h' : t.Leads place names other) :
    target = other := by
  induction h with
  | here place => cases h'; rfl
  | turn hturn _ ih =>
      cases h' with
      | turn hturn' hrest' =>
          cases hturn.symm.trans hturn'
          exact ih hrest'

theorem directory (h : t.Leads place (name :: names) target) :
    (t.find? place).any Entry.isDirectory = true := by
  cases h with
  | turn hturn _ =>
      by_contra hnot
      rw [turn?, if_neg hnot] at hturn
      cases hturn

theorem idle_cons_iff (hname : IsIdle name) : t.Leads place (name :: names) target ↔
    (t.find? place).any Entry.isDirectory = true ∧ t.Leads place names target := by
  constructor
  · intro h
    refine ⟨h.directory, ?_⟩
    cases h with
    | turn hturn hrest =>
        have hdirectory := (turn hturn hrest).directory
        rw [turn?, if_pos hdirectory, if_pos hname] at hturn
        cases hturn
        exact hrest
  · rintro ⟨hdirectory, hrest⟩
    refine .step ?_ hrest
    rw [turn?, if_pos hdirectory, if_pos hname]

/-- Idle names do not lead away from a directory. -/
theorem eq_of_idle (hidle : ∀ name ∈ names, IsIdle name) (h : t.Leads place names target) :
    place = target := by
  induction names with
  | nil => cases h; rfl
  | cons name rest ih =>
      rw [List.forall_mem_cons] at hidle
      exact ih hidle.2 ((idle_cons_iff hidle.1).mp h).2

end Leads

end Tree

/-! ## The names of a path -/

section Parts

variable {isMark : Char → Bool}

theorem parts_ne_nil (isMark : Char → Bool) (text : List Char) : Text.parts isMark text ≠ [] := by
  induction text with
  | nil => exact List.cons_ne_nil _ _
  | cons c rest ih =>
      rw [Text.parts]
      split
      · exact List.cons_ne_nil _ _
      · split <;> exact List.cons_ne_nil _ _

theorem parts_append {mark : Char} (hmark : isMark mark = true) (before after : List Char) :
    Text.parts isMark (before ++ mark :: after) =
      Text.parts isMark before ++ Text.parts isMark after := by
  induction before with
  | nil => simp [Text.parts, hmark]
  | cons c rest ih =>
      rw [List.cons_append, Text.parts, Text.parts, ih]
      cases hrest : Text.parts isMark rest with
      | nil => exact absurd hrest (parts_ne_nil _ _)
      | cons first others => split <;> rfl

theorem unmarked_of_mem_parts {text part : List Char} (h : part ∈ Text.parts isMark text) :
    ∀ c ∈ part, isMark c = false := by
  induction text generalizing part with
  | nil =>
      rw [Text.parts, List.mem_singleton] at h
      subst h
      exact List.forall_mem_nil _
  | cons c rest ih =>
      rw [Text.parts] at h
      cases hc : isMark c with
      | true =>
          rw [hc, if_pos rfl, List.mem_cons] at h
          rcases h with rfl | h
          · exact List.forall_mem_nil _
          · exact ih h
      | false =>
          rw [hc, if_neg Bool.false_ne_true] at h
          cases hrest : Text.parts isMark rest with
          | nil => exact absurd hrest (parts_ne_nil _ _)
          | cons first others =>
              rw [hrest] at h ih
              rcases List.mem_cons.mp h with rfl | h
              · exact List.forall_mem_cons.mpr ⟨hc, ih List.mem_cons_self⟩
              · exact ih (List.mem_cons_of_mem _ h)

/-- Pieces without marks are the parts of the text in which marks stand between them. -/
theorem parts_intercalate {mark : Char} (hmark : isMark mark = true) {pieces : List (List Char)}
    (hne : pieces ≠ []) (h : ∀ piece ∈ pieces, ∀ c ∈ piece, isMark c = false) :
    Text.parts isMark ([mark].intercalate pieces) = pieces := by
  induction pieces with
  | nil => exact absurd rfl hne
  | cons piece rest ih =>
      rw [List.forall_mem_cons] at h
      cases rest with
      | nil => rw [List.intercalate_singleton, Migration.parts_of_unmarked h.1]
      | cons next rest =>
          rw [List.intercalate_cons_cons, List.append_assoc, List.singleton_append,
            parts_append hmark, Migration.parts_of_unmarked h.1,
            ih (List.cons_ne_nil _ _) h.2]
          rfl

end Parts

namespace Path

variable {path base file : String}

theorem names_ne_nil (path : String) : names path ≠ [] := by
  rw [names, ne_eq, List.map_eq_nil_iff]
  exact parts_ne_nil _ _

theorem toList_of_mem_names {name : String} (h : name ∈ names path) :
    ∀ c ∈ name.toList, decide (c = '/') = false := by
  obtain ⟨part, hpart, rfl⟩ := List.mem_map.mp h
  rw [String.toList_ofList]
  exact unmarked_of_mem_parts hpart

theorem names_intercalate {kept : List String} (hne : kept ≠ [])
    (h : ∀ name ∈ kept, name ∈ names path) : names ("/".intercalate kept) = kept := by
  rw [names, String.toList_intercalate]
  change ((Text.parts _ (['/'].intercalate _)).map _) = _
  rw [parts_intercalate (decide_eq_true rfl) (by rwa [ne_eq, List.map_eq_nil_iff])]
  · rw [List.map_map]
    exact (List.map_congr_left fun name _ => String.ofList_toList).trans (List.map_id _)
  · intro piece hpiece
    obtain ⟨name, hname, rfl⟩ := List.mem_map.mp hpiece
    exact toList_of_mem_names (h name hname)

theorem isAbsolute_iff : isAbsolute path = true ↔ ∃ name rest, names path = "" :: name :: rest := by
  unfold isAbsolute names
  cases path.toList with
  | nil => simp [Text.parts]
  | cons c rest =>
      obtain ⟨first, others, hparts⟩ := List.exists_cons_of_ne_nil (parts_ne_nil (· = '/') rest)
      rw [Text.parts, hparts]
      by_cases hc : c = '/'
      · simp [hc]
      · simp [hc, String.ofList_eq_empty_iff]

theorem names_append_slash (text file : String) :
    names (text ++ "/" ++ file) = names text ++ names file := by
  have hsplit : Text.parts (· = '/') (text.toList ++ '/' :: file.toList) = _ :=
    parts_append (decide_eq_true rfl) text.toList file.toList
  rw [names, String.toList_append, String.toList_append, List.append_assoc]
  change List.map _ (Text.parts _ (text.toList ++ '/' :: file.toList)) = _
  rw [hsplit, List.map_append]
  rfl

theorem join_empty (hrelative : isAbsolute file = false) : join "" file = file := by
  rw [join, hrelative, if_neg Bool.false_ne_true]
  exact (if_pos rfl).trans (String.empty_append ..)

/-- The names of a path below another one are its own names behind those of the other. -/
theorem names_join (base : String) (hrelative : isAbsolute file = false) :
    ∃ lead, names (join base file) = lead ++ names file ∧
      (names base = lead ∨ names base = lead ++ [""]) := by
  by_cases hempty : base = ""
  · subst hempty
    exact ⟨[], congrArg names (join_empty hrelative), .inr rfl⟩
  unfold join
  rw [hrelative, if_neg Bool.false_ne_true]
  by_cases hslash : base.toList.getLast? = some '/'
  · rw [if_pos (by rw [hslash]; simp)]
    obtain ⟨init, hinit⟩ := List.getLast?_eq_some_iff.mp hslash
    have hbase : base = String.ofList init ++ "/" := by
      rw [← String.toList_inj, String.toList_append, String.toList_ofList, hinit]
      rfl
    refine ⟨names (String.ofList init), ?_, .inr ?_⟩
    · rw [hbase, names_append_slash]
    · have hnames := names_append_slash (String.ofList init) ""
      rwa [String.append_empty, ← hbase] at hnames
  · rw [if_neg (by simp [hempty, hslash]), names_append_slash]
    exact ⟨names base, rfl, .inl rfl⟩

theorem isAbsolute_join (hrelative : isAbsolute file = false) :
    isAbsolute (join base file) = isAbsolute base := by
  by_cases hempty : base = ""
  · subst hempty
    rw [join_empty hrelative, hrelative]
    rfl
  · obtain ⟨c, rest, hbase⟩ := List.exists_cons_of_ne_nil (mt String.toList_eq_nil_iff.mp hempty)
    unfold join
    rw [hrelative, if_neg Bool.false_ne_true]
    unfold isAbsolute
    split <;> simp [hbase]

theorem dropIdle_spec {reversed : List String} (hne : reversed ≠ []) :
    ∃ idles kept, reversed = idles ++ kept ∧ (∀ name ∈ idles, IsIdle name) ∧ kept ≠ [] ∧
      dropIdle reversed = kept := by
  induction reversed with
  | nil => exact absurd rfl hne
  | cons last rest ih =>
      cases rest with
      | nil => exact ⟨[], [last], rfl, List.forall_mem_nil _, hne, rfl⟩
      | cons before rest =>
          by_cases hlast : IsIdle last
          · obtain ⟨idles, kept, hrest, hidles, hkept, hdrop⟩ := ih (List.cons_ne_nil _ _)
            refine ⟨last :: idles, kept, by rw [hrest]; rfl,
              List.forall_mem_cons.mpr ⟨hlast, hidles⟩, hkept, ?_⟩
            rw [dropIdle, ← hdrop]
            exact if_pos (by simpa [IsIdle] using hlast)
          · refine ⟨[], _, rfl, List.forall_mem_nil _, hne, ?_⟩
            rw [dropIdle]
            exact if_neg (by simpa [IsIdle] using hlast)

theorem parent_eq {front : List String} {last : String} (hnames : names path = front ++ [last])
    (hlast : ¬ IsIdle last) : parent path = ofReversed (dropIdle front.reverse) := by
  have hdrop : dropIdle (last :: front.reverse) = last :: front.reverse := by
    cases front.reverse with
    | nil => rfl
    | cons before rest =>
        rw [dropIdle]
        exact if_neg (by simpa [IsIdle] using hlast)
  rw [parent, hnames, List.reverse_append, List.reverse_singleton, List.singleton_append, hdrop]
  split
  · next heq => cases heq
  · next heq =>
      obtain ⟨rfl, -⟩ := List.cons.inj heq
      exact absurd (.inl rfl) hlast
  · next heq =>
      obtain ⟨-, rfl⟩ := List.cons.inj heq
      rfl

end Path

namespace Tree

variable {t : Tree} {path file text : String} {directory place : Place}

/-- Where the names of a path begin. -/
def origin (t : Tree) (path : String) : Place :=
  if Path.isAbsolute path then [] else t.start

/-- A path leads to a place, over however many links. -/
def LeadsTo (t : Tree) (path : String) (place : Place) : Prop :=
  t.Leads (t.origin path) (Path.names path) place

theorem origin_congr {path' : String} (h : Path.isAbsolute path = Path.isAbsolute path') :
    t.origin path = t.origin path' := by
  rw [origin, origin, h]

theorem leadsTo_of_resolve (h : t.resolve path = .ok place) : t.LeadsTo path place := by
  unfold resolve at h
  split at h
  · cases h
  · split at h
    · cases h
    · split at h
      · cases h
      · exact leads_of_follow h

theorem resolve_of_read (h : t.read path = .ok text) :
    ∃ place content, t.resolve path = .ok place ∧ t.find? place = some (.file content) := by
  unfold read at h
  cases hresolve : t.resolve path with
  | error fault =>
      rw [hresolve] at h
      cases h
  | ok place =>
      rw [hresolve] at h
      dsimp only [bind, Except.bind] at h
      split at h
      · exact ⟨place, _, rfl, by assumption⟩
      · cases h

/-- A path that can be read ends in the name of a file. -/
theorem names_of_read (h : t.read path = .ok text) :
    ∃ front last place, Path.names path = front ++ [last] ∧ ¬ IsIdle last ∧
      t.resolve path = .ok place ∧ t.Leads (t.origin path) (front ++ [last]) place := by
  obtain ⟨place, content, hresolve, hfile⟩ := resolve_of_read h
  have hleads := leadsTo_of_resolve hresolve
  obtain ⟨front, last, hnames⟩ := List.eq_nil_or_concat (Path.names path) |>.resolve_left
    (Path.names_ne_nil path)
  rw [List.concat_eq_append] at hnames
  rw [LeadsTo, hnames] at hleads
  refine ⟨front, last, place, hnames, fun hidle => ?_, hresolve, hleads⟩
  obtain ⟨middle, -, hlast⟩ := hleads.append_inv
  obtain ⟨hdirectory, hhere⟩ := (Leads.idle_cons_iff hidle).mp hlast
  cases hhere
  rw [hfile] at hdirectory
  cases hdirectory

/-- The names in front of the last one lead to the same place as the path of the directory. -/
theorem leadsTo_parent {front : List String} {last : String}
    (hnames : Path.names path = front ++ [last])
    (hlast : ¬ IsIdle last) (h : t.Leads (t.origin path) front directory)
    (hdirectory : (t.find? directory).any Entry.isDirectory = true) :
    t.LeadsTo (Path.parent path) directory := by
  rw [Path.parent_eq hnames hlast]
  by_cases hfront : front = []
  · subst hfront
    have hrelative : Path.isAbsolute path = false := by
      rw [← Bool.not_eq_true, Path.isAbsolute_iff, hnames]
      rintro ⟨name, rest, hcons⟩
      cases hcons
    rw [origin, hrelative, if_neg Bool.false_ne_true] at h
    cases h
    exact (Leads.idle_cons_iff (.inl rfl)).mpr ⟨hdirectory, .here _⟩
  obtain ⟨idles, reversed, hreversed, hidles, hkept, hdrop⟩ :=
    Path.dropIdle_spec (mt List.reverse_eq_nil_iff.mp hfront)
  rw [hdrop]
  obtain rfl : front = reversed.reverse ++ idles.reverse := by
    rw [← List.reverse_append, ← hreversed, List.reverse_reverse]
  -- the idle names at the end lead nowhere else
  obtain ⟨middle, hmiddle, hrest⟩ := h.append_inv
  obtain rfl := hrest.eq_of_idle fun name hname => hidles name (List.mem_reverse.mp hname)
  unfold Path.ofReversed
  split
  · exact absurd rfl hkept
  · -- nothing but the root of all files is left
    have habsolute : Path.isAbsolute path = true := by
      rw [Path.isAbsolute_iff, hnames]
      cases idles.reverse with
      | nil => exact ⟨last, [], rfl⟩
      | cons name rest => exact ⟨name, rest ++ [last], rfl⟩
    rw [origin, habsolute, if_pos rfl] at hmiddle
    obtain rfl := hmiddle.eq_of_idle (by simp [IsIdle])
    exact (Leads.idle_cons_iff (.inl rfl)).mpr
      ⟨rfl, (Leads.idle_cons_iff (.inl rfl)).mpr ⟨rfl, .here _⟩⟩
  · next hroot =>
    have hparent : Path.names ("/".intercalate reversed.reverse) = reversed.reverse :=
      Path.names_intercalate (mt List.reverse_eq_nil_iff.mp hkept) fun name hname => by
        rw [hnames]
        exact List.mem_append_left _ (List.mem_append_left _ hname)
    have horigin : t.origin ("/".intercalate reversed.reverse) = t.origin path := by
      refine origin_congr (Bool.eq_iff_iff.mpr ?_)
      rw [Path.isAbsolute_iff, Path.isAbsolute_iff, hparent, hnames]
      rcases hsplit : reversed.reverse with _ | ⟨first, _ | ⟨second, rest⟩⟩
      · exact absurd (List.reverse_eq_nil_iff.mp hsplit) hkept
      · have hfirst : first ≠ "" := fun h =>
          hroot (by rw [List.reverse_eq_iff.mp hsplit, h]; rfl)
        simp [hfirst]
      · simp
    rw [LeadsTo, horigin, hparent]
    exact hmiddle

/-! ## Beside a file -/

/-- Two paths name the same file in the same directory. A link to a file from another directory is
another file in this sense, since what is named beside it is looked for elsewhere. -/
structure SameFile (t : Tree) (path path' : String) : Prop where
  place : ∃ place, t.resolve path = .ok place ∧ t.resolve path' = .ok place
  directory : ∃ directory, t.LeadsTo (Path.parent path) directory ∧
    t.LeadsTo (Path.parent path') directory

variable {path' text' : String}

theorem SameFile.read (h : t.SameFile path path') : t.read path' = t.read path := by
  obtain ⟨place, hplace, hplace'⟩ := h.place
  rw [Tree.read, Tree.read, hplace, hplace']

theorem SameFile.trans {path'' : String} (h : t.SameFile path path')
    (h' : t.SameFile path' path'') : t.SameFile path path'' := by
  obtain ⟨⟨place, hplace, hplace'⟩, directory, hdirectory, hdirectory'⟩ := h
  obtain ⟨⟨other, hother, hother'⟩, aside, haside, haside'⟩ := h'
  cases hplace'.symm.trans hother
  cases hdirectory'.unique haside
  exact ⟨⟨place, hplace, hother'⟩, directory, hdirectory, haside'⟩

/-- A path below a directory leads on from where the directory is. -/
theorem leads_of_join {base : String} (hrelative : Path.isAbsolute file = false)
    (hbase : t.LeadsTo base directory) :
    ∃ lead, Path.names (Path.join base file) = lead ++ Path.names file ∧
      ∀ {rest : List String} {target : Place},
        t.Leads (t.origin (Path.join base file)) (lead ++ rest) target →
          t.Leads directory rest target := by
  obtain ⟨lead, hjoin, hlead⟩ := Path.names_join base hrelative
  refine ⟨lead, hjoin, fun {rest target} h => ?_⟩
  rw [origin_congr (Path.isAbsolute_join hrelative)] at h
  obtain ⟨middle, hmiddle, hrest⟩ := h.append_inv
  unfold LeadsTo at hbase
  rcases hlead with hlead | hlead
  · rw [hlead] at hbase
    cases hbase.unique hmiddle
    exact hrest
  · rw [hlead] at hbase
    obtain ⟨before, hbefore, hend⟩ := hbase.append_inv
    cases hbefore.unique hmiddle
    obtain rfl := hend.eq_of_idle (by simp [IsIdle])
    exact hrest

/-- What can be read beside a file is found from the place of its directory alone. -/
theorem leads_of_read_join {base : String} (hrelative : Path.isAbsolute file = false)
    (hbase : t.LeadsTo base directory) (hread : t.read (Path.join base file) = .ok text) :
    ∃ place inner, t.resolve (Path.join base file) = .ok place ∧
      t.LeadsTo (Path.parent (Path.join base file)) inner ∧
        t.Leads directory (Path.names file) place ∧
      t.Leads directory (Path.names file).dropLast inner := by
  obtain ⟨front, last, place, hnames, hlast, hresolve, hleads⟩ := names_of_read hread
  obtain ⟨inner, hfront, hplace⟩ := hleads.append_inv
  obtain ⟨lead, hjoin, hlead⟩ := leads_of_join hrelative hbase
  refine ⟨place, inner, hresolve, leadsTo_parent hnames hlast hfront hplace.directory,
    hlead ?_, hlead ?_⟩
  · rwa [← hjoin, hnames]
  · have hdrop := congrArg List.dropLast (hnames.symm.trans hjoin)
    rw [List.dropLast_concat, List.dropLast_append_of_ne_nil (Path.names_ne_nil file)] at hdrop
    rwa [← hdrop]

theorem sameFile_self (hread : t.read path = .ok text) : t.SameFile path path := by
  obtain ⟨front, last, place, hnames, hlast, hresolve, hleads⟩ := names_of_read hread
  obtain ⟨directory, hfront, hplace⟩ := hleads.append_inv
  have hparent := leadsTo_parent hnames hlast hfront hplace.directory
  exact ⟨⟨place, hresolve, hresolve⟩, directory, hparent, hparent⟩

/-- What is named beside a file is the same under any path of the file. -/
theorem SameFile.beside (h : t.SameFile path path')
    (hread : t.read (Path.join (Path.parent path) file) = .ok text)
    (hread' : t.read (Path.join (Path.parent path') file) = .ok text') :
    t.SameFile (Path.join (Path.parent path) file) (Path.join (Path.parent path') file) := by
  cases habsolute : Path.isAbsolute file with
  | true =>
      have hjoin : ∀ base, Path.join base file = file := fun base => by
        rw [Path.join, habsolute, if_pos rfl]
      rw [hjoin] at hread ⊢
      rw [hjoin]
      exact sameFile_self hread
  | false =>
      obtain ⟨directory, hdirectory, hdirectory'⟩ := h.directory
      obtain ⟨place, inner, hresolve, hparent, hplace, hinner⟩ :=
        leads_of_read_join habsolute hdirectory hread
      obtain ⟨place', inner', hresolve', hparent', hplace', hinner'⟩ :=
        leads_of_read_join habsolute hdirectory' hread'
      cases hplace.unique hplace'
      cases hinner.unique hinner'
      exact ⟨⟨place, hresolve, hresolve'⟩, inner, hparent, hparent'⟩

end Tree
end ScopedResources.Files
