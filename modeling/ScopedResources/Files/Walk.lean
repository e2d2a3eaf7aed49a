import ScopedResources.Files.Tree

/-!
# Walking a directory

A walk lists all files below a directory. Links are followed, except that a link to one of the
directories that are being walked is passed over, as is a link to nothing. So a walk ends: a link
leads to a directory that was not open, and otherwise the walk goes down the tree. -/

namespace ScopedResources.Files

/-- A file that a walk comes to: its path as joined on the way, and its name. -/
structure Found where
  path : String
  name : String
  deriving DecidableEq

namespace Tree

def directories (t : Tree) : List Place :=
  [] :: (t.entries.filter fun entry => entry.2.isDirectory).map Prod.fst

/-- The number of directories that are not open. -/
def countClosed (t : Tree) (above : List Place) : Nat :=
  t.directories.countP fun place => place ∉ above

def height (t : Tree) : Nat :=
  (t.entries.map fun entry => entry.1.length).foldr max 0

/-- The name of a place that lies directly in a directory. -/
def nameWithin? (directory place : Place) : Option String :=
  match place.getLast? with
  | none => none
  | some name => if place = directory ++ [name] then some name else none

theorem length_of_nameWithin? {directory place : Place} {name : String}
    (h : nameWithin? directory place = some name) : place.length = directory.length + 1 := by
  unfold nameWithin? at h
  split at h
  · simp at h
  · split at h
    · next heq => rw [heq]; simp
    · simp at h

theorem le_foldr_max {n : Nat} {l : List Nat} (h : n ∈ l) : n ≤ l.foldr max 0 := by
  induction l with
  | nil => simp at h
  | cons m rest ih =>
    rw [List.foldr_cons]
    rcases List.mem_cons.1 h with rfl | h
    · exact Nat.le_max_left ..
    · exact Nat.le_trans (ih h) (Nat.le_max_right ..)

theorem length_le_height {t : Tree} {entry : Place × Entry} (h : entry ∈ t.entries) :
    entry.1.length ≤ t.height :=
  le_foldr_max (List.mem_map.2 ⟨entry, h, rfl⟩)

theorem countClosed_cons_le (t : Tree) (place : Place) (above : List Place) :
    t.countClosed (place :: above) ≤ t.countClosed above := by
  refine List.countP_mono_left fun p _ hp => ?_
  simp only [List.mem_cons, not_or, decide_eq_true_eq] at hp ⊢
  exact hp.2

theorem countClosed_cons_lt {t : Tree} {place : Place} {above : List Place}
    (hmem : place ∈ t.directories) (hclosed : place ∉ above) :
    t.countClosed (place :: above) < t.countClosed above := by
  unfold countClosed
  generalize t.directories = places at hmem
  induction places with
  | nil => simp at hmem
  | cons p rest ih =>
    have hle : (rest.countP fun q => q ∉ place :: above) ≤ rest.countP fun q => q ∉ above :=
      List.countP_mono_left fun q _ hq => by
        simp only [List.mem_cons, not_or, decide_eq_true_eq] at hq ⊢
        exact hq.2
    rw [List.countP_cons, List.countP_cons]
    by_cases hp : p = place
    · subst hp
      have hnow : decide (p ∉ p :: above) = false := by simp
      have hbefore : decide (p ∉ above) = true := by simpa using hclosed
      rw [hnow, hbefore]
      simp only [Bool.false_eq_true, if_false, if_true]
      omega
    · have hrest : place ∈ rest := by
        rcases List.mem_cons.1 hmem with h | h
        · exact absurd h.symm hp
        · exact h
      have hlt := ih hrest
      have hiff : decide (p ∉ place :: above) = decide (p ∉ above) := by simp [hp]
      rw [hiff]
      omega

/-- The files below an open directory, which is shown as `shown`. -/
def walk (t : Tree) (shown : String) (above : List Place) (place : Place) : List Found :=
  t.entries.attach.flatMap fun ⟨(inner, entry), _hentry⟩ =>
    match _hname : nameWithin? place inner with
    | none => []
    | some name =>
      let path := Path.join shown name
      match entry with
      | .file _ => [⟨path, name⟩]
      | .directory => walk t path (place :: above) inner
      | .link _ =>
        match t.resolve path with
        | .error _ => []
        | .ok target =>
          if _h : target ∈ t.directories ∧ target ∉ place :: above then
            walk t path (place :: above) target
          else if t.isFile target then [⟨path, name⟩]
          else []
termination_by (t.countClosed (place :: above), t.height - place.length)
decreasing_by
  · have hlength := length_of_nameWithin? _hname
    have hheight := length_le_height _hentry
    have hclosed := countClosed_cons_le t inner (place :: above)
    rcases Nat.lt_or_eq_of_le hclosed with hlt | heq
    · exact Prod.Lex.left _ _ hlt
    · rw [heq]
      refine Prod.Lex.right _ ?_
      simp only at hheight
      omega
  · exact Prod.Lex.left _ _ (countClosed_cons_lt _h.1 _h.2)

/-- The files at a path: the one it names, or all below the directory that it names. -/
def filesAt (t : Tree) (path : String) : List Found :=
  match t.resolve path with
  | .error _ => []
  | .ok place =>
    if t.isFile place then [⟨path, (Path.fileName? path).getD path⟩] else t.walk path [] place

end Tree

end ScopedResources.Files
