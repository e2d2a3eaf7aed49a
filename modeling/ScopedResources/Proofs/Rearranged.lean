import ScopedResources.Files.Walk
import ScopedResources.Proofs.Entries
import Mathlib.Data.List.Perm.Basic

/-!
# Trees in another order

A tree lists its entries in some order, and only walks go by it. In a rearranged tree every path
leads where it led before, and what is read is the same; a walk comes to the same files, in another
order. -/

namespace ScopedResources.Files.Tree

/-- The other tree has the same entries, perhaps in another order, and the same start. -/
structure Rearranges (t t' : Tree) : Prop where
  entries : t.entries.Perm t'.entries
  distinct : (t.entries.map Prod.fst).Nodup
  start : t.start = t'.start

variable {t t' : Tree}

theorem Rearranges.find? (h : t.Rearranges t') (place : Place) :
    t.find? place = t'.find? place := by
  have hkeys : (t'.entries.map Prod.fst).Nodup := (h.entries.map Prod.fst).nodup_iff.mp h.distinct
  have hentries : Assoc.find? place t.entries = Assoc.find? place t'.entries := by
    refine Option.ext fun entry => ⟨fun hfound => ?_, fun hfound => ?_⟩
    · exact Assoc.find?_of_mem hkeys (h.entries.mem_iff.mp (Assoc.mem_of_find? hfound))
    · exact Assoc.find?_of_mem h.distinct (h.entries.mem_iff.mpr (Assoc.mem_of_find? hfound))
  rw [Tree.find?, Tree.find?, hentries]

theorem Rearranges.follow (h : t.Rearranges t') (links : Nat) (place : Place)
    (pending : List String) : t.follow links place pending = t'.follow links place pending := by
  induction links, place, pending using Tree.follow.induct t <;>
    rw [Tree.follow, Tree.follow] <;> simp_all [← h.find?]

theorem Rearranges.resolve (h : t.Rearranges t') (path : String) :
    t.resolve path = t'.resolve path := by
  simp only [Tree.resolve, h.follow, h.start]

theorem Rearranges.exists? (h : t.Rearranges t') (path : String) :
    t.exists? path = t'.exists? path := by
  rw [Tree.exists?, Tree.exists?, h.resolve]

theorem Rearranges.read (h : t.Rearranges t') (path : String) : t.read path = t'.read path := by
  simp only [Tree.read, h.resolve, h.find?]

theorem Rearranges.isFile (h : t.Rearranges t') (place : Place) :
    t.isFile place = t'.isFile place := by
  rw [Tree.isFile, Tree.isFile, h.find?]

theorem Rearranges.mem_directories (h : t.Rearranges t') {place : Place} :
    place ∈ t.directories ↔ place ∈ t'.directories :=
  (((h.entries.filter _).map Prod.fst).cons []).mem_iff

/-! ## Walks -/

/-- What a walk with some open directories comes to behind a link, which is shown as `shown`. -/
def behindLink (t : Tree) (shown name : String) (opened : List Place) : List Found :=
  match t.resolve shown with
  | .error _ => []
  | .ok target =>
    if t.directories.contains target && !opened.contains target then t.walk shown opened target
    else if t.isFile target then [⟨shown, name⟩]
    else []

/-- What a walk with some open directories comes to at a place, which is shown as `shown`. -/
def encounter (t : Tree) (shown name : String) (opened : List Place) (inner : Place) :
    Entry → List Found
  | .file _ => [⟨shown, name⟩]
  | .directory => t.walk shown opened inner
  | .link _ => t.behindLink shown name opened

theorem walk_eq (t : Tree) (shown : String) (above : List Place) (place : Place) :
    t.walk shown above place = t.entries.flatMap fun entry =>
      (nameWithin? place entry.1).elim [] fun name =>
        t.encounter (Path.join shown name) name (place :: above) entry.1 entry.2 := by
  rw [walk]
  refine (List.flatMap_subtype ?_).trans (congrArg (List.flatMap _) List.unattach_attach)
  rintro ⟨inner, entry⟩ _
  dsimp only
  split
  · next hname =>
      rw [hname]
      rfl
  · next name hname =>
      rw [hname]
      cases entry with
      | link text =>
          dsimp only [Option.elim_some, encounter, behindLink]
          cases t.resolve (Path.join shown name) with
          | error fault => rfl
          | ok target => simp
      | _ => rfl

/-- A walk of a rearranged tree comes to the same files. -/
theorem Rearranges.walk (h : t.Rearranges t') (shown : String) (above : List Place)
    (place : Place) : (t.walk shown above place).Perm (t'.walk shown above place) := by
  -- Both walks go the same way down; the induction is on that of the first tree.
  induction shown, above, place using Tree.walk.induct t with
  | case1 shown above place hinner htarget =>
      rw [walk_eq, walk_eq]
      refine h.entries.flatMap fun ⟨inner, entry⟩ hentry => ?_
      dsimp only
      cases hname : nameWithin? place inner with
      | none => exact .refl _
      | some name =>
          cases entry with
          | file content => exact .refl _
          | directory => exact hinner inner name hname hentry
          | link text =>
              dsimp only [Option.elim_some, encounter, behindLink]
              rw [← h.resolve]
              cases t.resolve (Path.join shown name) with
              | error fault => exact .refl _
              | ok target =>
                  have hdirectories :
                      t'.directories.contains target = t.directories.contains target := by
                    rw [Bool.eq_iff_iff, List.contains_iff_mem, List.contains_iff_mem,
                      h.mem_directories]
                  dsimp only
                  rw [hdirectories, ← h.isFile]
                  split
                  · next hopen => exact htarget name target (by simpa using hopen)
                  · exact .refl _

theorem Rearranges.filesAt (h : t.Rearranges t') (path : String) :
    (t.filesAt path).Perm (t'.filesAt path) := by
  unfold Tree.filesAt
  rw [← h.resolve]
  cases t.resolve path with
  | error fault => exact .refl _
  | ok place =>
      dsimp only
      rw [← h.isFile]
      split
      · exact .refl _
      · exact h.walk path [] place

end ScopedResources.Files.Tree
