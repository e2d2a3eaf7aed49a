import ScopedResources.Proofs.ChangelogExpansion
import Mathlib.Data.List.Nodup
import Mathlib.Data.Set.Card

/-!
# Ways to change sets

A changelog may be reached in several ways: it is located, perhaps at several locations, and others
include it. Nothing keeps record of what was loaded, so each way counts. A way is a row of
positions: of a located changelog, then of the includes to go through, and last of the change set.
The change sets are executed in the order of the ways that lead to them, once for each way. -/

namespace ScopedResources.Migration.Changelog

open Files

section Ways

variable (tree : Tree)

/-- A way leads from the changelog at a path to a change set. -/
inductive Stands : String → List Nat → Placed → Prop
  | changeSet {path : String} {entries : List Entry} {i : Nat} {set : ChangeSetText}
      (hwritten : Written tree path entries) (hentry : entries[i]? = some ⟨some set, none⟩) :
      Stands path [i] ⟨path, set⟩
  | inclusion {path file : String} {entries : List Entry} {i : Nat} {way : List Nat}
      {placed : Placed}
      (hwritten : Written tree path entries) (hentry : entries[i]? = some ⟨none, some file⟩)
      (hinner : Stands (beside path file) way placed) : Stands path (i :: way) placed

/-- A way leads from the locations to a change set. -/
inductive Reaches (root : String) (locations : List String) : List Nat → Placed → Prop
  | located {files : List Found} {file : Found} {k : Nat} {way : List Nat} {placed : Placed}
      (hfiles : collect tree root extensions locations = .ok files) (hfile : files[k]? = some file)
      (hway : Stands tree file.path way placed) : Reaches root locations (k :: way) placed

end Ways

/-- A list has each way with what it leads to, in the order of the ways. -/
structure Enumerates (reached : List Nat → Placed → Prop)
    (visits : List (List Nat × Placed)) : Prop where
  ordered : (visits.map Prod.fst).Pairwise (· < ·)
  complete : ∀ way placed, (way, placed) ∈ visits ↔ reached way placed

/-! ## Blocks of ways -/

/-- The visits of some blocks, where the position of the block comes before the way in the block. -/
def number (blocks : List (List (List Nat × Placed))) : List (List Nat × Placed) :=
  blocks.zipIdx.flatMap fun (block, i) => block.map fun visit => (i :: visit.1, visit.2)

theorem mem_number {blocks : List (List (List Nat × Placed))} {way : List Nat} {placed : Placed} :
    (way, placed) ∈ number blocks ↔
      ∃ i block rest, way = i :: rest ∧ blocks[i]? = some block ∧ (rest, placed) ∈ block := by
  simp only [number, List.mem_flatMap, List.mem_map, Prod.exists, List.mem_zipIdx_iff_getElem?,
    Prod.mk.injEq]
  constructor
  · rintro ⟨block, i, hblock, rest, _, hvisit, rfl, rfl⟩
    exact ⟨i, block, rest, rfl, hblock, hvisit⟩
  · rintro ⟨i, block, rest, rfl, hblock, hvisit⟩
    exact ⟨block, i, hblock, rest, placed, hvisit, rfl, rfl⟩

theorem map_snd_number (blocks : List (List (List Nat × Placed))) :
    (number blocks).map Prod.snd = blocks.flatMap (·.map Prod.snd) := by
  have hblocks := congrArg (List.flatMap (·.map Prod.snd)) (List.zipIdx_map_fst 0 blocks)
  rw [List.flatMap_map] at hblocks
  rw [← hblocks, number, List.map_flatMap]
  exact List.flatMap_congr fun _ _ => List.map_map ..

theorem ordered_number {blocks : List (List (List Nat × Placed))}
    (h : ∀ block ∈ blocks, (block.map Prod.fst).Pairwise (· < ·)) :
    ((number blocks).map Prod.fst).Pairwise (· < ·) := by
  have hpositions : blocks.zipIdx.Pairwise fun first second => first.2 < second.2 := by
    rw [← List.pairwise_map, List.zipIdx_map_snd]
    exact List.pairwise_lt_range'
  rw [number, List.map_flatMap, List.pairwise_flatMap]
  constructor
  · rintro ⟨block, i⟩ hblock
    have hinside := h block (List.fst_mem_of_mem_zipIdx hblock)
    rw [List.pairwise_map] at hinside ⊢
    exact List.pairwise_map.mpr (hinside.imp fun hlt => List.cons_lt_cons_iff.mpr (.inr ⟨rfl, hlt⟩))
  · refine hpositions.imp fun {first second} hlt way hway way' hway' => ?_
    simp only [List.mem_map] at hway hway'
    obtain ⟨_, ⟨_, -, rfl⟩, rfl⟩ := hway
    obtain ⟨_, ⟨_, -, rfl⟩, rfl⟩ := hway'
    exact List.cons_lt_cons_iff.mpr (.inl hlt)

/-- Lists of the ways through each of some items make a list of the ways through all of them. -/
theorem enumerates_number {α : Type} {items : List α} {blocks : List (List (List Nat × Placed))}
    {reached : α → List Nat → Placed → Prop}
    (h : List.Forall₂ (fun item block => Enumerates (reached item) block) items blocks) :
    Enumerates (fun way placed => ∃ i item rest, way = i :: rest ∧ items[i]? = some item ∧
      reached item rest placed) (number blocks) := by
  obtain ⟨hlength, hblocks⟩ := List.forall₂_iff_get.mp h
  have hat : ∀ {i : Nat} {item block}, items[i]? = some item → blocks[i]? = some block →
      Enumerates (reached item) block := by
    intro i item block hitem hblock
    obtain ⟨hi, rfl⟩ := List.getElem?_eq_some_iff.mp hitem
    obtain ⟨hi', rfl⟩ := List.getElem?_eq_some_iff.mp hblock
    exact hblocks i hi hi'
  refine ⟨ordered_number fun block hblock => ?_, fun way placed => ?_⟩
  · obtain ⟨i, hi⟩ := List.getElem?_of_mem hblock
    have hlt : i < items.length := hlength ▸ (List.getElem?_eq_some_iff.mp hi).1
    exact (hat (List.getElem?_eq_getElem hlt) hi).ordered
  · rw [mem_number]
    constructor
    · rintro ⟨i, block, rest, rfl, hblock, hvisit⟩
      have hlt : i < items.length := hlength ▸ (List.getElem?_eq_some_iff.mp hblock).1
      have hitem := List.getElem?_eq_getElem hlt
      exact ⟨i, _, rest, rfl, hitem, ((hat hitem hblock).complete rest placed).mp hvisit⟩
    · rintro ⟨i, item, rest, rfl, hitem, hreached⟩
      have hlt : i < blocks.length := hlength ▸ (List.getElem?_eq_some_iff.mp hitem).1
      have hblock := List.getElem?_eq_getElem hlt
      exact ⟨i, _, rest, rfl, hblock, ((hat hitem hblock).complete rest placed).mpr hreached⟩

/-! ## Visits -/

/-- A way leads from an entry of the changelog at a path to a change set: the empty way to its own.
-/
def FromEntry (tree : Tree) (path : String) (entry : Entry) (way : List Nat)
    (placed : Placed) : Prop :=
  match entry with
  | ⟨some set, none⟩ => way = [] ∧ placed = ⟨path, set⟩
  | ⟨none, some file⟩ => Stands tree (beside path file) way placed
  | _ => False

variable {tree : Tree} {root path : String} {locations : List String} {entries : List Entry}
variable {sets : List Placed}

theorem stands_iff (h : Written tree path entries) {way : List Nat} {placed : Placed} :
    Stands tree path way placed ↔ ∃ i entry rest, way = i :: rest ∧ entries[i]? = some entry ∧
      FromEntry tree path entry rest placed := by
  constructor
  · intro hstands
    cases hstands with
    | changeSet hwritten hentry =>
        cases h.unique hwritten
        exact ⟨_, _, [], rfl, hentry, rfl, rfl⟩
    | inclusion hwritten hentry hinner =>
        cases h.unique hwritten
        exact ⟨_, _, _, rfl, hentry, hinner⟩
  · rintro ⟨i, ⟨_ | set, _ | file⟩, rest, rfl, hentry, hfrom⟩
    · exact hfrom.elim
    · exact .inclusion h hentry hfrom
    · obtain ⟨rfl, rfl⟩ := hfrom
      exact .changeSet h hentry
    · exact hfrom.elim

/-- The ways through some entries lead to the change sets of their expansion. -/
theorem Expands.blocks (h : Expands tree path entries sets) :
    ∃ blocks, List.Forall₂ (fun entry block => Enumerates (FromEntry tree path entry) block)
      entries blocks ∧ (number blocks).map Prod.snd = sets := by
  induction h with
  | nil => exact ⟨[], .nil, rfl⟩
  | @changeSet path set _ _ _ ih =>
      obtain ⟨blocks, hblocks, rfl⟩ := ih
      refine ⟨[([], ⟨path, set⟩)] :: blocks,
        .cons ⟨List.pairwise_singleton .., fun way placed => ?_⟩ hblocks, ?_⟩
      · rw [List.mem_singleton, Prod.mk.injEq]
        rfl
      · rw [map_snd_number, List.flatMap_cons, ← map_snd_number blocks]
        rfl
  | inclusion hwritten _ _ ihinner ihrest =>
      obtain ⟨inner, hinner, rfl⟩ := ihinner
      obtain ⟨blocks, hblocks, rfl⟩ := ihrest
      -- The positions in the included changelog come behind that of the entry that includes it.
      have hinside := enumerates_number hinner
      refine ⟨number inner :: blocks, .cons ⟨hinside.ordered, fun way placed => ?_⟩ hblocks, ?_⟩
      · rw [hinside.complete, ← stands_iff hwritten]
        rfl
      · rw [map_snd_number, List.flatMap_cons, ← map_snd_number blocks]

theorem Expansion.visits (h : Expansion tree path sets) :
    ∃ visits, Enumerates (Stands tree path) visits ∧ visits.map Prod.snd = sets := by
  obtain ⟨entries, hwritten, hexpands⟩ := h
  obtain ⟨blocks, hblocks, hsets⟩ := hexpands.blocks
  have hvisits := enumerates_number hblocks
  refine ⟨number blocks, ⟨hvisits.ordered, fun way placed => ?_⟩, hsets⟩
  rw [hvisits.complete, stands_iff hwritten]

/-- What is loaded are the change sets that the ways from the locations lead to, in their order. -/
theorem Sound.visits (h : Sound tree root locations) :
    ∃ visits, Enumerates (Reaches tree root locations) visits ∧
      changeSets tree root locations = .ok (loadedAll tree (visits.map Prod.snd)) := by
  obtain ⟨files, expansions, hfiles, hexpansions, hsets⟩ := h.expansions
  have hblocks : ∃ blocks, List.Forall₂ (fun file block => Enumerates (Stands tree file.path) block)
      files blocks ∧ blocks.flatMap (·.map Prod.snd) = expansions.flatten := by
    clear hfiles hsets
    induction hexpansions with
    | nil => exact ⟨[], .nil, rfl⟩
    | cons hexpansion _ ih =>
        obtain ⟨blocks, hblocks, hrest⟩ := ih
        obtain ⟨visits, hvisits, rfl⟩ := hexpansion.visits
        exact ⟨visits :: blocks, .cons hvisits hblocks,
          by rw [List.flatMap_cons, hrest, List.flatten_cons]⟩
  obtain ⟨blocks, hforall, hflatten⟩ := hblocks
  have hvisits := enumerates_number hforall
  refine ⟨number blocks, ⟨hvisits.ordered, fun way placed => ?_⟩, ?_⟩
  · rw [hvisits.complete]
    constructor
    · rintro ⟨k, file, rest, rfl, hfile, hway⟩
      exact .located hfiles hfile hway
    · intro hreaches
      cases hreaches with
      | located hfiles' hfile hway =>
          cases hfiles.symm.trans hfiles'
          exact ⟨_, _, _, rfl, hfile, hway⟩
  · rw [map_snd_number, hflatten, hsets]

/-! ## How often a change set is executed -/

/-- A visit is one of the change set with this position in the file at this place. -/
def IsAt (tree : Tree) (place : Place) (position : Nat) (visit : List Nat × Placed) : Prop :=
  tree.resolve visit.2.path = .ok place ∧ visit.1.getLast? = some position

instance (tree : Tree) (place : Place) (position : Nat) (visit : List Nat × Placed) :
    Decidable (IsAt tree place position visit) :=
  inferInstanceAs (Decidable (_ ∧ _))

/-- The ways from the locations to a change set. -/
def ways (tree : Tree) (root : String) (locations : List String) (place : Place) (position : Nat) :
    Set (List Nat) :=
  {way | ∃ placed, Reaches tree root locations way placed ∧ IsAt tree place position (way, placed)}

theorem Enumerates.nodup {reached : List Nat → Placed → Prop} {visits : List (List Nat × Placed)}
    (h : Enumerates reached visits) : (visits.map Prod.fst).Nodup :=
  h.ordered.imp fun hlt => ne_of_lt hlt

theorem Enumerates.ways_eq {visits : List (List Nat × Placed)}
    (h : Enumerates (Reaches tree root locations) visits) (place : Place) (position : Nat) :
    ways tree root locations place position =
      ((visits.filter (IsAt tree place position ·)).map Prod.fst).toFinset := by
  ext way
  simp [ways, h.complete]

theorem Enumerates.count {visits : List (List Nat × Placed)}
    (h : Enumerates (Reaches tree root locations) visits) (place : Place) (position : Nat) :
    visits.countP (IsAt tree place position ·) =
      (ways tree root locations place position).ncard := by
  have hnodup : ((visits.filter (IsAt tree place position ·)).map Prod.fst).Nodup :=
    h.nodup.sublist (List.filter_sublist.map Prod.fst)
  rw [h.ways_eq, Set.ncard_coe_finset, List.toFinset_card_of_nodup hnodup, List.length_map,
    List.countP_eq_length_filter]

/-! ## Ways to a changelog -/

section Arrivals

variable (tree : Tree) (root : String) (locations : List String)

/-- The changelog at a path is located at this position. -/
def LocatedAt (position : Nat) (path : String) : Prop :=
  ∃ files file, collect tree root extensions locations = .ok files ∧
    files[position]? = some file ∧ path = file.path

/-- The entry at this position of the changelog at a path includes the changelog at the other. -/
def IncludedAt (path : String) (position : Nat) (inner : String) : Prop :=
  ∃ entries file, Written tree path entries ∧ entries[position]? = some ⟨none, some file⟩ ∧
    inner = beside path file

/-- A way leads from the locations to the changelog at a path. -/
inductive Arrives : List Nat → String → Prop
  | located {k : Nat} {path : String} (hlocated : LocatedAt tree root locations k path) :
      Arrives [k] path
  | included {way : List Nat} {path inner : String} {i : Nat} (hway : Arrives way path)
      (hincluded : IncludedAt tree path i inner) : Arrives (way ++ [i]) inner

/-- The ways from the locations to the changelog in the file at a place. -/
def arrivals (place : Place) : Set (List Nat) :=
  {way | ∃ path, Arrives tree root locations way path ∧ tree.resolve path = .ok place}

/-- The changelog in the file at a place has a change set at this position. -/
def HasChangeSet (place : Place) (position : Nat) : Prop :=
  ∃ path entries set, tree.resolve path = .ok place ∧ Written tree path entries ∧
    entries[position]? = some ⟨some set, none⟩

/-- The changelog in the file at a place is located and also included, is located twice, or is
included from two places. -/
inductive Repeated (place : Place) : Prop
  | locatedAndIncluded {k i : Nat} {way : List Nat} {path outer inner : String}
      (hlocated : LocatedAt tree root locations k path)
      (houter : Arrives tree root locations way outer) (hincluded : IncludedAt tree outer i inner)
      (hpath : tree.resolve path = .ok place) (hinner : tree.resolve inner = .ok place)
  | locatedTwice {j k : Nat} {first second : String} (hne : j ≠ k)
      (hfirst : LocatedAt tree root locations j first)
      (hsecond : LocatedAt tree root locations k second)
      (hplace : tree.resolve first = .ok place) (hplace' : tree.resolve second = .ok place)
  | includedTwice {i j : Nat} {way way' : List Nat} {outer outer' inner inner' : String}
      (hne : outer ≠ outer' ∨ i ≠ j)
      (houter : Arrives tree root locations way outer) (hinner : IncludedAt tree outer i inner)
      (houter' : Arrives tree root locations way' outer')
      (hinner' : IncludedAt tree outer' j inner')
      (hplace : tree.resolve inner = .ok place) (hplace' : tree.resolve inner' = .ok place)

end Arrivals

theorem LocatedAt.unique {k : Nat} {path' : String} (h : LocatedAt tree root locations k path)
    (h' : LocatedAt tree root locations k path') : path = path' := by
  obtain ⟨files, file, hfiles, hfile, rfl⟩ := h
  obtain ⟨files', file', hfiles', hfile', rfl⟩ := h'
  cases hfiles.symm.trans hfiles'
  cases hfile.symm.trans hfile'
  rfl

theorem IncludedAt.unique {i : Nat} {inner inner' : String} (h : IncludedAt tree path i inner)
    (h' : IncludedAt tree path i inner') : inner = inner' := by
  obtain ⟨entries, file, hwritten, hentry, rfl⟩ := h
  obtain ⟨entries', file', hwritten', hentry', rfl⟩ := h'
  cases hwritten.unique hwritten'
  cases hentry.symm.trans hentry'
  rfl

/-- A way through an include is longer than one to a located changelog. -/
theorem Arrives.concat_ne_singleton {way : List Nat} (h : Arrives tree root locations way path)
    (i k : Nat) : way ++ [i] ≠ [k] := by
  have hway : way ≠ [] := by
    cases h with
    | located _ => exact List.cons_ne_nil _ _
    | included _ _ => exact List.concat_ne_nil _ _
  intro hsame
  rcases List.append_eq_singleton_iff.mp hsame with ⟨hnil, -⟩ | ⟨-, hnil⟩
  · exact hway hnil
  · cases hnil

/-- A way leads to one changelog only. -/
theorem Arrives.unique {way : List Nat} {path' : String} (h : Arrives tree root locations way path)
    (h' : Arrives tree root locations way path') : path = path' := by
  induction h generalizing path' with
  | located hlocated =>
      generalize hway : [_] = way at h'
      cases h' with
      | located hlocated' =>
          cases hway
          exact hlocated.unique hlocated'
      | included houter' _ => exact absurd hway.symm (houter'.concat_ne_singleton _ _)
  | included houter hincluded ih =>
      generalize hway : _ ++ [_] = way at h'
      cases h' with
      | located _ => exact absurd hway (houter.concat_ne_singleton _ _)
      | included houter' hincluded' =>
          obtain ⟨rfl, hposition⟩ := List.append_inj' hway rfl
          cases hposition
          cases ih houter'
          exact hincluded.unique hincluded'

/-- A way to a changelog, and one from there to a change set, make a way to the change set. -/
theorem Arrives.reaches {front way : List Nat} {placed : Placed}
    (h : Arrives tree root locations front path) (hway : Stands tree path way placed) :
    Reaches tree root locations (front ++ way) placed := by
  induction h generalizing way with
  | located hlocated =>
      obtain ⟨files, file, hfiles, hfile, rfl⟩ := hlocated
      exact .located hfiles hfile hway
  | included _ hincluded ih =>
      obtain ⟨entries, file, hwritten, hentry, rfl⟩ := hincluded
      rw [List.append_assoc]
      exact ih (.inclusion hwritten hentry hway)

/-- A way to a change set first leads to its changelog. -/
theorem Arrives.of_stands {front way : List Nat} {placed : Placed}
    (h : Arrives tree root locations front path) (hway : Stands tree path way placed) :
    ∃ before position, front ++ way = before ++ [position] ∧
      Arrives tree root locations before placed.path := by
  induction hway generalizing front with
  | changeSet => exact ⟨front, _, rfl, h⟩
  | inclusion hwritten hentry _ ih =>
      obtain ⟨before, position, hsame, hbefore⟩ := ih (h.included ⟨_, _, hwritten, hentry, rfl⟩)
      refine ⟨before, position, ?_, hbefore⟩
      rw [← hsame, List.append_assoc]
      rfl

theorem Reaches.arrives {way : List Nat} {placed : Placed}
    (h : Reaches tree root locations way placed) :
    ∃ before position, way = before ++ [position] ∧
      Arrives tree root locations before placed.path := by
  cases h with
  | located hfiles hfile hway =>
      exact (Arrives.located ⟨_, _, hfiles, hfile, rfl⟩).of_stands hway

theorem Written.resolve {path' : String} {place : Place} (h : Written tree path entries)
    (hplace : tree.resolve path = .ok place) (hplace' : tree.resolve path' = .ok place) :
    Written tree path' entries := by
  obtain ⟨text, hread, hentries⟩ := h
  refine ⟨text, ?_, hentries⟩
  unfold Files.Tree.read at hread ⊢
  rwa [hplace', ← hplace]

/-- The ways to a change set are the ways to its changelog, each with the position behind it. -/
theorem ways_eq_image {place : Place} {position : Nat} (h : HasChangeSet tree place position) :
    ways tree root locations place position =
      (· ++ [position]) '' arrivals tree root locations place := by
  obtain ⟨path, entries, set, hplace, hwritten, hentry⟩ := h
  ext way
  constructor
  · rintro ⟨placed, hreaches, hresolve, hlast⟩
    obtain ⟨before, last, rfl, hbefore⟩ := hreaches.arrives
    rw [List.getLast?_concat, Option.some_inj] at hlast
    exact ⟨before, ⟨_, hbefore, hresolve⟩, hlast ▸ rfl⟩
  · rintro ⟨before, ⟨path', hbefore, hplace'⟩, rfl⟩
    have hstands : Stands tree path' [position] ⟨path', set⟩ :=
      .changeSet (hwritten.resolve hplace hplace') hentry
    exact ⟨_, hbefore.reaches hstands, hplace', List.getLast?_concat⟩

theorem ncard_ways {place : Place} {position : Nat} (h : HasChangeSet tree place position) :
    (ways tree root locations place position).ncard =
      (arrivals tree root locations place).ncard := by
  rw [ways_eq_image h]
  exact Set.ncard_image_of_injective _ (List.append_left_injective _)

theorem Repeated.nontrivial {place : Place} (h : Repeated tree root locations place) :
    (arrivals tree root locations place).Nontrivial := by
  cases h with
  | locatedAndIncluded hlocated houter hincluded hpath hinner =>
      exact ⟨_, ⟨_, .located hlocated, hpath⟩, _, ⟨_, houter.included hincluded, hinner⟩,
        (houter.concat_ne_singleton _ _).symm⟩
  | locatedTwice hne hfirst hsecond hplace hplace' =>
      refine ⟨_, ⟨_, .located hfirst, hplace⟩, _, ⟨_, .located hsecond, hplace'⟩, fun hsame => ?_⟩
      exact hne (List.singleton_inj.mp hsame)
  | includedTwice hne houter hinner houter' hinner' hplace hplace' =>
      refine ⟨_, ⟨_, houter.included hinner, hplace⟩, _, ⟨_, houter'.included hinner', hplace'⟩,
        fun hsame => ?_⟩
      obtain ⟨rfl, hposition⟩ := List.append_inj' hsame rfl
      exact hne.elim (fun hpath => hpath (houter.unique houter'))
        fun hindex => hindex (List.singleton_inj.mp hposition)

theorem Enumerates.count_arrivals {visits : List (List Nat × Placed)}
    (h : Enumerates (Reaches tree root locations) visits) {place : Place} {position : Nat}
    (hset : HasChangeSet tree place position) :
    visits.countP (IsAt tree place position ·) = (arrivals tree root locations place).ncard :=
  (h.count place position).trans (ncard_ways hset)

theorem Enumerates.repeated {visits : List (List Nat × Placed)}
    (h : Enumerates (Reaches tree root locations) visits) {place : Place} {position : Nat}
    (hset : HasChangeSet tree place position) (hrepeated : Repeated tree root locations place) :
    1 < visits.countP (IsAt tree place position ·) := by
  have hmany : (ways tree root locations place position).Nontrivial := by
    rw [ways_eq_image hset]
    exact hrepeated.nontrivial.image (List.append_left_injective _)
  have hfinite : (ways tree root locations place position).Finite := by
    rw [h.ways_eq]
    exact Finset.finite_toSet _
  rw [h.count]
  exact (Set.one_lt_ncard hfinite).mpr hmany

theorem flatMap_visits (visits : List (List Nat × Placed)) (direction : Direction) :
    visits.flatMap (·.2.statementsTo tree direction) =
      (visits.map Prod.snd).flatMap (·.statementsTo tree direction) := by
  rw [List.flatMap_map]

/-- Take changelogs that are well-formed and whose includes nest at most 16 deep. To apply them
executes the change sets that ways from the locations lead to, in the order of the ways. So a change
set of a changelog is executed as often as there are ways to it: once where one way leads to its
changelog, and more than once where that is located and also included, is located twice, or is
included from two places. -/
theorem change_sets_once_per_way (hsound : Sound tree root locations) :
    ∃ visits, Enumerates (Reaches tree root locations) visits ∧
      (∀ (rule : Rule) (past : Traffic),
        rule.Accepts past (visits.flatMap (·.2.statementsTo tree .apply)) →
        run rule.send .apply .liquibase tree root locations past =
          (.ok (), past.accept (visits.flatMap (·.2.statementsTo tree .apply)))) ∧
      (∀ place position, visits.countP (IsAt tree place position ·) =
        (ways tree root locations place position).ncard) ∧
      ∀ place position, HasChangeSet tree place position →
        visits.countP (IsAt tree place position ·) =
          (arrivals tree root locations place).ncard ∧
        (∀ way, arrivals tree root locations place = {way} →
          visits.countP (IsAt tree place position ·) = 1) ∧
        (Repeated tree root locations place →
          1 < visits.countP (IsAt tree place position ·)) := by
  obtain ⟨visits, hvisits, hsets⟩ := hsound.visits
  refine ⟨visits, hvisits, fun rule past haccepts => ?_, hvisits.count, fun place position hset =>
    ⟨hvisits.count_arrivals hset, fun way hway => ?_, hvisits.repeated hset⟩⟩
  · rw [flatMap_visits] at haccepts ⊢
    exact run_of_loadedAll hsets haccepts
  · rw [hvisits.count_arrivals hset, hway]
    exact Set.ncard_singleton way

/-- A call executes each change set to which there is a way once, however many ways there are. -/
def RunsEachOnce (tree : Tree) (root : String) (locations : List String) : Prop :=
  ∃ visits : List (List Nat × Placed),
    (∀ visit ∈ visits, Reaches tree root locations visit.1 visit.2) ∧
    (∀ place position, (ways tree root locations place position).Nonempty →
      visits.countP (IsAt tree place position ·) = 1) ∧
    ∀ past, run Rule.tolerant.send .apply .liquibase tree root locations past =
      (.ok (), past.accept (visits.flatMap (·.2.statementsTo tree .apply)))

/-! ## A changelog that is included from two places -/

namespace Twice

def mainText : String :=
  "databaseChangeLog:\n- include:\n    file: roles.yaml\n- include:\n    file: users.yaml\n"

def rolesText : String :=
  "databaseChangeLog:\n- include:\n    file: users.yaml\n"

/-- Both changelogs without change sets include the one that has a change set. -/
def files : Tree where
  entries := [(["main.yaml"], .file mainText.toUTF8), (["roles.yaml"], .file rolesText.toUTF8),
    (["users.yaml"], .file Looped.usersText.toUTF8)]

def placed : Placed :=
  ⟨"users.yaml", Looped.users⟩

theorem stored :
    Stored "main.yaml" mainText [⟨none, some "roles.yaml"⟩, ⟨none, some "users.yaml"⟩] ∧
      Stored "roles.yaml" rolesText [⟨none, some "users.yaml"⟩] ∧
      beside "main.yaml" "roles.yaml" = "roles.yaml" ∧
      beside "main.yaml" "users.yaml" = "users.yaml" ∧
      beside "roles.yaml" "users.yaml" = "users.yaml" := by
  decide +kernel

theorem written_main :
    Written files "main.yaml" [⟨none, some "roles.yaml"⟩, ⟨none, some "users.yaml"⟩] :=
  stored.1.written rfl rfl

theorem written_roles : Written files "roles.yaml" [⟨none, some "users.yaml"⟩] :=
  stored.2.1.written rfl rfl

theorem written_users : Written files "users.yaml" [⟨some Looped.users, none⟩] :=
  Looped.stored.1.written rfl rfl

theorem collect_main :
    collect files "" extensions ["main.yaml"] = .ok [⟨"main.yaml", "main.yaml"⟩] :=
  collect_of_holds rfl (List.forall_mem_singleton.mpr (stored.1.holds rfl))

theorem sound : Sound files "" ["main.yaml"] := by
  obtain ⟨-, -, hroles, husers, hinside⟩ := stored
  have hload : ∀ levels, ∃ sets, load files (levels + 1) "users.yaml" = .ok sets := fun levels =>
    ⟨_, load_succ_eq_ok_iff.mpr ⟨_, _, written_users,
      .cons (.changeSet (Looped.users_executable ..)) .nil, rfl⟩⟩
  obtain ⟨inner, hinner⟩ := hload 14
  obtain ⟨second, hsecond⟩ := hload 15
  have hfirst : load files 16 "roles.yaml" = .ok [inner].flatten := load_succ_eq_ok_iff.mpr
    ⟨_, _, written_roles, .cons (.inclusion (hinside.symm ▸ hinner)) .nil, rfl⟩
  exact exists_changeSets_iff.mp ⟨_, changeSets_eq_ok_iff.mpr ⟨_, _, collect_main,
    .cons (load_succ_eq_ok_iff.mpr ⟨_, _, written_main, .cons (.inclusion (hroles.symm ▸ hfirst))
      (.cons (.inclusion (husers.symm ▸ hsecond)) .nil), rfl⟩) .nil, rfl⟩⟩

theorem stands_users {way : List Nat} {found : Placed} :
    Stands files "users.yaml" way found ↔ way = [0] ∧ found = placed := by
  rw [stands_iff written_users]
  constructor
  · rintro ⟨_ | i, entry, rest, rfl, hentry, hfrom⟩
    · cases hentry
      exact ⟨congrArg (0 :: ·) hfrom.1, hfrom.2⟩
    · cases hentry
  · rintro ⟨rfl, rfl⟩
    exact ⟨0, _, [], rfl, rfl, rfl, rfl⟩

theorem stands_roles {way : List Nat} {found : Placed} :
    Stands files "roles.yaml" way found ↔ way = [0, 0] ∧ found = placed := by
  rw [stands_iff written_roles]
  constructor
  · rintro ⟨_ | i, entry, rest, rfl, hentry, hfrom⟩
    · cases hentry
      rw [FromEntry, stored.2.2.2.2, stands_users] at hfrom
      exact ⟨congrArg (0 :: ·) hfrom.1, hfrom.2⟩
    · cases hentry
  · rintro ⟨rfl, rfl⟩
    refine ⟨0, _, [0], rfl, rfl, ?_⟩
    rw [FromEntry, stored.2.2.2.2, stands_users]
    exact ⟨rfl, rfl⟩

theorem reaches_iff {way : List Nat} {found : Placed} : Reaches files "" ["main.yaml"] way found ↔
    (way = [0, 0, 0, 0] ∨ way = [0, 1, 0]) ∧ found = placed := by
  obtain ⟨-, -, hroles, husers, -⟩ := stored
  constructor
  · intro hreaches
    cases hreaches with
    | @located _ _ k rest _ hfiles hfile hway =>
        cases collect_main.symm.trans hfiles
        cases k with
        | succ k => cases hfile
        | zero =>
            cases hfile
            obtain ⟨i, entry, rest, rfl, hentry, hfrom⟩ := (stands_iff written_main).mp hway
            match i, hentry with
            | 0, rfl =>
                rw [FromEntry, hroles, stands_roles] at hfrom
                exact ⟨.inl (congrArg (0 :: 0 :: ·) hfrom.1), hfrom.2⟩
            | 1, rfl =>
                rw [FromEntry, husers, stands_users] at hfrom
                exact ⟨.inr (congrArg (0 :: 1 :: ·) hfrom.1), hfrom.2⟩
  · rintro ⟨rfl | rfl, rfl⟩
    · refine .located collect_main rfl ((stands_iff written_main).mpr ⟨0, _, [0, 0], rfl, rfl, ?_⟩)
      rw [FromEntry, hroles, stands_roles]
      exact ⟨rfl, rfl⟩
    · refine .located collect_main rfl ((stands_iff written_main).mpr ⟨1, _, [0], rfl, rfl, ?_⟩)
      rw [FromEntry, husers, stands_users]
      exact ⟨rfl, rfl⟩

theorem resolve_users : files.resolve "users.yaml" = .ok ["users.yaml"] :=
  Looped.stored.1.1.resolve rfl rfl

/-- The change set has two ways, whose last position is its own. -/
theorem isAt_of_reaches {way : List Nat} {found : Placed}
    (h : Reaches files "" ["main.yaml"] way found) : IsAt files ["users.yaml"] 0 (way, found) := by
  obtain ⟨rfl | rfl, rfl⟩ := reaches_iff.mp h
  · exact ⟨resolve_users, rfl⟩
  · exact ⟨resolve_users, rfl⟩

theorem ways_users :
    ways files "" ["main.yaml"] ["users.yaml"] 0 = {[0, 0, 0, 0], [0, 1, 0]} := by
  ext way
  constructor
  · rintro ⟨found, hreaches, -⟩
    exact (reaches_iff.mp hreaches).1
  · intro hway
    have hreaches := reaches_iff.mpr ⟨hway, rfl⟩
    exact ⟨placed, hreaches, isAt_of_reaches hreaches⟩

theorem count_users {visits : List (List Nat × Placed)}
    (h : Enumerates (Reaches files "" ["main.yaml"]) visits) :
    visits.countP (IsAt files ["users.yaml"] 0 ·) = 2 := by
  rw [h.count, ways_users]
  exact Set.ncard_pair (by decide)

/-- All visits are of the one change set, so their number is all there is to say of what is
executed. -/
theorem statements_of_count {visits : List (List Nat × Placed)} {n : Nat}
    (hreaches : ∀ visit ∈ visits, Reaches files "" ["main.yaml"] visit.1 visit.2)
    (hcount : visits.countP (IsAt files ["users.yaml"] 0 ·) = n) :
    visits.flatMap (·.2.statementsTo files .apply) =
      List.replicate n "CREATE TABLE users(id INT)" := by
  have hlength : visits.length = n := by
    rw [← hcount, eq_comm, List.countP_eq_length]
    exact fun visit hvisit => decide_eq_true (isAt_of_reaches (hreaches visit hvisit))
  have hplaced : visits.map Prod.snd = List.replicate n placed :=
    List.eq_replicate_iff.mpr ⟨by rw [List.length_map, hlength], fun found hfound => by
      obtain ⟨visit, hvisit, rfl⟩ := List.mem_map.mp hfound
      exact (reaches_iff.mp (hreaches visit hvisit)).2⟩
  have hforward : placed.statementsTo files .apply = ["CREATE TABLE users(id INT)"] :=
    (forward_of_no_script rfl).trans Looped.stored.2.2.2
  rw [flatMap_visits, hplaced, List.flatMap_replicate, hforward, List.flatten_replicate_singleton]

theorem hasChangeSet_users : HasChangeSet files ["users.yaml"] 0 :=
  ⟨"users.yaml", _, Looped.users, resolve_users, written_users, rfl⟩

/-- Both other changelogs include it. -/
theorem repeated_users : Repeated files "" ["main.yaml"] ["users.yaml"] := by
  obtain ⟨-, -, hroles, husers, hinside⟩ := stored
  have hmain : Arrives files "" ["main.yaml"] [0] "main.yaml" :=
    .located ⟨_, _, collect_main, rfl, rfl⟩
  have harrives : Arrives files "" ["main.yaml"] [0, 0] "roles.yaml" :=
    hmain.included ⟨_, _, written_main, rfl, hroles.symm⟩
  exact .includedTwice (.inl (by decide)) harrives ⟨_, _, written_roles, rfl, hinside.symm⟩ hmain
    (i := 0) (j := 1) ⟨_, _, written_main, rfl, husers.symm⟩ resolve_users resolve_users

theorem users_run_once_per_way :
    Sound files "" ["main.yaml"] ∧ HasChangeSet files ["users.yaml"] 0 ∧
    Repeated files "" ["main.yaml"] ["users.yaml"] ∧
    ∃ visits, Enumerates (Reaches files "" ["main.yaml"]) visits ∧
      1 < visits.countP (IsAt files ["users.yaml"] 0 ·) ∧
      visits.countP (IsAt files ["users.yaml"] 0 ·) = 2 ∧
      ∀ past, run Rule.tolerant.send .apply .liquibase files "" ["main.yaml"] past =
        (.ok (), past.accept ["CREATE TABLE users(id INT)", "CREATE TABLE users(id INT)"]) := by
  obtain ⟨visits, hvisits, hrun, -, hlayouts⟩ := change_sets_once_per_way sound
  obtain ⟨-, -, hmany⟩ := hlayouts ["users.yaml"] 0 hasChangeSet_users
  have hcount := count_users hvisits
  have hstatements :=
    statements_of_count (fun _ hvisit => (hvisits.complete ..).mp hvisit) hcount
  refine ⟨sound, hasChangeSet_users, repeated_users, visits, hvisits, hmany repeated_users, hcount,
    fun past => ?_⟩
  rw [hrun _ past (Rule.tolerant_accepts _ _), hstatements]
  rfl

theorem users_not_run_once :
    Sound files "" ["main.yaml"] ∧ ¬ RunsEachOnce files "" ["main.yaml"] := by
  refine ⟨sound, fun ⟨once, hreaches, hcount, hrun⟩ => ?_⟩
  obtain ⟨visits, hvisits, hsets⟩ := sound.visits
  have hnonempty : (ways files "" ["main.yaml"] ["users.yaml"] 0).Nonempty :=
    ways_users ▸ Set.insert_nonempty ..
  have htwice := statements_of_count (fun _ hvisit => (hvisits.complete ..).mp hvisit)
    (count_users hvisits)
  have honce := statements_of_count hreaches (hcount _ _ hnonempty)
  have hstatements : (arrange .apply (visits.map Prod.snd)).flatMap (·.statementsTo files .apply) =
      List.replicate 2 "CREATE TABLE users(id INT)" := (flatMap_visits ..).symm.trans htwice
  have hactual : run Rule.tolerant.send .apply .liquibase files "" ["main.yaml"] {} = _ :=
    run_of_loadedAll hsets (Rule.tolerant_accepts {} _)
  rw [hrun, honce, hstatements] at hactual
  exact absurd (congrArg (fun result => result.2.seen.length) hactual) (by decide)

end Twice

end ScopedResources.Migration.Changelog
