import ScopedResources.Proofs.Entries
import ScopedResources.Proofs.ScopeTree
import Mathlib.Data.List.Induction

/-!
# What lookups find after a history of writes

A key is a namespace, with the type of the value where a store holds values of several types. What
stands on a node under a key is what the history put there last, unless something later removed it
or cleared the node. A lookup climbs from a node to its parents and stops at the first node where
something stands, so a write matters below the node it is made on and nowhere behind a nearer value.
-/

namespace ScopedResources

namespace ScopeNode

/-- The way from a node over `nearer`, from parent to parent, up to `outer`. -/
inductive Ascends : ScopeNode → List ScopeNode → ScopeNode → Prop where
  | here (node : ScopeNode) : Ascends node [] node
  | up {node parent outer : ScopeNode} {nearer : List ScopeNode}
      (hparent : node.parent? = some parent)
      (rest : Ascends parent nearer outer) : Ascends node (node :: nearer) outer

variable {node parent outer inner : ScopeNode} {nearer : List ScopeNode}

theorem enclosing_of_parent?_eq_none (h : node.parent? = none) : node.enclosing = [node] := by
  obtain ⟨place, above⟩ := node
  cases above with
  | nil => rfl
  | cons next above => cases h

theorem enclosing_of_parent?_eq_some (h : node.parent? = some parent) :
    node.enclosing = node :: parent.enclosing := by
  obtain ⟨place, above⟩ := node
  cases above with
  | nil => cases h
  | cons next above =>
      cases h
      rfl

theorem length_above_of_parent?_eq_some (h : node.parent? = some parent) :
    node.above.length = parent.above.length + 1 := by
  obtain ⟨place, above⟩ := node
  cases above with
  | nil => cases h
  | cons next above =>
      cases h
      rfl

theorem Ascends.enclosing_eq (h : Ascends node nearer outer) :
    node.enclosing = nearer ++ outer.enclosing := by
  induction h with
  | here node => rfl
  | up hparent rest ih => rw [enclosing_of_parent?_eq_some hparent, ih, List.cons_append]

/-- Climbing reaches what encloses a node, and nothing else. -/
theorem ascends_iff :
    Ascends node nearer outer ↔ ∃ farther, node.enclosing = nearer ++ outer :: farther := by
  constructor
  · intro h
    cases houter : outer.parent? with
    | none => exact ⟨[], by rw [h.enclosing_eq, enclosing_of_parent?_eq_none houter]⟩
    | some parent =>
        exact ⟨parent.enclosing, by rw [h.enclosing_eq, enclosing_of_parent?_eq_some houter]⟩
  · rintro ⟨farther, heq⟩
    induction nearer generalizing node with
    | nil =>
        cases hnode : node.parent? with
        | none =>
            rw [enclosing_of_parent?_eq_none hnode] at heq
            cases heq
            exact .here _
        | some parent =>
            rw [enclosing_of_parent?_eq_some hnode] at heq
            cases heq
            exact .here _
    | cons first nearer ih =>
        cases hnode : node.parent? with
        | none =>
            rw [enclosing_of_parent?_eq_none hnode] at heq
            simp at heq
        | some parent =>
            rw [enclosing_of_parent?_eq_some hnode, List.cons_append, List.cons.injEq] at heq
            obtain ⟨rfl, heq⟩ := heq
            exact .up hnode (ih heq)

theorem Ascends.mem_enclosing (h : Ascends node nearer outer) : outer ∈ node.enclosing := by
  obtain ⟨farther, heq⟩ := ascends_iff.mp h
  rw [heq]
  exact List.mem_append_right _ List.mem_cons_self

theorem exists_ascends (h : outer ∈ node.enclosing) : ∃ nearer, Ascends node nearer outer := by
  obtain ⟨nearer, farther, heq⟩ := List.append_of_mem h
  exact ⟨nearer, ascends_iff.mpr ⟨farther, heq⟩⟩

theorem Ascends.nearer_subset (h : Ascends node nearer outer) (hmem : inner ∈ nearer) :
    inner ∈ node.enclosing := by
  rw [h.enclosing_eq]
  exact List.mem_append_left _ hmem

theorem Ascends.length_above (h : Ascends node nearer outer) :
    outer.above.length ≤ node.above.length := by
  induction h with
  | here node => exact le_rfl
  | up hparent rest ih => exact ih.trans (length_above_of_parent?_eq_some hparent ▸ Nat.le_succ _)

/-- The way never comes back: what lies before a node on it is farther from the root. -/
theorem Ascends.ne_of_mem (h : Ascends node nearer outer) (hmem : inner ∈ nearer) :
    inner ≠ outer := by
  rintro rfl
  induction h with
  | here node => cases hmem
  | up hparent rest ih =>
      rcases List.mem_cons.mp hmem with rfl | hmem
      · have hlength := rest.length_above
        rw [length_above_of_parent?_eq_some hparent] at hlength
        exact Nat.not_succ_le_self _ hlength
      · exact ih hmem

end ScopeNode

open ScopeNode (Ascends)

/-- One write on a node of a store. -/
inductive Write (κ α : Type) where
  | put (node : ScopeNode) (key : κ) (value : α)
  | remove (node : ScopeNode) (key : κ)
  | clear (node : ScopeNode)

namespace Write

variable {κ α : Type}

def node : Write κ α → ScopeNode
  | put node _ _ | remove node _ | clear node => node

/-- The write decides what stands on a node under a key. -/
def Touches (node : ScopeNode) (key : κ) : Write κ α → Prop
  | put place k _ | remove place k => place = node ∧ k = key
  | clear place => place = node

instance [DecidableEq κ] (node : ScopeNode) (key : κ) (write : Write κ α) :
    Decidable (write.Touches node key) :=
  match write with
  | put .. => inferInstanceAs (Decidable (_ ∧ _))
  | remove .. => inferInstanceAs (Decidable (_ ∧ _))
  | clear _ => inferInstanceAs (Decidable (_ = _))

/-- What a write leaves where it touches. -/
def left? : Write κ α → Option α
  | put _ _ value => some value
  | remove .. | clear _ => none

variable {write : Write κ α} {writes : List (Write κ α)} {node : ScopeNode} {key : κ} {value : α}

theorem Touches.node_eq (h : write.Touches node key) : write.node = node := by
  cases write with
  | put place k v => exact h.1
  | remove place k => exact h.1
  | clear place => exact h

theorem eq_put_of_left? (h : write.Touches node key) (hleft : write.left? = some value) :
    write = put node key value := by
  cases write with
  | put place k v =>
      cases hleft
      rw [h.1, h.2]
  | remove place k => cases hleft
  | clear place => cases hleft

/-- The history put a value on a node under a key and wrote nothing over it later. -/
def Stands (writes : List (Write κ α)) (node : ScopeNode) (key : κ) (value : α) : Prop :=
  ∃ before later, writes = before ++ .put node key value :: later ∧
    ∀ write ∈ later, ¬ write.Touches node key

theorem Stands.mem (h : Stands writes node key value) : .put node key value ∈ writes := by
  obtain ⟨before, later, rfl, -⟩ := h
  exact List.mem_append_right _ List.mem_cons_self

theorem stands_concat :
    Stands (writes ++ [write]) node key value ↔
      write = .put node key value ∨ Stands writes node key value ∧ ¬ write.Touches node key := by
  constructor
  · rintro ⟨before, later, heq, hlater⟩
    rcases later.eq_nil_or_concat' with rfl | ⟨later, last, rfl⟩
    · exact .inl (List.singleton_inj.mp (List.append_inj' heq rfl).2)
    · rw [← List.cons_append, ← List.append_assoc] at heq
      obtain ⟨hwrites, hlast⟩ := List.append_inj' heq rfl
      cases hlast
      refine .inr ⟨⟨before, later, hwrites, fun w hmem => ?_⟩, ?_⟩
      · exact hlater w (List.mem_append_left _ hmem)
      · exact hlater write (List.mem_append_right _ List.mem_cons_self)
  · rintro (rfl | ⟨⟨before, later, rfl, hlater⟩, hlast⟩)
    · exact ⟨writes, [], rfl, fun _ hmem => absurd hmem List.not_mem_nil⟩
    · refine ⟨before, later ++ [write], List.append_assoc .., fun w hmem => ?_⟩
      rcases List.mem_append.mp hmem with hmem | hmem
      · exact hlater w hmem
      · rw [List.mem_singleton.mp hmem]
        exact hlast

end Write

open Write (Stands)

namespace Store

variable {κ α : Type} [DecidableEq κ]

/-- The store after one write. -/
def perform (store : Store κ α) : Write κ α → Store κ α
  | .put node key value => store.put node key value
  | .remove node key => store.remove node key
  | .clear node => store.clear node

/-- The store that a history of writes leads to from the empty one. -/
def after (writes : List (Write κ α)) : Store κ α :=
  writes.foldl perform {}

variable {tree : ScopeTree} {store : Store κ α} {writes : List (Write κ α)} {write : Write κ α}
variable {node outer inner : ScopeNode} {nearer : List ScopeNode} {key : κ} {value : α}

theorem get?_clear (store : Store κ α) (node other : ScopeNode) (key : κ) :
    (store.clear node).get? other key =
      if other.number = node.number then none else store.get? other key :=
  find?_entries_clear store node other.number key

/-! ## One write -/

theorem get?_perform_of_touches (h : write.Touches node key) :
    (store.perform write).get? node key = write.left? := by
  cases write with
  | put place k v =>
      obtain ⟨rfl, rfl⟩ := h
      exact (get?_put ..).trans (if_pos ⟨rfl, rfl⟩)
  | remove place k =>
      obtain ⟨rfl, rfl⟩ := h
      exact (get?_remove ..).trans (if_pos ⟨rfl, rfl⟩)
  | clear place =>
      cases h
      exact (get?_clear ..).trans (if_pos rfl)

/-- In a tree no other node has the number of the one that is written on. -/
theorem get?_perform_of_not_touches (hwrite : write.node ∈ tree) (hnode : node ∈ tree)
    (h : ¬ write.Touches node key) : (store.perform write).get? node key = store.get? node key := by
  have hsame : write.node.number = node.number → write.node = node :=
    tree.eq_of_number_eq hwrite hnode
  cases write with
  | put place k v => exact (get?_put ..).trans (if_neg fun hat => h ⟨hsame hat.1, hat.2⟩)
  | remove place k => exact (get?_remove ..).trans (if_neg fun hat => h ⟨hsame hat.1, hat.2⟩)
  | clear place => exact (get?_clear ..).trans (if_neg fun hat => h (hsame hat.symm))

theorem after_concat (writes : List (Write κ α)) (write : Write κ α) :
    after (writes ++ [write]) = (after writes).perform write :=
  List.foldl_append

/-- A node holds under a key what the history left standing there. -/
theorem get?_after_iff (hwithin : ∀ write ∈ writes, write.node ∈ tree) (hnode : node ∈ tree) :
    (after writes).get? node key = some value ↔ Stands writes node key value := by
  induction writes using List.reverseRecOn with
  | nil =>
      constructor
      · intro h
        cases h
      · rintro ⟨before, later, heq, -⟩
        cases before <;> cases heq
  | append_singleton writes write ih =>
      have hbefore : ∀ w ∈ writes, w.node ∈ tree :=
        fun w hmem => hwithin w (List.mem_append_left _ hmem)
      have hwrite : write.node ∈ tree :=
        hwithin write (List.mem_append_right _ List.mem_cons_self)
      rw [after_concat, Write.stands_concat, ← ih hbefore]
      by_cases htouch : write.Touches node key
      · rw [get?_perform_of_touches htouch]
        constructor
        · exact fun hleft => .inl (Write.eq_put_of_left? htouch hleft)
        · rintro (rfl | ⟨-, hnot⟩)
          · rfl
          · exact absurd htouch hnot
      · rw [get?_perform_of_not_touches hwrite hnode htouch]
        constructor
        · exact fun h => .inr ⟨h, htouch⟩
        · rintro (rfl | ⟨h, -⟩)
          · exact absurd ⟨rfl, rfl⟩ htouch
          · exact h

/-- A node is empty under a key if the history left nothing standing there. -/
theorem get?_after_eq_none_iff (hwithin : ∀ write ∈ writes, write.node ∈ tree)
    (hnode : node ∈ tree) :
    (after writes).get? node key = none ↔ ∀ value, ¬ Stands writes node key value := by
  simp only [Option.eq_none_iff_forall_ne_some, ne_eq, get?_after_iff hwithin hnode]

/-! ## Lookups -/

/-- A lookup climbs up to the first node that holds a value. -/
theorem find?_eq_some_iff :
    store.find? node key = some value ↔ ∃ nearer outer, Ascends node nearer outer ∧
      store.get? outer key = some value ∧ ∀ inner ∈ nearer, store.get? inner key = none := by
  unfold find?
  rw [List.findSome?_eq_some_iff]
  constructor
  · rintro ⟨nearer, outer, farther, heq, hsome, hnone⟩
    exact ⟨nearer, outer, ScopeNode.ascends_iff.mpr ⟨farther, heq⟩, hsome, hnone⟩
  · rintro ⟨nearer, outer, hway, hsome, hnone⟩
    obtain ⟨farther, heq⟩ := ScopeNode.ascends_iff.mp hway
    exact ⟨nearer, outer, farther, heq, hsome, hnone⟩

theorem find?_eq_none_iff :
    store.find? node key = none ↔
      ∀ nearer outer, Ascends node nearer outer → store.get? outer key = none := by
  unfold find?
  rw [List.findSome?_eq_none_iff]
  constructor
  · exact fun h nearer outer hway => h outer hway.mem_enclosing
  · intro h outer hmem
    obtain ⟨nearer, hway⟩ := ScopeNode.exists_ascends hmem
    exact h nearer outer hway

private theorem findSome?_congr {f g : ScopeNode → Option α} {nodes : List ScopeNode}
    (h : ∀ outer ∈ nodes, f outer = g outer) : nodes.findSome? f = nodes.findSome? g := by
  induction nodes with
  | nil => rfl
  | cons first nodes ih =>
      rw [List.findSome?_cons, List.findSome?_cons, h first List.mem_cons_self,
        ih fun outer hmem => h outer (List.mem_cons_of_mem _ hmem)]

theorem find?_congr {store' : Store κ α}
    (h : ∀ outer ∈ node.enclosing, store.get? outer key = store'.get? outer key) :
    store.find? node key = store'.find? node key :=
  findSome?_congr h

/-- What stands behind a nearer value does not matter. -/
theorem find?_congr_nearer {store' : Store κ α} (hway : Ascends node nearer outer)
    (h : ∀ inner ∈ nearer, store.get? inner key = store'.get? inner key)
    (hmem : inner ∈ nearer) (hsome : store.get? inner key = some value) :
    store.find? node key = store'.find? node key := by
  have hstop : (nearer.findSome? fun n => store.get? n key).isSome := by
    rw [List.findSome?_isSome_iff]
    exact ⟨inner, hmem, by rw [hsome]; rfl⟩
  have hsame : (nearer.findSome? fun n => store'.get? n key) =
      nearer.findSome? fun n => store.get? n key :=
    findSome?_congr fun n hn => (h n hn).symm
  unfold find?
  rw [hway.enclosing_eq, List.findSome?_append, List.findSome?_append, hsame,
    Option.or_of_isSome hstop, Option.or_of_isSome hstop]

/-- What lookups on the nodes of a tree give in the store that a history of writes leads to, and
which of them one more write leaves alone. -/
structure Lookups (tree : ScopeTree) (writes : List (Write κ α)) : Prop where
  found : ∀ {node}, node ∈ tree → ∀ key value, (after writes).find? node key = some value ↔
    ∃ nearer outer, Ascends node nearer outer ∧ Stands writes outer key value ∧
      ∀ inner ∈ nearer, ∀ other, ¬ Stands writes inner key other
  nothing : ∀ {node}, node ∈ tree → ∀ key, (after writes).find? node key = none ↔
    ∀ nearer outer, Ascends node nearer outer → ∀ value, ¬ Stands writes outer key value
  /-- Only the node that is written on and the nodes below it can see a write. -/
  aside : ∀ {node} write, node ∈ tree → write.node ∈ tree →
    (∀ nearer, ¬ Ascends node nearer write.node) →
    ∀ key, (after (writes ++ [write])).find? node key = (after writes).find? node key
  /-- A value on the way to the node that is written on keeps the write from being seen. -/
  shadowed : ∀ {node nearer inner key value} write, node ∈ tree → write.node ∈ tree →
    Ascends node nearer write.node → inner ∈ nearer → Stands writes inner key value →
    (after (writes ++ [write])).find? node key = (after writes).find? node key
  putElsewhere : ∀ {key other}, other ≠ key → ∀ node place value,
    (after (writes ++ [.put place other value])).find? node key = (after writes).find? node key
  removedElsewhere : ∀ {key other}, other ≠ key → ∀ node place,
    (after (writes ++ [.remove place other])).find? node key = (after writes).find? node key

/-- After every history of writes on the nodes of a tree, a lookup gives what stands at the nearest
node, and a write is seen at most from below, and only where nothing nearer stands. -/
theorem lookups_after (hwithin : ∀ write ∈ writes, write.node ∈ tree) : Lookups tree writes where
  found hnode key value := by
    rw [find?_eq_some_iff]
    constructor
    · rintro ⟨nearer, outer, hway, hsome, hnone⟩
      refine ⟨nearer, outer, hway, ?_, fun inner hinner => ?_⟩
      · exact (get?_after_iff hwithin (tree.enclosing_mem hnode hway.mem_enclosing)).mp hsome
      · exact (get?_after_eq_none_iff hwithin
          (tree.enclosing_mem hnode (hway.nearer_subset hinner))).mp (hnone inner hinner)
    · rintro ⟨nearer, outer, hway, hstands, hnot⟩
      refine ⟨nearer, outer, hway, ?_, fun inner hinner => ?_⟩
      · exact (get?_after_iff hwithin (tree.enclosing_mem hnode hway.mem_enclosing)).mpr hstands
      · exact (get?_after_eq_none_iff hwithin
          (tree.enclosing_mem hnode (hway.nearer_subset hinner))).mpr (hnot inner hinner)
  nothing hnode key := by
    rw [find?_eq_none_iff]
    constructor
    · intro h nearer outer hway
      exact (get?_after_eq_none_iff hwithin
        (tree.enclosing_mem hnode hway.mem_enclosing)).mp (h nearer outer hway)
    · intro h nearer outer hway
      exact (get?_after_eq_none_iff hwithin
        (tree.enclosing_mem hnode hway.mem_enclosing)).mpr (h nearer outer hway)
  aside {node} write hnode hwrite haside key := by
    rw [after_concat]
    refine find?_congr fun outer houter => ?_
    refine get?_perform_of_not_touches hwrite (tree.enclosing_mem hnode houter) fun htouch => ?_
    obtain ⟨nearer, hway⟩ := ScopeNode.exists_ascends houter
    rw [← htouch.node_eq] at hway
    exact haside nearer hway
  shadowed {node nearer inner key value} write hnode hwrite hway hinner hstands := by
    have hmem : ∀ n ∈ nearer, n ∈ tree :=
      fun n hn => tree.enclosing_mem hnode (hway.nearer_subset hn)
    have hsome := (get?_after_iff hwithin (hmem inner hinner)).mpr hstands
    rw [after_concat]
    refine (find?_congr_nearer hway (fun n hn => ?_) hinner hsome).symm
    refine (get?_perform_of_not_touches hwrite (hmem n hn) fun htouch => ?_).symm
    exact hway.ne_of_mem hn htouch.node_eq.symm
  putElsewhere hkey node place value := by
    rw [after_concat]
    exact find?_congr fun outer _ => (get?_put ..).trans (if_neg fun hat => hkey hat.2)
  removedElsewhere hkey node place := by
    rw [after_concat]
    exact find?_congr fun outer _ => (get?_remove ..).trans (if_neg fun hat => hkey hat.2)

end Store

namespace Store.Family

/-- A run. -/
def run : ScopeNode := ScopeNode.root "nightly"

/-- A class of the run. -/
def orders : ScopeNode := run.child 1 .testClass "OrderTest"

/-- A method of the class. -/
def ships : ScopeNode := orders.child 2 .testMethod "ships"

/-- The tree of the three. -/
def tree : ScopeTree :=
  ((ScopeTree.single "nightly").grow run rfl 1 (by rintro _ rfl; decide)
    .testClass "OrderTest").grow orders (Set.mem_insert _ _) 2
    (by rintro _ (rfl | rfl) <;> decide) .testMethod "ships"

def marker : String × String := ("MEMORY", "Marker")

/-- The class puts a value before that of the run, and a number under the same namespace. -/
def writes : List (Write (String × String) String) :=
  [.put run marker "run", .put orders marker "class", .put orders ("MEMORY", "i64") "7"]

/-- The method sees the value of its class, and the class does not see what happens to the method.
-/
theorem nearest_marker_found :
    (∀ write ∈ writes, write.node ∈ tree) ∧
      (after writes).find? ships marker = some "class" ∧
      (after (writes ++ [.clear ships])).find? orders marker =
        (after writes).find? orders marker := by
  have hrun : run ∈ tree := Set.mem_insert_of_mem _ (Set.mem_insert_of_mem _ rfl)
  have horders : orders ∈ tree := Set.mem_insert_of_mem _ (Set.mem_insert _ _)
  have hships : ships ∈ tree := Set.mem_insert _ _
  have hwrites : ∀ write ∈ writes, write.node ∈ tree := by
    intro write hmem
    simp only [writes, List.mem_cons, List.not_mem_nil, or_false] at hmem
    rcases hmem with rfl | rfl | rfl
    · exact hrun
    · exact horders
    · exact horders
  have hlookups := lookups_after hwrites
  refine ⟨hwrites, ?_, ?_⟩
  · refine (hlookups.found hships marker "class").mpr
      ⟨[ships], orders, .up rfl (.here orders), ⟨[_], [_], rfl, ?_⟩, ?_⟩
    · intro write hmem
      rw [List.mem_singleton.mp hmem]
      decide
    · intro inner hmem other hstands
      rw [List.mem_singleton.mp hmem] at hstands
      have hput := hstands.mem
      simp only [writes, List.mem_cons, Write.put.injEq, List.not_mem_nil, or_false] at hput
      rcases hput with hput | hput | hput
      · exact absurd hput.1 (by decide)
      · exact absurd hput.1 (by decide)
      · exact absurd hput.1 (by decide)
  · refine hlookups.aside (.clear ships) horders hships (fun nearer hway => ?_) marker
    exact absurd hway.mem_enclosing (by decide)

end Store.Family

end ScopedResources
