import ScopedResources.Migration.Location

/-!
# Files beside the start

A file that stands where relative paths begin is found by its name alone, if nothing in the name
means more than the name. Locations that name such files one by one give these files, in the same
order. -/

namespace ScopedResources.Files

/-- A path that is a single name, which neither leads elsewhere nor is too long. -/
def PlainName (name : String) : Prop :=
  Path.names name = [name] ∧ Path.isAbsolute name = false ∧
    (name.isEmpty = false ∧ name ≠ "" ∧ name ≠ "." ∧ name ≠ "..") ∧
    name.toList.contains (Char.ofNat 0) = false ∧ name.utf8ByteSize ≤ Tree.maxName

instance (name : String) : Decidable (PlainName name) :=
  inferInstanceAs (Decidable (_ ∧ _))

variable {tree : Tree} {name : String} {content : ByteArray}

theorem PlainName.resolve_entry {entry : Entry} (h : PlainName name) (hstart : tree.start = [])
    (hentry : tree.find? [name] = some entry) (hlink : ∀ target, entry ≠ .link target) :
    tree.resolve name = .ok [name] := by
  obtain ⟨hnames, hrelative, ⟨hempty, hne, hdot, hdots⟩, hnull, hsize⟩ := h
  have hshort : ¬ Tree.maxPath ≤ name.utf8ByteSize := by
    unfold Tree.maxPath
    unfold Tree.maxName at hsize
    omega
  have hroot : (tree.find? []).any Entry.isDirectory = true := rfl
  have hthere : tree.follow Tree.maxLinks [name] [] = .ok [name] := by rw [Tree.follow]
  have hfollow : tree.follow Tree.maxLinks [] [name] = .ok [name] := by
    rw [Tree.follow, List.nil_append, hentry, hroot]
    cases entry with
    | link target => exact absurd rfl (hlink target)
    | _ => simp [hne, hdot, hdots, Nat.not_lt.mpr hsize, hthere]
  unfold Tree.resolve
  rw [hempty, hnull, if_neg Bool.false_ne_true, if_neg Bool.false_ne_true, if_neg hshort, hnames,
    hstart, hrelative, if_neg Bool.false_ne_true, hfollow]

theorem PlainName.resolve (h : PlainName name) (hstart : tree.start = [])
    (hfile : tree.find? [name] = some (.file content)) : tree.resolve name = .ok [name] :=
  h.resolve_entry hstart hfile fun target heq => by cases heq

theorem PlainName.join (h : PlainName name) : Path.join "" name = name := by
  rw [Path.join, h.2.1, if_neg Bool.false_ne_true]
  exact (if_pos rfl).trans (String.empty_append ..)

theorem PlainName.fileName? (h : PlainName name) : Path.fileName? name = some name := by
  rw [Path.fileName?, h.1]
  obtain ⟨-, hne, hdot, hdots⟩ := h.2.2.1
  simp [Path.dropIdle, hne, hdot, hdots]

theorem PlainName.read {text : String} (h : PlainName name) (hstart : tree.start = [])
    (hfile : tree.find? [name] = some (.file content))
    (htext : String.fromUTF8? content = some text) : tree.read name = .ok text := by
  unfold Tree.read
  rw [h.resolve hstart hfile]
  dsimp only [bind, Except.bind]
  rw [hfile]
  dsimp only
  rw [htext]
  rfl

theorem fromUTF8?_toUTF8 (text : String) : String.fromUTF8? text.toUTF8 = some text :=
  dif_pos text.isValidUTF8

theorem PlainName.read_text {text : String} (h : PlainName name) (hstart : tree.start = [])
    (hfile : tree.find? [name] = some (.file text.toUTF8)) : tree.read name = .ok text :=
  h.read hstart hfile (fromUTF8?_toUTF8 text)

theorem PlainName.filesAt (h : PlainName name) (hstart : tree.start = [])
    (hfile : tree.find? [name] = some (.file content)) : tree.filesAt name = [⟨name, name⟩] := by
  unfold Tree.filesAt Tree.isFile
  rw [h.resolve hstart hfile]
  dsimp only
  rw [hfile, h.fileName?]
  rfl

/-- Whether a file stands beside the start under a plain name, with one of some extensions. -/
def Tree.Holds (tree : Tree) (extensions : List String) (name : String) : Prop :=
  PlainName name ∧ (∃ content, tree.find? [name] = some (.file content)) ∧
    Migration.hasExtension extensions ⟨name, name⟩ = true

theorem collectAt_of_holds {extensions : List String} (hstart : tree.start = [])
    (h : tree.Holds extensions name) :
    Migration.collectAt tree "" extensions name = .ok [⟨name, name⟩] := by
  obtain ⟨hplain, ⟨content, hfile⟩, hextension⟩ := h
  have hexists : tree.exists? name = true := by
    rw [Tree.exists?, hplain.resolve hstart hfile]
    rfl
  unfold Migration.collectAt
  rw [hplain.join]
  dsimp only
  rw [if_pos hexists, hplain.filesAt hstart hfile, Migration.select,
    List.filter_cons_of_pos hextension, List.filter_nil, List.mergeSort_singleton]

theorem collect_of_holds {extensions names : List String} (hstart : tree.start = [])
    (h : ∀ name ∈ names, tree.Holds extensions name) :
    Migration.collect tree "" extensions names = .ok (names.map fun name => ⟨name, name⟩) := by
  have hall : names.mapM (Migration.collectAt tree "" extensions) =
      .ok (names.map fun name => [⟨name, name⟩]) := by
    induction names with
    | nil => rfl
    | cons name rest ih =>
        rw [List.forall_mem_cons] at h
        rw [List.mapM_cons, collectAt_of_holds hstart h.1, ih h.2]
        rfl
  rw [Migration.collect, hall]
  change Except.ok _ = Except.ok _
  rw [← List.flatMap_def, ← List.map_eq_flatMap]

end ScopedResources.Files
