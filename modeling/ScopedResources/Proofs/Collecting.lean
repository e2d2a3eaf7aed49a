import ScopedResources.Proofs.PlanSources
import Mathlib.Data.List.Forall2

/-!
# Files at several locations

Files are collected location by location, and this succeeds exactly where every location exists.
What is collected then are the files at the first location, behind them those at the second, and so
on. -/

namespace ScopedResources.Migration

open Files

/-! ## Steps that may fail, for each of some items -/

theorem map_eq_ok_iff {ε α β : Type} {known : Except ε α} {f : α → β} {b : β} :
    known.map f = .ok b ↔ ∃ a, known = .ok a ∧ f a = b := by
  cases known <;> simp [Except.map]

theorem mapM_eq_ok_iff {ε α β : Type} {f : α → Except ε β} {items : List α} {results : List β} :
    items.mapM f = .ok results ↔ List.Forall₂ (fun a b => f a = .ok b) items results := by
  induction items generalizing results with
  | nil =>
      rw [List.mapM_nil, List.forall₂_nil_left_iff]
      exact ⟨fun h => (Except.ok.inj h).symm, fun h => congrArg Except.ok h.symm⟩
  | cons a rest ih =>
      rw [List.mapM_cons, bind_eq_ok, List.forall₂_cons_left_iff]
      constructor
      · rintro ⟨b, hb, h⟩
        obtain ⟨results, hresults, h⟩ := bind_eq_ok.mp h
        cases h
        exact ⟨b, results, hb, ih.mp hresults, rfl⟩
      · rintro ⟨b, results, hb, hresults, rfl⟩
        exact ⟨b, hb, bind_eq_ok.mpr ⟨results, ih.mpr hresults, rfl⟩⟩

theorem mapM_congr {ε α β : Type} {f g : α → Except ε β} {items : List α}
    (h : ∀ a ∈ items, f a = g a) : items.mapM f = items.mapM g := by
  induction items with
  | nil => rfl
  | cons a rest ih =>
      rw [List.forall_mem_cons] at h
      rw [List.mapM_cons, List.mapM_cons, h.1, ih h.2]

theorem exists_forall₂_iff {α β : Type} {R : α → β → Prop} {items : List α} :
    (∃ results, List.Forall₂ R items results) ↔ ∀ a ∈ items, ∃ b, R a b := by
  induction items with
  | nil => exact ⟨fun _ => List.forall_mem_nil _, fun _ => ⟨[], .nil⟩⟩
  | cons a rest ih =>
      rw [List.forall_mem_cons, ← ih]
      constructor
      · rintro ⟨_, _ | ⟨hb, hrest⟩⟩
        exact ⟨⟨_, hb⟩, _, hrest⟩
      · rintro ⟨⟨b, hb⟩, results, hrest⟩
        exact ⟨b :: results, .cons hb hrest⟩

theorem forall₂_and_eq_iff {α β : Type} {p : α → Prop} {f : α → β} {items : List α}
    {results : List β} : List.Forall₂ (fun a b => p a ∧ f a = b) items results ↔
      (∀ a ∈ items, p a) ∧ items.map f = results := by
  induction items generalizing results with
  | nil => simp [eq_comm]
  | cons a rest ih =>
      rw [List.forall₂_cons_left_iff, List.forall_mem_cons, List.map_cons]
      constructor
      · rintro ⟨_, results, ⟨ha, rfl⟩, hrest, rfl⟩
        obtain ⟨hall, rfl⟩ := ih.mp hrest
        exact ⟨⟨ha, hall⟩, rfl⟩
      · rintro ⟨⟨ha, hall⟩, rfl⟩
        exact ⟨_, _, ⟨ha, rfl⟩, ih.mpr ⟨hall, rfl⟩, rfl⟩

/-- Lists for each of some items are put together exactly where all of them can be made. -/
theorem mapM_flatten_eq_ok_iff {ε α β : Type} {f : α → Except ε (List β)} {p : α → Prop}
    {g : α → List β} (h : ∀ a results, f a = .ok results ↔ p a ∧ g a = results) {items : List α}
    {all : List β} :
    (items.mapM f).map List.flatten = .ok all ↔ (∀ a ∈ items, p a) ∧ items.flatMap g = all := by
  rw [map_eq_ok_iff]
  simp only [mapM_eq_ok_iff, h, forall₂_and_eq_iff]
  constructor
  · rintro ⟨_, ⟨hall, rfl⟩, rfl⟩
    exact ⟨hall, List.flatMap_def⟩
  · rintro ⟨hall, rfl⟩
    exact ⟨_, ⟨hall, rfl⟩, List.flatMap_def.symm⟩

theorem ite_eq_ok_iff {ε α : Type} {c : Prop} [Decidable c] {a b : α} {e : ε} :
    (if c then .ok a else .error e) = (.ok b : Except ε α) ↔ c ∧ a = b := by
  by_cases h : c <;> simp [h]

/-! ## Locations -/

variable {tree : Tree} {root : String} {extensions locations : List String} {files : List Found}

theorem collect_eq_ok_iff : collect tree root extensions locations = .ok files ↔
    (∀ location ∈ locations, tree.exists? (Path.join root location) = true) ∧
      (locations.flatMap fun location =>
        select extensions (tree.filesAt (Path.join root location))) =
        files :=
  mapM_flatten_eq_ok_iff fun _ _ => ite_eq_ok_iff

end ScopedResources.Migration
