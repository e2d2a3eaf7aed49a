import ScopedResources.Store
import Mathlib.Data.List.Nodup

/-!
# Entries of finite maps

A map without repeated keys holds an entry exactly if looking up the key gives its value, and
writing repeats no key. Clearing a node of a store takes away what the node holds and nothing else.
-/

namespace ScopedResources

namespace Assoc

variable {κ α : Type} [DecidableEq κ] {m : Assoc κ α} {key : κ} {value : α}

theorem mem_of_find? (h : find? key m = some value) : (key, value) ∈ m := by
  induction m with
  | nil => cases h
  | cons entry rest ih =>
      obtain ⟨k, a⟩ := entry
      rw [find?_cons] at h
      split at h
      next hkey =>
        cases h
        rw [hkey]
        exact List.mem_cons_self ..
      next => exact List.mem_cons_of_mem _ (ih h)

theorem find?_of_mem (hkeys : (m.map Prod.fst).Nodup) (h : (key, value) ∈ m) :
    find? key m = some value := by
  induction m with
  | nil => cases h
  | cons entry rest ih =>
      obtain ⟨k, a⟩ := entry
      rw [List.map_cons, List.nodup_cons] at hkeys
      rw [find?_cons]
      rcases List.mem_cons.mp h with heq | hmem
      · cases heq
        exact if_pos rfl
      · rw [if_neg, ih hkeys.2 hmem]
        rintro rfl
        exact hkeys.1 (List.mem_map.mpr ⟨_, hmem, rfl⟩)

theorem keys_insert (key : κ) (value : α) (m : Assoc κ α) :
    (insert key value m).map Prod.fst =
      if key ∈ m.map Prod.fst then m.map Prod.fst else m.map Prod.fst ++ [key] := by
  induction m with
  | nil => rfl
  | cons entry rest ih =>
      obtain ⟨k, a⟩ := entry
      unfold insert
      by_cases hkey : k = key
      · simp [hkey]
      · rw [if_neg hkey, List.map_cons, List.map_cons, ih]
        by_cases hmem : key ∈ rest.map Prod.fst
        · rw [if_pos hmem, if_pos (List.mem_cons_of_mem _ hmem)]
        · rw [if_neg hmem, if_neg]
          · rfl
          · rw [List.mem_cons]
            rintro (heq | hin)
            · exact hkey heq.symm
            · exact hmem hin

theorem nodup_keys_insert (h : (m.map Prod.fst).Nodup) (key : κ) (value : α) :
    ((insert key value m).map Prod.fst).Nodup := by
  rw [keys_insert]
  split
  next => exact h
  next hnot =>
    refine List.nodup_append.mpr ⟨h, List.nodup_singleton key, ?_⟩
    rintro k hk _ hkey rfl
    obtain rfl := List.mem_singleton.mp hkey
    exact hnot hk

theorem contains_insert {k : κ} :
    contains key (insert k value m) = true ↔ k = key ∨ contains key m = true := by
  unfold contains
  rw [find?_insert]
  by_cases hkey : k = key <;> simp [hkey]

theorem contains_erase {k : κ} :
    contains key (erase k m) = true ↔ k ≠ key ∧ contains key m = true := by
  unfold contains
  rw [find?_erase]
  by_cases hkey : k = key <;> simp [hkey]

/-- Writing what is there changes nothing. -/
theorem insert_of_find? (h : find? key m = some value) : insert key value m = m := by
  induction m with
  | nil => cases h
  | cons entry rest ih =>
      obtain ⟨k, a⟩ := entry
      rw [find?_cons] at h
      unfold insert
      split at h
      next hkey =>
        cases h
        rw [if_pos hkey]
      next hkey => rw [if_neg hkey, ih h]

/-- Erasing what is not there changes nothing. -/
theorem erase_of_find? (h : find? key m = none) : erase key m = m := by
  refine List.filter_eq_self.mpr ?_
  intro entry hmem
  induction m with
  | nil => cases hmem
  | cons first rest ih =>
      obtain ⟨k, a⟩ := first
      rw [find?_cons] at h
      split at h
      next => cases h
      next hkey =>
        rcases List.mem_cons.mp hmem with rfl | hrest
        · simpa using hkey
        · exact ih h hrest

theorem eq_nil_of_find? (h : ∀ key, find? key m = none) : m = [] := by
  cases m with
  | nil => rfl
  | cons entry rest =>
      have hfirst := h entry.1
      rw [find?_cons, if_pos rfl] at hfirst
      cases hfirst

theorem find?_filter (keep : κ → Bool) (key : κ) (m : Assoc κ α) :
    find? key (m.filter fun entry => keep entry.1) = if keep key then find? key m else none := by
  induction m with
  | nil => simp
  | cons entry rest ih =>
      obtain ⟨k, a⟩ := entry
      by_cases hkey : k = key
      · subst hkey
        cases hkeep : keep k <;> simp [hkeep, find?_cons, ih]
      · cases hkeep : keep k <;> simp [hkeep, find?_cons, ih, hkey]

end Assoc

theorem Store.find?_entries_clear {κ α : Type} [DecidableEq κ] (store : Store κ α)
    (node : ScopeNode) (number : Nat) (key : κ) :
    Assoc.find? (number, key) (store.clear node).entries =
      if number = node.number then none else Assoc.find? (number, key) store.entries := by
  refine (Assoc.find?_filter (fun k : Nat × κ => decide (k.1 ≠ node.number)) _ _).trans ?_
  by_cases hnumber : number = node.number <;> simp [hnumber]

/-- What is left was there before. -/
theorem Store.find?_of_clear {κ α : Type} [DecidableEq κ] {store : Store κ α} {node : ScopeNode}
    {place : Nat × κ} {value : α} (h : Assoc.find? place (store.clear node).entries = some value) :
    Assoc.find? place store.entries = some value := by
  obtain ⟨number, key⟩ := place
  rw [find?_entries_clear] at h
  split at h
  · cases h
  · exact h

end ScopedResources
