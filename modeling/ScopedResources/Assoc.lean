/-!
# Finite maps as lists of entries

A finite map is a list of entries in which every key stands at most once. Writing to a key that is
present keeps its place; a new key goes to the end.
-/

namespace ScopedResources

/-- A finite map from `κ` to `α`. -/
abbrev Assoc (κ : Type) (α : Type) := List (κ × α)

namespace Assoc

variable {κ α : Type} [DecidableEq κ]

def find? (key : κ) : Assoc κ α → Option α
  | [] => none
  | (k, a) :: rest => if k = key then some a else find? key rest

def contains (key : κ) (m : Assoc κ α) : Bool :=
  (find? key m).isSome

/-- The map with `value` under `key`. -/
def insert (key : κ) (value : α) : Assoc κ α → Assoc κ α
  | [] => [(key, value)]
  | (k, a) :: rest => if k = key then (k, value) :: rest else (k, a) :: insert key value rest

/-- The map without `key`. -/
def erase (key : κ) (m : Assoc κ α) : Assoc κ α :=
  m.filter fun entry => entry.1 ≠ key

@[simp] theorem find?_nil (key : κ) : find? key ([] : Assoc κ α) = none := rfl

theorem find?_cons (key k : κ) (a : α) (rest : Assoc κ α) :
    find? key ((k, a) :: rest) = if k = key then some a else find? key rest := rfl

theorem find?_insert (key k : κ) (value : α) (m : Assoc κ α) :
    find? key (insert k value m) = if k = key then some value else find? key m := by
  induction m with
  | nil => simp [insert, find?]
  | cons entry rest ih =>
    obtain ⟨j, a⟩ := entry
    by_cases hj : j = k
    · subst hj
      by_cases hk : j = key <;> simp [insert, find?, hk]
    · by_cases hk : j = key
      · subst hk
        simp [insert, find?, hj, Ne.symm hj]
      · simp [insert, find?, hj, hk, ih]

theorem find?_erase (key k : κ) (m : Assoc κ α) :
    find? key (erase k m) = if k = key then none else find? key m := by
  induction m with
  | nil => simp [erase]
  | cons entry rest ih =>
    obtain ⟨j, a⟩ := entry
    simp only [erase] at ih ⊢
    by_cases hj : j = k
    · subst hj
      by_cases hk : j = key
      · simpa [List.filter_cons, hk] using ih
      · simpa [List.filter_cons, find?, hk] using ih
    · by_cases hk : j = key
      · subst hk
        simp [hj, find?, Ne.symm hj]
      · simpa [List.filter_cons, hj, find?, hk] using ih

end Assoc

end ScopedResources
