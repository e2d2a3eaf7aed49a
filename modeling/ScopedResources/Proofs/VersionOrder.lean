import ScopedResources.Migration.Version
import Mathlib.Order.Basic
import Mathlib.Data.Nat.Basic

/-!
# The order of versions

A version has a number at every place, which is zero behind its end. Comparing two versions finds
the first place at which they differ, so versions that differ in zeros at the end are alike, and of
any two versions that are not alike one is below the other. -/

namespace ScopedResources.Migration.Version

/-- The number at a place of a version. -/
def segment (v : Version) (i : Nat) : Nat :=
  v.getD i 0

/-- The versions have the same number at every place. -/
def Alike (v w : Version) : Prop :=
  ∀ i, segment v i = segment w i

/-- At the first place where the versions differ, the first one has the smaller number. -/
def Below (v w : Version) : Prop :=
  ∃ i, (∀ j < i, segment v j = segment w j) ∧ segment v i < segment w i

variable {u v w : Version}

/-! ## Place by place -/

theorem segment_tail (v : Version) (i : Nat) : segment v.tail i = segment v (i + 1) := by
  cases v <;> simp [segment]

theorem alike_iff : Alike v w ↔ segment v 0 = segment w 0 ∧ Alike v.tail w.tail := by
  constructor
  · intro h
    refine ⟨h 0, fun i => ?_⟩
    rw [segment_tail, segment_tail]
    exact h (i + 1)
  · rintro ⟨hfirst, hrest⟩ (_ | i)
    · exact hfirst
    · have hnext := hrest i
      rwa [segment_tail, segment_tail] at hnext

theorem below_iff : Below v w ↔
    segment v 0 < segment w 0 ∨ segment v 0 = segment w 0 ∧ Below v.tail w.tail := by
  constructor
  · rintro ⟨_ | i, hsame, hlt⟩
    · exact .inl hlt
    · refine .inr ⟨hsame 0 (Nat.succ_pos i), i, fun j hj => ?_, ?_⟩
      · rw [segment_tail, segment_tail]
        exact hsame (j + 1) (Nat.succ_lt_succ hj)
      · rwa [segment_tail, segment_tail]
  · rintro (hlt | ⟨hfirst, i, hsame, hlt⟩)
    · exact ⟨0, fun j hj => absurd hj (Nat.not_lt_zero j), hlt⟩
    · rw [segment_tail, segment_tail] at hlt
      refine ⟨i + 1, ?_, hlt⟩
      rintro (_ | j) hj
      · exact hfirst
      · have hnext := hsame j (Nat.lt_of_succ_lt_succ hj)
        rwa [segment_tail, segment_tail] at hnext

theorem order_nil : order [] [] = .eq := by
  rw [order]

theorem order_eq (v w : Version) :
    order v w = (compare (segment v 0) (segment w 0)).then (order v.tail w.tail) := by
  cases v <;> cases w <;> simp [order, segment]

/-- What passes from the tails of any two versions to the versions holds for all. -/
theorem tail_induction {P : Version → Version → Prop} (nil : P [] [])
    (step : ∀ v w, P v.tail w.tail → P v w) (v w : Version) : P v w := by
  induction v, w using order.induct with
  | case1 => exact nil
  | case2 b bs ih => exact step _ _ ih
  | case3 a as ih => exact step _ _ ih
  | case4 a as b bs ih => exact step _ _ ih

theorem order_swap (v w : Version) : order w v = (order v w).swap := by
  induction v, w using tail_induction with
  | nil => rw [order_nil, Ordering.swap_eq]
  | step v w ih => rw [order_eq w, ih, order_eq v, Ordering.swap_then, Nat.compare_swap]

theorem order_eq_eq_iff : order v w = .eq ↔ Alike v w := by
  induction v, w using tail_induction with
  | nil => exact ⟨fun _ _ => rfl, fun _ => order_nil⟩
  | step v w ih => rw [order_eq, Ordering.then_eq_eq, Nat.compare_eq_eq, ih, ← alike_iff]

theorem order_eq_lt_iff : order v w = .lt ↔ Below v w := by
  induction v, w using tail_induction with
  | nil =>
      rw [order_nil]
      refine ⟨fun h => (by cases h), ?_⟩
      rintro ⟨i, -, hlt⟩
      exact absurd hlt (Nat.lt_irrefl _)
  | step v w ih =>
      rw [order_eq, Ordering.then_eq_lt, Nat.compare_eq_lt, Nat.compare_eq_eq, ih, ← below_iff]

theorem order_eq_gt_iff : order v w = .gt ↔ Below w v := by
  rw [← order_eq_lt_iff, order_swap v w]
  cases order v w <;> simp

/-! ## A total order up to likeness -/

theorem Alike.symm (h : Alike v w) : Alike w v :=
  fun i => (h i).symm

theorem Below.not_alike (h : Below v w) : ¬ Alike v w := by
  obtain ⟨i, -, hlt⟩ := h
  exact fun halike => Nat.ne_of_lt hlt (halike i)

theorem Below.trans (h : Below u v) (h' : Below v w) : Below u w := by
  obtain ⟨i, hsame, hlt⟩ := h
  obtain ⟨k, hsame', hlt'⟩ := h'
  rcases Nat.lt_trichotomy i k with hik | rfl | hki
  · exact ⟨i, fun j hj => (hsame j hj).trans (hsame' j (hj.trans hik)), hlt.trans_eq (hsame' i hik)⟩
  · exact ⟨i, fun j hj => (hsame j hj).trans (hsame' j hj), hlt.trans hlt'⟩
  · exact ⟨k, fun j hj => (hsame j (hj.trans hki)).trans (hsame' j hj), (hsame k hki).trans_lt hlt'⟩

theorem Below.asymm (h : Below v w) : ¬ Below w v :=
  fun h' => (h.trans h').not_alike fun _ => rfl

theorem Below.of_alike (h : Below v w) (halike : Alike u v) : Below u w := by
  obtain ⟨i, hsame, hlt⟩ := h
  exact ⟨i, fun j hj => (halike j).trans (hsame j hj), (halike i).trans_lt hlt⟩

theorem alike_or_below (v w : Version) : Alike v w ∨ Below v w ∨ Below w v := by
  rw [← order_eq_eq_iff, ← order_eq_lt_iff, ← order_eq_gt_iff]
  cases order v w <;> simp

theorem le_iff : le v w = true ↔ ¬ Below w v := by
  rw [le, decide_eq_true_eq, ne_eq, order_eq_gt_iff]

theorem same_iff : same v w = true ↔ Alike v w := by
  rw [same, decide_eq_true_eq, order_eq_eq_iff]

theorem le_total (v w : Version) : (le v w || le w v) = true := by
  rw [Bool.or_eq_true, le_iff, le_iff]
  by_cases h : Below w v
  · exact .inr h.asymm
  · exact .inl h

theorem le_trans (h : le u v = true) (h' : le v w = true) : le u w = true := by
  rw [le_iff] at *
  intro hbelow
  rcases alike_or_below v w with halike | hvw | hwv
  · exact h (hbelow.of_alike halike)
  · exact h (hvw.trans hbelow)
  · exact h' hwv

/-- What is not above and not alike is below. -/
theorem below_of_le (h : le v w = true) (hnot : ¬ Alike v w) : Below v w := by
  rw [le_iff] at h
  rcases alike_or_below v w with halike | hvw | hwv
  · exact absurd halike hnot
  · exact hvw
  · exact absurd hwv h

/-! ## Zeros at the end -/

/-- A version with zeros behind it, up to a number of places. -/
def padded (places : Nat) (v : Version) : Version :=
  v ++ List.replicate (places - v.length) 0

theorem segment_append_zeros (v : Version) (n i : Nat) :
    segment (v ++ List.replicate n 0) i = segment v i := by
  simp only [segment, List.getD_eq_getElem?_getD, List.getElem?_append, List.getElem?_replicate]
  split
  next => rfl
  next hi =>
    rw [List.getElem?_eq_none (Nat.le_of_not_lt hi)]
    split <;> rfl

theorem alike_append_zeros (v : Version) (n : Nat) : Alike (v ++ List.replicate n 0) v :=
  segment_append_zeros v n

theorem length_padded {places : Nat} (h : v.length ≤ places) :
    (padded places v).length = places := by
  rw [padded, List.length_append, List.length_replicate]
  omega

theorem eq_of_alike (hlength : v.length = w.length) (h : Alike v w) : v = w := by
  apply List.ext_getElem hlength
  intro i hv hw
  have hi := h i
  simp only [segment, List.getD_eq_getElem?_getD, List.getElem?_eq_getElem hv,
    List.getElem?_eq_getElem hw] at hi
  exact hi

/-- Versions are alike just if they are equal once the shorter one has as many places as the other.
-/
theorem alike_iff_padded : Alike v w ↔
    padded (max v.length w.length) v = padded (max v.length w.length) w := by
  constructor
  · intro h
    apply eq_of_alike
    · rw [length_padded (Nat.le_max_left ..), length_padded (Nat.le_max_right ..)]
    · intro i
      rw [padded, padded, segment_append_zeros, segment_append_zeros]
      exact h i
  · intro heq i
    have hi := congrArg (segment · i) heq
    simp only [padded, segment_append_zeros] at hi
    exact hi

theorem order_congr {v' w' : Version} (hv : Alike v v') (hw : Alike w w') :
    order v w = order v' w' := by
  have hbelow : Below v w ↔ Below v' w' := by simp only [Below, hv _, hw _]
  have hbelow' : Below w v ↔ Below w' v' := by simp only [Below, hv _, hw _]
  have halike : Alike v w ↔ Alike v' w' := by simp only [Alike, hv _, hw _]
  cases h : order v' w' with
  | lt => rwa [order_eq_lt_iff, hbelow, ← order_eq_lt_iff]
  | eq => rwa [order_eq_eq_iff, halike, ← order_eq_eq_iff]
  | gt => rwa [order_eq_gt_iff, hbelow', ← order_eq_gt_iff]

/-! ## Sorting by versions -/

section Sorting

variable {α : Type} {version : α → Version} {items : List α}

theorem below_of_le_of_below (hle : le u v = true) (h : Below v w) : Below u w := by
  rcases alike_or_below u v with halike | huv | hvu
  · exact h.of_alike halike
  · exact huv.trans h
  · exact absurd hvu (le_iff.mp hle)

theorem Below.trans_le (h : Below u v) (hle : le v w = true) : Below u w := by
  rcases alike_or_below w u with halike | hwu | huw
  · exact absurd (h.of_alike halike) (le_iff.mp hle)
  · exact absurd (hwu.trans h) (le_iff.mp hle)
  · exact huw

/-- The items whose version compares in one way with a version. -/
def comparing (version : α → Version) (v : Version) (result : Ordering) (items : List α) : List α :=
  items.filter fun item => order (version item) v = result

theorem mem_comparing {v : Version} {result : Ordering} {item : α} :
    item ∈ comparing version v result items ↔ item ∈ items ∧ order (version item) v = result := by
  rw [comparing, List.mem_filter, decide_eq_true_eq]

theorem comparing_cons (v : Version) (result : Ordering) (item : α) :
    comparing version v result (item :: items) =
      if order (version item) v = result then item :: comparing version v result items
      else comparing version v result items := by
  simp only [comparing, List.filter_cons, decide_eq_true_eq]

/-- A sorted list has in front what is below a version, then what is the same version, and last what
is above it. -/
theorem eq_parts_of_sorted (h : items.Pairwise fun a b => le (version a) (version b) = true)
    (v : Version) : items = comparing version v .lt items ++
      (comparing version v .eq items ++ comparing version v .gt items) := by
  induction items with
  | nil => rfl
  | cons first rest ih =>
      obtain ⟨hfirst, hrest⟩ := List.pairwise_cons.mp h
      have hparts := ih hrest
      -- once an item is not below the version, no item behind it is
      have hnone (hnot : ¬ Below (version first) v) : comparing version v .lt rest = [] := by
        apply List.eq_nil_iff_forall_not_mem.mpr
        intro item hitem
        obtain ⟨hmem, hlt⟩ := mem_comparing.mp hitem
        exact hnot (below_of_le_of_below (hfirst item hmem) (order_eq_lt_iff.mp hlt))
      simp only [comparing_cons]
      cases hcase : order (version first) v with
      | lt => exact congrArg (first :: ·) hparts
      | eq =>
          have halike := order_eq_eq_iff.mp hcase
          rw [hnone fun hbelow => hbelow.not_alike halike] at hparts ⊢
          exact congrArg (first :: ·) hparts
      | gt =>
          have habove : Below v (version first) := order_eq_gt_iff.mp hcase
          have hlike : comparing version v .eq rest = [] := by
            apply List.eq_nil_iff_forall_not_mem.mpr
            intro item hitem
            obtain ⟨hmem, heq⟩ := mem_comparing.mp hitem
            exact (habove.trans_le (hfirst item hmem)).not_alike (order_eq_eq_iff.mp heq).symm
          rw [hnone habove.asymm, hlike] at hparts ⊢
          exact congrArg (first :: ·) hparts

/-- The items in the order of their versions. -/
def sortedBy (version : α → Version) (items : List α) : List α :=
  items.mergeSort fun a b => le (version a) (version b)

theorem sortedBy_perm (version : α → Version) (items : List α) :
    (sortedBy version items).Perm items :=
  List.mergeSort_perm _ _

theorem sortedBy_pairwise (version : α → Version) (items : List α) :
    (sortedBy version items).Pairwise fun a b => le (version a) (version b) = true :=
  List.pairwise_mergeSort (fun a b c => @le_trans (version a) (version b) (version c))
    (fun a b => le_total (version a) (version b)) items

end Sorting

/-- Comparing versions is a total preorder that zeros at the end do not count in: versions compare
as equal just if they are equal once the shorter one has as many places as the other, and only then
are they the same version. So whatever is sorted by versions falls into those below any one version,
those that are the same as it, side by side, and those above it. -/
theorem versions_ordered_in_groups :
    (∀ v w : Version, order v w = .eq ↔
      padded (max v.length w.length) v = padded (max v.length w.length) w) ∧
    (∀ v w : Version, same v w = true ↔ order v w = .eq) ∧
    (∀ v w : Version, order w v = (order v w).swap) ∧
    (∀ v w : Version, le v w = true ↔ order v w ≠ .gt) ∧
    (∀ v w : Version, le v w = true ∨ le w v = true) ∧
    (∀ u v w : Version, le u v = true → le v w = true → le u w = true) ∧
    (∀ (v w : Version) (m n : Nat),
      order (v ++ List.replicate m 0) (w ++ List.replicate n 0) = order v w) ∧
    ∀ (α : Type) (version : α → Version) (items : List α) (v : Version),
      (sortedBy version items).Perm items ∧
      sortedBy version items = comparing version v .lt (sortedBy version items) ++
        (comparing version v .eq (sortedBy version items) ++
          comparing version v .gt (sortedBy version items)) := by
  refine ⟨?equal, ?same, order_swap, ?le, ?total, fun _ _ _ => le_trans, ?zeros, ?sorted⟩
  case equal =>
    intro v w
    rw [order_eq_eq_iff, alike_iff_padded]
  case same =>
    intro v w
    rw [same, decide_eq_true_eq]
  case le =>
    intro v w
    rw [le, decide_eq_true_eq]
  case total =>
    intro v w
    exact Bool.or_eq_true_iff.mp (le_total v w)
  case zeros =>
    intro v w m n
    exact order_congr (alike_append_zeros v m) (alike_append_zeros w n)
  case sorted =>
    intro α version items v
    exact ⟨sortedBy_perm version items, eq_parts_of_sorted (sortedBy_pairwise version items) v⟩

end ScopedResources.Migration.Version
