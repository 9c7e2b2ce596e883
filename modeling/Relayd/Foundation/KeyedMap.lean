import Mathlib.Algebra.GroupWithZero.Nat
import Mathlib.Data.List.AList
import Mathlib.Data.List.Sort
import Mathlib.Order.Defs.LinearOrder

/-!
# Maps whose values know their key

A map stores each value under the key the value itself carries.  Two such maps
with the same lookups hold the same values up to order, and sorting the values
by key makes the order canonical.
-/

namespace Relayd
namespace Foundation

variable {key value : Type} [DecidableEq key]

abbrev KeyMap (key value : Type) [DecidableEq key] := AList (fun _ : key => value)

def values (m : KeyMap key value) : List value :=
  m.entries.map Sigma.snd

def Keyed (keyOf : value -> key) (m : KeyMap key value) : Prop :=
  forall k v, m.lookup k = some v -> keyOf v = k

/-- The same map up to the order of its entries. -/
def SameLookups (m m' : KeyMap key value) : Prop :=
  forall k, m.lookup k = m'.lookup k

theorem mem_values {m : KeyMap key value} {v : value} :
    v ∈ values m <-> exists k, m.lookup k = some v := by
  unfold values
  rw [List.mem_map]
  constructor
  · intro h
    rcases h with ⟨entry, hentry, rfl⟩
    exact ⟨entry.1, AList.mem_lookup_iff.mpr hentry⟩
  · intro h
    rcases h with ⟨k, hk⟩
    exact ⟨⟨k, v⟩, AList.mem_lookup_iff.mp hk, rfl⟩

theorem values_perm {m m' : KeyMap key value} (h : SameLookups m m') :
    (values m).Perm (values m') := by
  apply List.Perm.map
  apply List.lookup_ext m.nodupKeys m'.nodupKeys
  intro k v
  show v ∈ m.lookup k <-> v ∈ m'.lookup k
  rw [h k]

theorem Keyed.nodup_values {keyOf : value -> key} {m : KeyMap key value}
    (h : Keyed keyOf m) : (values m).Nodup := by
  have hkeys : (values m).map keyOf = m.keys := by
    unfold values AList.keys List.keys
    rw [List.map_map]
    apply List.map_congr_left
    intro entry hentry
    exact h entry.1 entry.2 (AList.mem_lookup_iff.mpr hentry)
  apply List.Nodup.of_map keyOf
  rw [hkeys]
  exact m.keys_nodup

/-!
# Writing
-/

theorem keyed_empty (keyOf : value -> key) : Keyed keyOf (∅ : KeyMap key value) := by
  intro k v h
  cases h

theorem Keyed.insert {keyOf : value -> key} {m : KeyMap key value}
    (h : Keyed keyOf m) (v : value) : Keyed keyOf (m.insert (keyOf v) v) := by
  intro k w hlookup
  by_cases hk : k = keyOf v
  · rw [hk, AList.lookup_insert] at hlookup
    cases hlookup
    exact hk.symm
  · rw [AList.lookup_insert_ne hk] at hlookup
    exact h k w hlookup

theorem Keyed.erase {keyOf : value -> key} {m : KeyMap key value}
    (h : Keyed keyOf m) (gone : key) : Keyed keyOf (m.erase gone) := by
  intro k w hlookup
  by_cases hk : k = gone
  · rw [hk, AList.lookup_erase] at hlookup
    cases hlookup
  · rw [AList.lookup_erase_ne hk] at hlookup
    exact h k w hlookup

theorem lookup_insert_eq (m : KeyMap key value) (k other : key) (v : value) :
    (m.insert k v).lookup other = if other = k then some v else m.lookup other := by
  by_cases hother : other = k
  · rw [hother, AList.lookup_insert, if_pos rfl]
  · rw [AList.lookup_insert_ne hother, if_neg hother]

theorem lookup_erase_eq (m : KeyMap key value) (k other : key) :
    (m.erase k).lookup other = if other = k then none else m.lookup other := by
  by_cases hother : other = k
  · rw [hother, AList.lookup_erase, if_pos rfl]
  · rw [AList.lookup_erase_ne hother, if_neg hother]

/-- Taking out a new key gives back the map, the order of its entries included. -/
theorem erase_insert {m : KeyMap key value} {k : key} (h : m.lookup k = none) (v : value) :
    (m.insert k v).erase k = m := by
  have hkey : k ∉ m.entries.keys := AList.lookup_eq_none.mp h
  apply AList.ext
  have hkept : List.kerase k m.entries = m.entries := List.kerase_of_notMem_keys hkey
  show List.kerase k (⟨k, v⟩ :: List.kerase k m.entries) = m.entries
  rw [hkept]
  exact List.kerase_cons_eq rfl

/-!
# Dropping what a test refuses
-/

def retain (keep : value -> Bool) (m : KeyMap key value) : KeyMap key value where
  entries := m.entries.filter fun entry => keep entry.2
  nodupKeys := m.nodupKeys.sublist List.filter_sublist

theorem lookup_retain (keep : value -> Bool) (m : KeyMap key value) (k : key) :
    (retain keep m).lookup k = (m.lookup k).filter keep := by
  apply Option.ext
  intro v
  rw [Option.filter_eq_some_iff]
  constructor
  · intro h
    have hentry := AList.mem_lookup_iff.mp h
    have hkept := List.mem_filter.mp hentry
    exact ⟨AList.mem_lookup_iff.mpr hkept.1, hkept.2⟩
  · intro h
    apply AList.mem_lookup_iff.mpr
    apply List.mem_filter.mpr
    exact ⟨AList.mem_lookup_iff.mp h.1, h.2⟩

/-!
# Adding up the values
-/

def total (weight : value -> Nat) (m : KeyMap key value) : Nat :=
  ((values m).map weight).sum

theorem total_congr {m m' : KeyMap key value} (h : SameLookups m m') (weight : value -> Nat) :
    total weight m = total weight m' :=
  ((values_perm h).map weight).sum_nat

theorem total_insert_erase (weight : value -> Nat) (m : KeyMap key value) (k : key)
    (v : value) : total weight (m.insert k v) = weight v + total weight (m.erase k) := by
  unfold total
  show ((v :: values (m.erase k)).map weight).sum = _
  rw [List.map_cons, List.sum_cons]

theorem total_insert_of_some {m : KeyMap key value} {k : key} {before : value}
    (h : m.lookup k = some before) (weight : value -> Nat) (v : value) :
    total weight (m.insert k v) + weight before = total weight m + weight v := by
  have hsame : SameLookups m (m.insert k before) := by
    intro other
    rw [lookup_insert_eq]
    split
    · next hother => rw [hother, h]
    · rfl
  rw [total_congr hsame, total_insert_erase, total_insert_erase]
  lia

theorem total_insert_of_none {m : KeyMap key value} {k : key} (h : m.lookup k = none)
    (weight : value -> Nat) (v : value) :
    total weight (m.insert k v) = total weight m + weight v := by
  have hsame : SameLookups (m.erase k) m := by
    intro other
    rw [lookup_erase_eq]
    split
    · next hother => rw [hother, h]
    · rfl
  rw [total_insert_erase, total_congr hsame, Nat.add_comm]

theorem total_eq_of_eq {m : KeyMap key value} {weight weight' : value -> Nat}
    (h : forall k v, m.lookup k = some v -> weight v = weight' v) :
    total weight m = total weight' m := by
  unfold total
  congr 1
  apply List.map_congr_left
  intro v hv
  rcases mem_values.mp hv with ⟨k, hk⟩
  exact h k v hk

/-- A smaller weight adds up to as much only where no value is short of anything. -/
theorem total_le_total {m : KeyMap key value} {weight weight' : value -> Nat}
    (hle : forall v, weight v <= weight' v) :
    total weight m <= total weight' m ∧
      (total weight' m <= total weight m ->
        forall k v, m.lookup k = some v -> weight v = weight' v) := by
  have hlist : forall vs : List value, (vs.map weight).sum <= (vs.map weight').sum ∧
      ((vs.map weight').sum <= (vs.map weight).sum ->
        forall v, v ∈ vs -> weight v = weight' v) := by
    intro vs
    induction vs with
    | nil => exact ⟨le_refl _, fun _ v hv => absurd hv List.not_mem_nil⟩
    | cons first rest ih =>
        rw [List.map_cons, List.map_cons, List.sum_cons, List.sum_cons]
        have hfirst := hle first
        refine ⟨by lia, ?_⟩
        intro hge v hv
        rcases List.mem_cons.mp hv with hhere | hrest
        · rw [hhere]
          lia
        · exact ih.2 (by lia) v hrest
  refine ⟨(hlist (values m)).1, ?_⟩
  intro hge k v hlookup
  exact (hlist (values m)).2 hge v (mem_values.mpr ⟨k, hlookup⟩)

/-!
# Sorting by key
-/

section Sorting

variable {order : Type} [LinearOrder order] {keyOf : value -> order}

theorem Keyed.eq_of_key_eq {m : KeyMap order value} (h : Keyed keyOf m)
    {v w : value} (hv : v ∈ values m) (hw : w ∈ values m) (hkey : keyOf v = keyOf w) :
    v = w := by
  rcases mem_values.mp hv with ⟨k, hk⟩
  rcases mem_values.mp hw with ⟨l, hl⟩
  have hsame : k = l := by rw [← h k v hk, ← h l w hl, hkey]
  rw [hsame, hl] at hk
  cases hk
  rfl

def sortByKey (keyOf : value -> order) (vs : List value) : List value :=
  vs.insertionSort (fun left right => keyOf left ≤ keyOf right)

theorem mem_sortByKey {vs : List value} {v : value} :
    v ∈ sortByKey keyOf vs <-> v ∈ vs :=
  List.mem_insertionSort _

theorem nodup_sortByKey {vs : List value} (h : vs.Nodup) :
    (sortByKey keyOf vs).Nodup :=
  (List.perm_insertionSort _ vs).nodup_iff.mpr h

theorem sortByKey_pairwise (vs : List value) :
    (sortByKey keyOf vs).Pairwise (fun left right => keyOf left ≤ keyOf right) := by
  have htotal : Std.Total (fun left right : value => keyOf left ≤ keyOf right) :=
    ⟨fun left right => le_total (keyOf left) (keyOf right)⟩
  have htrans : IsTrans value (fun left right => keyOf left ≤ keyOf right) :=
    ⟨fun _ _ _ hab hbc => le_trans hab hbc⟩
  exact List.pairwise_insertionSort _ vs

/-- However the selected values are arranged, there is one way to sort them: no two of
them have the same key. -/
theorem eq_sortByKey {m : KeyMap order value} (hkeyed : Keyed keyOf m)
    {selected : value -> Bool} {arranged : List value}
    (hperm : arranged.Perm ((values m).filter selected))
    (hsorted : arranged.Pairwise (fun left right => keyOf left ≤ keyOf right)) :
    arranged = sortByKey keyOf ((values m).filter selected) := by
  have hsame : arranged.Perm (sortByKey keyOf ((values m).filter selected)) :=
    hperm.trans (List.perm_insertionSort _ _).symm
  refine List.Perm.eq_of_pairwise ?_ hsorted (sortByKey_pairwise _) hsame
  intro v w hv hw hle hge
  have hv' : v ∈ values m := (List.mem_filter.mp (hperm.mem_iff.mp hv)).left
  have hw' : w ∈ values m := (List.mem_filter.mp (mem_sortByKey.mp hw)).left
  exact hkeyed.eq_of_key_eq hv' hw' (le_antisymm hle hge)

/-- Selecting and sorting the values does not depend on the order of the map. -/
theorem sortByKey_filter_eq {m m' : KeyMap order value} (hkeyed : Keyed keyOf m)
    (h : SameLookups m m') (selected : value -> Bool) :
    sortByKey keyOf ((values m).filter selected) =
      sortByKey keyOf ((values m').filter selected) := by
  have hperm := (values_perm h).filter selected
  exact (eq_sortByKey hkeyed ((List.perm_insertionSort _ _).trans hperm.symm)
    (sortByKey_pairwise _)).symm

theorem sortByKey_strict {m : KeyMap order value} (hkeyed : Keyed keyOf m)
    (selected : value -> Bool) :
    (sortByKey keyOf ((values m).filter selected)).Pairwise
      (fun left right => keyOf left < keyOf right) := by
  have hnodup : (sortByKey keyOf ((values m).filter selected)).Nodup :=
    nodup_sortByKey (hkeyed.nodup_values.filter selected)
  refine List.Pairwise.imp_of_mem ?_ ((sortByKey_pairwise _).and hnodup)
  intro v w hv hw h
  have hv' : v ∈ values m := (List.mem_filter.mp (mem_sortByKey.mp hv)).left
  have hw' : w ∈ values m := (List.mem_filter.mp (mem_sortByKey.mp hw)).left
  apply lt_of_le_of_ne h.1
  intro hkey
  exact h.2 (hkeyed.eq_of_key_eq hv' hw' hkey)

end Sorting

end Foundation
end Relayd
