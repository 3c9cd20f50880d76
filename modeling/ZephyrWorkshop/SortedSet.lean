import Mathlib.Data.Finset.Sort
import Mathlib.Data.List.Sort

/-!
Finite sets kept as ascending lists. A list with its members in ascending order
and once each is determined by the set of its members (`shows_iff_eq`), so that
sorting it after a new member was put anywhere, and taking a member out, are the
insertion and the erasure of the set.
-/

namespace ZephyrWorkshop.SortedSet

variable {α : Type*} [LinearOrder α]

/-- The list holds the members of the set, in ascending order and once each. -/
structure Shows (l : List α) (s : Finset α) : Prop where
  ascending : l.Pairwise (· < ·)
  members : ∀ a, a ∈ l ↔ a ∈ s

namespace Shows

variable {l m : List α} {s : Finset α} {a : α} {i : Nat}

theorem empty : Shows ([] : List α) ∅ := ⟨List.Pairwise.nil, by simp⟩

theorem nodup (shown : Shows l s) : l.Nodup := shown.ascending.imp fun less => ne_of_lt less

theorem length (shown : Shows l s) : l.length = s.card := by
  have same : l.toFinset = s := by
    ext a
    rw [List.mem_toFinset, shown.members a]
  rw [← same, List.toFinset_card_of_nodup shown.nodup]

/-- Only one list shows a set. -/
theorem eq_of_same (one : Shows l s) (two : Shows m s) : l = m := by
  have perm : l.Perm m := by
    rw [List.perm_ext_iff_of_nodup one.nodup two.nodup]
    intro a
    rw [one.members, two.members]
  refine List.Perm.eq_of_pairwise ?_ one.ascending two.ascending perm
  intro a b _ _ less greater
  exact absurd less (lt_asymm greater)

end Shows

variable {l : List α} {s : Finset α} {a : α} {i : Nat}

theorem shows_sort (s : Finset α) : Shows (s.sort (· ≤ ·)) s :=
  ⟨s.sortedLT_sort.pairwise, fun _ => s.mem_sort (· ≤ ·)⟩

theorem shows_iff_eq : Shows l s ↔ l = s.sort (· ≤ ·) := by
  constructor
  · intro shown
    exact shown.eq_of_same (shows_sort s)
  · rintro rfl
    exact shows_sort s

/-- A new member that is put anywhere is brought into its place by sorting. -/
theorem Shows.insert [DecidableEq α] (shown : Shows l s) (new : a ∉ s) {m : List α} (placed : m.Perm (a :: l)) :
    Shows (m.insertionSort (· ≤ ·)) (insert a s) := by
  have perm : (m.insertionSort (· ≤ ·)).Perm (a :: l) := (List.perm_insertionSort (· ≤ ·) m).trans placed
  have distinct : (m.insertionSort (· ≤ ·)).Nodup := by
    rw [perm.nodup_iff, List.nodup_cons, shown.members a]
    exact ⟨new, shown.nodup⟩
  constructor
  · have sorted := (List.sortedLE_insertionSort (l := m)).pairwise
    refine (sorted.and distinct).imp ?_
    rintro b c ⟨low, different⟩
    exact lt_of_le_of_ne low different
  · intro b
    rw [perm.mem_iff, List.mem_cons, shown.members b, Finset.mem_insert]

/-- Taking a member out leaves the others as they are. -/
theorem Shows.erase [DecidableEq α] (shown : Shows l s) (found : l[i]? = some a) : Shows (l.eraseIdx i) (s.erase a) := by
  constructor
  · exact shown.ascending.sublist (List.eraseIdx_sublist l i)
  · intro b
    obtain ⟨inside, here⟩ := List.getElem?_eq_some_iff.mp found
    have erased : l.eraseIdx i = l.erase a := by
      rw [← here]
      exact (shown.nodup.erase_getElem i inside).symm
    rw [erased, shown.nodup.mem_erase_iff, shown.members b, Finset.mem_erase]

end ZephyrWorkshop.SortedSet
