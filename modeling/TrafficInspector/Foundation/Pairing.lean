import Mathlib.Algebra.BigOperators.Group.Finset.Basic
import Mathlib.Algebra.BigOperators.Group.Multiset.Basic
import Mathlib.Data.Fintype.BigOperators

/-!
Owns the pairing up of items that arrive one after another. Under each key the
first item waits for the second, the third for the fourth, and so on. Dealing the
items out to several places, each of which pairs up its own, makes the same pairs
when no key is dealt to two of them.
-/

namespace Foundation

universe u v w

section

variable {Item : Type u}

/-- The pairs that the items make, the first of them with the one that waits. -/
def pairUp : Option Item → List Item → List (Item × Item)
  | _, [] => []
  | none, item :: rest => pairUp (some item) rest
  | some waiting, item :: rest => (waiting, item) :: pairUp none rest

end

section

variable {Item : Type u} {Key : Type v} {Place : Type w} [DecidableEq Key] [DecidableEq Place]
  (key : Item → Key)

/-- The pairs that the items make under all keys. -/
def pairUpByKey [Fintype Key] (items : List Item) : Multiset (Item × Item) :=
  ∑ name, (pairUp none (items.filter fun item => key item = name) : Multiset (Item × Item))

theorem pairUpByKey_of_one_key [Fintype Key] {items : List Item} {name : Key}
    (one : ∀ item ∈ items, key item = name) :
    pairUpByKey key items = (pairUp none items : Multiset (Item × Item)) := by
  unfold pairUpByKey
  rw [Finset.sum_eq_single name]
  · rw [List.filter_eq_self.mpr fun item member => decide_eq_true (one item member)]
  · intro other _ apart
    rw [List.filter_eq_nil_iff.mpr]
    · rfl
    · intro item member here
      exact apart ((of_decide_eq_true here).symm.trans (one item member))
  · intro absent
    exact absurd (Finset.mem_univ _) absent

theorem pairUpByKey_singleton [Fintype Key] (item : Item) : pairUpByKey key [item] = 0 := by
  rw [pairUpByKey_of_one_key key fun other member =>
    congrArg key (List.mem_singleton.mp member)]
  rfl

private theorem dealt_pairs [Fintype Place] (dealt : List (Place × Item))
    (together : ∀ first ∈ dealt, ∀ second ∈ dealt, key first.2 = key second.2 →
      first.1 = second.1) (name : Key) :
    ∑ place, (pairUp none (((dealt.filter fun deal => deal.1 = place).map Prod.snd).filter
        fun item => key item = name) : Multiset (Item × Item)) =
      pairUp none ((dealt.map Prod.snd).filter fun item => key item = name) := by
  have swapped (place : Place) : ((dealt.filter fun deal => deal.1 = place).map Prod.snd).filter
        (fun item => key item = name) =
      ((dealt.filter fun deal => key deal.2 = name).filter fun deal => deal.1 = place).map
        Prod.snd := by
    rw [List.filter_map, List.filter_comm]
    rfl
  have named : (dealt.map Prod.snd).filter (fun item => key item = name) =
      (dealt.filter fun deal => key deal.2 = name).map Prod.snd := by
    rw [List.filter_map]
    rfl
  simp only [swapped, named]
  cases keyed : dealt.filter fun deal => key deal.2 = name with
  | nil => simp [pairUp]
  | cons first rest =>
      have onePlace : ∀ deal ∈ first :: rest, deal.1 = first.1 := by
        rw [← keyed]
        intro deal member
        have firstMember : first ∈ dealt.filter fun deal => key deal.2 = name := by
          rw [keyed]
          exact List.mem_cons_self
        have own := List.mem_filter.mp member
        have firstOwn := List.mem_filter.mp firstMember
        apply together deal own.1 first firstOwn.1
        rw [of_decide_eq_true own.2, of_decide_eq_true firstOwn.2]
      rw [Finset.sum_eq_single first.1]
      · rw [List.filter_eq_self.mpr fun deal member => decide_eq_true (onePlace deal member)]
      · intro place _ other
        rw [List.filter_eq_nil_iff.mpr]
        · rfl
        · intro deal member here
          exact other ((of_decide_eq_true here).symm.trans (onePlace deal member))
      · intro absent
        exact absurd (Finset.mem_univ _) absent

/-- Places that share no key make together the pairs that one place makes. -/
theorem sum_pairUpByKey [Fintype Key] [Fintype Place] (dealt : List (Place × Item))
    (together : ∀ first ∈ dealt, ∀ second ∈ dealt, key first.2 = key second.2 →
      first.1 = second.1) :
    ∑ place, pairUpByKey key ((dealt.filter fun deal => deal.1 = place).map Prod.snd) =
      pairUpByKey key (dealt.map Prod.snd) := by
  unfold pairUpByKey
  rw [Finset.sum_comm]
  apply Finset.sum_congr rfl
  intro name _
  exact dealt_pairs key dealt together name

end

end Foundation
