import Mathlib.Algebra.BigOperators.Group.List.Basic
import Mathlib.Algebra.Order.Group.Multiset
import Mathlib.Data.Fintype.Card
import Mathlib.Tactic.Abel
import TrafficInspector.Foundation.ErasingSweep

/-!
Owns what containers hold when every value in them holds an amount, in any commutative
additive monoid: a list or a hash map holds the sum. Moving a value between containers
moves its amount and no other.
-/

namespace Foundation

universe u v w

section

variable {Value : Type v} {Amount : Type w} [AddCommMonoid Amount] (amount : Value → Amount)

def listHolds (values : List Value) : Amount := (values.map amount).sum

@[simp] theorem listHolds_nil : listHolds amount [] = 0 :=
  rfl

@[simp] theorem listHolds_cons (value : Value) (values : List Value) :
    listHolds amount (value :: values) = amount value + listHolds amount values :=
  List.sum_cons

@[simp] theorem listHolds_append (front back : List Value) :
    listHolds amount (front ++ back) = listHolds amount front + listHolds amount back := by
  simp [listHolds]

variable {amount} in
theorem listHolds_of_zero {values : List Value} (nothing : ∀ value ∈ values, amount value = 0) :
    listHolds amount values = 0 := by
  induction values with
  | nil => rfl
  | cons value values inductionHypothesis =>
      obtain ⟨first, others⟩ := List.forall_mem_cons.mp nothing
      rw [listHolds_cons, first, inductionHypothesis others, add_zero]

theorem listHolds_replicate {value : Value} (nothing : amount value = 0) (count : Nat) :
    listHolds amount (List.replicate count value) = 0 :=
  listHolds_of_zero fun _ member => List.eq_of_mem_replicate member ▸ nothing

theorem listHolds_perm {left right : List Value} (perm : left.Perm right) :
    listHolds amount left = listHolds amount right :=
  (perm.map amount).sum_eq

theorem card_listHolds_le {Object : Type w} (objects : Value → Multiset Object)
    (single : ∀ value, (objects value).card ≤ 1) (values : List Value) :
    (listHolds objects values).card ≤ values.length := by
  induction values with
  | nil => exact Nat.le_refl 0
  | cons value values inductionHypothesis =>
      rw [listHolds_cons, Multiset.card_add, List.length_cons]
      have first := single value
      omega

theorem listHolds_add {amount other : Value → Amount} {values : List Value} :
    listHolds (fun value => amount value + other value) values =
      listHolds amount values + listHolds other values := by
  induction values with
  | nil => exact (add_zero 0).symm
  | cons value values inductionHypothesis =>
      rw [listHolds_cons, listHolds_cons, listHolds_cons, inductionHypothesis]
      exact add_add_add_comm ..

/-- Putting a value in the place of another exchanges their amounts. -/
theorem listHolds_set {values : List Value} {index : Nat} {old : Value}
    (held : values[index]? = some old) (new : Value) :
    listHolds amount (values.set index new) + amount old =
      listHolds amount values + amount new := by
  induction values generalizing index with
  | nil => cases held
  | cons value values inductionHypothesis =>
      cases index with
      | zero =>
          cases held
          rw [List.set_cons_zero, listHolds_cons, listHolds_cons]
          abel
      | succ index =>
          have rest := inductionHypothesis held
          rw [List.set_cons_succ, listHolds_cons, listHolds_cons, add_assoc, rest, add_assoc]

end

section

variable {Value : Type v} {Amount : Type w} [AddCancelCommMonoid Amount] {amount : Value → Amount}
  {values : List Value} {index : Nat} {old new : Value}

theorem listHolds_set_gains (held : values[index]? = some old) {gained : Amount}
    (gains : amount new = amount old + gained) :
    listHolds amount (values.set index new) = listHolds amount values + gained := by
  apply add_right_cancel (b := amount old)
  rw [listHolds_set amount held, gains, add_right_comm, add_assoc]

theorem listHolds_set_loses (held : values[index]? = some old) {lost : Amount}
    (loses : amount old = amount new + lost) :
    listHolds amount values = listHolds amount (values.set index new) + lost := by
  apply add_right_cancel (b := amount new)
  rw [← listHolds_set amount held, loses, add_right_comm, add_assoc]

end

/-! ### Lists that hold a number -/

section

variable {Value : Type v} {count other : Value → Nat} {values : List Value}

theorem listHolds_mono (below : ∀ value, count value ≤ other value) :
    listHolds count values ≤ listHolds other values := by
  induction values with
  | nil => exact Nat.le_refl 0
  | cons value values inductionHypothesis =>
      rw [listHolds_cons, listHolds_cons]
      exact Nat.add_le_add (below value) inductionHypothesis

theorem listHolds_le_mul {bound : Nat} (below : ∀ value, count value ≤ bound)
    (values : List Value) : listHolds count values ≤ bound * values.length := by
  induction values with
  | nil => exact Nat.zero_le _
  | cons value values inductionHypothesis =>
      have first := below value
      rw [listHolds_cons, List.length_cons, Nat.mul_succ]
      omega

theorem listHolds_toNat (test : Value → Bool) (values : List Value) :
    listHolds (fun value => (test value).toNat) values = values.countP test := by
  induction values with
  | nil => rfl
  | cons value values inductionHypothesis =>
      rw [listHolds_cons, List.countP_cons, inductionHypothesis, Nat.add_comm]
      cases test value <;> rfl

theorem le_listHolds {index : Nat} {value : Value} (held : values[index]? = some value) :
    count value ≤ listHolds count values := by
  induction values generalizing index with
  | nil => cases held
  | cons first values inductionHypothesis =>
      rw [listHolds_cons]
      cases index with
      | zero =>
          cases held
          exact Nat.le_add_right _ _
      | succ index =>
          exact Nat.le_add_left_of_le (inductionHypothesis held)

/-- Two places hold no more than all. -/
theorem add_le_listHolds {first second : Nat} {value value' : Value} (apart : first ≠ second)
    (held : values[first]? = some value) (held' : values[second]? = some value') :
    count value + count value' ≤ listHolds count values := by
  induction values generalizing first second with
  | nil => cases held
  | cons head values inductionHypothesis =>
      rw [listHolds_cons]
      cases first with
      | zero =>
          cases held
          cases second with
          | zero => exact absurd rfl apart
          | succ second =>
              rw [List.getElem?_cons_succ] at held'
              exact Nat.add_le_add_left (le_listHolds held') _
      | succ first =>
          cases second with
          | zero =>
              cases held'
              rw [List.getElem?_cons_succ] at held
              rw [Nat.add_comm]
              exact Nat.add_le_add_left (le_listHolds held) _
          | succ second =>
              have rest := inductionHypothesis (fun same => apart (congrArg Nat.succ same))
                held held'
              exact Nat.le_add_left_of_le rest

theorem listHolds_pos : 0 < listHolds count values ↔
    ∃ (index : Nat) (value : Value), values[index]? = some value ∧ 0 < count value := by
  constructor
  · intro positive
    induction values with
    | nil => cases positive
    | cons first values inductionHypothesis =>
        by_cases here : 0 < count first
        · exact ⟨0, first, rfl, here⟩
        · rw [listHolds_cons, Nat.eq_zero_of_not_pos here, Nat.zero_add] at positive
          obtain ⟨index, value, held, counted⟩ := inductionHypothesis positive
          exact ⟨index + 1, value, held, counted⟩
  · rintro ⟨index, value, held, counted⟩
    exact Nat.lt_of_lt_of_le counted (le_listHolds held)

end

section

variable {Key : Type u} {Value : Type v} {Amount : Type w} [BEq Key] [Hashable Key]
  [AddCommMonoid Amount] (amount : Value → Amount)

def mapHolds (map : Std.HashMap Key Value) : Amount :=
  listHolds (fun entry => amount entry.2) map.toList

theorem mapHolds_empty : mapHolds amount (∅ : Std.HashMap Key Value) = 0 := by
  rw [mapHolds, Std.HashMap.toList_empty, listHolds_nil]

variable [LawfulBEq Key]

private theorem toList_insert_of_absent {map : Std.HashMap Key Value} {key : Key}
    (absent : map[key]? = none) (value : Value) :
    (map.insert key value).toList.Perm ((key, value) :: map.toList) := by
  have others : map.toList.filter (fun entry => !(key == entry.1)) = map.toList := by
    apply List.filter_eq_self.mpr
    rintro ⟨name, other⟩ member
    have bound := Std.HashMap.mem_toList_iff_getElem?_eq_some.mp member
    cases same : key == name with
    | false => rfl
    | true =>
        rw [← eq_of_beq same, absent] at bound
        cases bound
  have perm := Std.HashMap.toList_insert_perm (m := map) (k := key) (v := value)
  simpa [others] using perm

theorem toList_insertIfNew_perm {map : Std.HashMap Key Value} {key : Key}
    (absent : map[key]? = none) (value : Value) :
    (map.insertIfNew key value).toList.Perm ((key, value) :: map.toList) := by
  have unbound := not_mem_of_getElem? absent
  have inserted : (map.insertIfNew key value).Equiv (map.insert key value) := by
    apply Std.HashMap.Equiv.of_forall_getElem?_eq
    intro other
    rw [Std.HashMap.getElem?_insertIfNew, Std.HashMap.getElem?_insert]
    simp only [unbound, not_false_eq_true, and_true]
  exact inserted.toList_perm.trans (toList_insert_of_absent absent value)

theorem toList_erase_perm {map : Std.HashMap Key Value} {key : Key} {value : Value}
    (held : map[key]? = some value) :
    map.toList.Perm ((key, value) :: (map.erase key).toList) := by
  have absent : (map.erase key)[key]? = none := Std.HashMap.getElem?_erase_self
  have unbound := not_mem_of_getElem? absent
  have restored : map.Equiv ((map.erase key).insertIfNew key value) := by
    apply Std.HashMap.Equiv.of_forall_getElem?_eq
    intro other
    rw [Std.HashMap.getElem?_insertIfNew, Std.HashMap.getElem?_erase]
    simp only [unbound, not_false_eq_true, and_true]
    cases same : key == other with
    | false => simp
    | true => simp [← eq_of_beq same, held]
  exact restored.toList_perm.trans (toList_insertIfNew_perm absent value)

/-- The sweep keeps the entries that do not meet the test. -/
theorem toList_sweep_perm (test : Value → Bool) (map : Std.HashMap Key Value) :
    (map.toList.foldl (eraseIf test) map).toList.Perm
      (map.toList.filter fun entry => !test entry.2) := by
  have swept : (map.toList.foldl (eraseIf test) map).Equiv
      (map.filter fun _ value => !test value) := by
    apply Std.HashMap.Equiv.of_forall_getElem?_eq
    intro key
    rw [sweep_getElem?, Std.HashMap.getElem?_filter']
  exact swept.toList_perm.trans Std.HashMap.toList_filter

theorem mapHolds_congr {left right : Std.HashMap Key Value}
    (same : ∀ key : Key, left[key]? = right[key]?) :
    mapHolds amount left = mapHolds amount right :=
  listHolds_perm _ (Std.HashMap.Equiv.of_forall_getElem?_eq same).toList_perm

theorem mapHolds_insertIfNew {map : Std.HashMap Key Value} {key : Key}
    (absent : map[key]? = none) (value : Value) :
    mapHolds amount (map.insertIfNew key value) = amount value + mapHolds amount map :=
  (listHolds_perm _ (toList_insertIfNew_perm absent value)).trans (listHolds_cons _ _ _)

theorem mapHolds_erase {map : Std.HashMap Key Value} {key : Key} {value : Value}
    (held : map[key]? = some value) :
    mapHolds amount map = amount value + mapHolds amount (map.erase key) :=
  (listHolds_perm _ (toList_erase_perm held)).trans (listHolds_cons _ _ _)

/-- What the sweep takes out of a map is what the entries that meet the test hold. -/
theorem mapHolds_sweep (test : Value → Bool) (map : Std.HashMap Key Value) :
    mapHolds amount map = mapHolds amount (map.toList.foldl (eraseIf test) map) +
      listHolds (fun entry => amount entry.2) (map.toList.filter fun entry => test entry.2) := by
  have parted := List.filter_append_perm (fun entry : Key × Value => test entry.2) map.toList
  rw [mapHolds, ← listHolds_perm _ parted, listHolds_append, add_comm, mapHolds,
    listHolds_perm _ (toList_sweep_perm test map)]

/-- A map has no more entries than there are keys. -/
theorem size_le_card [Fintype Key] (map : Std.HashMap Key Value) :
    map.size ≤ Fintype.card Key := by
  rw [← Std.HashMap.length_keys]
  have distinct : map.keys.Nodup := Std.HashMap.distinct_keys.imp fun apart same => by
    rw [same, beq_self_eq_true] at apart
    cases apart
  exact distinct.length_le_card

end

end Foundation
