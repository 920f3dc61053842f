import Mathlib.Data.List.Basic

/-!
Owns ordered maps filled by inserts that keep an existing binding: after a list
of such inserts a key holds the value it had before, or else the value of the
first pair with that key.
-/

namespace Foundation

universe u v

variable {Key : Type u} {Value : Type v} {compare : Key → Key → Ordering}
  [Std.TransCmp compare]

/-- Insert the pairs in order, each only when its key is still free. -/
def bindFirst (pairs : List (Key × Value)) (map : Std.ExtTreeMap Key Value compare) :
    Std.ExtTreeMap Key Value compare :=
  pairs.foldl (fun bound pair => bound.insertIfNew pair.1 pair.2) map

@[simp] theorem bindFirst_nil (map : Std.ExtTreeMap Key Value compare) :
    bindFirst [] map = map :=
  rfl

@[simp] theorem bindFirst_cons (pair : Key × Value) (pairs : List (Key × Value))
    (map : Std.ExtTreeMap Key Value compare) :
    bindFirst (pair :: pairs) map = bindFirst pairs (map.insertIfNew pair.1 pair.2) :=
  rfl

/-- The first binding of a key is the one that stays. -/
theorem bindFirst_getElem? [Std.LawfulEqCmp compare] [BEq Key] [LawfulBEq Key]
    (pairs : List (Key × Value)) (map : Std.ExtTreeMap Key Value compare) (key : Key) :
    (bindFirst pairs map)[key]? = map[key]?.or (pairs.lookup key) := by
  induction pairs generalizing map with
  | nil => simp
  | cons pair pairs inductionHypothesis =>
      obtain ⟨name, value⟩ := pair
      rw [bindFirst_cons, inductionHypothesis, Std.ExtTreeMap.getElem?_insertIfNew]
      by_cases same : key = name
      · subst same
        cases held : map[key]? with
        | none =>
            have free : key ∉ map := by
              rw [Std.ExtTreeMap.mem_iff_isSome_getElem?, held]
              simp
            simp [free]
        | some bound =>
            have taken : key ∈ map := by
              rw [Std.ExtTreeMap.mem_iff_isSome_getElem?, held]
              rfl
            simp [taken]
      · have apart : compare name key ≠ .eq := by
          intro equal
          exact same (Std.LawfulEqCmp.eq_of_compare equal).symm
        have skipped : (key == name) = false := by simpa using same
        simp [List.lookup_cons, skipped, apart]

theorem bindFirst_empty_getElem? [Std.LawfulEqCmp compare] [BEq Key] [LawfulBEq Key]
    (pairs : List (Key × Value)) (key : Key) :
    (bindFirst pairs (∅ : Std.ExtTreeMap Key Value compare))[key]? = pairs.lookup key := by
  rw [bindFirst_getElem?, Std.ExtTreeMap.getElem?_empty, Option.none_or]

theorem insertIfNew_of_bound [Std.LawfulEqCmp compare] {map : Std.ExtTreeMap Key Value compare}
    {key : Key} (bound : map[key]?.isSome) (value : Value) : map.insertIfNew key value = map := by
  have member : key ∈ map := Std.ExtTreeMap.mem_iff_isSome_getElem?.mpr bound
  apply Std.ExtTreeMap.ext_getElem?
  intro other
  rw [Std.ExtTreeMap.getElem?_insertIfNew, if_neg (fun free => free.2 member)]

theorem insertIfNew_getElem?_of_free {map : Std.ExtTreeMap Key Value compare} {key : Key}
    (free : map[key]? = none) (value : Value) : (map.insertIfNew key value)[key]? = some value := by
  have absent : key ∉ map := by
    rw [Std.ExtTreeMap.mem_iff_isSome_getElem?, free]
    exact Bool.false_ne_true
  rw [Std.ExtTreeMap.getElem?_insertIfNew, if_pos ⟨Std.ReflCmp.compare_self, absent⟩]

theorem bindFirst_append (front back : List (Key × Value))
    (map : Std.ExtTreeMap Key Value compare) :
    bindFirst (front ++ back) map = bindFirst back (bindFirst front map) :=
  List.foldl_append

/-- Pairs whose keys are taken change nothing. -/
theorem bindFirst_of_bound [Std.LawfulEqCmp compare] {pairs : List (Key × Value)}
    {map : Std.ExtTreeMap Key Value compare} (bound : ∀ pair ∈ pairs, map[pair.1]?.isSome) :
    bindFirst pairs map = map := by
  induction pairs with
  | nil => rfl
  | cons pair pairs inductionHypothesis =>
      rw [bindFirst_cons, insertIfNew_of_bound (bound pair List.mem_cons_self)]
      exact inductionHypothesis fun other member => bound other (.tail pair member)

theorem lookup_isSome_iff_mem [BEq Key] [LawfulBEq Key] (pairs : List (Key × Value))
    (key : Key) : (pairs.lookup key).isSome ↔ key ∈ pairs.map Prod.fst := by
  rw [List.lookup_isSome_iff]
  simp

end Foundation
