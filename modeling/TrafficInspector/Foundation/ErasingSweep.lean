import Mathlib.Data.List.Basic
import Std.Data.HashMap

/-!
Owns the sweep over a hash map that erases entries while it walks over them. The
order of the walk is the map's own and does not matter: what is left is decided
entry by entry.
-/

namespace Foundation

universe u v

variable {Key : Type u} {Value : Type v} [BEq Key] [Hashable Key]

def eraseIf (test : Value → Bool) (map : Std.HashMap Key Value) (entry : Key × Value) :
    Std.HashMap Key Value :=
  if test entry.2 then map.erase entry.1 else map

variable [LawfulBEq Key]

private theorem foldl_eraseIf_getElem? (test : Value → Bool) (entries : List (Key × Value))
    (map : Std.HashMap Key Value) (key : Key) :
    (entries.foldl (eraseIf test) map)[key]? =
      if entries.any (fun entry => entry.1 == key && test entry.2) then none else map[key]? := by
  induction entries generalizing map with
  | nil => rfl
  | cons entry rest inductionHypothesis =>
      rw [List.foldl_cons, inductionHypothesis, List.any_cons, eraseIf]
      cases met : test entry.2 with
      | false => rw [if_neg Bool.false_ne_true, Bool.and_false, Bool.false_or]
      | true =>
          rw [if_pos rfl, Std.HashMap.getElem?_erase, Bool.and_true]
          cases entry.1 == key with
          | false => rw [if_neg Bool.false_ne_true, Bool.false_or]
          | true => rw [if_pos rfl, Bool.true_or, if_pos rfl, ite_self]

/-- The sweep keeps exactly the entries whose values do not meet the test. -/
theorem sweep_getElem? (test : Value → Bool) (map : Std.HashMap Key Value) (key : Key) :
    (map.toList.foldl (eraseIf test) map)[key]? = map[key]?.filter (fun value => !test value) := by
  rw [foldl_eraseIf_getElem?]
  cases held : map[key]? with
  | none => simp
  | some value =>
      have entry : map.toList.any (fun entry => entry.1 == key && test entry.2) = test value := by
        apply Bool.eq_iff_iff.mpr
        rw [List.any_eq_true]
        constructor
        · rintro ⟨⟨name, other⟩, member, met⟩
          obtain ⟨same, met⟩ := Bool.and_eq_true_iff.mp met
          have bound := Std.HashMap.mem_toList_iff_getElem?_eq_some.mp member
          rw [show name = key from eq_of_beq same, held] at bound
          cases bound
          exact met
        · intro met
          refine ⟨(key, value), Std.HashMap.mem_toList_iff_getElem?_eq_some.mpr held, ?_⟩
          simp [met]
      simp only [entry]
      cases met : test value with
      | false => simp [Option.filter, met]
      | true => simp [Option.filter, met]

theorem not_mem_of_getElem? {map : Std.HashMap Key Value} {key : Key}
    (free : map[key]? = none) : key ∉ map := by
  rw [Std.HashMap.mem_iff_isSome_getElem?, free]
  exact Bool.false_ne_true

theorem mem_of_getElem? {map : Std.HashMap Key Value} {key : Key} {value : Value}
    (held : map[key]? = some value) : key ∈ map := by
  rw [Std.HashMap.mem_iff_isSome_getElem?, held]
  rfl

theorem size_pos_of_mem {map : Std.HashMap Key Value} {key : Key} (present : key ∈ map) :
    0 < map.size := by
  apply Nat.pos_of_ne_zero
  intro zero
  have nonempty : map.isEmpty = false :=
    Std.HashMap.isEmpty_eq_false_iff_exists_mem.mpr ⟨key, present⟩
  rw [Std.HashMap.isEmpty_eq_size_eq_zero, zero] at nonempty
  cases nonempty

private theorem foldl_eraseIf_size (test : Value → Bool) (entries : List (Key × Value))
    (map : Std.HashMap Key Value)
    (distinct : entries.Pairwise fun first second => (first.1 == second.1) = false)
    (members : ∀ entry ∈ entries, entry.1 ∈ map) :
    (entries.foldl (eraseIf test) map).size + entries.countP (fun entry => test entry.2) =
      map.size := by
  induction entries generalizing map with
  | nil => rfl
  | cons entry rest inductionHypothesis =>
      obtain ⟨apart, restDistinct⟩ := List.pairwise_cons.mp distinct
      have present := members entry List.mem_cons_self
      have restMembers : ∀ other ∈ rest, other.1 ∈ map := fun other member =>
        members other (List.mem_cons_of_mem entry member)
      rw [List.foldl_cons, List.countP_cons, eraseIf]
      cases met : test entry.2 with
      | false => simpa using inductionHypothesis map restDistinct restMembers
      | true =>
          have kept : ∀ other ∈ rest, other.1 ∈ map.erase entry.1 := by
            intro other member
            rw [Std.HashMap.mem_erase]
            exact ⟨apart other member, restMembers other member⟩
          have swept := inductionHypothesis (map.erase entry.1) restDistinct kept
          have nonempty := size_pos_of_mem present
          rw [Std.HashMap.size_erase, if_pos present] at swept
          simp only [if_true]
          omega

/-- The sweep loses one entry for each that meets the test. -/
theorem sweep_size (test : Value → Bool) (map : Std.HashMap Key Value) :
    (map.toList.foldl (eraseIf test) map).size + map.toList.countP (fun entry => test entry.2) =
      map.size := by
  apply foldl_eraseIf_size test map.toList map Std.HashMap.distinct_keys_toList
  intro entry member
  exact mem_of_getElem? (Std.HashMap.mem_toList_iff_getElem?_eq_some.mp member)

end Foundation
