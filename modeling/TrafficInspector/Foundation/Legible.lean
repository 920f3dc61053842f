import Mathlib.Data.List.Basic
import Mathlib.Logic.Function.Basic
import Std.Data.String.ToNat

/-!
Owns prints that can be read back. A print is legible when it can be told from whatever is
allowed to follow it: of two texts that begin with prints, the values are the same and so are the
rests, once the texts are. Legible prints are put together as texts are: with labels in front and
marks behind, one after the other, with their length told, and any number of them in a row.
-/

namespace Foundation

universe u v w

variable {Symbol : Type u} {Value : Type v} {Other : Type w}

/-- The value and the rest are told by the text, if what follows is allowed to. -/
def Legible (print : Value → List Symbol) (Follows : List Symbol → Prop) : Prop :=
  ∀ ⦃left right : Value⦄ ⦃leftRest rightRest : List Symbol⦄,
    Follows leftRest → Follows rightRest →
      print left ++ leftRest = print right ++ rightRest → left = right ∧ leftRest = rightRest

/-- Anything may follow. -/
def Anything : List Symbol → Prop := fun _ => True

/-- The rest does not begin with one of these symbols. -/
def BeginsOutside (among : Symbol → Bool) (rest : List Symbol) : Prop :=
  ∀ symbol ∈ rest.head?, among symbol = false

namespace Legible

variable {print : Value → List Symbol} {Follows Ahead : List Symbol → Prop}

theorem injective (legible : Legible print Follows) (ends : Follows []) :
    Function.Injective print := by
  intro left right same
  exact (legible ends ends (by rw [same])).1

theorem comap {encode : Other → Value} (legible : Legible print Follows)
    (injective : Function.Injective encode) :
    Legible (fun other => print (encode other)) Follows := by
  intro left right leftRest rightRest followsLeft followsRight same
  obtain ⟨sameCode, sameRest⟩ := legible followsLeft followsRight same
  exact ⟨injective sameCode, sameRest⟩

/-- A label in front. -/
theorem labelled (legible : Legible print Follows) (label : List Symbol) :
    Legible (fun value => label ++ print value) Follows := by
  intro left right leftRest rightRest followsLeft followsRight same
  rw [List.append_assoc, List.append_assoc] at same
  exact legible followsLeft followsRight (List.append_cancel_left same)

/-- A mark behind. -/
theorem marked (legible : Legible print Ahead) {mark : List Symbol}
    (ahead : ∀ rest, Follows rest → Ahead (mark ++ rest)) :
    Legible (fun value => print value ++ mark) Follows := by
  intro left right leftRest rightRest followsLeft followsRight same
  rw [List.append_assoc, List.append_assoc] at same
  obtain ⟨sameValue, sameRest⟩ := legible (ahead _ followsLeft) (ahead _ followsRight) same
  exact ⟨sameValue, List.append_cancel_left sameRest⟩

/-- Another print behind. -/
theorem followed (legible : Legible print Ahead) {second : Other → List Symbol}
    (legibleSecond : Legible second Follows)
    (ahead : ∀ other rest, Follows rest → Ahead (second other ++ rest)) :
    Legible (fun both : Value × Other => print both.1 ++ second both.2) Follows := by
  rintro ⟨left, leftOther⟩ ⟨right, rightOther⟩ leftRest rightRest followsLeft followsRight same
  simp only [List.append_assoc] at same
  obtain ⟨rfl, sameRest⟩ :=
    legible (ahead _ _ followsLeft) (ahead _ _ followsRight) same
  obtain ⟨rfl, sameEnd⟩ := legibleSecond followsLeft followsRight sameRest
  exact ⟨rfl, sameEnd⟩

/-- A text of which the length is told in front of it. -/
theorem sized {size : Nat → List Symbol} (legible : Legible size Ahead) (mark : List Symbol)
    {body : Value → List Symbol} (injective : Function.Injective body)
    (ahead : ∀ rest, Ahead (mark ++ rest)) :
    Legible (fun value => size (body value).length ++ (mark ++ body value)) Anything := by
  intro left right leftRest rightRest _ _ same
  simp only [List.append_assoc] at same
  obtain ⟨sameLength, sameRest⟩ := legible (ahead _) (ahead _) same
  obtain ⟨sameBody, sameEnd⟩ := List.append_inj (List.append_cancel_left sameRest) sameLength
  exact ⟨injective sameBody, sameEnd⟩

/-- Any number of prints in a row, each of which begins with a symbol with which nothing that
follows them begins. -/
theorem row (legible : Legible print Anything) {first : Symbol}
    (begins : ∀ value, (print value).head? = some first) :
    Legible (fun values : List Value => values.flatMap print)
      fun rest => rest.head? ≠ some first := by
  intro left
  have heads (value : Value) (rest : List Symbol) :
      (print value ++ rest).head? = some first := by
    rw [List.head?_append, begins]
    rfl
  induction left with
  | nil =>
      intro right leftRest rightRest followsLeft _ same
      cases right with
      | nil => exact ⟨rfl, same⟩
      | cons value values =>
          have same : leftRest = (print value ++ values.flatMap print) ++ rightRest := same
          rw [same, List.append_assoc] at followsLeft
          exact absurd (heads _ _) followsLeft
  | cons value values inductionHypothesis =>
      intro right leftRest rightRest followsLeft followsRight same
      cases right with
      | nil =>
          have same : (print value ++ values.flatMap print) ++ leftRest = rightRest := same
          rw [← same, List.append_assoc] at followsRight
          exact absurd (heads _ _) followsRight
      | cons other others =>
          simp only [List.flatMap_cons, List.append_assoc] at same
          obtain ⟨rfl, sameRow⟩ := legible trivial trivial same
          obtain ⟨rfl, sameRest⟩ := inductionHypothesis followsLeft followsRight sameRow
          exact ⟨rfl, sameRest⟩

end Legible

/-- A print that is spelled with some symbols ends where others begin. -/
theorem legible_of_spelled {print : Value → List Symbol} {among : Symbol → Bool}
    (injective : Function.Injective print)
    (spelled : ∀ value, ∀ symbol ∈ print value, among symbol = true) :
    Legible print (BeginsOutside among) := by
  have read (value : Value) {rest : List Symbol} (outside : BeginsOutside among rest) :
      (print value ++ rest).takeWhile among = print value := by
    rw [List.takeWhile_append_of_pos (spelled value)]
    cases rest with
    | nil => exact List.append_nil _
    | cons symbol rest =>
        rw [List.takeWhile_cons_of_neg (by rw [outside symbol rfl]; exact Bool.false_ne_true)]
        exact List.append_nil _
  intro left right leftRest rightRest outsideLeft outsideRight same
  have samePrint := congrArg (List.takeWhile among) same
  rw [read left outsideLeft, read right outsideRight] at samePrint
  rw [samePrint] at same
  exact ⟨injective samePrint, List.append_cancel_left same⟩

/-- Numbers in decimal, in front of what begins with no digit. -/
theorem legible_decimal :
    Legible (fun number : Nat => number.repr.toList) (BeginsOutside Char.isDigit) := by
  apply legible_of_spelled
  · intro left right same
    exact Nat.repr_injective (String.toList_inj.mp same)
  · intro number symbol member
    rw [Nat.toList_repr] at member
    exact Nat.isDigit_of_mem_toDigits (by decide) (by decide) member

/-! ### Forms -/

/-- A form that is filled in: each label with its number behind it, in decimal. -/
def filledIn : List (List Char) → List Nat → List Char
  | label :: labels, number :: numbers =>
      label ++ (number.repr.toList ++ filledIn labels numbers)
  | _, _ => []

/-- The label begins with a symbol that belongs to no number. -/
def EndsNumber (label : List Char) : Prop :=
  ∃ symbol, label.head? = some symbol ∧ symbol.isDigit = false

private theorem filledIn_beginsOutside {labels : List (List Char)}
    (apart : ∀ label ∈ labels, EndsNumber label) {numbers : List Nat}
    (length : numbers.length = labels.length) {rest : List Char}
    (outside : BeginsOutside Char.isDigit rest) :
    BeginsOutside Char.isDigit (filledIn labels numbers ++ rest) := by
  cases labels with
  | nil =>
      cases numbers with
      | nil => exact outside
      | cons number numbers => cases length
  | cons label labels =>
      cases numbers with
      | nil => cases length
      | cons number numbers =>
          obtain ⟨first, begins, noDigit⟩ := apart label List.mem_cons_self
          intro symbol member
          rw [filledIn, List.append_assoc, List.head?_append, begins] at member
          cases member
          exact noDigit

/-- Whoever knows the labels reads the numbers back. -/
theorem filledIn_reads_back {labels : List (List Char)}
    (apart : ∀ label ∈ labels, EndsNumber label) {left right : List Nat}
    (leftLength : left.length = labels.length) (rightLength : right.length = labels.length)
    {leftRest rightRest : List Char} (leftOutside : BeginsOutside Char.isDigit leftRest)
    (rightOutside : BeginsOutside Char.isDigit rightRest)
    (same : filledIn labels left ++ leftRest = filledIn labels right ++ rightRest) :
    left = right ∧ leftRest = rightRest := by
  induction labels generalizing left right with
  | nil =>
      rw [List.eq_nil_of_length_eq_zero leftLength, List.eq_nil_of_length_eq_zero rightLength]
        at same ⊢
      exact ⟨rfl, same⟩
  | cons label labels inductionHypothesis =>
      obtain ⟨number, left, rfl⟩ := List.exists_cons_of_length_eq_add_one leftLength
      obtain ⟨other, right, rfl⟩ := List.exists_cons_of_length_eq_add_one rightLength
      have others : ∀ label ∈ labels, EndsNumber label :=
        fun label member => apart label (.tail _ member)
      have leftShorter := Nat.succ.inj leftLength
      have rightShorter := Nat.succ.inj rightLength
      simp only [filledIn, List.append_assoc] at same
      obtain ⟨rfl, sameRest⟩ :=
        legible_decimal (filledIn_beginsOutside others leftShorter leftOutside)
          (filledIn_beginsOutside others rightShorter rightOutside)
          (List.append_cancel_left same)
      obtain ⟨rfl, sameEnd⟩ := inductionHypothesis others leftShorter rightShorter sameRest
      exact ⟨rfl, sameEnd⟩

end Foundation
