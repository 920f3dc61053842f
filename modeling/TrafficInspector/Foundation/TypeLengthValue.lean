import Mathlib.Data.List.Basic

/-!
Owns sequences of type-length-value attributes. A length byte counts the two
bytes before the value as well. The reader is a family: `claimed` is the size a
bound check works with and `copied` the number of value bytes then taken, so
that a reader whose two computations disagree can still be described. Reading
back what the writer produced needs them to agree on the lengths it writes.
-/

namespace Foundation.TypeLengthValue

abbrev Attribute := UInt8 × List UInt8

/-- How a reader comes to the end of its input. -/
inductive Ending where
  | exhausted
  /-- The last attribute was admitted, and more bytes are taken for its value
  than the input still has; `received` are the ones it has. -/
  | overrun (type length : UInt8) (received : List UInt8)
  | malformed
deriving DecidableEq, Repr

/-- The attributes read whole, in order, and the ending. -/
structure Reading where
  complete : List Attribute
  ending : Ending
deriving DecidableEq, Repr

/-- The reading asks for no more bytes than its input has. -/
def Reading.Contained (reading : Reading) : Prop :=
  ∀ type length received, reading.ending ≠ .overrun type length received

def encodeAttribute (avp : Attribute) : List UInt8 :=
  avp.1 :: UInt8.ofNat (avp.2.length + 2) :: avp.2

def encode (attributes : List Attribute) : List UInt8 :=
  attributes.flatMap encodeAttribute

/-- The value sizes a length byte can announce, the two header bytes counted in. -/
def Announceable (attributes : List Attribute) : Prop :=
  ∀ avp ∈ attributes, avp.2.length ≤ 253

instance (attributes : List Attribute) : Decidable (Announceable attributes) :=
  inferInstanceAs (Decidable (∀ avp ∈ attributes, _))

theorem announceable_cons {avp : Attribute} {attributes : List Attribute} :
    Announceable (avp :: attributes) ↔ avp.2.length ≤ 253 ∧ Announceable attributes :=
  List.forall_mem_cons

theorem announceable_append {front back : List Attribute} (frontSmall : Announceable front)
    (backSmall : Announceable back) : Announceable (front ++ back) :=
  List.forall_mem_append.mpr ⟨frontSmall, backSmall⟩

theorem encode_cons (avp : Attribute) (attributes : List Attribute) :
    encode (avp :: attributes) =
      avp.1 :: UInt8.ofNat (avp.2.length + 2) :: (avp.2 ++ encode attributes) :=
  rfl

theorem encode_append (front back : List Attribute) :
    encode (front ++ back) = encode front ++ encode back :=
  List.flatMap_append

theorem announced_toNat {size : Nat} (small : size ≤ 253) :
    (UInt8.ofNat (size + 2)).toNat = size + 2 :=
  UInt8.toNat_ofNat_of_lt' (by simp only [UInt8.size]; omega)

/-- No two lists of attributes are written alike: each length byte tells where its value ends. -/
theorem encode_injective {left right : List Attribute} (leftSmall : Announceable left)
    (rightSmall : Announceable right) (same : encode left = encode right) : left = right := by
  induction left generalizing right with
  | nil =>
      cases right with
      | nil => rfl
      | cons avp right => cases same
  | cons avp left inductionHypothesis =>
      cases right with
      | nil => cases same
      | cons other right =>
          obtain ⟨avpSmall, leftSmall⟩ := announceable_cons.mp leftSmall
          obtain ⟨otherSmall, rightSmall⟩ := announceable_cons.mp rightSmall
          rw [encode_cons, encode_cons, List.cons.injEq, List.cons.injEq] at same
          obtain ⟨sameType, sameLength, sameRest⟩ := same
          have sizes := congrArg UInt8.toNat sameLength
          rw [announced_toNat avpSmall, announced_toNat otherSmall] at sizes
          obtain ⟨sameValue, sameTail⟩ := List.append_inj sameRest (Nat.add_right_cancel sizes)
          rw [Prod.ext sameType sameValue, inductionHypothesis leftSmall rightSmall sameTail]

section

variable (claimed copied : UInt8 → Nat)

/-- Cut the input into attributes. An attribute is admitted when at least three
bytes are left and the size it claims, header included, is not above that. -/
def cut : List UInt8 → Reading
  | type :: length :: first :: rest =>
      if claimed length ≤ rest.length + 3 then
        if copied length ≤ rest.length + 1 then
          let tail := cut ((first :: rest).drop (copied length))
          { tail with complete := (type, (first :: rest).take (copied length)) :: tail.complete }
        else
          ⟨[], .overrun type length (first :: rest)⟩
      else
        ⟨[], .malformed⟩
  | [] => ⟨[], .exhausted⟩
  | _ => ⟨[], .malformed⟩
termination_by input => input.length
decreasing_by
  simp only [List.length_drop, List.length_cons]
  omega

@[simp] theorem cut_nil : cut claimed copied [] = ⟨[], .exhausted⟩ := by
  unfold cut
  rfl

theorem cut_short (input : List UInt8) (nonempty : 0 < input.length)
    (short : input.length ≤ 2) : cut claimed copied input = ⟨[], .malformed⟩ := by
  match input, nonempty, short with
  | [_], _, _ => unfold cut; rfl
  | [_, _], _, _ => unfold cut; rfl

theorem cut_refused (type length first : UInt8) (rest : List UInt8)
    (beyond : rest.length + 3 < claimed length) :
    cut claimed copied (type :: length :: first :: rest) = ⟨[], .malformed⟩ := by
  unfold cut
  exact if_neg (by omega)

theorem cut_overrun (type length first : UInt8) (rest : List UInt8)
    (admitted : claimed length ≤ rest.length + 3) (past : rest.length + 1 < copied length) :
    cut claimed copied (type :: length :: first :: rest) =
      ⟨[], .overrun type length (first :: rest)⟩ := by
  unfold cut
  rw [if_pos admitted, if_neg (by omega)]

theorem cut_complete (type length first : UInt8) (rest : List UInt8)
    (admitted : claimed length ≤ rest.length + 3) (within : copied length ≤ rest.length + 1) :
    cut claimed copied (type :: length :: first :: rest) =
      ⟨(type, (first :: rest).take (copied length)) ::
          (cut claimed copied ((first :: rest).drop (copied length))).complete,
        (cut claimed copied ((first :: rest).drop (copied length))).ending⟩ := by
  rw [cut, if_pos admitted, if_pos within]

theorem length_le_two {input : List UInt8}
    (notLong : ∀ type length first rest, input = type :: length :: first :: rest → False) :
    input.length ≤ 2 := by
  match input, notLong with
  | [], _ => exact Nat.zero_le 2
  | [_], _ => exact Nat.le_succ 1
  | [_, _], _ => exact Nat.le_refl 2
  | type :: length :: first :: rest, notLong => exact absurd rfl (notLong _ _ _ _)

theorem cut_infix (input : List UInt8) :
    ∀ avp ∈ (cut claimed copied input).complete, avp.2 <:+: input := by
  induction input using cut.induct claimed copied with
  | case1 type length first rest admitted within inductionHypothesis =>
      rw [cut_complete _ _ _ _ _ _ admitted within]
      intro avp member
      have suffix : first :: rest <:+: type :: length :: first :: rest :=
        (List.suffix_append [type, length] (first :: rest)).isInfix
      rcases List.mem_cons.mp member with rfl | later
      · exact (List.take_prefix _ _).isInfix.trans suffix
      · exact ((inductionHypothesis avp later).trans (List.drop_suffix _ _).isInfix).trans suffix
  | case2 type length first rest admitted past =>
      rw [cut_overrun _ _ _ _ _ _ admitted (by omega)]
      exact fun avp member => absurd member List.not_mem_nil
  | case3 type length first rest beyond =>
      rw [cut_refused _ _ _ _ _ _ (by omega)]
      exact fun avp member => absurd member List.not_mem_nil
  | case4 =>
      rw [cut_nil]
      exact fun avp member => absurd member List.not_mem_nil
  | case5 input notLong notNil =>
      rw [cut_short _ _ _ (List.length_pos_iff.mpr notNil) (length_le_two notLong)]
      exact fun avp member => absurd member List.not_mem_nil

theorem cut_ending_overrun (input : List UInt8) {type length : UInt8} {received : List UInt8}
    (overrun : (cut claimed copied input).ending = .overrun type length received) :
    claimed length ≤ received.length + 2 ∧ received.length < copied length := by
  induction input using cut.induct claimed copied with
  | case1 kind size first rest admitted within inductionHypothesis =>
      rw [cut_complete _ _ _ _ _ _ admitted within] at overrun
      exact inductionHypothesis overrun
  | case2 kind size first rest admitted past =>
      rw [cut_overrun _ _ _ _ _ _ admitted (by omega)] at overrun
      obtain ⟨rfl, rfl, rfl⟩ := Ending.overrun.inj overrun
      rw [List.length_cons]
      omega
  | case3 kind size first rest beyond =>
      rw [cut_refused _ _ _ _ _ _ (by omega)] at overrun
      cases overrun
  | case4 =>
      rw [cut_nil] at overrun
      cases overrun
  | case5 input notLong notNil =>
      rw [cut_short _ _ _ (List.length_pos_iff.mpr notNil) (length_le_two notLong)] at overrun
      cases overrun

variable {claimed copied}

/-- An attribute is read off the front, also one without a value, if anything follows it. -/
theorem cut_encodeAttribute_append (avp : Attribute) (input : List UInt8)
    (followed : 1 ≤ avp.2.length + input.length)
    (sameClaim : claimed (UInt8.ofNat (avp.2.length + 2)) = avp.2.length + 2)
    (sameCopy : copied (UInt8.ofNat (avp.2.length + 2)) = avp.2.length) :
    cut claimed copied (encodeAttribute avp ++ input) =
      ⟨avp :: (cut claimed copied input).complete, (cut claimed copied input).ending⟩ := by
  obtain ⟨type, value⟩ := avp
  cases together : value ++ input with
  | nil =>
      obtain ⟨rfl, rfl⟩ := List.append_eq_nil_iff.mp together
      simp at followed
  | cons first rest =>
      have total : value.length + input.length = rest.length + 1 := by
        rw [← List.length_append, together, List.length_cons]
      have front : encodeAttribute (type, value) ++ input =
          type :: UInt8.ofNat (value.length + 2) :: (value ++ input) := rfl
      simp only at sameClaim sameCopy
      rw [front, together, cut_complete _ _ _ _ _ _ (by omega) (by omega), sameCopy, ← together,
        List.take_left, List.drop_left]

/-- The writer's lengths read back as written. -/
def Faithful (claimed copied : UInt8 → Nat) (avp : Attribute) : Prop :=
  1 ≤ avp.2.length ∧
    claimed (UInt8.ofNat (avp.2.length + 2)) = avp.2.length + 2 ∧
    copied (UInt8.ofNat (avp.2.length + 2)) = avp.2.length

/-- The reader gives every length byte a writer can put the meaning the writer gave it. -/
def ReadsAnnounced (claimed copied : UInt8 → Nat) : Prop :=
  ∀ size ≤ 253, claimed (UInt8.ofNat (size + 2)) = size + 2 ∧
    copied (UInt8.ofNat (size + 2)) = size

/-- Attributes are read off the front as long as bytes follow them. -/
theorem cut_encode_append (agrees : ReadsAnnounced claimed copied) {attributes : List Attribute}
    (small : Announceable attributes) (input : List UInt8) (followed : 1 ≤ input.length) :
    cut claimed copied (encode attributes ++ input) =
      ⟨attributes ++ (cut claimed copied input).complete, (cut claimed copied input).ending⟩ := by
  induction attributes with
  | nil => rfl
  | cons avp attributes inductionHypothesis =>
      obtain ⟨avpSmall, small⟩ := announceable_cons.mp small
      obtain ⟨sameClaim, sameCopy⟩ := agrees avp.2.length avpSmall
      have split : encode (avp :: attributes) ++ input =
          encodeAttribute avp ++ (encode attributes ++ input) := by
        rw [← List.append_assoc]
        rfl
      have nonempty : 1 ≤ avp.2.length + (encode attributes ++ input).length := by
        rw [List.length_append]
        omega
      rw [split, cut_encodeAttribute_append avp _ nonempty sameClaim sameCopy,
        inductionHypothesis small]
      rfl

/-- Round trip: cutting an encoding returns its attributes and nothing else. -/
theorem cut_encode (attributes : List Attribute)
    (faithful : ∀ avp ∈ attributes, Faithful claimed copied avp) :
    cut claimed copied (encode attributes) = ⟨attributes, .exhausted⟩ := by
  induction attributes with
  | nil => exact cut_nil claimed copied
  | cons avp attributes inductionHypothesis =>
      obtain ⟨nonempty, sameClaim, sameCopy⟩ := faithful avp List.mem_cons_self
      have rest := inductionHypothesis fun other member =>
        faithful other (List.mem_cons_of_mem avp member)
      have unfolded : encode (avp :: attributes) =
          encodeAttribute avp ++ encode attributes := rfl
      rw [unfolded, cut_encodeAttribute_append avp _ (Nat.le_add_right_of_le nonempty) sameClaim
        sameCopy, rest]

/-- The last attribute has no value. -/
def EndsEmpty (attributes : List Attribute) : Prop :=
  ∃ avp ∈ attributes.getLast?, avp.2 = []

instance (attributes : List Attribute) : Decidable (EndsEmpty attributes) :=
  match found : attributes.getLast? with
  | none => .isFalse fun ⟨_, member, _⟩ => by simp [found] at member
  | some avp => decidable_of_iff (avp.2 = []) (by simp [EndsEmpty, found])

@[simp] theorem endsEmpty_nil : ¬ EndsEmpty [] :=
  fun ⟨_, member, _⟩ => by cases member

@[simp] theorem endsEmpty_concat (front : List Attribute) (last : Attribute) :
    EndsEmpty (front ++ [last]) ↔ last.2 = [] := by
  simp [EndsEmpty]

theorem endsEmpty_append (front : List Attribute) {back : List Attribute} (nonempty : back ≠ []) :
    EndsEmpty (front ++ back) ↔ EndsEmpty back := by
  obtain ⟨back, last, rfl⟩ := List.eq_nil_or_concat back |>.resolve_left nonempty
  rw [List.concat_eq_append, ← List.append_assoc, endsEmpty_concat, endsEmpty_concat]

/-- A value may be empty anywhere but at the end, where no third byte is left. -/
theorem cut_encode_announceable (agrees : ReadsAnnounced claimed copied)
    {attributes : List Attribute} (small : Announceable attributes) :
    cut claimed copied (encode attributes) =
      if EndsEmpty attributes then ⟨attributes.dropLast, .malformed⟩
      else ⟨attributes, .exhausted⟩ := by
  rcases List.eq_nil_or_concat attributes with rfl | ⟨front, last, rfl⟩
  · rw [if_neg endsEmpty_nil]
    exact cut_nil claimed copied
  · rw [List.concat_eq_append] at small ⊢
    have lastSmall : last.2.length ≤ 253 := small last (by simp)
    have frontSmall : Announceable front := fun avp member => small avp (by simp [member])
    have read := cut_encode_append agrees frontSmall (encode [last]) (by simp [encode_cons])
    rw [encode_append, read]
    by_cases empty : last.2 = []
    · rw [if_pos ((endsEmpty_concat front last).mpr empty), List.dropLast_concat,
        cut_short _ _ _ (by simp [encode_cons]) (by simp [encode, encodeAttribute, empty]),
        List.append_nil]
    · rw [if_neg (mt (endsEmpty_concat front last).mp empty)]
      obtain ⟨sameClaim, sameCopy⟩ := agrees last.2.length lastSmall
      have faithful : Faithful claimed copied last :=
        ⟨List.length_pos_iff.mpr empty, sameClaim, sameCopy⟩
      have whole : cut claimed copied (encode [last]) = ⟨[last], .exhausted⟩ :=
        cut_encode [last] (List.forall_mem_singleton.mpr faithful)
      rw [whole]

end

end Foundation.TypeLengthValue
