import TrafficInspector.Main
import TrafficInspector.Texts.PacketText

/-!
Owns the text of a dispatcher tree, which `main` logs when it has built its router. The text tells
the whole tree: the class of each node and processor, and which is below which.
-/

namespace TrafficInspector

open Foundation

/-- `getTypeDescriptionImpl`. -/
def PacketClass.getTypeDescriptionImpl (packetClass : PacketClass) : String :=
  packetType2String packetClass.getPacketType

/-- `PacketProcessor::to_stringImpl`. -/
def SpecificPacket.processorToString (specific : SpecificPacket) : String :=
  packetType2String specific.packetClass.getPacketType

mutual

/-- `IDispatcher::to_string`. -/
def dispatcherToString : IDispatcher PacketClass SpecificPacket → String
  | .leaf specific => specific.processorToString
  | .node packetClass children =>
      let ret := ", Dispatchers \x7b" :: (dispatcherTexts children ++ ["\x7d"])
      ret.foldl (fun rett val => rett ++ val) packetClass.getTypeDescriptionImpl

/-- `{( x.to_string() + ", ")...}`. -/
def dispatcherTexts : SpecificDispatchers PacketClass SpecificPacket → List String
  | .last tree => [dispatcherToString tree ++ ", "]
  | .more tree rest => (dispatcherToString tree ++ ", ") :: dispatcherTexts rest

end

/-! ### The characters -/

private theorem toList_foldl_append (parts : List String) (front : String) :
    (parts.foldl (fun rett val => rett ++ val) front).toList =
      front.toList ++ parts.flatMap String.toList := by
  induction parts generalizing front with
  | nil => exact (List.append_nil _).symm
  | cons part parts inductionHypothesis =>
      rw [List.foldl_cons, inductionHypothesis, String.toList_append, List.flatMap_cons,
        List.append_assoc]

def className (packetClass : PacketClass) : List Char :=
  packetClass.getTypeDescriptionImpl.toList

def treeText (tree : IDispatcher PacketClass SpecificPacket) : List Char :=
  (dispatcherToString tree).toList

/-- The children of a node, and the end of it. -/
def childrenText (children : SpecificDispatchers PacketClass SpecificPacket) : List Char :=
  (dispatcherTexts children).flatMap String.toList ++ "\x7d".toList

private theorem treeText_leaf (specific : SpecificPacket) :
    treeText (.leaf specific) = className specific.packetClass := by
  rw [treeText, dispatcherToString]
  rfl

private theorem treeText_node (packetClass : PacketClass)
    (children : SpecificDispatchers PacketClass SpecificPacket) :
    treeText (.node packetClass children) =
      className packetClass ++ (", Dispatchers \x7b".toList ++ childrenText children) := by
  rw [treeText, dispatcherToString, toList_foldl_append, List.flatMap_cons, List.flatMap_append,
    childrenText, List.flatMap_singleton]
  rfl

private theorem childrenText_last (tree : IDispatcher PacketClass SpecificPacket) :
    childrenText (.last tree) = treeText tree ++ (", ".toList ++ "\x7d".toList) := by
  rw [childrenText, dispatcherTexts, List.flatMap_singleton, String.toList_append,
    List.append_assoc]
  rfl

private theorem childrenText_more (tree : IDispatcher PacketClass SpecificPacket)
    (rest : SpecificDispatchers PacketClass SpecificPacket) :
    childrenText (.more tree rest) = treeText tree ++ (", ".toList ++ childrenText rest) := by
  rw [childrenText, dispatcherTexts, List.flatMap_cons, String.toList_append, List.append_assoc,
    List.append_assoc]
  rfl

/-! ### Reading it back -/

private theorem legible_className : Legible className (BeginsOutside nameSymbol) := by
  apply legible_of_spelled
  · intro left right same
    cases left <;> cases right <;> first | rfl | exact absurd same (by decide)
  · intro packetClass
    apply List.all_eq_true.mp
    cases packetClass <;> decide

private theorem packetClass_injective : Function.Injective SpecificPacket.packetClass := by
  intro left right same
  cases left <;> cases right <;> first | rfl | cases same

/-- A tree begins with a name, and no name begins as the word behind a node's name. -/
private theorem head?_treeText (tree : IDispatcher PacketClass SpecificPacket) :
    ∃ first, (treeText tree).head? = some first ∧ first ≠ 'D' ∧ first ≠ '}' := by
  have name (packetClass : PacketClass) :
      ∃ first, (className packetClass).head? = some first ∧ first ≠ 'D' ∧ first ≠ '}' := by
    cases packetClass <;> exact ⟨_, rfl, by decide, by decide⟩
  cases tree with
  | leaf specific =>
      rw [treeText_leaf]
      exact name specific.packetClass
  | node packetClass children =>
      obtain ⟨first, begins, apart⟩ := name packetClass
      rw [treeText_node, List.head?_append, begins]
      exact ⟨first, rfl, apart⟩

private theorem head?_childrenText (children : SpecificDispatchers PacketClass SpecificPacket) :
    ∃ first, (childrenText children).head? = some first ∧ first ≠ 'D' ∧ first ≠ '}' := by
  cases children with
  | last tree =>
      obtain ⟨first, begins, apart⟩ := head?_treeText tree
      rw [childrenText_last, List.head?_append, begins]
      exact ⟨first, rfl, apart⟩
  | more tree rest =>
      obtain ⟨first, begins, apart⟩ := head?_treeText tree
      rw [childrenText_more, List.head?_append, begins]
      exact ⟨first, rfl, apart⟩

/-- What follows goes on with no name, and not as the children of a node do. -/
def AfterTree (rest : List Char) : Prop :=
  BeginsOutside nameSymbol rest ∧ ¬ ", Dispatchers \x7b".toList <+: rest

private theorem afterTree_comma {rest : List Char} (apart : rest.head? ≠ some 'D') :
    AfterTree (", ".toList ++ rest) := by
  constructor
  · intro symbol member
    cases member
    decide
  · intro goesOn
    have split : ", Dispatchers \x7b".toList = ", ".toList ++ "Dispatchers \x7b".toList := by decide
    rw [split, List.prefix_append_right_inj] at goesOn
    obtain ⟨more, rfl⟩ := goesOn
    exact apart rfl

private theorem beginsOutside_children (rest : List Char) :
    BeginsOutside nameSymbol (", Dispatchers \x7b".toList ++ rest) := by
  intro symbol member
  cases member
  decide

mutual

theorem tree_reads_back (left : IDispatcher PacketClass SpecificPacket) :
    ∀ (right : IDispatcher PacketClass SpecificPacket) (leftRest rightRest : List Char),
      AfterTree leftRest → AfterTree rightRest →
        treeText left ++ leftRest = treeText right ++ rightRest →
          left = right ∧ leftRest = rightRest := by
  intro right leftRest rightRest leftAfter rightAfter same
  cases left with
  | leaf leftSpecific =>
      cases right with
      | leaf rightSpecific =>
          rw [treeText_leaf, treeText_leaf] at same
          obtain ⟨sameClass, sameRest⟩ := legible_className leftAfter.1 rightAfter.1 same
          exact ⟨congrArg _ (packetClass_injective sameClass), sameRest⟩
      | node packetClass children =>
          rw [treeText_leaf, treeText_node, List.append_assoc, List.append_assoc] at same
          obtain ⟨_, sameRest⟩ := legible_className leftAfter.1 (beginsOutside_children _) same
          exact absurd ⟨_, sameRest.symm⟩ leftAfter.2
  | node leftClass leftChildren =>
      cases right with
      | leaf specific =>
          rw [treeText_leaf, treeText_node, List.append_assoc, List.append_assoc] at same
          obtain ⟨_, sameRest⟩ := legible_className (beginsOutside_children _) rightAfter.1 same
          exact absurd ⟨_, sameRest⟩ rightAfter.2
      | node rightClass rightChildren =>
          rw [treeText_node, treeText_node, List.append_assoc, List.append_assoc,
            List.append_assoc, List.append_assoc] at same
          obtain ⟨rfl, sameChildren⟩ := legible_className (beginsOutside_children _)
            (beginsOutside_children _) same
          obtain ⟨rfl, sameRest⟩ := children_read_back leftChildren rightChildren leftRest
            rightRest (List.append_cancel_left sameChildren)
          exact ⟨rfl, sameRest⟩

theorem children_read_back (left : SpecificDispatchers PacketClass SpecificPacket) :
    ∀ (right : SpecificDispatchers PacketClass SpecificPacket) (leftRest rightRest : List Char),
      childrenText left ++ leftRest = childrenText right ++ rightRest →
        left = right ∧ leftRest = rightRest := by
  intro right leftRest rightRest same
  have ends (rest : List Char) : ("\x7d".toList ++ rest).head? = some '}' := rfl
  have afterLast (rest : List Char) : AfterTree (", ".toList ++ ("\x7d".toList ++ rest)) :=
    afterTree_comma (by rw [ends]; decide)
  have heads (children : SpecificDispatchers PacketClass SpecificPacket) (rest : List Char) :
      (childrenText children ++ rest).head? ≠ some 'D' ∧
        (childrenText children ++ rest).head? ≠ some '}' := by
    obtain ⟨first, begins, apart, opens⟩ := head?_childrenText children
    rw [List.head?_append, begins]
    exact ⟨fun same => apart (Option.some.inj same), fun same => opens (Option.some.inj same)⟩
  cases left with
  | last leftTree =>
      cases right with
      | last rightTree =>
          simp only [childrenText_last, List.append_assoc] at same
          obtain ⟨rfl, sameRest⟩ := tree_reads_back leftTree rightTree _ _ (afterLast _)
            (afterLast _) same
          exact ⟨rfl, List.append_cancel_left (List.append_cancel_left sameRest)⟩
      | more rightTree others =>
          simp only [childrenText_last, childrenText_more, List.append_assoc] at same
          obtain ⟨_, sameRest⟩ := tree_reads_back leftTree rightTree _ _ (afterLast _)
            (afterTree_comma (heads others _).1) same
          have sameHead := congrArg List.head? (List.append_cancel_left sameRest)
          exact absurd (sameHead.symm.trans (ends _)) (heads others _).2
  | more leftTree leftOthers =>
      cases right with
      | last rightTree =>
          simp only [childrenText_last, childrenText_more, List.append_assoc] at same
          obtain ⟨_, sameRest⟩ := tree_reads_back leftTree rightTree _ _
            (afterTree_comma (heads leftOthers _).1) (afterLast _) same
          have sameHead := congrArg List.head? (List.append_cancel_left sameRest)
          exact absurd (sameHead.trans (ends _)) (heads leftOthers _).2
      | more rightTree rightOthers =>
          simp only [childrenText_more, List.append_assoc] at same
          obtain ⟨rfl, sameOthers⟩ := tree_reads_back leftTree rightTree _ _
            (afterTree_comma (heads leftOthers _).1) (afterTree_comma (heads rightOthers _).1) same
          obtain ⟨rfl, sameRest⟩ := children_read_back leftOthers rightOthers leftRest rightRest
            (List.append_cancel_left sameOthers)
          exact ⟨rfl, sameRest⟩

end

/-- The text of a dispatcher tells the whole tree. -/
theorem dispatcher_text_iff (left right : IDispatcher PacketClass SpecificPacket) :
    dispatcherToString left = dispatcherToString right ↔ left = right := by
  have outside : BeginsOutside nameSymbol [] := by
    intro symbol member
    cases member
  have ends : AfterTree [] := ⟨outside, by decide⟩
  refine ⟨fun same => ?_, congrArg dispatcherToString⟩
  exact (tree_reads_back left right [] [] ends ends (congrArg (String.toList · ++ []) same)).1

example : dispatcherToString (packetRouter.map ProcessorLeaf.specific) =
    "ETH, Dispatchers \x7bUDP, Dispatchers \x7bRADIUS_UDP, UDP, \x7d, TCP, \x7d" := by
  decide

end TrafficInspector
