import Mathlib.Data.List.TakeWhile
import TrafficInspector.Foundation.Legible
import TrafficInspector.ResultNotifier

/-!
Owns what the notifier writes: the text of an attribute storage, the text of a notification, and
the lines of the log. A value is written with its length in front, so that it may hold anything,
but a zero byte is written as the digit; this apart, the log of notifications that bear one name
can be read back, and no line is cut.
-/

namespace TrafficInspector

open Foundation

/-- `value == 0 ? '0' : value`. -/
def writtenByte (value : UInt8) : UInt8 := if value = 0 then 48 else value

/-- `vec`, a character for each byte. -/
def valueText (value : RadiusAvpValue) : String :=
  .ofList (value.map fun byte => Char.ofUInt8 (writtenByte byte))

/-- `std::to_string(const AVPStorage &)`. -/
def AVPStorage.toString (storage : AVPStorage) : String :=
  storage.toList.foldl (fun ret avp =>
    ret ++ "[Type: " ++ avp.1.toNat.repr
      ++ ", Length: " ++ avp.2.length.repr
      ++ ", Value: " ++ valueText avp.2 ++ "], ") ""

/-- What is left of the storage in its text. -/
def AVPStorage.written (storage : AVPStorage) : AVPStorage :=
  storage.map fun _ value => value.map writtenByte

/-- `NotificationData::to_string`. -/
def NotificationData.toString (data : NotificationData) : String :=
  "NotificationData [" ++ "time: " ++ data.timeMsec.toNat.repr
    ++ ", source: " ++ data.sourceId
    ++ ", resp: " ++ AVPStorage.toString data.respAvp
    ++ ", req: " ++ AVPStorage.toString data.reqAvp
    ++ "]"

def NotificationData.written (data : NotificationData) : NotificationData :=
  { data with
    respAvp := AVPStorage.written data.respAvp, reqAvp := AVPStorage.written data.reqAvp }

def nul : Char := Char.ofUInt8 0

/-- What a string is to a function that is given its `c_str()`. -/
def cStr (text : String) : String := .ofList (text.toList.takeWhile (· ≠ nul))

/-- `logger("ResultNotifier: %s\n", data->to_string().c_str())`, which ends the line once more. -/
def notifierLine (data : NotificationData) : String :=
  "ResultNotifier: " ++ cStr data.toString ++ "\n" ++ "\n"

/-- What the notifier's thread has written. -/
def notifierLog (logged : List NotificationData) : String :=
  logged.foldl (fun text data => text ++ notifierLine data) ""

/-! ### Attributes -/

/-- The characters of one attribute, written as it is. -/
def attributeText (avp : RadiusAvpType × RadiusAvpValue) : List Char :=
  "[Type: ".toList ++ (avp.1.toNat.repr.toList ++ (", Length: ".toList ++
    ((avp.2.map Char.ofUInt8).length.repr.toList ++ (", Value: ".toList ++
      avp.2.map Char.ofUInt8) ++ "], ".toList)))

theorem ofUInt8_injective : Function.Injective Char.ofUInt8 := by
  intro left right same
  have sameNumber := congrArg Char.toNat same
  exact UInt8.toNat_inj.mp sameNumber

/-- What begins with a mark begins as the mark. -/
private theorem head?_mark {mark : List Char} {first : Char} (begins : mark.head? = some first)
    (rest : List Char) : (mark ++ rest).head? = some first := by
  rw [List.head?_append, begins]
  rfl

private theorem beginsOutside_mark {mark : List Char} {first : Char}
    (begins : mark.head? = some first) (noDigit : first.isDigit = false) (rest : List Char) :
    BeginsOutside Char.isDigit (mark ++ rest) := by
  intro symbol member
  rw [head?_mark begins] at member
  cases member
  exact noDigit

theorem legible_attributeText : Legible attributeText Anything := by
  have value : Legible (fun value : RadiusAvpValue => (value.map Char.ofUInt8).length.repr.toList ++
      (", Value: ".toList ++ value.map Char.ofUInt8) ++ "], ".toList) Anything :=
    (legible_decimal.sized ", Value: ".toList (List.map_injective_iff.mpr ofUInt8_injective)
      (beginsOutside_mark rfl rfl)).marked fun _ _ => trivial
  have type : Legible (fun type : RadiusAvpType => type.toNat.repr.toList)
      (BeginsOutside Char.isDigit) :=
    legible_decimal.comap fun _ _ same => UInt8.toNat_inj.mp same
  exact (type.followed (value.labelled ", Length: ".toList) fun value rest _ =>
    beginsOutside_mark rfl rfl _).labelled "[Type: ".toList

/-- The attributes as they are left, in the order of the map. -/
def AVPStorage.entries (storage : AVPStorage) : List (RadiusAvpType × RadiusAvpValue) :=
  (AVPStorage.written storage).toList

/-- One turn of the loop. -/
private theorem turn_text (ret : String) (avp : RadiusAvpType × RadiusAvpValue) :
    (ret ++ "[Type: " ++ avp.1.toNat.repr ++ ", Length: " ++ avp.2.length.repr ++ ", Value: " ++
        valueText avp.2 ++ "], ").toList =
      ret.toList ++ attributeText (avp.1, avp.2.map writtenByte) := by
  unfold attributeText valueText
  simp only [String.toList_append, String.toList_ofList, List.append_assoc, List.length_map,
    List.map_map]
  rfl

private theorem loop_text (avps : List (RadiusAvpType × RadiusAvpValue)) (ret : String) :
    (avps.foldl (fun ret avp => ret ++ "[Type: " ++ avp.1.toNat.repr ++ ", Length: " ++
        avp.2.length.repr ++ ", Value: " ++ valueText avp.2 ++ "], ") ret).toList =
      ret.toList ++ (avps.map fun avp => (avp.1, avp.2.map writtenByte)).flatMap
        attributeText := by
  induction avps generalizing ret with
  | nil => exact (List.append_nil _).symm
  | cons avp rest inductionHypothesis =>
      rw [List.foldl_cons, inductionHypothesis, List.map_cons, List.flatMap_cons, turn_text,
        List.append_assoc]

theorem AVPStorage.toList_toString (storage : AVPStorage) :
    (AVPStorage.toString storage).toList =
      (AVPStorage.entries storage).flatMap attributeText := by
  rw [AVPStorage.entries, AVPStorage.written, Std.ExtTreeMap.toList_map, AVPStorage.toString,
    loop_text, String.toList_empty, List.nil_append]

theorem legible_attributes :
    Legible (fun avps : List (RadiusAvpType × RadiusAvpValue) => avps.flatMap attributeText)
      fun rest => rest.head? ≠ some '[' :=
  legible_attributeText.row fun _ => rfl

/-- The text of a storage tells its attributes, but for zero bytes. -/
theorem avps_text_iff (left right : AVPStorage) :
    AVPStorage.toString left = AVPStorage.toString right ↔
      AVPStorage.written left = AVPStorage.written right := by
  rw [← String.toList_inj, AVPStorage.toList_toString, AVPStorage.toList_toString,
    (legible_attributes.injective nofun).eq_iff]
  exact Std.ExtTreeMap.toList_inj

/-! ### Notifications -/

/-- What the text of a notification tells besides the name. -/
def NotificationData.told (data : NotificationData) :
    SizeT × List (RadiusAvpType × RadiusAvpValue) × List (RadiusAvpType × RadiusAvpValue) :=
  (data.timeMsec, AVPStorage.entries data.respAvp, AVPStorage.entries data.reqAvp)

def toldText (name : List Char)
    (told : SizeT × List (RadiusAvpType × RadiusAvpValue) × List (RadiusAvpType × RadiusAvpValue)) :
    List Char :=
  "NotificationData [time: ".toList ++ (told.1.toNat.repr.toList ++ (", source: ".toList ++ (name ++
    (", resp: ".toList ++ (told.2.1.flatMap attributeText ++ (", req: ".toList ++
      told.2.2.flatMap attributeText))))) ++ "]".toList)

theorem NotificationData.toList_toString (data : NotificationData) :
    data.toString.toList = toldText data.sourceId.toList data.told := by
  unfold NotificationData.toString toldText NotificationData.told
  simp only [String.toList_append, AVPStorage.toList_toString, List.append_assoc]
  rfl

theorem legible_toldText (name : List Char) : Legible (toldText name) Anything := by
  have time : Legible (fun time : SizeT => time.toNat.repr.toList) (BeginsOutside Char.isDigit) :=
    legible_decimal.comap fun _ _ same => UInt64.toNat_inj.mp same
  have storages := legible_attributes.followed (legible_attributes.labelled ", req: ".toList)
    fun req rest _ => by
      rw [List.append_assoc, head?_mark (show ", req: ".toList.head? = some ',' from rfl)]
      decide
  have behindTime :=
    ((storages.labelled ", resp: ".toList).labelled name).labelled ", source: ".toList
  have all := time.followed behindTime fun told rest _ => by
    rw [List.append_assoc]
    exact beginsOutside_mark rfl rfl _
  exact (all.marked fun rest _ => by
    rw [head?_mark (show "]".toList.head? = some ']' from rfl)]
    decide).labelled "NotificationData [time: ".toList

/-! ### The log -/

private theorem not_nul_label {label : List Char} (spelled : label.all (· ≠ nul) = true) :
    nul ∉ label := by
  intro member
  have apart := List.all_eq_true.mp spelled nul member
  simp at apart

private theorem not_nul_decimal (number : Nat) : nul ∉ number.repr.toList := by
  intro member
  rw [Nat.toList_repr] at member
  exact absurd (Nat.isDigit_of_mem_toDigits (by decide) (by decide) member) (by decide)

private theorem not_nul_value (value : RadiusAvpValue) :
    nul ∉ (value.map writtenByte).map Char.ofUInt8 := by
  intro member
  obtain ⟨byte, isWritten, same⟩ := List.mem_map.mp member
  obtain ⟨original, _, rfl⟩ := List.mem_map.mp isWritten
  have zero : writtenByte original = 0 := ofUInt8_injective same
  unfold writtenByte at zero
  split at zero
  · cases zero
  · rename_i nonzero
    exact nonzero zero

private theorem not_nul_attributes (storage : AVPStorage) :
    nul ∉ (AVPStorage.entries storage).flatMap attributeText := by
  intro member
  obtain ⟨avp, isEntry, inText⟩ := List.mem_flatMap.mp member
  rw [AVPStorage.entries, AVPStorage.written, Std.ExtTreeMap.toList_map] at isEntry
  obtain ⟨⟨type, value⟩, _, rfl⟩ := List.mem_map.mp isEntry
  unfold attributeText at inText
  simp only [List.mem_append] at inText
  rcases inText with label | type | label | (length | label | written) | label
  · exact not_nul_label rfl label
  · exact not_nul_decimal _ type
  · exact not_nul_label rfl label
  · exact not_nul_decimal _ length
  · exact not_nul_label rfl label
  · exact not_nul_value value written
  · exact not_nul_label rfl label

/-- The text of a notification holds a zero byte where its name does. -/
theorem nul_mem_toString_iff (data : NotificationData) :
    nul ∈ data.toString.toList ↔ nul ∈ data.sourceId.toList := by
  rw [NotificationData.toList_toString]
  unfold toldText NotificationData.told
  simp only [List.mem_append]
  constructor
  · rintro (label | (time | label | name | label | resp | label | req) | label)
    · exact absurd label (not_nul_label rfl)
    · exact absurd time (not_nul_decimal _)
    · exact absurd label (not_nul_label rfl)
    · exact name
    · exact absurd label (not_nul_label rfl)
    · exact absurd resp (not_nul_attributes _)
    · exact absurd label (not_nul_label rfl)
    · exact absurd req (not_nul_attributes _)
    · exact absurd label (not_nul_label rfl)
  · exact fun name => .inr (.inl (.inr (.inr (.inl name))))

private theorem cStr_eq_iff (text : String) : cStr text = text ↔ nul ∉ text.toList := by
  rw [← String.toList_inj, cStr, String.toList_ofList, List.takeWhile_eq_self_iff]
  constructor
  · exact fun whole member => of_decide_eq_true (whole nul member) rfl
  · exact fun whole symbol member => decide_eq_true fun same => whole (same ▸ member)

def lineText (name : List Char)
    (told : SizeT × List (RadiusAvpType × RadiusAvpValue) × List (RadiusAvpType × RadiusAvpValue)) :
    List Char :=
  "ResultNotifier: ".toList ++ (toldText name told ++ ("\n".toList ++ "\n".toList))

theorem legible_lineText (name : List Char) : Legible (lineText name) Anything :=
  ((legible_toldText name).marked fun _ _ => trivial).labelled "ResultNotifier: ".toList

theorem lineText_begins (name : List Char)
    (told : SizeT × List (RadiusAvpType × RadiusAvpValue) × List (RadiusAvpType × RadiusAvpValue)) :
    (lineText name told).head? = some 'R' := by
  unfold lineText
  exact head?_mark rfl _

private theorem lines_injective (name : List Char) :
    Function.Injective fun logged => List.flatMap (lineText name) logged := by
  have ends : ([] : List Char).head? ≠ some 'R' := nofun
  exact ((legible_lineText name).row (lineText_begins name)).injective ends

private theorem line_text {name : String} (whole : nul ∉ name.toList) (data : NotificationData)
    (isNamed : data.sourceId = name) (text : String) :
    (text ++ notifierLine data).toList =
      text.toList ++ lineText name.toList data.told := by
  have uncut : cStr data.toString = data.toString := by
    rw [cStr_eq_iff, nul_mem_toString_iff, isNamed]
    exact whole
  unfold notifierLine lineText
  rw [uncut]
  simp only [String.toList_append, NotificationData.toList_toString, isNamed, List.append_assoc]

private theorem log_text {name : String} (whole : nul ∉ name.toList)
    (logged : List NotificationData) (named : ∀ data ∈ logged, data.sourceId = name)
    (text : String) :
    (logged.foldl (fun text data => text ++ notifierLine data) text).toList =
      text.toList ++ (logged.map NotificationData.told).flatMap (lineText name.toList) := by
  induction logged generalizing text with
  | nil => exact (List.append_nil _).symm
  | cons data rest inductionHypothesis =>
      obtain ⟨isNamed, others⟩ := List.forall_mem_cons.mp named
      rw [List.foldl_cons, inductionHypothesis others, List.map_cons, List.flatMap_cons,
        line_text whole data isNamed, List.append_assoc]

private theorem told_iff {left right : NotificationData} (same : left.sourceId = right.sourceId) :
    left.told = right.told ↔ left.written = right.written := by
  rw [NotificationData.told, NotificationData.told, NotificationData.written,
    NotificationData.written, NotificationData.mk.injEq, Prod.mk.injEq, Prod.mk.injEq,
    AVPStorage.entries, AVPStorage.entries, AVPStorage.entries, AVPStorage.entries,
    Std.ExtTreeMap.toList_inj, Std.ExtTreeMap.toList_inj]
  exact ⟨fun ⟨time, resp, req⟩ => ⟨time, same, resp, req⟩,
    fun ⟨time, _, resp, req⟩ => ⟨time, resp, req⟩⟩

private theorem map_told_iff {name : String} {left right : List NotificationData}
    (namedLeft : ∀ data ∈ left, data.sourceId = name)
    (namedRight : ∀ data ∈ right, data.sourceId = name) :
    left.map NotificationData.told = right.map NotificationData.told ↔
      left.map NotificationData.written = right.map NotificationData.written := by
  induction left generalizing right with
  | nil => cases right <;> simp
  | cons data rest inductionHypothesis =>
      cases right with
      | nil => simp
      | cons other others =>
          obtain ⟨isNamed, restNamed⟩ := List.forall_mem_cons.mp namedLeft
          obtain ⟨otherNamed, othersNamed⟩ := List.forall_mem_cons.mp namedRight
          rw [List.map_cons, List.map_cons, List.map_cons, List.map_cons, List.cons.injEq,
            List.cons.injEq, told_iff (isNamed.trans otherNamed.symm),
            inductionHypothesis restNamed othersNamed]

/-- The line of a notification holds its whole text exactly where its name holds no zero byte. -/
theorem notification_line_is_whole_iff (data : NotificationData) :
    notifierLine data = "ResultNotifier: " ++ data.toString ++ "\n" ++ "\n" ↔
      nul ∉ data.sourceId.toList := by
  have uncut := cStr_eq_iff data.toString
  rw [nul_mem_toString_iff] at uncut
  rw [← uncut]
  constructor
  · intro whole
    have spelled := congrArg String.toList whole
    unfold notifierLine at spelled
    simp only [String.toList_append, List.append_cancel_right_eq,
      List.append_cancel_left_eq] at spelled
    exact String.toList_inj.mp spelled
  · intro whole
    unfold notifierLine
    rw [whole]

/-- The log of what was notified under one name tells, notification by notification, when it was
and all attributes of both packets, but for which of their zero bytes are digits. -/
theorem notifier_log_reads_back (name : String) (whole : nul ∉ name.toList)
    (left right : List NotificationData) (namedLeft : ∀ data ∈ left, data.sourceId = name)
    (namedRight : ∀ data ∈ right, data.sourceId = name) :
    notifierLog left = notifierLog right ↔
      left.map NotificationData.written = right.map NotificationData.written := by
  have leftText := log_text whole left namedLeft ""
  have rightText := log_text whole right namedRight ""
  rw [String.toList_empty, List.nil_append] at leftText rightText
  rw [← String.toList_inj, notifierLog, notifierLog, leftText, rightText,
    (lines_injective name.toList).eq_iff]
  exact map_told_iff namedLeft namedRight

/-- A notification of one attribute with one byte. -/
def ofByte (byte : UInt8) : NotificationData where
  timeMsec := 5
  sourceId := "probe"
  respAvp := (∅ : AVPStorage).insert 1 [byte]
  reqAvp := ∅

theorem notifier_log_reads_back_zero :
    notifierLog ([0, 7, 48].map ofByte) = notifierLog ([48, 7, 0].map ofByte) ∧
      notifierLog ([0, 7, 48].map ofByte) ≠ notifierLog ([7, 0, 48].map ofByte) ∧
      notifierLog ([0, 7, 48].map ofByte) ≠ notifierLog ([0, 7].map ofByte) := by
  have named (bytes : List UInt8) : ∀ data ∈ bytes.map ofByte, data.sourceId = "probe" := by
    intro data member
    obtain ⟨byte, _, rfl⟩ := List.mem_map.mp member
    rfl
  have apart {left right : List UInt8}
      (differ : ((left.map ofByte).map NotificationData.written).map (·.respAvp.toList) ≠
        ((right.map ofByte).map NotificationData.written).map (·.respAvp.toList)) :
      notifierLog (left.map ofByte) ≠ notifierLog (right.map ofByte) := by
    rw [ne_eq, notifier_log_reads_back "probe" (by decide) _ _ (named left) (named right)]
    exact fun same => differ (congrArg (List.map (·.respAvp.toList)) same)
  refine ⟨?_, apart (by decide), apart (by decide)⟩
  rw [notifier_log_reads_back "probe" (by decide) _ _ (named _) (named _)]
  rfl

end TrafficInspector
