import Rf2a4m1.Wire.QosCodec

/-!
# The admission table

Which streams a table records, what admitting and releasing change of that, and
what the ADDTS and DELTS actions carry of a stream.
-/

set_option autoImplicit false

namespace Rf2a4m1

open ByteString

/-- A stream of a table, with its access category and medium time. -/
def QosAdmission.Recorded (a : QosAdmission) (tsid ac : UInt8) (mediumTime : UInt16) : Prop :=
  ∃ e ∈ a.ts, e.inUse = true ∧ e.tsid = tsid ∧ e.ac = ac ∧ e.mediumTime = mediumTime

def QosAdmission.Holds (a : QosAdmission) (tsid : UInt8) : Prop :=
  ∃ ac mediumTime, a.Recorded tsid ac mediumTime

/-- No stream is recorded twice. -/
def QosAdmission.Single (a : QosAdmission) : Prop :=
  ∀ (i j : Nat) (e f : TsAdmission), a.ts[i]? = some e → a.ts[j]? = some f →
    e.inUse = true → f.inUse = true → e.tsid = f.tsid → i = j

section Table

variable {a : QosAdmission} {tsid ac direction : UInt8} {mediumTime : UInt16}

theorem QosAdmission.Recorded.holds (rec : a.Recorded tsid ac mediumTime) : a.Holds tsid :=
  ⟨ac, mediumTime, rec⟩

theorem holds_iff : a.Holds tsid ↔ ∃ e ∈ a.ts, e.inUse = true ∧ e.tsid = tsid := by
  constructor
  · rintro ⟨ac, mediumTime, e, mem, used, same, _⟩
    exact ⟨e, mem, used, same⟩
  · rintro ⟨e, mem, used, same⟩
    exact ⟨e.ac, e.mediumTime, e, mem, used, same, rfl, rfl⟩

theorem admFind_none : admFind a tsid = none ↔ ¬a.Holds tsid := by
  unfold admFind
  rw [List.findIdx?_eq_none_iff, holds_iff]
  constructor
  · rintro none ⟨e, mem, used, same⟩
    simpa [used, same] using none e mem
  · intro none e mem
    cases used : e.inUse with
    | false => rfl
    | true =>
      have other : e.tsid ≠ tsid := fun same => none ⟨e, mem, used, same⟩
      simp [other]

theorem admFind_some {i : Nat} (found : admFind a tsid = some i) :
    ∃ e, a.ts[i]? = some e ∧ e.inUse = true ∧ e.tsid = tsid := by
  unfold admFind at found
  obtain ⟨bound, test, _⟩ := List.findIdx?_eq_some_iff_getElem.1 found
  simp only [Bool.and_eq_true, decide_eq_true_eq] at test
  exact ⟨_, List.getElem?_eq_getElem bound, test⟩

/-- What a change of one slot leaves recorded. -/
theorem recorded_set {b : QosAdmission} {i : Nat} {old new : TsAdmission}
    (at' : a.ts[i]? = some old) (set : b.ts = a.ts.set i new) (t c : UInt8) (m : UInt16) :
    b.Recorded t c m ↔
      (new.inUse = true ∧ new.tsid = t ∧ new.ac = c ∧ new.mediumTime = m) ∨
        ∃ j e, j ≠ i ∧ a.ts[j]? = some e ∧ e.inUse = true ∧ e.tsid = t ∧ e.ac = c ∧
          e.mediumTime = m := by
  have bound : i < a.ts.length := (List.getElem?_eq_some_iff.1 at').1
  unfold QosAdmission.Recorded
  rw [set]
  constructor
  · rintro ⟨e, mem, rec⟩
    obtain ⟨j, get⟩ := List.mem_iff_getElem?.1 mem
    rw [List.getElem?_set] at get
    by_cases here : i = j
    · rw [if_pos here, if_pos (here ▸ bound)] at get
      obtain rfl := Option.some.inj get
      exact Or.inl rec
    · rw [if_neg here] at get
      exact Or.inr ⟨j, e, Ne.symm here, get, rec⟩
  · rintro (rec | ⟨j, e, other, get, rec⟩)
    · exact ⟨new, List.mem_set bound new, rec⟩
    · refine ⟨e, List.mem_iff_getElem?.2 ⟨j, ?_⟩, rec⟩
      rw [List.getElem?_set, if_neg (Ne.symm other)]
      exact get

theorem single_set {b : QosAdmission} {i : Nat} {new : TsAdmission} (single : a.Single)
    (set : b.ts = a.ts.set i new) (fresh : new.inUse = true → ¬a.Holds new.tsid) : b.Single := by
  intro j k e f getE getF usedE usedF same
  rw [set, List.getElem?_set] at getE getF
  by_cases atJ : i = j
  · by_cases atK : i = k
    · exact atJ.symm.trans atK
    · rw [if_pos atJ] at getE
      rw [if_neg atK] at getF
      split at getE
      · obtain rfl := Option.some.inj getE
        exact absurd (holds_iff.2 ⟨f, List.mem_of_getElem? getF, usedF, same.symm⟩) (fresh usedE)
      · cases getE
  · rw [if_neg atJ] at getE
    by_cases atK : i = k
    · rw [if_pos atK] at getF
      split at getF
      · obtain rfl := Option.some.inj getF
        exact absurd (holds_iff.2 ⟨e, List.mem_of_getElem? getE, usedE, same⟩) (fresh usedF)
      · cases getF
    · rw [if_neg atK] at getF
      exact single j k e f getE getF usedE usedF same

/-- Admitting changes nothing, or adds a stream that was not there. -/
theorem qosAdmissionAdmit_cases (a : QosAdmission) (tsid ac direction : UInt8)
    (mediumTime : UInt16) :
    ((qosAdmissionAdmit a tsid ac direction mediumTime).2 ≠ .ok ∧
        (qosAdmissionAdmit a tsid ac direction mediumTime).1 = a) ∨
      ((qosAdmissionAdmit a tsid ac direction mediumTime).2 = .ok ∧ ¬a.Holds tsid ∧
        ∃ i old, a.ts[i]? = some old ∧ old.inUse = false ∧
          (qosAdmissionAdmit a tsid ac direction mediumTime).1.ts =
            a.ts.set i { inUse := true, tsid := tsid, ac := ac, direction := direction
                         mediumTime := mediumTime }) := by
  unfold qosAdmissionAdmit
  split
  · exact Or.inl ⟨QosAdmitResult.noConfusion, rfl⟩
  split
  · exact Or.inl ⟨QosAdmitResult.noConfusion, rfl⟩
  rename_i free
  split
  · exact Or.inl ⟨QosAdmitResult.noConfusion, rfl⟩
  split
  · exact Or.inl ⟨QosAdmitResult.noConfusion, rfl⟩
  · rename_i i found
    obtain ⟨bound, test, _⟩ := List.findIdx?_eq_some_iff_getElem.1 found
    have unheld : ¬a.Holds tsid := admFind_none.1 (Option.not_isSome_iff_eq_none.1 free)
    exact Or.inr ⟨rfl, unheld, i, _, List.getElem?_eq_getElem bound, by simpa using test, rfl⟩

theorem qosAdmissionAdmit_single (single : a.Single) :
    (qosAdmissionAdmit a tsid ac direction mediumTime).1.Single := by
  rcases qosAdmissionAdmit_cases a tsid ac direction mediumTime with
    ⟨_, same⟩ | ⟨_, unheld, i, old, _, _, set⟩
  · rw [same]
    exact single
  · exact single_set single set fun _ => unheld

/-- After an admission the table records one stream more. -/
theorem qosAdmissionAdmit_recorded
    (ok : (qosAdmissionAdmit a tsid ac direction mediumTime).2 = .ok) (t c : UInt8) (m : UInt16) :
    (qosAdmissionAdmit a tsid ac direction mediumTime).1.Recorded t c m ↔
      (tsid = t ∧ ac = c ∧ mediumTime = m) ∨ a.Recorded t c m := by
  rcases qosAdmissionAdmit_cases a tsid ac direction mediumTime with
    ⟨refused, _⟩ | ⟨_, _, i, old, at', unused, set⟩
  · exact absurd ok refused
  rw [recorded_set at' set]
  constructor
  · rintro (⟨_, new⟩ | ⟨j, e, _, get, rec⟩)
    · exact Or.inl new
    · exact Or.inr ⟨e, List.mem_of_getElem? get, rec⟩
  · rintro (new | ⟨e, mem, used, rec⟩)
    · exact Or.inl ⟨rfl, new⟩
    · obtain ⟨j, get⟩ := List.mem_iff_getElem?.1 mem
      refine Or.inr ⟨j, e, ?_, get, used, rec⟩
      rintro rfl
      rw [at'] at get
      obtain rfl := Option.some.inj get
      rw [unused] at used
      cases used

theorem qosAdmissionRelease_cases (a : QosAdmission) (tsid : UInt8) :
    (¬a.Holds tsid ∧ (qosAdmissionRelease a tsid).1 = a) ∨
      ∃ i e, a.ts[i]? = some e ∧ e.inUse = true ∧ e.tsid = tsid ∧
        (qosAdmissionRelease a tsid).1.ts =
          a.ts.set i { e with inUse := false, mediumTime := 0 } := by
  unfold qosAdmissionRelease
  split
  · rename_i free
    exact Or.inl ⟨admFind_none.1 free, rfl⟩
  · rename_i i found
    obtain ⟨e, get, used, same⟩ := admFind_some found
    refine Or.inr ⟨i, e, get, used, same, ?_⟩
    have slot : a.ts.getD i TsAdmission.free = e := by
      rw [List.getD_eq_getElem?_getD, get]
      rfl
    dsimp only
    rw [slot]

theorem qosAdmissionRelease_single (single : a.Single) :
    (qosAdmissionRelease a tsid).1.Single := by
  rcases qosAdmissionRelease_cases a tsid with ⟨_, same⟩ | ⟨i, e, _, _, _, set⟩
  · rw [same]
    exact single
  · exact single_set single set fun used => absurd used Bool.false_ne_true

/-- A release takes the stream out and leaves the others. -/
theorem qosAdmissionRelease_recorded (single : a.Single) (t c : UInt8) (m : UInt16) :
    (qosAdmissionRelease a tsid).1.Recorded t c m ↔ t ≠ tsid ∧ a.Recorded t c m := by
  rcases qosAdmissionRelease_cases a tsid with ⟨unheld, same⟩ | ⟨i, e, at', used, rfl, set⟩
  · rw [same]
    constructor
    · intro rec
      refine ⟨?_, rec⟩
      rintro rfl
      exact unheld rec.holds
    · exact And.right
  rw [recorded_set at' set]
  constructor
  · rintro (⟨inUse, _⟩ | ⟨j, f, other, get, usedF, rec⟩)
    · cases inUse
    · refine ⟨?_, f, List.mem_of_getElem? get, usedF, rec⟩
      rintro rfl
      exact other (single j i f e get at' usedF used rec.1)
  · rintro ⟨other, f, mem, usedF, rec⟩
    obtain ⟨j, get⟩ := List.mem_iff_getElem?.1 mem
    refine Or.inr ⟨j, f, ?_, get, usedF, rec⟩
    rintro rfl
    rw [at'] at get
    obtain rfl := Option.some.inj get
    exact other rec.1.symm

/-- With every slot free nothing is recorded. -/
theorem free_unrecorded (free : a.ts.all (fun e => !e.inUse) = true) (t c : UInt8) (m : UInt16) :
    ¬a.Recorded t c m := by
  rintro ⟨e, mem, used, _⟩
  have unused := List.all_eq_true.1 free e mem
  rw [used] at unused
  cases unused

theorem free_single (free : a.ts.all (fun e => !e.inUse) = true) : a.Single := by
  intro i j e f getE _ usedE
  exact absurd ⟨e, List.mem_of_getElem? getE, usedE, rfl, rfl, rfl⟩
    (free_unrecorded free e.tsid e.ac e.mediumTime)

end Table

section Actions

variable (dialog : UInt8) (status : UInt16) (t : Tspec) (ts : TsInfo)

theorem addtsReqBuild_eq {cap : Nat} (room : 60 ≤ cap) :
    addtsReqBuild cap dialog t = some ([1, 0, dialog] ++ ([13, 55] ++ tspecBodyPut t)) := by
  unfold addtsReqBuild tspecBodyLen
  rw [if_neg (by omega), tspecBuild_eq t (by omega)]
  rfl

theorem addtsRspBuild_eq {cap : Nat} (room : 62 ≤ cap) :
    addtsRspBuild cap dialog status t =
      some ([1, 1, dialog] ++ putLe16 status ++ ([13, 55] ++ tspecBodyPut t)) := by
  unfold addtsRspBuild tspecBodyLen
  rw [if_neg (by omega), tspecBuild_eq t (by omega)]
  rfl

theorem deltsBuild_eq {cap : Nat} (reason : UInt16) (room : 7 ≤ cap) :
    deltsBuild cap ts reason = some ([1, 2] ++ le 3 (tsInfoPack ts).toNat ++ putLe16 reason) :=
  if_neg (by omega)

theorem addtsReq_roundtrip :
    addtsReqParse ([1, 0, dialog] ++ ([13, 55] ++ tspecBodyPut t)) = some (dialog, t.onAir) := by
  have body : slice ([1, 0, dialog] ++ ([13, 55] ++ tspecBodyPut t)) 5 tspecBodyLen =
      tspecBodyPut t := by
    simp [slice, tspecBodyLen, List.take_of_length_le]
  unfold addtsReqParse
  rw [if_neg (by simp [tspecBodyLen]), if_neg (by simp [byteAt]), if_neg (by simp [byteAt]), body,
    tspecParse_body]
  rfl

theorem addtsRsp_roundtrip :
    addtsRspParse ([1, 1, dialog] ++ putLe16 status ++ ([13, 55] ++ tspecBodyPut t)) =
      some (dialog, status, t.onAir) := by
  have body : slice ([1, 1, dialog] ++ putLe16 status ++ ([13, 55] ++ tspecBodyPut t)) 7
      tspecBodyLen = tspecBodyPut t := by
    simp [slice, tspecBodyLen, putLe16, le, List.take_of_length_le]
  have field : getLe16 ([1, 1, dialog] ++ putLe16 status ++ ([13, 55] ++ tspecBodyPut t)) 3 =
      status := by
    apply getLe16_field
    simp [slice, putLe16, le]
  unfold addtsRspParse
  rw [if_neg (by simp [tspecBodyLen]), if_neg (by simp [byteAt]),
    if_neg (by simp [byteAt, putLe16, le]), body, tspecParse_body, field]
  rfl

theorem delts_roundtrip (reason : UInt16) :
    deltsParse ([1, 2] ++ le 3 (tsInfoPack ts).toNat ++ putLe16 reason) =
      some (ts.onAir, reason) := by
  have info : slice ([1, 2] ++ le 3 (tsInfoPack ts).toNat ++ putLe16 reason) 2 3 =
      le 3 (tsInfoPack ts).toNat := by
    simp [slice, le]
  have field : getLe16 ([1, 2] ++ le 3 (tsInfoPack ts).toNat ++ putLe16 reason) 5 = reason := by
    apply getLe16_field
    simp [slice, putLe16, le]
  unfold deltsParse
  rw [if_neg (by simp), if_neg (by simp [byteAt]), info, field, ofLe_le,
    Nat.mod_eq_of_lt (tsInfoPack_lt ts), UInt32.ofNat_toNat, tsInfoUnpack_pack]

end Actions

end Rf2a4m1
