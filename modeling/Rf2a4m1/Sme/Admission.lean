import Rf2a4m1.Sme.Notes
import Rf2a4m1.Sme.Ops
import Rf2a4m1.Wire.Admission

/-!
# Reserving medium time

What the calls of the station send and what each end makes of an ADDTS or DELTS
frame, in terms of its admission table.
-/

set_option autoImplicit false

namespace Rf2a4m1

open ByteString

def addtsReqFrame (src : MacAddr) (dialog : UInt8) (t : Tspec) : Bytes :=
  smePfx .addtsReq src ++ ([1, 0, dialog] ++ ([13, 55] ++ tspecBodyPut t))

def addtsRspFrame (src : MacAddr) (dialog : UInt8) (status : UInt16) (t : Tspec) : Bytes :=
  smePfx .addtsRsp src ++ ([1, 1, dialog] ++ putLe16 status ++ ([13, 55] ++ tspecBodyPut t))

def deltsFrame (src : MacAddr) (ts : TsInfo) : Bytes :=
  smePfx .delts src ++ ([1, 2] ++ le 3 (tsInfoPack ts).toNat ++ putLe16 0)

/-- An end keeps its role and stays up. -/
structure StaysUp (s t : Sme) : Prop where
  role : t.role = s.role
  up : t.state = s.state

theorem tsid_fits {tsid : UInt8} (small : ¬tsid > 0x0f) : tsid &&& 0x0f = tsid := by
  have bound : tsid.toNat ≤ 15 := UInt8.le_iff_toNat_le.1 (UInt8.not_lt.1 small)
  apply UInt8.toNat_inj.1
  rw [UInt8.toNat_and]
  exact (Nat.and_two_pow_sub_one_eq_mod _ 4).trans (Nat.mod_eq_of_lt (by omega))

/-- A stream that fits its field is on the air as it was asked for. -/
theorem addtsTspec_onAir {tsid : UInt8} (small : ¬tsid > 0x0f) (ac direction : UInt8)
    (mediumTime : UInt16) :
    (addtsTspec tsid ac direction mediumTime).onAir = addtsTspec tsid ac direction mediumTime := by
  have twice : direction &&& 0x03 &&& 0x03 = direction &&& 0x03 := by
    rw [UInt8.and_assoc]
    rfl
  have up : addtsAcUp ac &&& 0x07 = addtsAcUp ac := by
    unfold addtsAcUp
    split <;> rfl
  unfold addtsTspec Tspec.onAir TsInfo.onAir
  dsimp only
  rw [tsid_fits small, twice, up]
  rfl

section Calls

variable {s : Sme}

/-- A request that is accepted sends one frame, and waits for the answer before it records. -/
theorem smeAddtsRequest_sends (s : Sme) (tsid ac direction : UInt8) (mediumTime : UInt16) :
    ((smeAddtsRequest s tsid ac direction mediumTime).2 ≠ .ok ∧
        (smeAddtsRequest s tsid ac direction mediumTime).1 = s) ∨
      ((smeAddtsRequest s tsid ac direction mediumTime).2 = .ok ∧ ¬tsid > 0x0f ∧
        StaysUp s (smeAddtsRequest s tsid ac direction mediumTime).1 ∧
        (smeAddtsRequest s tsid ac direction mediumTime).1.admission = s.admission ∧
        ∀ f ∈ newSent s (smeAddtsRequest s tsid ac direction mediumTime).1,
          f = addtsReqFrame s.self (s.addtsDialog + 1)
            (addtsTspec tsid ac direction mediumTime)) := by
  unfold smeAddtsRequest
  split
  · exact Or.inl ⟨S8021xStatus.noConfusion, rfl⟩
  split
  · exact Or.inl ⟨S8021xStatus.noConfusion, rfl⟩
  rename_i inval
  dsimp only
  rw [addtsReqBuild_eq _ _ (Nat.le_refl 60)]
  refine Or.inr ⟨rfl, fun large => inval (Or.inl large), ⟨rfl, rfl⟩, rfl, ?_⟩
  exact (Sends.raw (P := fun f => f = _) rfl).newSent

/-- A teardown that is accepted releases first. -/
theorem smeDelts_sends (s : Sme) (tsid : UInt8) :
    ((smeDelts s tsid).2 ≠ .ok ∧ (smeDelts s tsid).1 = s) ∨
      ((smeDelts s tsid).2 = .ok ∧ ¬tsid > 0x0f ∧ StaysUp s (smeDelts s tsid).1 ∧
        (smeDelts s tsid).1.admission = (qosAdmissionRelease s.admission tsid).1 ∧
        ∀ f ∈ newSent s (smeDelts s tsid).1,
          f = deltsFrame s.self { TsInfo.empty with tsid := tsid }) := by
  unfold smeDelts
  split
  · exact Or.inl ⟨S8021xStatus.noConfusion, rfl⟩
  split
  · exact Or.inl ⟨S8021xStatus.noConfusion, rfl⟩
  rename_i small
  dsimp only
  rw [deltsBuild_eq _ 0 (Nat.le_refl 7)]
  refine Or.inr ⟨rfl, small, ⟨rfl, rfl⟩, rfl, ?_⟩
  exact (Sends.raw (P := fun f => f = _) rfl).newSent

end Calls

section Receive

variable {env : Env} {sib : Siblings} {s : Sme}

/-- An end that is up hands the frames of a link that is up to their handlers. -/
theorem smeRx_up {type : FrameType} (up : s.state = .connected)
    (passes : type.whenConnected = true) (src : MacAddr) (body : Bytes) :
    smeRx env sib s (smePfx type src ++ body) =
      smeHandle env sib s type (smePfx type src ++ body) := by
  have long : smePfxLen ≤ (smePfx type src ++ body).length := by
    rw [List.length_append, smePfx_length]
    exact Nat.le_add_right 7 _
  have gate : demuxGate s type (smePfx type src ++ body) = true := by
    simp [demuxGate, smePfxLen, up, passes]
  rw [smeRx_eq, rxKind_internal long rfl (by rw [up]; decide)]
  unfold internalKind
  rw [if_pos gate]
  rfl

theorem drop_smePfx (type : FrameType) (src : MacAddr) (body : Bytes) :
    (smePfx type src ++ body).drop smePfxLen = body :=
  frameBody_smePfx type src body

theorem smeRx_addtsReq (up : s.state = .connected) (ap : s.role = .ap) (src : MacAddr)
    (body : Bytes) :
    smeRx env sib s (smePfx .addtsReq src ++ body) = (addtsApOnReq s body, sib) := by
  rw [smeRx_up up rfl]
  unfold smeHandle
  rw [if_pos ap, drop_smePfx]
  rfl

theorem smeRx_addtsRsp (up : s.state = .connected) (sta : s.role = .sta) (src : MacAddr)
    (body : Bytes) :
    smeRx env sib s (smePfx .addtsRsp src ++ body) = (addtsStaOnResp s body, sib) := by
  rw [smeRx_up up rfl]
  unfold smeHandle
  rw [sta, if_neg SmeRole.noConfusion, drop_smePfx]
  rfl

theorem smeRx_delts (up : s.state = .connected) (ap : s.role = .ap) (src : MacAddr)
    (body : Bytes) :
    smeRx env sib s (smePfx .delts src ++ body) = (addtsOnDelts s body, sib) := by
  rw [smeRx_up up rfl]
  unfold smeHandle
  rw [if_pos ap, drop_smePfx]
  rfl

/-- The AP answers a request from its table as it stands. -/
theorem addtsApOnReq_answers (s : Sme) (dialog : UInt8) (t : Tspec) :
    let r := qosAdmissionAdmitTspec s.admission t.onAir
    let s' := addtsApOnReq s ([1, 0, dialog] ++ ([13, 55] ++ tspecBodyPut t))
    StaysUp s s' ∧ s'.admission = r.1 ∧ ∀ f ∈ newSent s s',
      f = addtsRspFrame s.self dialog (if r.2 = .ok then 0 else 37)
        (if r.2 = .ok then t.onAir else { t.onAir with mediumTime := 0 }) := by
  dsimp only
  unfold addtsApOnReq
  rw [addtsReq_roundtrip]
  dsimp only
  rw [addtsRspBuild_eq _ _ _ (Nat.le_refl 62)]
  refine ⟨⟨rfl, rfl⟩, rfl, ?_⟩
  exact (Sends.raw (P := fun f => f = _) rfl).newSent

/-- The AP refuses a request, or records the stream and says so. -/
theorem smeRx_addtsReq_cases {tsid : UInt8} (up : s.state = .connected) (ap : s.role = .ap)
    (single : s.admission.Single) (small : ¬tsid > 0x0f) (src : MacAddr)
    (dialog ac direction : UInt8) (mediumTime : UInt16) :
    let t := addtsTspec tsid ac direction mediumTime
    let s' := (smeRx env sib s (addtsReqFrame src dialog t)).1
    StaysUp s s' ∧ s'.admission.Single ∧
      ((s'.admission = s.admission ∧
          ∀ f ∈ newSent s s', ∃ t', f = addtsRspFrame s.self dialog 37 t') ∨
        (¬s.admission.Holds tsid ∧
          (∀ t' a m, s'.admission.Recorded t' a m ↔
            (tsid = t' ∧ qosUpToAc (addtsAcUp ac) = a ∧ mediumTime = m) ∨
              s.admission.Recorded t' a m) ∧
          ∀ f ∈ newSent s s', f = addtsRspFrame s.self dialog 0 t)) := by
  dsimp only
  unfold addtsReqFrame
  rw [smeRx_addtsReq up ap]
  obtain ⟨stays, table, sent⟩ :=
    addtsApOnReq_answers s dialog (addtsTspec tsid ac direction mediumTime)
  rw [addtsTspec_onAir small] at table sent
  have decided : qosAdmissionAdmitTspec s.admission (addtsTspec tsid ac direction mediumTime) =
      qosAdmissionAdmit s.admission tsid (qosUpToAc (addtsAcUp ac)) (direction &&& 0x03)
        mediumTime := rfl
  rw [decided] at table sent
  generalize addtsApOnReq s _ = s' at stays table sent ⊢
  rcases qosAdmissionAdmit_cases s.admission tsid (qosUpToAc (addtsAcUp ac)) (direction &&& 0x03)
    mediumTime with ⟨refused, same⟩ | ⟨ok, unheld, _⟩
  · rw [same] at table
    rw [if_neg refused, if_neg refused] at sent
    rw [table]
    exact ⟨stays, single, Or.inl ⟨rfl, fun f new => ⟨_, sent f new⟩⟩⟩
  · rw [if_pos ok, if_pos ok] at sent
    rw [table]
    exact ⟨stays, qosAdmissionAdmit_single single,
      Or.inr ⟨unheld, qosAdmissionAdmit_recorded ok, sent⟩⟩

/-- The station takes any answer; the dialog token is not looked at. -/
theorem addtsStaOnResp_takes (s : Sme) (dialog : UInt8) (status : UInt16) (t : Tspec) :
    let s' := addtsStaOnResp s ([1, 1, dialog] ++ putLe16 status ++ ([13, 55] ++ tspecBodyPut t))
    StaysUp s s' ∧ s'.addtsLastStatus = status ∧
      s'.admission = if status = 0 then (qosAdmissionAdmitTspec s.admission t.onAir).1
        else s.admission := by
  dsimp only
  unfold addtsStaOnResp
  rw [addtsRsp_roundtrip]
  exact ⟨⟨rfl, rfl⟩, rfl, rfl⟩

theorem addtsOnDelts_releases (s : Sme) (ts : TsInfo) :
    let s' := addtsOnDelts s ([1, 2] ++ le 3 (tsInfoPack ts).toNat ++ putLe16 0)
    StaysUp s s' ∧ s'.admission = (qosAdmissionRelease s.admission ts.onAir.tsid).1 ∧
      newSent s s' = [] := by
  dsimp only
  unfold addtsOnDelts
  rw [delts_roundtrip]
  exact ⟨⟨rfl, rfl⟩, rfl, newSent_same rfl⟩

theorem smeRx_delts_cases {tsid : UInt8} (up : s.state = .connected) (ap : s.role = .ap)
    (small : ¬tsid > 0x0f) (src : MacAddr) :
    let s' := (smeRx env sib s (deltsFrame src { TsInfo.empty with tsid := tsid })).1
    StaysUp s s' ∧ s'.admission = (qosAdmissionRelease s.admission tsid).1 ∧
      newSent s s' = [] := by
  dsimp only
  unfold deltsFrame
  rw [smeRx_delts up ap]
  obtain ⟨stays, table, silent⟩ := addtsOnDelts_releases s { TsInfo.empty with tsid := tsid }
  have released : qosAdmissionRelease s.admission
      (TsInfo.onAir { TsInfo.empty with tsid := tsid }).tsid =
        qosAdmissionRelease s.admission tsid :=
    congrArg (qosAdmissionRelease s.admission) (tsid_fits small)
  rw [released] at table
  exact ⟨stays, table, silent⟩

/-- The station notes the status, and at most records the stream of the answer. -/
theorem smeRx_addtsRsp_cases (up : s.state = .connected) (sta : s.role = .sta)
    (single : s.admission.Single) (src : MacAddr) (dialog : UInt8) (status : UInt16) (t : Tspec) :
    let s' := (smeRx env sib s (addtsRspFrame src dialog status t)).1
    StaysUp s s' ∧ s'.addtsLastStatus = status ∧ s'.admission.Single ∧
      ∀ t' a m, s'.admission.Recorded t' a m → s.admission.Recorded t' a m ∨
        (status = 0 ∧ t.onAir.ts.tsid = t' ∧ qosUpToAc t.onAir.ts.userPriority = a ∧
          t.onAir.mediumTime = m) := by
  dsimp only
  unfold addtsRspFrame
  rw [smeRx_addtsRsp up sta]
  obtain ⟨stays, last, table⟩ := addtsStaOnResp_takes s dialog status t
  generalize addtsStaOnResp s _ = s' at stays last table ⊢
  rw [table]
  refine ⟨stays, last, ?_⟩
  by_cases admitted : status = 0
  · rw [if_pos admitted]
    unfold qosAdmissionAdmitTspec
    refine ⟨qosAdmissionAdmit_single single, fun t' a m rec => ?_⟩
    rcases qosAdmissionAdmit_cases s.admission t.onAir.ts.tsid (qosUpToAc t.onAir.ts.userPriority)
      t.onAir.ts.direction t.onAir.mediumTime with ⟨_, same⟩ | ⟨ok, _⟩
    · rw [same] at rec
      exact Or.inl rec
    · rcases (qosAdmissionAdmit_recorded ok t' a m).1 rec with new | old
      · exact Or.inr ⟨admitted, new⟩
      · exact Or.inl old
  · rw [if_neg admitted]
    exact ⟨single, fun _ _ _ rec => Or.inl rec⟩

end Receive

end Rf2a4m1
