import Rf2a4m1.Sme.Ops

/-!
# What a received frame amounts to

Reception in two stages: a frame is classified, then acted on. The classifier
looks at the frame, the state, the MFP flags and the pairwise key, and
`smeRx_eq` says that the two stages together are `smeRx`.
-/

set_option autoImplicit false

namespace Rf2a4m1

open ByteString

/-- The stages of `smeRx` before a handler: an AID taken over, a frame that fits a handler. -/
inductive RxKind where
  | ignored
  | aid (a : UInt16)
  | badMic
  | unprotected
  | robust
  | announce (h : MgmtHdr)
  | probed (src : MacAddr)
  | sae (h : MgmtHdr)
  | refused
  | handle (aid : Option UInt16) (type : FrameType) (inp : Bytes)

/-- Whether a frame in internal form gets past the gates of the demultiplexer. -/
def demuxGate (s : Sme) (type : FrameType) (inp : Bytes) : Bool :=
  decide (smePfxLen ≤ inp.length) && s.state ≠ .failed &&
    (s.state ≠ .connected || type.whenConnected)

def internalKind (s : Sme) (aid : Option UInt16) (type : FrameType) (inp : Bytes) : RxKind :=
  if demuxGate s type inp then .handle aid type inp
  else
    match aid with
    | none => .ignored
    | some a => .aid a

def viewKind (s : Sme) (aid : Option UInt16) (type : FrameType) (src : MacAddr) (body : Bytes) :
    RxKind :=
  if smePfxLen + body.length > smeRxViewMax then
    match aid with
    | none => .ignored
    | some a => .aid a
  else internalKind s aid type (smePfx type src ++ body)

def actionKind (s : Sme) (frame : Bytes) (h : MgmtHdr) : RxKind :=
  match actionVerdict s frame h with
  | .badMic => .badMic
  | .dropUnprotected => .unprotected
  | .accept body =>
    match actionType body with
    | none => .ignored
    | some type => viewKind s none type h.addr2 body

def authKind (s : Sme) (h : MgmtHdr) : RxKind :=
  match mgmtParseAuth h.body with
  | none => .ignored
  | some a =>
    if a.algo = 3 then .sae h
    else if a.algo ≠ 0 then .ignored
    else if a.txn = 1 then viewKind s none .authReq h.addr2 (h.body.drop 6)
    else if a.txn = 2 then
      if a.status ≠ 0 then .refused else viewKind s none .authResp h.addr2 (h.body.drop 6)
    else .ignored

def assocReqKind (s : Sme) (h : MgmtHdr) (type : FrameType) : RxKind :=
  if h.body.length < 4 then .ignored else viewKind s none type h.addr2 (h.body.drop 4)

def assocRespKind (s : Sme) (h : MgmtHdr) (type : FrameType) : RxKind :=
  match mgmtParseAssocResp h.body with
  | none => .ignored
  | some r =>
    if r.status ≠ 0 then .refused
    else viewKind s (some r.aid) type h.addr2 (h.body.drop 6)

def mgmtKind (s : Sme) (frame : Bytes) (h : MgmtHdr) : RxKind :=
  if h.subtype = 12 ∨ h.subtype = 10 then (if frame.length ≥ 24 then .robust else .ignored)
  else if h.subtype = 13 ∨ h.subtype = 14 then actionKind s frame h
  else if h.subtype = 8 ∨ h.subtype = 5 then .announce h
  else if h.subtype = 4 then (if s.role = .ap then .probed h.addr2 else .ignored)
  else if h.subtype = 11 then authKind s h
  else if h.subtype = 0 then assocReqKind s h .assocReq
  else if h.subtype = 2 then assocReqKind s h .reassocReq
  else if h.subtype = 1 then assocRespKind s h .assocResp
  else if h.subtype = 3 then assocRespKind s h .reassocResp
  else .ignored

def dataKind (s : Sme) (frame : Bytes) : RxKind :=
  match eapolOfDot11 s frame with
  | none => .ignored
  | some (src, pdu) =>
    match (eapolKeyFields pdu).bind fun k => eapolType k.keyInfo with
    | none => .ignored
    | some type => viewKind s none type src pdu

def rxKind (s : Sme) (inp : Bytes) : RxKind :=
  if inp.length = 0 ∨ s.state = .failed then .ignored
  else
    match if inp.length ≤ 0xffff then mgmtParseHdr inp else none with
    | some h => mgmtKind s inp h
    | none =>
      if isDot11Data inp then dataKind s inp
      else if inp.length < smePfxLen ∨ !smeIntIs (byteAt inp 0) then .ignored
      else
        match FrameType.ofCode (smeIntType (byteAt inp 0)) with
        | none => .ignored
        | some type => internalKind s none type inp

section Act

variable (env : Env) (sib : Siblings) (s : Sme)

/-- The handlers, once the gates are passed. -/
def smeHandle (type : FrameType) (inp : Bytes) : Sme × Siblings :=
  if s.role = .ap then apDemux env sib s type (macAt inp 1) inp (inp.drop smePfxLen)
  else staDemux env sib s type (macAt inp 1) inp (inp.drop smePfxLen)

def rxAct (frame : Bytes) : RxKind → Sme × Siblings
  | .ignored => (s, sib)
  | .aid a => ({ s with aid := a }, sib)
  | .badMic => ({ s with mgmtProtBadmic := s.mgmtProtBadmic + 1 }, sib)
  | .unprotected => ({ s with mgmtUnprotDropped := s.mgmtUnprotDropped + 1 }, sib)
  | .robust => (rxRobustMgmt s frame, sib)
  | .announce h => (rxBssAnnounce env s h, sib)
  | .probed src => (txMgmtTo s .probeResp src [], sib)
  | .sae h => (smeSaeRxAuth s h, sib)
  | .refused => ({ s with state := .failed }, sib)
  | .handle aid type inp => smeHandle env sib { s with aid := aid.getD s.aid } type inp

theorem rxAct_ap (role : s.role = .ap) (frame : Bytes) (aid : Option UInt16) (type : FrameType)
    (inp : Bytes) :
    rxAct env sib s frame (.handle aid type inp) =
      apDemux env sib { s with aid := aid.getD s.aid } type (macAt inp 1) inp
        (inp.drop smePfxLen) :=
  if_pos role

theorem rxAct_sta (role : s.role = .sta) (frame : Bytes) (aid : Option UInt16) (type : FrameType)
    (inp : Bytes) :
    rxAct env sib s frame (.handle aid type inp) =
      staDemux env sib { s with aid := aid.getD s.aid } type (macAt inp 1) inp
        (inp.drop smePfxLen) := by
  have notAp : ¬s.role = .ap := by
    rw [role]
    decide
  exact if_neg notAp

theorem smeDemux_eq (type : FrameType) (inp : Bytes) :
    smeDemux env sib s type inp =
      if demuxGate s type inp then smeHandle env sib s type inp else (s, sib) := by
  unfold smeDemux demuxGate smeHandle
  by_cases short : inp.length < smePfxLen
  · simp [short, Nat.not_le.2 short]
  · have long : smePfxLen ≤ inp.length := Nat.le_of_not_lt short
    by_cases failed : s.state = .failed
    · simp [failed]
    · by_cases connected : s.state = .connected <;> cases passes : type.whenConnected <;>
        simp [short, long, failed, connected]

theorem internalKind_act (frame : Bytes) (aid : Option UInt16) (type : FrameType) (inp : Bytes) :
    rxAct env sib s frame (internalKind s aid type inp) =
      smeDemux env sib { s with aid := aid.getD s.aid } type inp := by
  rw [smeDemux_eq]
  have sameGate : demuxGate { s with aid := aid.getD s.aid } type inp = demuxGate s type inp := rfl
  rw [sameGate]
  unfold internalKind
  by_cases gate : demuxGate s type inp
  · simp only [gate, if_true, rxAct]
  · cases aid <;> simp [gate, rxAct]

theorem viewKind_act (frame : Bytes) (aid : Option UInt16) (type : FrameType) (src : MacAddr)
    (body : Bytes) :
    rxAct env sib s frame (viewKind s aid type src body) =
      demuxView env sib { s with aid := aid.getD s.aid } type src body := by
  unfold viewKind demuxView
  by_cases fits : smePfxLen + body.length > smeRxViewMax
  · cases aid <;> simp [fits, rxAct]
  · simp only [fits, if_false]
    exact internalKind_act env sib s frame aid type _

theorem actionKind_act (frame : Bytes) (h : MgmtHdr) :
    rxAct env sib s frame (actionKind s frame h) = rxAction env sib s frame h := by
  unfold actionKind rxAction
  cases actionVerdict s frame h with
  | badMic => rfl
  | dropUnprotected => rfl
  | accept body =>
    dsimp only
    cases actionType body with
    | none => rfl
    | some type => exact viewKind_act env sib s frame none type h.addr2 body

theorem authKind_act (frame : Bytes) (h : MgmtHdr) :
    rxAct env sib s frame (authKind s h) = rxAuth env sib s h := by
  unfold authKind rxAuth
  cases mgmtParseAuth h.body with
  | none => rfl
  | some a =>
    simp only
    split
    · rfl
    · split
      · rfl
      · split
        · exact viewKind_act env sib s frame none .authReq h.addr2 _
        · split
          · split
            · rfl
            · exact viewKind_act env sib s frame none .authResp h.addr2 _
          · rfl

theorem assocReqKind_act (frame : Bytes) (h : MgmtHdr) (type : FrameType) :
    rxAct env sib s frame (assocReqKind s h type) = rxAssocReq env sib s h type := by
  unfold assocReqKind rxAssocReq
  split
  · rfl
  · exact viewKind_act env sib s frame none type h.addr2 _

theorem assocRespKind_act (frame : Bytes) (h : MgmtHdr) (type : FrameType) :
    rxAct env sib s frame (assocRespKind s h type) = rxAssocResp env sib s h type := by
  unfold assocRespKind rxAssocResp
  cases mgmtParseAssocResp h.body with
  | none => rfl
  | some r =>
    simp only
    split
    · rfl
    · exact viewKind_act env sib s frame (some r.aid) type h.addr2 _

theorem mgmtKind_act (frame : Bytes) (h : MgmtHdr) :
    rxAct env sib s frame (mgmtKind s frame h) = rxDot11Mgmt env sib s frame h := by
  unfold mgmtKind rxDot11Mgmt
  split
  · split <;> rfl
  split
  · exact actionKind_act env sib s frame h
  split
  · rfl
  split
  · split <;> rfl
  split
  · exact authKind_act env sib s frame h
  split
  · exact assocReqKind_act env sib s frame h .assocReq
  split
  · exact assocReqKind_act env sib s frame h .reassocReq
  split
  · exact assocRespKind_act env sib s frame h .assocResp
  split
  · exact assocRespKind_act env sib s frame h .reassocResp
  · rfl

theorem dataKind_act (frame : Bytes) :
    rxAct env sib s frame (dataKind s frame) = rxDot11Data env sib s frame := by
  unfold dataKind rxDot11Data
  cases eapolOfDot11 s frame with
  | none => rfl
  | some found =>
    obtain ⟨src, pdu⟩ := found
    simp only
    cases (eapolKeyFields pdu).bind fun k => eapolType k.keyInfo with
    | none => rfl
    | some type => exact viewKind_act env sib s frame none type src pdu

/-- Classifying a frame and acting on what it amounts to is receiving it. -/
theorem smeRx_eq (frame : Bytes) :
    smeRx env sib s frame = rxAct env sib s frame (rxKind s frame) := by
  unfold smeRx rxKind
  split
  · rfl
  cases (if frame.length ≤ 0xffff then mgmtParseHdr frame else none) with
  | some h => exact (mgmtKind_act env sib s frame h).symm
  | none =>
    dsimp only
    split
    · exact (dataKind_act env sib s frame).symm
    unfold rxInternal
    split
    · rfl
    cases FrameType.ofCode (smeIntType (byteAt frame 0)) with
    | none => rfl
    | some type => exact (internalKind_act env sib s frame none type frame).symm

end Act

section Gate

variable {s : Sme}

/-- A kind that reaches a handler does so through the gates. -/
def RxKind.gated (s : Sme) : RxKind → Prop
  | .handle _ type inp => demuxGate s type inp = true
  | _ => True

theorem internalKind_gated (aid : Option UInt16) (type : FrameType) (inp : Bytes) :
    (internalKind s aid type inp).gated s := by
  unfold internalKind
  split
  · rename_i gate
    exact gate
  · cases aid <;> exact trivial

theorem viewKind_gated (aid : Option UInt16) (type : FrameType) (src : MacAddr) (body : Bytes) :
    (viewKind s aid type src body).gated s := by
  unfold viewKind
  split
  · cases aid <;> exact trivial
  · exact internalKind_gated aid type _

theorem actionKind_gated (frame : Bytes) (h : MgmtHdr) : (actionKind s frame h).gated s := by
  unfold actionKind
  cases actionVerdict s frame h with
  | badMic => exact trivial
  | dropUnprotected => exact trivial
  | accept body =>
    dsimp only
    cases actionType body with
    | none => exact trivial
    | some type => exact viewKind_gated none type h.addr2 body

theorem authKind_gated (h : MgmtHdr) : (authKind s h).gated s := by
  unfold authKind
  cases mgmtParseAuth h.body with
  | none => exact trivial
  | some a =>
    dsimp only
    split_ifs <;> first | exact trivial | exact viewKind_gated _ _ _ _

theorem mgmtKind_gated (frame : Bytes) (h : MgmtHdr) : (mgmtKind s frame h).gated s := by
  have assocReq (type : FrameType) : (assocReqKind s h type).gated s := by
    unfold assocReqKind
    split
    · exact trivial
    · exact viewKind_gated none type h.addr2 _
  have assocResp (type : FrameType) : (assocRespKind s h type).gated s := by
    unfold assocRespKind
    cases mgmtParseAssocResp h.body with
    | none => exact trivial
    | some r =>
      dsimp only
      split
      · exact trivial
      · exact viewKind_gated (some r.aid) type h.addr2 _
  unfold mgmtKind
  split_ifs
  all_goals first
    | exact trivial
    | exact actionKind_gated frame h
    | exact authKind_gated h
    | exact assocReq _
    | exact assocResp _

/-- A frame that reaches a handler passed the gates. -/
theorem rxKind_gated (frame : Bytes) : (rxKind s frame).gated s := by
  unfold rxKind
  split
  · exact trivial
  cases (if frame.length ≤ 0xffff then mgmtParseHdr frame else none) with
  | some h => exact mgmtKind_gated frame h
  | none =>
    dsimp only
    split
    · unfold dataKind
      cases eapolOfDot11 s frame with
      | none => exact trivial
      | some found =>
        obtain ⟨src, pdu⟩ := found
        dsimp only
        cases (eapolKeyFields pdu).bind fun k => eapolType k.keyInfo with
        | none => exact trivial
        | some type => exact viewKind_gated none type src pdu
    split
    · exact trivial
    cases FrameType.ofCode (smeIntType (byteAt frame 0)) with
    | none => exact trivial
    | some type => exact internalKind_gated none type frame

theorem demuxGate_state {type : FrameType} {inp : Bytes} (gate : demuxGate s type inp = true) :
    s.state ≠ .failed ∧ (s.state = .connected → type.whenConnected = true) := by
  simp only [demuxGate, Bool.and_eq_true, Bool.or_eq_true, decide_eq_true_eq] at gate
  obtain ⟨⟨_, notFailed⟩, open'⟩ := gate
  refine ⟨notFailed, fun connected => ?_⟩
  rcases open' with other | passes
  · exact absurd connected other
  · exact passes

end Gate

section Internal

/-- Source address and payload of a frame in internal form. -/
def frameSrc (inp : Bytes) : MacAddr := macAt inp 1

def frameBody (inp : Bytes) : Bytes := inp.drop smePfxLen

theorem frameBody_smePfx (type : FrameType) (src : MacAddr) (body : Bytes) :
    frameBody (smePfx type src ++ body) = body :=
  List.drop_left' (smePfx_length type src)

theorem frameSrc_smePfx (type : FrameType) (src : MacAddr) (body : Bytes) :
    frameSrc (smePfx type src ++ body) = src := by
  have field : slice (smePfx type src ++ body) 1 6 = src.bytes := by
    have cut : slice (smePfx type src ++ body) 1 6 = (src.bytes ++ body).take 6 := rfl
    rw [cut]
    exact List.take_left' src.length_eq
  unfold frameSrc macAt
  rw [field]
  exact Octets.of_bytes src

theorem smeIntEnc_code (t : FrameType) :
    smeIntIs (smeIntEnc t) = true ∧ FrameType.ofCode (smeIntType (smeIntEnc t)) = some t := by
  cases t <;> decide

theorem getLe16_low (x y : UInt8) (rest : Bytes) :
    (getLe16 (x :: y :: rest) 0).toNat % 256 = x.toNat := by
  have value : getLe16 (x :: y :: rest) 0 = UInt16.ofNat (x.toNat + 256 * (y.toNat + 256 * 0)) := rfl
  have small : x.toNat < 256 := UInt8.toNat_lt x
  rw [value, UInt16.toNat_ofNat']
  omega

/-- The first octet is the low half of the frame control field. -/
theorem getLe16_byteAt {b : Bytes} (long : 2 ≤ b.length) :
    (getLe16 b 0).toNat % 256 = (byteAt b 0).toNat := by
  match b, long with
  | x :: y :: rest, _ => exact getLe16_low x y rest

/-- An 802.11 management frame is neither a data frame nor in internal form. -/
theorem mgmtParseHdr_exclusive {frame : Bytes} {h : MgmtHdr} (parsed : mgmtParseHdr frame = some h) :
    isDot11Data frame = false ∧ smeIntIs (byteAt frame 0) = false := by
  obtain ⟨fc, _, version, type, long, _⟩ := mgmtParseHdr_fc parsed
  rw [fc] at version type
  have low := getLe16_byteAt (b := frame) (by omega)
  have version : (getLe16 frame 0).toNat % 4 = 0 := by
    have := congrArg UInt16.toNat version
    simp only [UInt16.toNat_and] at this
    exact (Nat.and_two_pow_sub_one_eq_mod _ 2).symm.trans this
  have type : (getLe16 frame 0).toNat / 4 % 4 = 0 := by
    have := congrArg UInt8.toNat type
    simp only [fcType, UInt16.toNat_toUInt8, UInt16.toNat_and, UInt16.toNat_shiftRight] at this
    have mask : ((getLe16 frame 0).toNat >>> 2) &&& 3 = (getLe16 frame 0).toNat / 4 % 4 :=
      (Nat.and_two_pow_sub_one_eq_mod _ 2).trans (by rw [Nat.shiftRight_eq_div_pow])
    have value : (((getLe16 frame 0).toNat >>> 2) &&& 3) % 256 = 0 := this
    omega
  constructor
  · have other : (byteAt frame 0 >>> 2) &&& 0x03 ≠ 2 := by
      intro data
      have := congrArg UInt8.toNat data
      simp only [UInt8.toNat_and, UInt8.toNat_shiftRight] at this
      have mask : ((byteAt frame 0).toNat >>> 2) &&& 3 = (byteAt frame 0).toNat / 4 % 4 :=
        (Nat.and_two_pow_sub_one_eq_mod _ 2).trans (by rw [Nat.shiftRight_eq_div_pow])
      have value : ((byteAt frame 0).toNat >>> 2) &&& 3 = 2 := this
      omega
    simp [isDot11Data, other]
  · have other : byteAt frame 0 &&& 0x03 ≠ 0x03 := by
      intro tag
      have := congrArg UInt8.toNat tag
      simp only [UInt8.toNat_and] at this
      have mask : (byteAt frame 0).toNat &&& 3 = (byteAt frame 0).toNat % 4 :=
        Nat.and_two_pow_sub_one_eq_mod _ 2
      have value : (byteAt frame 0).toNat &&& 3 = 3 := this
      omega
    simp [smeIntIs, other]

/-- A management frame that is looked at is classified by its header. -/
theorem rxKind_mgmt {s : Sme} {frame : Bytes} {h : MgmtHdr} (parsed : mgmtParseHdr frame = some h)
    (live : s.state ≠ .failed) (short : frame.length ≤ 0xffff) :
    rxKind s frame = mgmtKind s frame h := by
  have nonempty : frame.length ≠ 0 := by
    obtain ⟨_, _, _, _, long, _⟩ := mgmtParseHdr_fc parsed
    omega
  unfold rxKind
  rw [if_neg (by simp [nonempty, live]), if_pos short, parsed]

/-- In the failed state, or when it is too long, a management frame is ignored. -/
theorem rxKind_mgmt_ignored {s : Sme} {frame : Bytes} {h : MgmtHdr}
    (parsed : mgmtParseHdr frame = some h) (out : s.state = .failed ∨ frame.length > 0xffff) :
    rxKind s frame = .ignored := by
  obtain ⟨noData, noInternal⟩ := mgmtParseHdr_exclusive parsed
  unfold rxKind
  split
  · rfl
  rename_i live
  have long : ¬frame.length ≤ 0xffff := by
    rcases out with failed | long
    · exact absurd (Or.inr failed) live
    · omega
  rw [if_neg long]
  dsimp only
  rw [noData, noInternal]
  simp

/-- A frame in internal form is never taken for an 802.11 frame. -/
theorem internal_exclusive {inp : Bytes} (tagged : smeIntIs (byteAt inp 0) = true) :
    (if inp.length ≤ 0xffff then mgmtParseHdr inp else none) = none ∧ isDot11Data inp = false := by
  have bits : byteAt inp 0 &&& 0x03 = 0x03 := of_decide_eq_true tagged
  constructor
  · cases parsed : mgmtParseHdr inp with
    | none => exact ite_self none
    | some h =>
      have external := (mgmtParseHdr_exclusive parsed).2
      rw [tagged] at external
      cases external
  · unfold isDot11Data
    rw [bits]
    simp

theorem rxKind_internal {s : Sme} {type : FrameType} {inp : Bytes}
    (long : smePfxLen ≤ inp.length) (tag : byteAt inp 0 = smeIntEnc type)
    (live : s.state ≠ .failed) : rxKind s inp = internalKind s none type inp := by
  obtain ⟨isInternal, code⟩ := smeIntEnc_code type
  obtain ⟨noHdr, noData⟩ := @internal_exclusive inp (by rw [tag]; exact isInternal)
  have nonempty : ¬(inp.length = 0 ∨ s.state = .failed) := by
    unfold smePfxLen at long
    rintro (empty | failed)
    · omega
    · exact live failed
  unfold rxKind
  rw [if_neg nonempty, noHdr]
  dsimp only
  rw [noData, if_neg (by decide), tag, isInternal, code]
  rw [if_neg (by simp [Nat.not_lt.2 long])]

end Internal

end Rf2a4m1
