import Rf2a4m1.Sme.Notes

/-!
# Frames that concern no key

What is sent outside the exchange of keys is never read as part of it, and
receiving it leaves the keys alone.
-/

set_option autoImplicit false

namespace Rf2a4m1

open ByteString

section Reading

variable {t : Sme} {frame : Bytes}

theorem internalKind_keyless {type : FrameType} (outside : type.keyless = true) (inp : Bytes) :
    (internalKind t none type inp).keyless = true := by
  unfold internalKind
  split
  · exact outside
  · rfl

theorem rxKind_internal_keyless {type : FrameType} (outside : type.keyless = true)
    (long : smePfxLen ≤ frame.length) (tag : byteAt frame 0 = smeIntEnc type) :
    (rxKind t frame).keyless = true := by
  by_cases failed : t.state = .failed
  · unfold rxKind
    rw [if_pos (Or.inr failed)]
    rfl
  · rw [rxKind_internal long tag failed]
    exact internalKind_keyless outside frame

theorem actionType_keyless {body : Bytes} {type : FrameType} (known : actionType body = some type) :
    type.keyless = true := by
  unfold actionType at known
  split_ifs at known
  all_goals
    cases known
    rfl

theorem actionKind_keyless (h : MgmtHdr) : (actionKind t frame h).keyless = true := by
  unfold actionKind
  cases actionVerdict t frame h with
  | badMic => rfl
  | dropUnprotected => rfl
  | accept body =>
    dsimp only
    cases known : actionType body with
    | none => rfl
    | some type =>
      dsimp only
      unfold viewKind
      split
      · rfl
      · exact internalKind_keyless (actionType_keyless known) _

/-- The first octet of an Action frame settles its subtype. -/
theorem mgmtParseHdr_action {h : MgmtHdr} (tag : byteAt frame 0 = 0xd0)
    (parsed : mgmtParseHdr frame = some h) : h.subtype = 13 := by
  obtain ⟨fc, subtype, _, _, long, _⟩ := mgmtParseHdr_fc parsed
  have low := getLe16_byteAt (b := frame) (by omega)
  rw [tag] at low
  have octet : (getLe16 frame 0).toNat % 256 = 208 := low
  rw [subtype, fc]
  apply UInt8.toNat_inj.1
  unfold fcSubtype
  rw [UInt16.toNat_toUInt8, UInt16.toNat_and, UInt16.toNat_shiftRight]
  have mask : ((getLe16 frame 0).toNat >>> 4) &&& 15 = (getLe16 frame 0).toNat / 16 % 16 :=
    (Nat.and_two_pow_sub_one_eq_mod _ 4).trans (by rw [Nat.shiftRight_eq_div_pow])
  change (((getLe16 frame 0).toNat >>> 4) &&& 15) % 256 = 13
  omega

theorem rxKind_action_keyless (tag : byteAt frame 0 = 0xd0) : (rxKind t frame).keyless = true := by
  unfold rxKind
  split
  · rfl
  cases parsed : (if frame.length ≤ 0xffff then mgmtParseHdr frame else none) with
  | some h =>
    have parsed : mgmtParseHdr frame = some h := by
      split at parsed
      · exact parsed
      · cases parsed
    dsimp only
    unfold mgmtKind
    rw [mgmtParseHdr_action tag parsed, if_neg (by decide), if_pos (by decide)]
    exact actionKind_keyless h
  | none =>
    dsimp only
    have noData : isDot11Data frame = false := by
      unfold isDot11Data
      rw [tag]
      exact Bool.and_false _
    rw [noData, if_neg (by decide), tag, if_pos (Or.inr (by decide))]
    rfl

end Reading

/-- The keys stay, and what is sent is not about them. -/
structure Keyless (env : Env) (s t : Sme) : Prop where
  held : t.held = s.held
  sends : Sends (Means env s.self .keyless) s.toSmeTx t.toSmeTx

namespace Keyless

variable {env : Env} {s t u : Sme}

theorem quiet (held : t.held = s.held) (sent : t.sent = s.sent) : Keyless env s t where
  held := held
  sends := .of_eq sent

theorem refl (s : Sme) : Keyless env s s := quiet rfl rfl

theorem trans (first : Keyless env s t) (second : Keyless env t u) : Keyless env s u where
  held := second.held.trans first.held
  sends := by
    have sameSelf : t.self = s.self := congrArg Held.self first.held
    have later := second.sends
    rw [sameSelf] at later
    exact first.sends.trans later

/-- A first change that touches no key and sends nothing may be left out. -/
theorem after (second : Keyless env t u) (held : t.held = s.held) (sent : t.sent = s.sent) :
    Keyless env s u :=
  (quiet held sent).trans second

end Keyless

section Send

variable (env : Env) (s : Sme)

theorem txInt_keyless {type : FrameType} (outside : type.keyless = true) (payload : Bytes) :
    Keyless env s (txInt s type payload) where
  held := rfl
  sends := by
    apply Sends.raw
    intro t
    right
    refine rxKind_internal_keyless outside ?_ rfl
    rw [List.length_append, smePfx_length]
    exact Nat.le_add_right _ _

theorem txProt_keyless {type : FrameType} (outside : type.keyless = true) {hdr : Bytes}
    (rest : Bytes) (start : hdr = smePfx type s.self ++ rest) (payload : Bytes) (ac tid : UInt8) :
    Keyless env s (txProt env s hdr payload ac tid) where
  held := rfl
  sends := by
    rw [start]
    refine (Sends.of_eq rfl).trans (Sends.push fun t => Or.inr ?_)
    obtain ⟨tag, long⟩ := dataFrame_tag env (tk s.ptk) type s.self rest payload (s.dataTxPn + 1)
    exact rxKind_internal_keyless outside long tag

theorem ccmpEncrypt_head {cap : Nat} {hdr payload : Bytes} {key : Octets 16} {keyId : UInt8}
    {pn : Nat} {frame : Bytes} (sealed : ccmpEncrypt cap hdr payload key keyId pn = some frame) :
    byteAt frame 0 = byteAt hdr 0 := by
  unfold ccmpEncrypt at sealed
  split at sealed
  · cases sealed
  rename_i long
  cases hdr with
  | nil => exact absurd (Or.inr (by decide)) long
  | cons a rest =>
    cases sealed
    rfl

theorem actionTx_sends (body : Bytes) :
    Sends (Means env s.self .keyless) s.toSmeTx (actionTx s body) := by
  have read (frame : Bytes) (tag : byteAt frame 0 = 0xd0) : Means env s.self .keyless frame :=
    fun _ => Or.inr (rxKind_action_keyless tag)
  have spent : Sends (Means env s.self .keyless) s.toSmeTx s.toSmeTx.nextSeq.2 := .of_eq rfl
  unfold actionTx
  dsimp only
  split
  · exact spent
  split
  · refine (Sends.of_eq rfl).trans (.rawOpt fun frame sealed => read frame ?_)
    exact (ccmpEncrypt_head sealed).trans rfl
  split
  · exact spent
  · exact spent.trans (.raw (read _ rfl))

theorem txActionDot11_keyless (body : Bytes) : Keyless env s (txActionDot11 s body) where
  held := rfl
  sends := actionTx_sends env s body

theorem saQueryTx_keyless (body : Bytes) : Keyless env s (saQueryTx s body) := by
  unfold saQueryTx
  split
  · exact .refl s
  · exact txActionDot11_keyless env s body

end Send

section DirectLink

variable (env : Env) (s : Sme)

theorem tdlsEncapTx_keyless (body : Bytes) : Keyless env s (tdlsEncapTx env s body) := by
  unfold tdlsEncapTx
  split
  · exact .refl s
  · exact txProt_keyless env s rfl [] (List.append_nil _).symm _ 1 0xff

theorem tdlsAnswer_keyless (r : TdlsPeer × Option Bytes) : Keyless env s (tdlsAnswer env s r) := by
  unfold tdlsAnswer
  split
  · exact .quiet rfl rfl
  · exact (tdlsEncapTx_keyless env _ _).after rfl rfl

theorem tdlsOnReq_keyless (body : Bytes) : Keyless env s (tdlsOnReq env s body) := by
  have respond (req : TdlsSetupReq) : Keyless env s (tdlsRespond s req) := by
    unfold tdlsRespond
    split
    · exact .quiet rfl rfl
    · exact .refl s
  unfold tdlsOnReq
  split
  · exact .refl s
  rename_i req _
  split
  · exact .refl s
  · have drawn : Keyless env (tdlsRespond s req)
        (smeGenMaterial env (tdlsRespond s req) 32 ((tdlsRespond s req).nonceSalt ^^^ 0x7d15)).2 :=
      .quiet rfl rfl
    exact ((respond req).trans drawn).trans (tdlsAnswer_keyless env _ _)

theorem tdlsStaDeliver_keyless (body : Bytes) : Keyless env s (tdlsStaDeliver env s body) := by
  unfold tdlsStaDeliver
  split
  · exact .refl s
  split
  · exact tdlsOnReq_keyless env s body
  split
  · exact tdlsAnswer_keyless env s _
  split
  · exact .quiet rfl rfl
  split
  · dsimp only
    split
    · exact .quiet rfl rfl
    · exact .quiet rfl rfl
  · exact .refl s

theorem routeData_keyless (sib : Siblings) (payload : Bytes) :
    Keyless env s (routeData env sib s payload).1 := by
  unfold routeData
  split
  · split
    · split
      · exact .refl s
      · exact .quiet rfl rfl
    · exact tdlsStaDeliver_keyless env s _
  split
  · exact .refl s
  · exact .quiet rfl rfl

theorem rxData_keyless (sib : Siblings) (inp : Bytes) : Keyless env s (rxData env sib s inp).1 := by
  unfold rxData
  split
  · exact .refl s
  split
  · exact .quiet rfl rfl
  dsimp only
  split
  · exact .quiet rfl rfl
  · exact (routeData_keyless env _ sib _).after rfl rfl

theorem rxQosData_keyless (inp : Bytes) : Keyless env s (rxQosData env s inp) := by
  unfold rxQosData
  split
  · exact .refl s
  dsimp only
  split
  · exact .refl s
  split
  · exact .quiet rfl rfl
  split
  · exact .quiet rfl rfl
  · exact .quiet rfl rfl

end DirectLink

section Actions

variable (env : Env) (s : Sme) (body : Bytes)

theorem saQueryRespond_keyless : Keyless env s (saQueryRespond s body) := by
  unfold saQueryRespond
  split
  · unfold saQueryStaRespond
    split
    · exact .refl s
    · exact saQueryTx_keyless env s _
  · exact .refl s

theorem apOnSaQueryResp_keyless : Keyless env s (apOnSaQueryResp s body) := by
  unfold apOnSaQueryResp
  dsimp only
  split
  · exact .quiet rfl rfl
  · exact .refl s

theorem staOnSaQueryResp_keyless : Keyless env s (staOnSaQueryResp s body) := by
  unfold staOnSaQueryResp
  dsimp only
  split
  · exact .quiet rfl rfl
  · exact .refl s

theorem baApOnAddbaReq_keyless : Keyless env s (baApOnAddbaReq s body) := by
  unfold baApOnAddbaReq
  split
  · exact .refl s
  dsimp only
  split
  · exact .quiet rfl rfl
  · exact (txActionDot11_keyless env _ _).after rfl rfl

theorem staOnAddbaRsp_keyless : Keyless env s (staOnAddbaRsp s body) := by
  unfold staOnAddbaRsp
  split
  · exact .refl s
  · exact .quiet rfl rfl

theorem addtsApOnReq_keyless : Keyless env s (addtsApOnReq s body) := by
  unfold addtsApOnReq
  split
  · exact .refl s
  dsimp only
  split
  · exact .quiet rfl rfl
  · exact (txInt_keyless env _ rfl _).after rfl rfl

theorem addtsStaOnResp_keyless : Keyless env s (addtsStaOnResp s body) := by
  unfold addtsStaOnResp
  split
  · exact .refl s
  · exact .quiet rfl rfl

theorem addtsOnDelts_keyless : Keyless env s (addtsOnDelts s body) := by
  unfold addtsOnDelts
  split
  · exact .refl s
  · exact .quiet rfl rfl

end Actions

section Receive

variable (env : Env) (sib : Siblings) (s : Sme)

theorem apDemux_keyless {type : FrameType} (outside : type.keyless = true) (src : MacAddr)
    (inp body : Bytes) : Keyless env s (apDemux env sib s type src inp body).1 := by
  unfold apDemux
  split
  · exact rxData_keyless env s sib inp
  · cases outside
  unfold apHandle
  dsimp only
  split
  all_goals first
    | exact absurd outside Bool.false_ne_true
    | exact rxQosData_keyless env s inp
    | exact baApOnAddbaReq_keyless env s body
    | exact addtsApOnReq_keyless env s body
    | exact addtsOnDelts_keyless env s body
    | exact apOnSaQueryResp_keyless env s body
    | exact saQueryRespond_keyless env s body
    | exact .refl s

theorem staDemux_keyless {type : FrameType} (outside : type.keyless = true) (src : MacAddr)
    (inp body : Bytes) : Keyless env s (staDemux env sib s type src inp body).1 := by
  unfold staDemux
  split
  · exact rxData_keyless env s sib inp
  unfold staHandle
  dsimp only
  split
  all_goals first
    | exact absurd outside Bool.false_ne_true
    | exact rxQosData_keyless env s inp
    | exact staOnAddbaRsp_keyless env s body
    | exact addtsStaOnResp_keyless env s body
    | exact addtsOnDelts_keyless env s body
    | exact saQueryRespond_keyless env s body
    | exact staOnSaQueryResp_keyless env s body
    | exact .refl s

/-- A frame outside the exchange leaves the keys alone; the answer to a probe apart, so does
what is sent in return. -/
theorem rxAct_keyless (frame : Bytes) {k : RxKind} (outside : k.keyless = true) :
    Keyless env s (rxAct env sib s frame k).1 ∨
      (rxAct env sib s frame k).1.held = s.held ∧
        Sends (Means env s.self .announcement) s.toSmeTx (rxAct env sib s frame k).1.toSmeTx := by
  cases k with
  | ignored => exact Or.inl (.refl s)
  | badMic => exact Or.inl (.quiet rfl rfl)
  | unprotected => exact Or.inl (.quiet rfl rfl)
  | probed src => exact Or.inr ⟨rfl, txMgmtTo_probeResp s src []⟩
  | handle aid type inp =>
    cases aid with
    | some a => cases outside
    | none =>
      left
      have outside : type.keyless = true := outside
      unfold rxAct smeHandle
      dsimp only
      split
      · exact apDemux_keyless env sib s outside _ _ _
      · exact staDemux_keyless env sib s outside _ _ _
  | _ => cases outside

end Receive

section Host

variable (env : Env) (s : Sme)

/-- What the host may call at any time without touching the exchange. -/
def SmeOp.keyless : SmeOp → Bool
  | .dataTx _ | .dataTxQos _ _ | .addtsRequest _ _ _ _ | .delts _ => true
  | .saQueryTick | .baEstablish _ => true
  | _ => false

theorem smeDataTx_keyless (payload : Bytes) : Keyless env s (smeDataTx env s payload).1 := by
  unfold smeDataTx
  split
  · exact .refl s
  split
  · exact .refl s
  · exact txProt_keyless env s rfl [] (List.append_nil _).symm payload 1 0xff

theorem smeDataTxQos_keyless (payload : Bytes) (up : UInt8) :
    Keyless env s (smeDataTxQos env s payload up).1 := by
  unfold smeDataTxQos
  split
  · exact .refl s
  split
  · exact .refl s
  split
  · exact smeDataTx_keyless env s payload
  · exact txProt_keyless env s rfl (qosHdr up) rfl payload _ _

theorem smeAddtsRequest_keyless (tsid ac direction : UInt8) (mediumTime : UInt16) :
    Keyless env s (smeAddtsRequest s tsid ac direction mediumTime).1 := by
  unfold smeAddtsRequest
  split
  · exact .refl s
  split
  · exact .refl s
  dsimp only
  split
  · exact .quiet rfl rfl
  · exact (txInt_keyless env _ rfl _).after rfl rfl

theorem smeDelts_keyless (tsid : UInt8) : Keyless env s (smeDelts s tsid).1 := by
  unfold smeDelts
  split
  · exact .refl s
  split
  · exact .refl s
  dsimp only
  split
  · exact .quiet rfl rfl
  · exact (txInt_keyless env _ rfl _).after rfl rfl

theorem smeSaQueryTick_keyless : Keyless env s (smeSaQueryTick s) := by
  unfold smeSaQueryTick
  split
  · exact .refl s
  dsimp only
  split
  · exact .quiet rfl rfl
  · exact (saQueryTx_keyless env _ _).after rfl rfl

theorem smeBaEstablish_keyless (tid : UInt8) : Keyless env s (smeBaEstablish s tid).1 := by
  unfold smeBaEstablish
  split
  · exact .refl s
  split
  · exact .refl s
  · exact ((txActionDot11_keyless env _ _).after rfl rfl).trans (.quiet rfl rfl)

theorem smeStep_keyless {op : SmeOp} (outside : op.keyless = true) :
    Keyless env s (smeStep env s op) := by
  cases op with
  | dataTx payload => exact smeDataTx_keyless env s payload
  | dataTxQos payload up => exact smeDataTxQos_keyless env s payload up
  | addtsRequest tsid ac direction mediumTime =>
    exact smeAddtsRequest_keyless env s tsid ac direction mediumTime
  | delts tsid => exact smeDelts_keyless env s tsid
  | saQueryTick => exact smeSaQueryTick_keyless env s
  | baEstablish tid => exact smeBaEstablish_keyless env s tid
  | _ => cases outside

end Host

end Rf2a4m1
