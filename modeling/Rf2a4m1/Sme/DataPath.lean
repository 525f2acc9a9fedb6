import Rf2a4m1.Sme.Dispatch

/-!
# What a data frame does to its receiver

Slot and packet number are read off the frame. Whether it is taken depends on
the MIC and on the replay window, and what it then delivers is what the sender
put in. The only frame sent in return belongs to a direct link.
-/

set_option autoImplicit false

namespace Rf2a4m1

open ByteString

/-- Replay slot and packet number of a data frame in internal form. -/
def frameSlot (inp : Bytes) : Option (Nat × Nat) :=
  if byteAt inp 0 = smeIntEnc .data then some (pnReplayNonQos, getPn48 inp smePfxLen)
  else if byteAt inp 0 = smeIntEnc .qosData then
    some ((qosCtrlUnpack (getLe16 inp smePfxLen)).tid.toNat, getPn48 inp (smePfxLen + 2))
  else none

/-- What follows header and packet number, up to the MIC. -/
def framePayload (inp : Bytes) : Bytes :=
  if byteAt inp 0 = smeIntEnc .data then (dataMsg inp).drop (smePfxLen + 6)
  else (dataMsg inp).drop (smePfxLen + 2 + 6)

/-- Long enough for its header, packet number and MIC; QoS data also not too long. -/
def frameFits (inp : Bytes) : Bool :=
  if byteAt inp 0 = smeIntEnc .data then decide (smePfxLen + 6 + 16 ≤ inp.length)
  else decide (smePfxLen + 2 + 6 + 16 ≤ inp.length) &&
    decide ((framePayload inp).length ≤ smeDataMax)

/-- The slot and packet number under which a frame is taken, if it is. -/
def smeTakes (env : Env) (s : Sme) (inp : Bytes) : Option (Nat × Nat) :=
  (frameSlot inp).filter fun p =>
    s.state = .connected && frameFits inp && dataMicOk env s inp &&
      pnReplayOk s.dataRxReplay p.1 p.2

/-- State, keys and address, which no data frame touches. -/
structure SameLink (s t : Sme) : Prop where
  state : t.state = s.state
  ptk : t.ptk = s.ptk
  role : t.role = s.role

/-- The frames handed to the HAL since `s`, oldest first. -/
def newSent (s t : Sme) : List Bytes :=
  ((t.sent.take (t.sent.length - s.sent.length)).map TxFrame.data).reverse

/-- Nothing was sent, or one encapsulated direct link frame under the pairwise key. -/
def AnswersDirect (env : Env) (s t : Sme) : Prop :=
  newSent s t = [] ∨ ∃ pn out, tdlsIsEncap (tdlsSnapHdr ++ out) = true ∧
    newSent s t = [dataFrame env (tk s.ptk) (smePfx .data s.self) pn (tdlsSnapHdr ++ out)]

section Sent

variable {env : Env} {s t : Sme}

theorem newSent_append {new : List TxFrame} (h : t.sent = new ++ s.sent) :
    newSent s t = (new.map TxFrame.data).reverse := by
  unfold newSent
  rw [h, List.length_append, Nat.add_sub_cancel, List.take_left]

theorem newSent_same (h : t.sent = s.sent) : newSent s t = [] := @newSent_append s t [] h

theorem newSent_cons {f : TxFrame} (h : t.sent = f :: s.sent) : newSent s t = [f.data] :=
  @newSent_append s t [f] h

/-- Protecting a payload sends one frame when a HAL is bound. -/
theorem txProt_newSent (same : t.sent = s.sent) (hdr payload : Bytes) (ac tid : UInt8) :
    newSent s (txProt env t hdr payload ac tid) =
      if t.halBound then [dataFrame env (tk t.ptk) hdr (t.dataTxPn + 1) payload] else [] := by
  by_cases bound : t.halBound = true
  · rw [if_pos bound]
    have sent : (txProt env t hdr payload ac tid).sent =
        { data := dataFrame env (tk t.ptk) hdr (t.dataTxPn + 1) payload, ac := ac, tid := tid,
          prot := some (tk t.ptk, t.dataTxPn + 1) } :: s.sent := by
      unfold txProt SmeTx.push
      dsimp only
      rw [if_pos bound, same]
    rw [newSent_cons sent]
  · rw [if_neg bound]
    refine newSent_same ?_
    unfold txProt SmeTx.push
    dsimp only
    rw [if_neg bound, same]

end Sent

section Tdls

variable {env : Env} {s : Sme}

/-- A change of the direct link, of nonces drawn and of what was sent. -/
structure DirectStep (env : Env) (s t : Sme) : Prop where
  rest : ∃ (link : SmeTdls) (tx : SmeTx), t = { s with toSmeTdls := link, toSmeTx := tx }
  answers : AnswersDirect env s t

theorem tdlsElementsBuild_head {cap : Nat} {w out : Bytes} {ftie : TdlsFtie} {life : UInt32}
    {lid : TdlsLinkId} (built : tdlsElementsBuild cap w ftie life lid = some out) :
    ∃ rest, out = w ++ rest := by
  simp only [tdlsElementsBuild, tdlsAppend, Option.bind_eq_some_iff, Option.map_eq_some_iff] at built
  obtain ⟨_, ⟨a, _, rfl⟩, _, ⟨b, _, rfl⟩, c, _, rfl⟩ := built
  exact ⟨a ++ (b ++ c), by simp only [List.append_assoc]⟩

theorem tdlsIsEncap_encHdr (action : UInt8) (rest : Bytes) :
    tdlsIsEncap (tdlsSnapHdr ++ (tdlsEncHdr action ++ rest)) = true := by
  simp [tdlsIsEncap, tdlsSnapHdr, tdlsEncHdr, slice, byteAt]

/-- The direct link answers with encapsulated frames only. -/
theorem tdlsOnSetupReq_encap {p : TdlsPeer} {inp out : Bytes} {anonce : Octets 32} {cap : Nat}
    (h : (tdlsOnSetupReq p inp anonce cap).2 = some out) :
    tdlsIsEncap (tdlsSnapHdr ++ out) = true := by
  unfold tdlsOnSetupReq at h
  split at h
  · cases h
  split at h
  · cases h
  split at h
  · cases h
  dsimp only at h
  split at h
  · cases h
  rename_i built
  cases h
  unfold tdlsSetupRespBuild at built
  split at built
  · cases built
  obtain ⟨rest, rfl⟩ := tdlsElementsBuild_head built
  rw [List.append_assoc, List.append_assoc, List.append_assoc]
  exact tdlsIsEncap_encHdr 1 _

theorem tdlsOnSetupResp_encap {p : TdlsPeer} {inp out : Bytes} {cap : Nat}
    (h : (tdlsOnSetupResp p inp cap).2 = some out) :
    tdlsIsEncap (tdlsSnapHdr ++ out) = true := by
  unfold tdlsOnSetupResp at h
  iterate 5
    split at h
    · cases h
  dsimp only at h
  split at h
  · cases h
  split at h
  · cases h
  rename_i built
  cases h
  unfold tdlsSetupConfirmBuild at built
  split at built
  · cases built
  obtain ⟨rest, rfl⟩ := tdlsElementsBuild_head built
  rw [List.append_assoc, List.append_assoc]
  exact tdlsIsEncap_encHdr 2 _

theorem DirectStep.quiet (link : SmeTdls) (draws : Nat) :
    DirectStep env s { s with toSmeTdls := link, draws := draws } where
  rest := ⟨link, { s.toSmeTx with draws := draws }, rfl⟩
  answers := Or.inl (newSent_same rfl)

theorem tdlsAnswer_direct (link : SmeTdls) (draws : Nat) (r : TdlsPeer × Option Bytes)
    (encap : ∀ out, r.2 = some out → tdlsIsEncap (tdlsSnapHdr ++ out) = true) :
    DirectStep env s (tdlsAnswer env { s with toSmeTdls := link, draws := draws } r) := by
  unfold tdlsAnswer
  split
  · exact DirectStep.quiet { link with tdls := r.1 } draws
  · rename_i out some
    unfold tdlsEncapTx
    split
    · exact DirectStep.quiet { link with tdls := r.1, tdlsRx := link.tdlsRx + 1 } draws
    · refine ⟨⟨_, _, rfl⟩, ?_⟩
      unfold AnswersDirect
      rw [txProt_newSent (by rfl)]
      by_cases bound : s.halBound = true
      · exact Or.inr ⟨_, out, encap out some, if_pos bound⟩
      · exact Or.inl (if_neg bound)

theorem tdlsStaDeliver_direct (body : Bytes) : DirectStep env s (tdlsStaDeliver env s body) := by
  have same : DirectStep env s s := DirectStep.quiet s.toSmeTdls s.draws
  unfold tdlsStaDeliver
  split
  · exact same
  split
  · unfold tdlsOnReq
    split
    · exact same
    rename_i req _
    split
    · exact same
    have respond : ∃ link : SmeTdls, tdlsRespond s req = { s with toSmeTdls := link } := by
      unfold tdlsRespond
      split <;> exact ⟨_, rfl⟩
    obtain ⟨link, respond⟩ := respond
    rw [respond]
    exact tdlsAnswer_direct link (s.draws + 1) _ fun out some => tdlsOnSetupReq_encap some
  split
  · exact tdlsAnswer_direct s.toSmeTdls s.draws _ fun out some => tdlsOnSetupResp_encap some
  split
  · exact DirectStep.quiet _ s.draws
  split
  · dsimp only
    split
    · exact DirectStep.quiet _ s.draws
    · exact DirectStep.quiet _ s.draws
  · exact same

end Tdls

section Receive

variable {env : Env} {sib : Siblings} {s : Sme} {inp : Bytes}

theorem smeRx_data (long : smePfxLen ≤ inp.length) (tag : byteAt inp 0 = smeIntEnc .data)
    (up : s.state = .connected) : smeRx env sib s inp = rxData env sib s inp := by
  have gate : demuxGate s .data inp = true := by
    simp [demuxGate, long, up, FrameType.whenConnected]
  rw [smeRx_eq, rxKind_internal long tag (by rw [up]; decide)]
  unfold internalKind
  rw [if_pos gate]
  simp only [rxAct, smeHandle]
  split <;> rfl

theorem smeRx_qosData (long : smePfxLen ≤ inp.length) (tag : byteAt inp 0 = smeIntEnc .qosData)
    (up : s.state = .connected) : smeRx env sib s inp = (rxQosData env s inp, sib) := by
  have gate : demuxGate s .qosData inp = true := by
    simp [demuxGate, long, up, FrameType.whenConnected]
  rw [smeRx_eq, rxKind_internal long tag (by rw [up]; decide)]
  unfold internalKind
  rw [if_pos gate]
  simp only [rxAct, smeHandle]
  split <;> rfl

/-- A frame that is not taken is at most counted. -/
def OnlyCounts (s t : Sme) : Prop :=
  ∃ badMic dataReplay, t = { s with badMic := badMic, dataReplay := dataReplay }

/-- A frame that is taken moves its slot on, and what it delivers is its payload. -/
structure TakenStep (env : Env) (s t : Sme) (inp : Bytes) (slot pn : Nat) : Prop where
  link : SameLink s t
  replay : t.dataRxReplay = pnReplayCommit s.dataRxReplay slot pn
  answers : AnswersDirect env s t
  delivered : t.dataRx = s.dataRx ∨ t.rxData = framePayload inp ∧
    (byteAt inp 0 = smeIntEnc .data → tdlsIsEncap (framePayload inp) = false)

theorem rxData_takes (up : s.state = .connected) (tag : byteAt inp 0 = smeIntEnc .data) :
    smeTakes env s inp = none ∧ OnlyCounts s (rxData env sib s inp).1 ∨
      ∃ slot pn, smeTakes env s inp = some (slot, pn) ∧
        TakenStep env s (rxData env sib s inp).1 inp slot pn := by
  have slot : frameSlot inp = some (pnReplayNonQos, getPn48 inp smePfxLen) := if_pos tag
  have payload : framePayload inp = (dataMsg inp).drop (smePfxLen + 6) := if_pos tag
  have fits : frameFits inp = decide (smePfxLen + 6 + 16 ≤ inp.length) := if_pos tag
  unfold smeTakes rxData
  rw [slot, fits]
  by_cases short : inp.length < smePfxLen + 6 + 16
  · rw [if_pos (Or.inr short)]
    exact Or.inl ⟨by simp [Nat.not_le.2 short], _, _, rfl⟩
  rw [if_neg (by simp [up, short])]
  cases mic : dataMicOk env s inp with
  | false => exact Or.inl ⟨by simp, _, _, rfl⟩
  | true =>
    rw [if_neg (by simp)]
    dsimp only
    cases fresh : pnReplayOk s.dataRxReplay pnReplayNonQos (getPn48 inp smePfxLen) with
    | false => exact Or.inl ⟨by simp [fresh], _, _, rfl⟩
    | true =>
      rw [if_neg (by simp)]
      refine Or.inr ⟨pnReplayNonQos, getPn48 inp smePfxLen, by
        simp [up, fresh, Nat.le_of_not_lt short], ?_⟩
      unfold routeData
      cases encap : tdlsIsEncap ((dataMsg inp).drop (smePfxLen + 6)) with
      | true =>
        rw [if_pos rfl]
        split
        · split <;> exact ⟨⟨rfl, rfl, rfl⟩, rfl, Or.inl (newSent_same rfl), Or.inl rfl⟩
        · obtain ⟨⟨link, tx, eq⟩, answers⟩ := @tdlsStaDeliver_direct env
            { s with dataRxReplay := pnReplayCommit s.dataRxReplay pnReplayNonQos
                                       (getPn48 inp smePfxLen) }
            (((dataMsg inp).drop (smePfxLen + 6)).drop 8)
          refine ⟨?_, ?_, answers, Or.inl ?_⟩
          · dsimp only
            rw [eq]
            exact ⟨rfl, rfl, rfl⟩
          · dsimp only
            rw [eq]
          · dsimp only
            rw [eq]
      | false =>
        rw [if_neg (by simp)]
        split
        · exact ⟨⟨rfl, rfl, rfl⟩, rfl, Or.inl (newSent_same rfl), Or.inl rfl⟩
        · refine ⟨⟨rfl, rfl, rfl⟩, rfl, Or.inl (newSent_same rfl), Or.inr ⟨payload.symm, ?_⟩⟩
          rw [payload]
          exact fun _ => encap

theorem rxQosData_takes (up : s.state = .connected) (tag : byteAt inp 0 = smeIntEnc .qosData) :
    smeTakes env s inp = none ∧ OnlyCounts s (rxQosData env s inp) ∨
      ∃ slot pn, smeTakes env s inp = some (slot, pn) ∧
        TakenStep env s (rxQosData env s inp) inp slot pn := by
  have other : byteAt inp 0 ≠ smeIntEnc .data := by
    rw [tag]
    decide
  have slot : frameSlot inp = some ((qosCtrlUnpack (getLe16 inp smePfxLen)).tid.toNat,
      getPn48 inp (smePfxLen + 2)) := by
    unfold frameSlot
    rw [if_neg other, if_pos tag]
  have payload : framePayload inp = (dataMsg inp).drop (smePfxLen + 2 + 6) := if_neg other
  have fits : frameFits inp = (decide (smePfxLen + 2 + 6 + 16 ≤ inp.length) &&
      decide (((dataMsg inp).drop (smePfxLen + 2 + 6)).length ≤ smeDataMax)) := by
    unfold frameFits
    rw [if_neg other, payload]
  unfold smeTakes rxQosData
  rw [slot, fits]
  by_cases short : inp.length < smePfxLen + 2 + 6 + 16
  · rw [if_pos (Or.inr short)]
    exact Or.inl ⟨by simp [Nat.not_le.2 short], _, _, rfl⟩
  rw [if_neg (by simp [up, short])]
  dsimp only
  by_cases big : ((dataMsg inp).drop (smePfxLen + 2 + 6)).length > smeDataMax
  · rw [if_pos big]
    exact Or.inl ⟨by rw [decide_eq_false (Nat.not_le.2 big)]; simp, _, _, rfl⟩
  rw [if_neg big, decide_eq_true (Nat.le_of_not_lt big), decide_eq_true (Nat.le_of_not_lt short)]
  cases mic : dataMicOk env s inp with
  | false => exact Or.inl ⟨by simp, _, _, rfl⟩
  | true =>
    rw [if_neg (by simp)]
    cases fresh : pnReplayOk s.dataRxReplay (qosCtrlUnpack (getLe16 inp smePfxLen)).tid.toNat
        (getPn48 inp (smePfxLen + 2)) with
    | false => exact Or.inl ⟨by simp [fresh], _, _, rfl⟩
    | true =>
      rw [if_neg (by simp)]
      refine Or.inr ⟨(qosCtrlUnpack (getLe16 inp smePfxLen)).tid.toNat,
        getPn48 inp (smePfxLen + 2), by simp [up, fresh], ?_⟩
      exact ⟨⟨rfl, rfl, rfl⟩, rfl, Or.inl (newSent_same rfl), Or.inr ⟨payload.symm,
        fun same => absurd same other⟩⟩

/-- Reception of a data frame: not taken and counted, or taken. -/
theorem smeRx_takes (up : s.state = .connected) (long : smePfxLen ≤ inp.length)
    (tag : byteAt inp 0 = smeIntEnc .data ∨ byteAt inp 0 = smeIntEnc .qosData) :
    smeTakes env s inp = none ∧ OnlyCounts s (smeRx env sib s inp).1 ∨
      ∃ slot pn, smeTakes env s inp = some (slot, pn) ∧
        TakenStep env s (smeRx env sib s inp).1 inp slot pn := by
  rcases tag with data | qos
  · rw [smeRx_data long data up]
    exact rxData_takes up data
  · rw [smeRx_qosData long qos up]
    exact rxQosData_takes up qos

end Receive

section Built

variable (env : Env) (key : Octets 16)

/-- The parts of a frame that was built: its header, packet number and payload are read back. -/
theorem dataFrame_parts (hdr payload : Bytes) (pn : Nat) :
    dataMsg (dataFrame env key hdr pn payload) = hdr ++ putPn48 pn ++ payload ∧
      (dataMsg (dataFrame env key hdr pn payload)).drop (hdr.length + 6) = payload := by
  have msg : dataMsg (dataFrame env key hdr pn payload) = hdr ++ putPn48 pn ++ payload := by
    unfold dataMsg dataFrame
    dsimp only
    rw [List.length_append, Octets.length_bytes, Nat.add_sub_cancel]
    exact List.take_left
  refine ⟨msg, ?_⟩
  rw [msg]
  refine List.drop_left' ?_
  simp [putPn48]

theorem dataFrame_tag (type : FrameType) (src : MacAddr) (rest payload : Bytes) (pn : Nat) :
    byteAt (dataFrame env key (smePfx type src ++ rest) pn payload) 0 = smeIntEnc type ∧
      smePfxLen ≤ (dataFrame env key (smePfx type src ++ rest) pn payload).length := by
  constructor
  · rfl
  · simp only [dataFrame, smePfxLen, List.length_append, smePfx_length]
    omega

end Built

end Rf2a4m1
