import Rf2a4m1.Lib.Fields
import Rf2a4m1.Safety.Aggregation

/-!
# The core's own bulk-in path

A segment is wrapped around a descriptor and a frame, and the path in the core
cuts the frame out again and reads the descriptor. The descriptor is described
here by its octets, and the code's masks and shifts are shown to read those.
-/

set_option autoImplicit false

namespace Rf2a4m1

open ByteString Fields

section Descriptor

/-- What is to be read off the octets of a descriptor: rate, sender, traffic, and errors. -/
structure RxwiSays (rxwi : Bytes) (info : RxInfo) : Prop where
  gen : info.gen = if (byteAt rxwi 11).toNat < 128 then .legacy else .ht
  phyMode : info.phyMode = if (byteAt rxwi 11).toNat < 64 then .cck
    else if (byteAt rxwi 11).toNat < 128 then .ofdm else .ht
  mcs : info.mcs.toNat = (byteAt rxwi 10).toNat % 128
  bwMhz : info.bwMhz = if (byteAt rxwi 10).toNat < 128 then 20 else 40
  shortGi : info.shortGi = decide ((byteAt rxwi 11).toNat % 2 = 1)
  stbc : info.stbc = decide ((byteAt rxwi 11).toNat / 2 % 4 ≠ 0)
  wcid : info.wcid = byteAt rxwi 4
  tid : info.tid.toNat = (byteAt rxwi 7).toNat / 16
  crcErr : info.crcErr = decide ((byteAt rxwi 1).toNat % 2 = 1)
  fcsOk : info.fcsOk = decide ((byteAt rxwi 1).toNat % 2 = 0)
  phyErr : info.phyErr = false
  cryptoOk : info.cryptoOk =
    decide ((byteAt rxwi 2).toNat % 2 = 1 ∧ (byteAt rxwi 1).toNat / 2 % 4 = 0)

variable {rxwi : Bytes}

section Rate

variable (descriptor : rxwi.length = mt7601uRxwiSize)
include descriptor

theorem rxwiRate_octets :
    (getLe16 rxwi 10).toNat = (byteAt rxwi 10).toNat + 256 * (byteAt rxwi 11).toNat :=
  getLe16_toNat (by rw [descriptor]; decide)

theorem rxwiRate_phy :
    ((getLe16 rxwi 10 &&& 0xc000) >>> 14).toNat = (byteAt rxwi 11).toNat / 64 := by
  have low := (byteAt rxwi 10).toNat_lt
  have high := (byteAt rxwi 11).toNat_lt
  rw [field16 (k := 2) (s := 14) rfl rfl (by decide), rxwiRate_octets descriptor]
  omega

theorem rxwiRate_mcs : (getLe16 rxwi 10 &&& 0x007f).toNat = (byteAt rxwi 10).toNat % 128 := by
  have field := field16 (w := getLe16 rxwi 10) (m := 0x007f) (v := 0) (k := 7) (s := 0) rfl rfl
    (by decide)
  rw [UInt16.shiftRight_zero] at field
  rw [field, rxwiRate_octets descriptor]
  omega

theorem rxwiRate_bw : getLe16 rxwi 10 &&& 0x0080 = 0 ↔ (byteAt rxwi 10).toNat < 128 := by
  have low := (byteAt rxwi 10).toNat_lt
  rw [clear16 (k := 1) (s := 7) rfl, rxwiRate_octets descriptor]
  omega

theorem rxwiRate_sgi : getLe16 rxwi 10 &&& 0x0100 = 0 ↔ (byteAt rxwi 11).toNat % 2 = 0 := by
  have low := (byteAt rxwi 10).toNat_lt
  rw [clear16 (k := 1) (s := 8) rfl, rxwiRate_octets descriptor]
  omega

theorem rxwiRate_stbc : getLe16 rxwi 10 &&& 0x0600 = 0 ↔ (byteAt rxwi 11).toNat / 2 % 4 = 0 := by
  have low := (byteAt rxwi 10).toNat_lt
  rw [clear16 (k := 2) (s := 9) rfl, rxwiRate_octets descriptor]
  omega

theorem rxwiCtl_octets :
    (rxwiCtl rxwi 0).toNat = (byteAt rxwi 4).toNat + 256 * (byteAt rxwi 5).toNat +
      65536 * (byteAt rxwi 6).toNat + 16777216 * (byteAt rxwi 7).toNat :=
  @getLe32_toNat rxwi 4 (by rw [descriptor]; decide)

/-- The length is in twelve bits. -/
theorem rxwiMpduLen_octets :
    rxwiMpduLen rxwi 0 = (byteAt rxwi 6).toNat + 256 * ((byteAt rxwi 7).toNat % 16) := by
  have first := (byteAt rxwi 4).toNat_lt
  have second := (byteAt rxwi 5).toNat_lt
  have third := (byteAt rxwi 6).toNat_lt
  unfold rxwiMpduLen
  rw [field32 (k := 12) (s := 16) rfl rfl (by decide), rxwiCtl_octets descriptor]
  omega

theorem rxwiCtl_wcid : (rxwiCtl rxwi 0 &&& 0x000000ff).toUInt8 = byteAt rxwi 4 := by
  have first := (byteAt rxwi 4).toNat_lt
  have field := field32 (w := rxwiCtl rxwi 0) (m := 0x000000ff) (v := 0) (k := 8) (s := 0) rfl rfl
    (by decide)
  rw [UInt32.shiftRight_zero] at field
  rw [← UInt8.toNat_inj, UInt32.toNat_toUInt8, field, rxwiCtl_octets descriptor]
  omega

theorem rxwiCtl_tid :
    ((rxwiCtl rxwi 0 &&& 0xf0000000) >>> 28).toUInt8.toNat = (byteAt rxwi 7).toNat / 16 := by
  have first := (byteAt rxwi 4).toNat_lt
  have second := (byteAt rxwi 5).toNat_lt
  have third := (byteAt rxwi 6).toNat_lt
  have fourth := (byteAt rxwi 7).toNat_lt
  rw [UInt32.toNat_toUInt8, field32 (k := 4) (s := 28) rfl rfl (by decide),
    rxwiCtl_octets descriptor]
  omega

theorem rxwiRxinfo_octets :
    (rxwiRxinfo rxwi 0).toNat = (byteAt rxwi 0).toNat + 256 * (byteAt rxwi 1).toNat +
      65536 * (byteAt rxwi 2).toNat + 16777216 * (byteAt rxwi 3).toNat :=
  @getLe32_toNat rxwi 0 (by rw [descriptor]; decide)

theorem rxwiRxinfo_crc :
    rxwiRxinfo rxwi 0 &&& mtRxinfoCrcerr = 0 ↔ (byteAt rxwi 1).toNat % 2 = 0 := by
  have first := (byteAt rxwi 0).toNat_lt
  rw [clear32 (k := 1) (s := 8) rfl, rxwiRxinfo_octets descriptor]
  omega

theorem rxwiRxinfo_decrypt :
    rxwiRxinfo rxwi 0 &&& mtRxinfoDecrypt = 0 ↔ (byteAt rxwi 2).toNat % 2 = 0 := by
  have first := (byteAt rxwi 0).toNat_lt
  have second := (byteAt rxwi 1).toNat_lt
  rw [clear32 (k := 1) (s := 16) rfl, rxwiRxinfo_octets descriptor]
  omega

theorem rxwiRxinfo_integrity :
    rxwiRxinfo rxwi 0 &&& (mtRxinfoIcverr ||| mtRxinfoMicerr) = 0 ↔
      (byteAt rxwi 1).toNat / 2 % 4 = 0 := by
  have first := (byteAt rxwi 0).toNat_lt
  have second := (byteAt rxwi 1).toNat_lt
  rw [clear32 (k := 2) (s := 9) rfl, rxwiRxinfo_octets descriptor]
  omega

theorem rxwiRate_cck :
    (getLe16 rxwi 10 &&& 0xc000) >>> 14 = 0 ↔ (byteAt rxwi 11).toNat < 64 := by
  rw [← UInt16.toNat_inj, rxwiRate_phy descriptor, UInt16.toNat_zero]
  omega

theorem rxwiRate_ofdm : (getLe16 rxwi 10 &&& 0xc000) >>> 14 = 1 ↔
    64 ≤ (byteAt rxwi 11).toNat ∧ (byteAt rxwi 11).toNat < 128 := by
  rw [← UInt16.toNat_inj, rxwiRate_phy descriptor, UInt16.toNat_one]
  omega

theorem rxwiRate_gen :
    (if (getLe16 rxwi 10 &&& 0xc000) >>> 14 = 0 ∨ (getLe16 rxwi 10 &&& 0xc000) >>> 14 = 1
      then HalGen.legacy else .ht) = if (byteAt rxwi 11).toNat < 128 then .legacy else .ht := by
  have cck := rxwiRate_cck descriptor
  have ofdm := rxwiRate_ofdm descriptor
  apply if_congr _ rfl rfl
  rw [cck, ofdm]
  omega

theorem rxwiRate_phyMode :
    (if (getLe16 rxwi 10 &&& 0xc000) >>> 14 = 0 then HalPhy.cck
      else if (getLe16 rxwi 10 &&& 0xc000) >>> 14 = 1 then .ofdm else .ht) =
      if (byteAt rxwi 11).toNat < 64 then .cck
      else if (byteAt rxwi 11).toNat < 128 then .ofdm else .ht := by
  have ofdm := rxwiRate_ofdm descriptor
  apply if_ctx_congr (rxwiRate_cck descriptor) (fun _ => rfl)
  intro high
  apply if_congr _ rfl rfl
  rw [ofdm]
  omega

theorem parseRxwi_says {frame frameLen : Nat} {info : RxInfo}
    (parsed : parseRxwi rxwi 0 frame frameLen = some info) : RxwiSays rxwi info := by
  unfold parseRxwi at parsed
  dsimp only at parsed
  split at parsed
  · cases parsed
  obtain rfl := Option.some.inj parsed
  refine ⟨rxwiRate_gen descriptor, rxwiRate_phyMode descriptor, rxwiRate_mcs descriptor, ?_, ?_, ?_,
    rxwiCtl_wcid descriptor, rxwiCtl_tid descriptor, ?_, ?_, rfl, ?_⟩
  · dsimp only
    rw [ite_not]
    exact if_congr (rxwiRate_bw descriptor) rfl rfl
  · apply decide_eq_decide.2
    rw [ne_eq, rxwiRate_sgi descriptor]
    exact Nat.mod_two_ne_zero
  · exact decide_eq_decide.2 (not_congr (rxwiRate_stbc descriptor))
  · apply decide_eq_decide.2
    rw [ne_eq, rxwiRxinfo_crc descriptor]
    exact Nat.mod_two_ne_zero
  · exact decide_eq_decide.2 (rxwiRxinfo_crc descriptor)
  · dsimp only
    unfold rxinfoHwDecrypted
    rw [Bool.decide_and]
    congr 1
    · apply decide_eq_decide.2
      rw [ne_eq, rxwiRxinfo_decrypt descriptor]
      exact Nat.mod_two_ne_zero
    · exact decide_eq_decide.2 (rxwiRxinfo_integrity descriptor)

end Rate

end Descriptor

section Path

variable {cap : Nat} {rxwi payload seg : Bytes}

/-- The descriptor in a segment is read as the descriptor on its own. -/
theorem parseRxwi_slice (off frame frameLen : Nat) :
    parseRxwi seg off frame frameLen =
      parseRxwi (slice seg off mt7601uRxwiSize) 0 frame frameLen := by
  unfold parseRxwi rxwiMpduLen rxwiRxinfo rxwiCtl mt7601uRxwiSize
  rw [getLe32_slice (by decide), getLe32_slice (by decide), getLe16_slice (by decide),
    byteAt_slice (by decide), byteAt_slice (by decide), byteAt_slice (by decide)]
  rfl

theorem rxwiMpduLen_slice (off : Nat) :
    rxwiMpduLen seg off = rxwiMpduLen (slice seg off mt7601uRxwiSize) 0 := by
  unfold rxwiMpduLen rxwiCtl mt7601uRxwiSize
  rw [getLe32_slice (by decide)]

/-- A length field says no more than 4095, which leaves room for the padding. -/
theorem usbRxWrap_fits (descriptor : rxwi.length = mt7601uRxwiSize)
    (mpdu : rxwiMpduLen rxwi 0 = payload.length)
    (room : mtDmaHdrs + roundUp4 (rxwi.length + payload.length) ≤ cap) :
    ∃ seg, usbRxWrap cap rxwi payload = some seg := by
  have field := rxwiMpduLen_octets descriptor
  have low := (byteAt rxwi 6).toNat_lt
  obtain ⟨_, padded, _⟩ := roundUp4_spec (rxwi.length + payload.length)
  have small : roundUp4 (rxwi.length + payload.length) ≤ mtRxdInfoLenMask := by
    rw [descriptor] at padded ⊢
    unfold mt7601uRxwiSize at padded ⊢
    unfold mtRxdInfoLenMask
    omega
  unfold usbRxWrap
  dsimp only
  rw [if_neg (Nat.not_lt.2 small), if_neg (Nat.not_lt.2 room)]
  exact ⟨_, rfl⟩

theorem usbRxUnwrap_span {u : RxUnwrapped} (unwrapped : usbRxUnwrap seg = some u) :
    u.payload + u.payloadLen ≤ seg.length := by
  unfold usbRxUnwrap at unwrapped
  dsimp only at unwrapped
  split at unwrapped
  · cases unwrapped
  split at unwrapped
  · cases unwrapped
  rename_i good
  obtain rfl := Option.some.inj unwrapped
  simp only [mtDmaHdrs, mtDmaHdrLen, mt7601uRxwiSize, mtDmaFceLen, not_or] at good ⊢
  omega

/-- What is delivered is inside the transfer, whatever its words say. -/
theorem mt7601uHalRxBulkIn_span {info : RxInfo} (delivered : mt7601uHalRxBulkIn seg = some info) :
    info.data + info.len ≤ seg.length := by
  obtain ⟨u, unwrapped, parsed⟩ := Option.bind_eq_some_iff.1 delivered
  obtain ⟨data, len, -⟩ := parseRxwi_span parsed
  have span := usbRxUnwrap_span unwrapped
  have cut := Nat.min_le_right (rxwiMpduLen seg u.rxwi) u.payloadLen
  omega

theorem usbRxWrap_length (built : usbRxWrap cap rxwi payload = some seg) : seg.length < 2 ^ 16 := by
  obtain ⟨d, _, small, length, _⟩ := usbRxWrap_some built
  unfold mtRxdInfoLenMask at small
  unfold mtDmaHdrs at length
  omega

theorem mt7601uHalRxBulkIn_wrap (descriptor : rxwi.length = mt7601uRxwiSize)
    (long : 10 ≤ payload.length) (mpdu : rxwiMpduLen rxwi 0 = payload.length)
    (built : usbRxWrap cap rxwi payload = some seg) :
    ∃ info, mt7601uHalRxBulkIn seg = some info ∧ slice seg info.data info.len = payload ∧
      RxwiSays rxwi info := by
  obtain ⟨u, pad, unwrapped, front, _, behind⟩ := usbRxUnwrap_wrap descriptor long built
  have inside : payload.length ≤ u.payloadLen := by
    have size := congrArg List.length behind
    rw [slice_length, List.length_append] at size
    omega
  have len : min (rxwiMpduLen seg u.rxwi) u.payloadLen = payload.length := by
    rw [rxwiMpduLen_slice, front, mpdu, Nat.min_eq_left inside]
  have whole : slice seg u.payload payload.length = payload := by
    have cut := @slice_slice seg u.payload u.payloadLen 0 payload.length (by omega)
    rw [behind, slice_append_left rfl] at cut
    exact cut.symm
  have enough : ¬rxwiMpduLen rxwi 0 < 10 := by omega
  obtain ⟨info, parsed⟩ : ∃ info, parseRxwi rxwi 0 u.payload payload.length = some info :=
    ⟨_, if_neg enough⟩
  obtain ⟨data, length, -⟩ := parseRxwi_span parsed
  refine ⟨info, ?_, ?_, parseRxwi_says descriptor parsed⟩
  · unfold mt7601uHalRxBulkIn
    rw [unwrapped, Option.bind_some, len, parseRxwi_slice, front, parsed]
  · rw [data, length, whole]

/-- A frame that is wrapped behind a descriptor with its length comes out as it went in, with what
the descriptor says. No wrapped segment is longer than sixteen bits can tell, and nothing outside
a transfer is ever delivered. -/
theorem bulk_in_path :
    (∀ (cap : Nat) (rxwi : Octets mt7601uRxwiSize) (payload : Bytes), 10 ≤ payload.length →
      rxwiMpduLen rxwi.bytes 0 = payload.length →
        mtDmaHdrs + roundUp4 (mt7601uRxwiSize + payload.length) ≤ cap →
          ∃ seg info, usbRxWrap cap rxwi.bytes payload = some seg ∧
            mt7601uHalRxBulkIn seg = some info ∧ slice seg info.data info.len = payload ∧
              RxwiSays rxwi.bytes info) ∧
      (∀ cap rxwi payload seg, usbRxWrap cap rxwi payload = some seg → seg.length < 2 ^ 16) ∧
        ∀ seg info, mt7601uHalRxBulkIn seg = some info → info.data + info.len ≤ seg.length := by
  refine ⟨?_, ?_, ?_⟩
  · intro cap rxwi payload long mpdu room
    have size := rxwi.length_bytes
    have enough : mtDmaHdrs + roundUp4 (rxwi.bytes.length + payload.length) ≤ cap := by
      rw [size]
      exact room
    obtain ⟨seg, built⟩ := usbRxWrap_fits size mpdu enough
    obtain ⟨info, delivered⟩ := mt7601uHalRxBulkIn_wrap size long mpdu built
    exact ⟨seg, info, built, delivered⟩
  · intro cap rxwi payload seg built
    exact usbRxWrap_length built
  · intro seg info delivered
    exact mt7601uHalRxBulkIn_span delivered

/-- A frame of eleven octets, from the second sender, in a segment with a padding octet. -/
theorem bulk_in_path_padded :
    let rxwi := Octets.of mt7601uRxwiSize [0, 0, 0, 0, 2, 0, 11, 0]
    let payload : Bytes := List.replicate 11 7
    ∃ seg info, usbRxWrap 48 rxwi.bytes payload = some seg ∧
      mt7601uHalRxBulkIn seg = some info ∧ slice seg info.data info.len = payload ∧
        RxwiSays rxwi.bytes info :=
  bulk_in_path.1 48 _ _ (by decide) (by decide) (by decide)

end Path

end Rf2a4m1
