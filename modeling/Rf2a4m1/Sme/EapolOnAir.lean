import Rf2a4m1.Sme.Demo
import Rf2a4m1.Sme.EapolFrames

/-!
# EAPOL-Key frames between two ends

Two ends that have each other's addresses: a message of the handshake arrives
as that message, octet for octet, whatever stands behind it in the frame.
-/

set_option autoImplicit false

namespace Rf2a4m1

open ByteString

/-- The key information field an end puts into a message of the handshake. -/
def eapolKeyInfo (s : Sme) : FrameType → Option UInt16
  | .m1 => some smeKiM1
  | .m2 => some (smeKiM2 s)
  | .m3 => some smeKiM3
  | .m4 => some (smeKiM4 s)
  | _ => none

/-- It stands for that message, with or without the descriptor version. -/
theorem eapolType_keyInfo {s : Sme} {type : FrameType} {keyInfo : UInt16}
    (sends : eapolKeyInfo s type = some keyInfo) : eapolType keyInfo = some type := by
  cases type with
  | m1 =>
    obtain rfl := Option.some.inj sends
    decide
  | m2 =>
    obtain rfl := Option.some.inj sends
    unfold smeKiM2
    split
    · decide
    · decide
  | m3 =>
    obtain rfl := Option.some.inj sends
    decide
  | m4 =>
    obtain rfl := Option.some.inj sends
    unfold smeKiM4
    split
    · decide
    · decide
  | _ => cases sends

section Read

variable (keyInfo keyLen : UInt16) (nonce : Octets 32) {keyData : Bytes}

theorem smeEapolKeyDecode_sealed (env : Env) (s : Sme) (replay : UInt64)
    (fits : keyData.length ≤ smeKdeMax) :
    smeEapolKeyDecode (eapolSealed env s keyInfo keyLen replay.toNat nonce keyData) =
      some { keyInfo := keyInfo, replay := replay.toNat, nonce := nonce, keyData := keyData } := by
  have short : keyData.length < 65536 := Nat.lt_of_le_of_lt fits (by decide)
  unfold smeEapolKeyDecode eapolSealed
  rw [eapolKeyFields_eapolPdu keyInfo keyLen replay.toNat nonce keyData _ short,
    Nat.mod_eq_of_lt replay.toNat_lt]
  exact Option.filter_some_pos (decide_eq_true fits)

/-- The MIC of one end is right for every end with its key and AKM. -/
theorem eapolMicOk_sealed (env : Env) {s t : Sme} (replay : Nat)
    (fits : keyData.length ≤ smeKdeMax) (mic : keyInfo &&& smeKiMic ≠ 0) (akm : t.akm = s.akm)
    (key : kck t.ptk = kck s.ptk) :
    eapolMicOk env t (eapolSealed env s keyInfo keyLen replay nonce keyData) = true := by
  have small : keyData.length ≤ 128 := fits
  unfold eapolSealed
  rw [if_pos mic]
  apply (eapolMicOk_eapolPdu keyInfo keyLen replay nonce keyData env t _).2
  refine ⟨by omega, ?_⟩
  unfold eapolComputeMic
  rw [akm, key]

end Read

/-- What is built and sealed for a message is in one data frame, which the other end reads as
that message: the demultiplexer gets the PDU as it was built, and its fields are those that
were put in. Nothing behind the PDU matters. -/
theorem eapol_survives (env : Env) {s t : Sme} {type : FrameType} {keyInfo : UInt16}
    (keyLen : UInt16) (replay : UInt64) (nonce : Octets 32) {keyData : Bytes} (trailer : Bytes)
    (toUs : s.peer = t.self) (fromPeer : s.self = t.peer)
    (sends : eapolKeyInfo s type = some keyInfo) (fits : keyData.length ≤ smeKdeMax) :
    ∃ plain pdu frame,
      smeEapolKeyEncode 288 keyInfo keyLen replay.toNat nonce keyData = some plain ∧
      pdu = (if keyInfo &&& smeKiMic ≠ 0 then eapolSetMic env s plain else plain) ∧
      frame = putDataHdr s s.toSmeTx.nextSeq.1 ++ eapolSnapHdr ++ pdu ∧
      txEapol env s keyInfo keyLen replay.toNat nonce keyData =
        { s with toSmeTx := s.toSmeTx.nextSeq.2.raw frame } ∧
      isDot11Data (frame ++ trailer) = true ∧
      (∀ sib, rxDot11Data env sib t (frame ++ trailer) =
        smeDemux env sib t type (smePfx type s.self ++ pdu)) ∧
      smeEapolKeyDecode pdu =
        some { keyInfo := keyInfo, replay := replay.toNat, nonce := nonce, keyData := keyData } ∧
      (keyInfo &&& smeKiMic ≠ 0 → t.akm = s.akm → kck t.ptk = kck s.ptk →
        eapolMicOk env t pdu = true) := by
  have small : keyData.length ≤ 128 := fits
  have trailed : eapolFrame s s.toSmeTx.nextSeq.1
      (eapolSealed env s keyInfo keyLen replay.toNat nonce keyData) ++ trailer =
      eapolFrame s s.toSmeTx.nextSeq.1
        (eapolSealed env s keyInfo keyLen replay.toNat nonce keyData ++ trailer) :=
    List.append_assoc ..
  have decoded := smeEapolKeyDecode_sealed keyInfo keyLen nonce env s replay fits
  refine ⟨_, eapolSealed env s keyInfo keyLen replay.toNat nonce keyData, _,
    smeEapolKeyEncode_eq keyInfo keyLen replay.toNat nonce keyData (by omega), ?_, rfl, ?_, ?_, ?_,
    decoded, ?_⟩
  · unfold eapolSealed
    split
    · exact (splice_eapolPdu _ _ _ _ _ _ _).symm
    · rfl
  · unfold txEapol
    rw [eapolTx_eq env s keyInfo keyLen replay.toNat nonce keyData (by omega)]
    rfl
  · have carried := eapolFrame_carries s s.toSmeTx.nextSeq.1
      (eapolSealed env s keyInfo keyLen replay.toNat nonce keyData ++ trailer)
    rw [← trailed] at carried
    exact carried.isDot11Data
  · intro sib
    have taken := @eapolOfDot11_addressed s t s.toSmeTx.nextSeq.1
      (eapolSealed env s keyInfo keyLen replay.toNat nonce keyData ++ trailer) toUs fromPeer
    have cut : trimEapol (eapolSealed env s keyInfo keyLen replay.toNat nonce keyData ++ trailer) =
        eapolSealed env s keyInfo keyLen replay.toNat nonce keyData :=
      trimEapol_trailed keyInfo keyLen replay.toNat nonce keyData _ trailer (by omega)
    have fields : eapolKeyFields (eapolSealed env s keyInfo keyLen replay.toNat nonce keyData) =
        some { keyInfo := keyInfo, replay := replay.toNat, nonce := nonce, keyData := keyData } :=
      (Option.filter_eq_some_iff.1 decoded).1
    have length : (eapolSealed env s keyInfo keyLen replay.toNat nonce keyData).length =
        99 + keyData.length := eapolPdu_length _ _ _ _ _ _
    rw [cut, ← trailed] at taken
    change rxDot11Data env sib t (eapolFrame s s.toSmeTx.nextSeq.1
      (eapolSealed env s keyInfo keyLen replay.toNat nonce keyData) ++ trailer) = _
    unfold rxDot11Data
    rw [taken]
    dsimp only
    rw [fields, Option.bind_some, eapolType_keyInfo sends]
    dsimp only
    unfold demuxView smePfxLen smeRxViewMax
    rw [if_neg (by omega)]
  · intro mic akm key
    exact eapolMicOk_sealed keyInfo keyLen nonce env replay.toNat fits mic akm key

/-- A third message of the access point, with a frame check sequence behind it. -/
theorem eapol_survives_m3 : ∃ pdu frame : Bytes,
    (∀ sib, rxDot11Data demoEnv sib
        { smeInit .sta demoStaMac demoPmk 9 with peer := demoApMac } (frame ++ [1, 2, 3, 4]) =
      smeDemux demoEnv sib { smeInit .sta demoStaMac demoPmk 9 with peer := demoApMac } .m3
        (smePfx .m3 demoApMac ++ pdu)) ∧
      smeEapolKeyDecode pdu =
        some { keyInfo := smeKiM3, replay := 2, nonce := demoPmk, keyData := [0xdd, 0] } := by
  obtain ⟨_, pdu, frame, _, _, _, _, _, received, decoded, _⟩ :=
    @eapol_survives demoEnv { smeInit .ap demoApMac demoPmk 7 with peer := demoStaMac }
      { smeInit .sta demoStaMac demoPmk 9 with peer := demoApMac } .m3 smeKiM3 16 2 demoPmk
      [0xdd, 0] [1, 2, 3, 4] rfl rfl rfl (by decide)
  exact ⟨pdu, frame, received, decoded⟩

end Rf2a4m1
