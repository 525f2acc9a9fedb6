import Rf2a4m1.Sme.Dispatch

/-!
# EAPOL-Key frames on the air

A PDU is read back with the fields it was built from, and a data frame that
carries it is either ignored or acted on as the message its key information
field stands for.
-/

set_option autoImplicit false

namespace Rf2a4m1

open ByteString

theorem slice_between {a b c : Bytes} {off n : Nat} (before : a.length = off) (size : b.length = n) :
    slice (a ++ (b ++ c)) off n = b := by
  rw [slice_append_right (Nat.le_of_eq before), before, Nat.sub_self, slice_append_left size]

section Pdu

variable (keyInfo keyLen : UInt16) (replay : Nat) (nonce : Octets 32) (keyData : Bytes)

theorem eapolHead_length (n : Nat) : (eapolHead keyInfo keyLen replay nonce n).length = 81 := by
  simp [eapolHead]

/-- An EAPOL-Key PDU with its MIC field. -/
def eapolPdu (mic : Octets 16) : Bytes :=
  eapolHead keyInfo keyLen replay nonce keyData.length ++ mic.bytes ++ be 2 keyData.length ++ keyData

theorem eapolPdu_length (mic : Octets 16) :
    (eapolPdu keyInfo keyLen replay nonce keyData mic).length = 99 + keyData.length := by
  simp only [eapolPdu, List.length_append, eapolHead_length, mic.length_bytes, be_length]

theorem smeEapolKeyEncode_eq {cap : Nat} (room : 99 + keyData.length ≤ cap) :
    smeEapolKeyEncode cap keyInfo keyLen replay nonce keyData =
      some (eapolPdu keyInfo keyLen replay nonce keyData (Octets.zero 16)) := by
  unfold smeEapolKeyEncode eapolFixedLen
  rw [if_neg (Nat.not_lt.2 room)]
  rfl

/-- The MIC field is overwritten, nothing else. -/
theorem splice_eapolPdu (old mic : Octets 16) :
    splice (eapolPdu keyInfo keyLen replay nonce keyData old) eoMic mic.bytes =
      eapolPdu keyInfo keyLen replay nonce keyData mic := by
  have head := eapolHead_length keyInfo keyLen replay nonce keyData.length
  have before : (eapolPdu keyInfo keyLen replay nonce keyData old).take eoMic =
      eapolHead keyInfo keyLen replay nonce keyData.length := by
    unfold eapolPdu
    rw [List.append_assoc, List.append_assoc]
    exact List.take_left' head
  have behind : (eapolPdu keyInfo keyLen replay nonce keyData old).drop (eoMic + 16) =
      be 2 keyData.length ++ keyData := by
    unfold eapolPdu
    rw [List.append_assoc]
    apply List.drop_left'
    rw [List.length_append, head, old.length_bytes]
    rfl
  unfold splice
  rw [mic.length_bytes, before, behind]
  simp only [eapolPdu, List.append_assoc]

theorem slice_eapolPdu_mic (mic : Octets 16) :
    slice (eapolPdu keyInfo keyLen replay nonce keyData mic) eoMic 16 = mic.bytes := by
  unfold eapolPdu
  rw [List.append_assoc, List.append_assoc]
  exact slice_between (eapolHead_length _ _ _ _ _) mic.length_bytes

/-- A MIC is checked against the PDU with an empty MIC field. -/
theorem eapolMicOk_eapolPdu (env : Env) (s : Sme) (mic : Octets 16) :
    eapolMicOk env s (eapolPdu keyInfo keyLen replay nonce keyData mic) = true ↔
      99 + keyData.length ≤ 320 ∧
        eapolComputeMic env s (eapolPdu keyInfo keyLen replay nonce keyData (Octets.zero 16)) =
          mic := by
  have emptied : splice (eapolPdu keyInfo keyLen replay nonce keyData mic) eoMic
      (List.replicate 16 0) = eapolPdu keyInfo keyLen replay nonce keyData (Octets.zero 16) :=
    splice_eapolPdu keyInfo keyLen replay nonce keyData mic (Octets.zero 16)
  unfold eapolMicOk
  rw [eapolPdu_length, emptied, slice_eapolPdu_mic]
  by_cases long : 99 + keyData.length > 320
  · rw [if_pos long]
    constructor
    · intro no
      cases no
    · intro fits
      omega
  · rw [if_neg long, decide_eq_true_eq]
    constructor
    · intro same
      exact ⟨Nat.le_of_not_lt long, Octets.ext same⟩
    · rintro ⟨_, rfl⟩
      rfl

theorem getBe16_be {v : Nat} (small : v < 65536) : UInt16.ofNat (ofBe (be 2 v)) = UInt16.ofNat v := by
  rw [ofBe_be]
  exact congrArg UInt16.ofNat (Nat.mod_eq_of_lt small)

theorem getBe16_between {a c : Bytes} {off : Nat} (before : a.length = off) (v : UInt16) :
    getBe16 (a ++ (putBe16 v ++ c)) off = v := by
  unfold getBe16
  rw [slice_between before (putBe16_length v)]
  exact (getBe16_be v.toNat_lt).trans UInt16.ofNat_toNat

/-- The fields are read back; only 64 bits of the counter are sent. -/
theorem eapolKeyFields_eapolPdu (mic : Octets 16) (fits : keyData.length < 65536) :
    eapolKeyFields (eapolPdu keyInfo keyLen replay nonce keyData mic) =
      some { keyInfo := keyInfo, replay := replay % 2 ^ 64, nonce := nonce, keyData := keyData } := by
  set pdu := eapolPdu keyInfo keyLen replay nonce keyData mic with built
  have info : getBe16 pdu 5 = keyInfo := by
    obtain ⟨post, eq⟩ : ∃ post, pdu = ([2, 3] ++ be 2 (95 + keyData.length) ++ [2]) ++
        (putBe16 keyInfo ++ post) :=
      ⟨_, by simp only [built, eapolPdu, eapolHead, List.append_assoc]; rfl⟩
    have before : ([2, 3] ++ be 2 (95 + keyData.length) ++ [2]).length = 5 := by simp
    rw [eq]
    exact getBe16_between before keyInfo
  have counter : getBe64 pdu 9 = replay % 2 ^ 64 := by
    obtain ⟨post, eq⟩ : ∃ post, pdu = ([2, 3] ++ be 2 (95 + keyData.length) ++ [2] ++
        putBe16 keyInfo ++ putBe16 keyLen) ++ (putBe64 replay ++ post) :=
      ⟨_, by simp only [built, eapolPdu, eapolHead, List.append_assoc]; rfl⟩
    have before : ([2, 3] ++ be 2 (95 + keyData.length) ++ [2] ++ putBe16 keyInfo ++
        putBe16 keyLen).length = 9 := by simp
    unfold getBe64
    rw [eq, slice_between before (putBe64_length replay)]
    exact ofBe_be 8 replay
  have drawn : Octets.of 32 (slice pdu 17 32) = nonce := by
    obtain ⟨post, eq⟩ : ∃ post, pdu = ([2, 3] ++ be 2 (95 + keyData.length) ++ [2] ++
        putBe16 keyInfo ++ putBe16 keyLen ++ putBe64 replay) ++ (nonce.bytes ++ post) :=
      ⟨_, by simp only [built, eapolPdu, eapolHead, List.append_assoc]; rfl⟩
    have before : ([2, 3] ++ be 2 (95 + keyData.length) ++ [2] ++ putBe16 keyInfo ++
        putBe16 keyLen ++ putBe64 replay).length = 17 := by simp
    rw [eq, slice_between before nonce.length_bytes, Octets.of_bytes]
  have prefixed : pdu = (eapolHead keyInfo keyLen replay nonce keyData.length ++ mic.bytes) ++
      (be 2 keyData.length ++ keyData) := by
    rw [built, eapolPdu, List.append_assoc]
  have before : (eapolHead keyInfo keyLen replay nonce keyData.length ++ mic.bytes).length = 97 := by
    rw [List.length_append, eapolHead_length, mic.length_bytes]
  have size : (getBe16 pdu 97).toNat = keyData.length := by
    unfold getBe16
    rw [prefixed, slice_between before (be_length 2 _), getBe16_be fits, UInt16.toNat_ofNat']
    exact Nat.mod_eq_of_lt fits
  have carried : slice pdu 99 keyData.length = keyData := by
    have whole : ((eapolHead keyInfo keyLen replay nonce keyData.length ++ mic.bytes) ++
        be 2 keyData.length).length = 99 := by
      rw [List.length_append, before, be_length]
    rw [prefixed, ← List.append_assoc, slice_append_right (Nat.le_of_eq whole), whole,
      Nat.sub_self]
    exact List.take_length
  have len : pdu.length = 99 + keyData.length := eapolPdu_length _ _ _ _ _ _
  have octets : byteAt pdu 0 = 2 ∧ byteAt pdu 1 = 3 ∧ byteAt pdu 4 = 2 := by
    exact ⟨rfl, rfl, rfl⟩
  unfold eapolKeyFields eapolFixedLen
  rw [if_neg (by omega), if_neg (by rw [octets.1, octets.2.1]; decide),
    if_neg (by rw [octets.2.2]; decide)]
  dsimp only
  rw [size, if_neg (by omega), info, counter, drawn, carried]

theorem smeEapolKeyDecode_eapolPdu (mic : Octets 16) {k : EapolKey}
    (fits : keyData.length < 65536)
    (decoded : smeEapolKeyDecode (eapolPdu keyInfo keyLen replay nonce keyData mic) = some k) :
    k = { keyInfo := keyInfo, replay := replay % 2 ^ 64, nonce := nonce, keyData := keyData } := by
  unfold smeEapolKeyDecode at decoded
  rw [eapolKeyFields_eapolPdu keyInfo keyLen replay nonce keyData mic fits] at decoded
  exact (Option.some.inj (Option.filter_eq_some_iff.1 decoded).1).symm

theorem eapolReplay_eapolPdu (mic : Octets 16) (fits : keyData.length < 65536) :
    eapolReplay (eapolPdu keyInfo keyLen replay nonce keyData mic) = replay % 2 ^ 64 := by
  unfold eapolReplay
  rw [eapolKeyFields_eapolPdu keyInfo keyLen replay nonce keyData mic fits]
  rfl

/-- The length field covers the whole PDU and nothing behind it. -/
theorem trimEapol_trailed (mic : Octets 16) (trailer : Bytes) (fits : keyData.length < 65000) :
    trimEapol (eapolPdu keyInfo keyLen replay nonce keyData mic ++ trailer) =
      eapolPdu keyInfo keyLen replay nonce keyData mic := by
  set pdu := eapolPdu keyInfo keyLen replay nonce keyData mic with built
  have len : pdu.length = 99 + keyData.length := eapolPdu_length _ _ _ _ _ _
  have field : getBe16 (pdu ++ trailer) 2 = UInt16.ofNat (95 + keyData.length) := by
    unfold getBe16
    obtain ⟨post, eq⟩ : ∃ post, pdu ++ trailer = [2, 3] ++ (be 2 (95 + keyData.length) ++ post) :=
      ⟨_, by simp only [built, eapolPdu, eapolHead, List.append_assoc]; rfl⟩
    have before : ([2, 3] : Bytes).length = 2 := rfl
    rw [eq, slice_between before (be_length 2 _), getBe16_be (by omega)]
  have total : (4 + getBe16 (pdu ++ trailer) 2).toNat = pdu.length := by
    rw [field, UInt16.toNat_add, UInt16.toNat_ofNat', len]
    have four : (4 : UInt16).toNat = 4 := rfl
    rw [four]
    omega
  have sane : 4 + getBe16 (pdu ++ trailer) 2 ≥ 95 := by
    rw [ge_iff_le, UInt16.le_iff_toNat_le, total, len]
    have least : (95 : UInt16).toNat = 95 := rfl
    rw [least]
    omega
  unfold trimEapol
  rw [List.length_append, if_neg (by omega)]
  dsimp only
  rw [total, if_pos ⟨sane, Nat.le_add_right _ _⟩]
  exact List.take_left

theorem trimEapol_eapolPdu (mic : Octets 16) (fits : keyData.length < 65000) :
    trimEapol (eapolPdu keyInfo keyLen replay nonce keyData mic) =
      eapolPdu keyInfo keyLen replay nonce keyData mic := by
  have whole := trimEapol_trailed keyInfo keyLen replay nonce keyData mic [] fits
  rw [List.append_nil] at whole
  exact whole

end Pdu

section Frame

variable {s t : Sme} {sc : UInt16} {pdu : Bytes}

theorem putDataHdr_length (s : Sme) (sc : UInt16) : (putDataHdr s sc).length = 24 := by
  simp [putDataHdr]

/-- The data frame that carries a PDU. -/
def eapolFrame (s : Sme) (sc : UInt16) (pdu : Bytes) : Bytes :=
  putDataHdr s sc ++ eapolSnapHdr ++ pdu

theorem eapolFrame_start (s : Sme) (sc : UInt16) (pdu : Bytes) :
    byteAt (eapolFrame s sc pdu) 0 = 0x08 ∧
      (byteAt (eapolFrame s sc pdu) 1 = 0x02 ∨ byteAt (eapolFrame s sc pdu) 1 = 0x01) := by
  refine ⟨rfl, ?_⟩
  have second : byteAt (eapolFrame s sc pdu) 1 = if s.role = .ap then 0x02 else 0x01 := rfl
  rw [second]
  split
  · exact Or.inl rfl
  · exact Or.inr rfl

/-- What a receiver reads of the headers in front of a PDU. -/
structure CarriesEapol (s : Sme) (pdu frame : Bytes) : Prop where
  isDot11Data : isDot11Data frame = true
  clear : protectedBit frame = false
  plain : 24 + (if (byteAt frame 0 >>> 4) &&& 0x08 ≠ 0 then 2 else 0) +
    (if byteAt frame 1 &&& 0x80 ≠ 0 then 4 else 0) = 24
  long : ¬frame.length < 24 + 8
  snap : slice frame 24 8 = eapolSnapHdr
  receiver : macAt frame 4 = s.peer
  transmitter : macAt frame 10 = s.self
  behind : frame.drop (24 + 8) = pdu

theorem eapolFrame_carries (s : Sme) (sc : UInt16) (pdu : Bytes) :
    CarriesEapol s pdu (eapolFrame s sc pdu) := by
  obtain ⟨first, second⟩ := eapolFrame_start s sc pdu
  have hdr := putDataHdr_length s sc
  have long : 24 + 8 ≤ (eapolFrame s sc pdu).length := by
    unfold eapolFrame
    rw [List.length_append, List.length_append, hdr]
    exact Nat.le_add_right _ _
  have start : eapolFrame s sc pdu = [0x08, if s.role = .ap then 0x02 else 0x01, 0x00, 0x00] ++
      (s.peer.bytes ++ (s.self.bytes ++ ((if s.role = .ap then s.self else s.peer).bytes ++
        putLe16 sc ++ eapolSnapHdr ++ pdu))) := by
    simp only [eapolFrame, putDataHdr, List.append_assoc]
  refine ⟨?_, ?_, ?_, Nat.not_lt.2 long, ?_, ?_, ?_, ?_⟩
  · unfold isDot11Data
    rw [first, decide_eq_true long]
    rfl
  · unfold protectedBit
    rcases second with two | one
    · rw [two]
      rfl
    · rw [one]
      rfl
  · rw [first]
    rcases second with two | one
    · rw [two]
      rfl
    · rw [one]
      rfl
  · unfold eapolFrame
    rw [List.append_assoc]
    exact slice_between hdr rfl
  · have field : slice (eapolFrame s sc pdu) 4 6 = s.peer.bytes := by
      rw [start]
      exact slice_between rfl s.peer.length_bytes
    unfold macAt
    rw [field, Octets.of_bytes]
  · have field : slice (eapolFrame s sc pdu) 10 6 = s.self.bytes := by
      rw [start, ← List.append_assoc]
      exact slice_between (by simp) s.self.length_bytes
    unfold macAt
    rw [field, Octets.of_bytes]
  · apply List.drop_left'
    rw [List.length_append, hdr]
    rfl

theorem eapolOfDot11_eapolFrame (trimmed : trimEapol pdu = pdu) :
    eapolOfDot11 t (eapolFrame s sc pdu) = none ∨
      eapolOfDot11 t (eapolFrame s sc pdu) = some (s.self, pdu) := by
  have carried := eapolFrame_carries s sc pdu
  unfold eapolOfDot11
  rw [carried.clear, if_neg (by decide)]
  split
  · exact Or.inl rfl
  split
  · exact Or.inl rfl
  dsimp only
  rw [carried.plain, carried.snap, carried.transmitter, carried.behind, trimmed]
  split
  · exact Or.inl rfl
  · exact Or.inr (if_neg (fun no => no rfl))

/-- The other end, which has the addresses the other way round, takes the PDU. -/
theorem eapolOfDot11_addressed (toUs : s.peer = t.self) (fromPeer : s.self = t.peer) :
    eapolOfDot11 t (eapolFrame s sc pdu) = some (s.self, trimEapol pdu) := by
  have carried := eapolFrame_carries s sc pdu
  unfold eapolOfDot11
  rw [carried.clear, if_neg (by decide), carried.receiver, carried.transmitter,
    if_neg (fun other => other.2 toUs), if_neg (fun other => other.2.1 fromPeer)]
  dsimp only
  rw [carried.plain, if_neg carried.long, carried.snap, carried.behind]
  exact if_neg (fun no => no rfl)

/-- A data frame is no management frame. -/
theorem mgmtParseHdr_eapolFrame : mgmtParseHdr (eapolFrame s sc pdu) = none := by
  cases parsed : mgmtParseHdr (eapolFrame s sc pdu) with
  | none => rfl
  | some h =>
    have data := (mgmtParseHdr_exclusive parsed).1
    rw [(eapolFrame_carries s sc pdu).isDot11Data] at data
    cases data

/-- Ignored, or acted on as the message the key information field stands for. -/
theorem rxKind_eapolFrame {k : EapolKey} (trimmed : trimEapol pdu = pdu)
    (fields : eapolKeyFields pdu = some k) :
    rxKind t (eapolFrame s sc pdu) = .ignored ∨ ∃ type, eapolType k.keyInfo = some type ∧
      rxKind t (eapolFrame s sc pdu) = .handle none type (smePfx type s.self ++ pdu) := by
  have noHdr : (if (eapolFrame s sc pdu).length ≤ 0xffff then mgmtParseHdr (eapolFrame s sc pdu)
      else none) = none := by
    rw [mgmtParseHdr_eapolFrame]
    exact ite_self none
  unfold rxKind
  split
  · exact Or.inl rfl
  rw [noHdr]
  dsimp only
  rw [(eapolFrame_carries s sc pdu).isDot11Data, if_pos rfl]
  unfold dataKind
  rcases @eapolOfDot11_eapolFrame s t sc _ trimmed with dropped | taken
  · rw [dropped]
    exact Or.inl rfl
  · rw [taken]
    dsimp only
    rw [fields, Option.bind_some]
    cases eapolType k.keyInfo with
    | none => exact Or.inl rfl
    | some type =>
      dsimp only
      unfold viewKind internalKind
      split
      · exact Or.inl rfl
      split
      · exact Or.inr ⟨type, rfl, rfl⟩
      · exact Or.inl rfl

end Frame

section Send

variable (env : Env) (s : Sme) (keyInfo keyLen : UInt16) (replay : Nat) (nonce : Octets 32)
  (keyData : Bytes)

/-- The PDU as it is sent: with a MIC unless the key information field says there is none. -/
def eapolSealed : Bytes :=
  eapolPdu keyInfo keyLen replay nonce keyData
    (if keyInfo &&& smeKiMic ≠ 0 then
      eapolComputeMic env s (eapolPdu keyInfo keyLen replay nonce keyData (Octets.zero 16))
    else Octets.zero 16)

theorem eapolTx_eq (room : 99 + keyData.length ≤ 288) :
    eapolTx env s keyInfo keyLen replay nonce keyData =
      s.toSmeTx.nextSeq.2.raw (eapolFrame s s.toSmeTx.nextSeq.1
        (eapolSealed env s keyInfo keyLen replay nonce keyData)) := by
  have sealed : (if keyInfo &&& smeKiMic ≠ 0 then
      eapolSetMic env s (eapolPdu keyInfo keyLen replay nonce keyData (Octets.zero 16))
      else eapolPdu keyInfo keyLen replay nonce keyData (Octets.zero 16)) =
        eapolSealed env s keyInfo keyLen replay nonce keyData := by
    unfold eapolSealed
    split
    · exact splice_eapolPdu _ _ _ _ _ _ _
    · rfl
  unfold eapolTx
  dsimp only
  rw [smeEapolKeyEncode_eq keyInfo keyLen replay nonce keyData room, Option.map_some, sealed]
  rfl

/-- Nothing is sent when the key data does not fit. -/
theorem eapolTx_none (tight : 288 < 99 + keyData.length) :
    eapolTx env s keyInfo keyLen replay nonce keyData = s.toSmeTx.nextSeq.2 := by
  unfold eapolTx smeEapolKeyEncode eapolFixedLen
  rw [if_pos tight]
  rfl

end Send

end Rf2a4m1
