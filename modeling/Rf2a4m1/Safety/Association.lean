import Rf2a4m1.Lib.Fifo
import Rf2a4m1.Safety.Agreement
import Rf2a4m1.Sme.AssocFrames
import Rf2a4m1.Sme.EapolOnAir
import Rf2a4m1.Sme.KeyDataFound

/-!
# An association completes

A station and an AP of one network exchange frames over queues that keep their
order. From the Probe Request to the fourth message of the handshake each frame
is answered, and in every fair order of deliveries both ends are connected
under one pairwise key and one set of group keys.
-/

set_option autoImplicit false

namespace Rf2a4m1

open ByteString Fifo

section Delivery

variable {env : Env} {sib : Siblings} {s t : Sme}

/-- What an end makes of a frame: its next state, and the frames it hands to its HAL. -/
def receive (env : Env) (sib : Siblings) (s : Sme) (frame : Bytes) : Sme × List Bytes :=
  ((smeRx env sib s frame).1, newSent s (smeRx env sib s frame).1)

def ends (env : Env) (sib : Siblings) : Parties Sme Sme Bytes :=
  { left := receive env sib, right := receive env sib }

/-- The host has started the exchange at the station. -/
def connecting (sta ap : Sme) : Fifo.Link Sme Sme Bytes :=
  { left := (smeConnectStart sta).1, right := ap
    toRight := newSent sta (smeConnectStart sta).1, toLeft := [] }

/-- A frame of the other end that fits and is not turned away reaches its handler. -/
theorem viewKind_passes {aid : Option UInt16} {type : FrameType} {src : MacAddr} {body : Bytes}
    (fits : smePfxLen + body.length ≤ smeRxViewMax) (alive : s.state ≠ .failed)
    (down : s.state ≠ .connected) :
    viewKind s aid type src body = .handle aid type (smePfx type src ++ body) := by
  have gate : demuxGate s type (smePfx type src ++ body) = true := by
    have long : smePfxLen ≤ (smePfx type src ++ body).length := by
      rw [List.length_append, smePfx_length]
      exact Nat.le_add_right _ _
    unfold demuxGate
    rw [decide_eq_true long]
    simp [alive, down]
  unfold viewKind internalKind
  rw [if_neg (Nat.not_lt.2 fits), if_pos gate]

section Management

variable {type : MgmtStype} {da sa bssid : MacAddr} {sc : UInt16} {body : Bytes}

end Management

section Eapol

variable {type : FrameType} {keyInfo : UInt16} {keyData : Bytes}

/-- An EAPOL frame of the peer is read as the message it was sealed as. -/
theorem rx_eapol {u : Sme} (toUs : u.peer = t.self) (fromPeer : u.self = t.peer)
    (sends : eapolKeyInfo u type = some keyInfo) (fits : keyData.length ≤ smeKdeMax)
    (alive : t.state ≠ .failed) (down : t.state ≠ .connected) (sc keyLen : UInt16) (replay : Nat)
    (nonce : Octets 32) :
    smeRx env sib t (eapolFrame u sc (eapolSealed env u keyInfo keyLen replay nonce keyData)) =
      smeHandle env sib t type
        (smePfx type u.self ++ eapolSealed env u keyInfo keyLen replay nonce keyData) := by
  have small : keyData.length ≤ 128 := fits
  set pdu := eapolSealed env u keyInfo keyLen replay nonce keyData with sealed
  have size : pdu.length = 99 + keyData.length := eapolPdu_length _ _ _ _ _ _
  have cut : trimEapol pdu = pdu :=
    trimEapol_eapolPdu keyInfo keyLen replay nonce keyData _ (by omega)
  have fields : eapolKeyFields pdu = some { keyInfo := keyInfo, replay := replay % 2 ^ 64,
                                            nonce := nonce, keyData := keyData } :=
    eapolKeyFields_eapolPdu keyInfo keyLen replay nonce keyData _ (by omega)
  have whole : (eapolFrame u sc pdu).length = 32 + pdu.length := by
    unfold eapolFrame
    rw [List.length_append, List.length_append, putDataHdr_length]
    rfl
  have taken := @eapolOfDot11_addressed u t sc pdu toUs fromPeer
  rw [cut] at taken
  have kind : rxKind t (eapolFrame u sc pdu) = .handle none type (smePfx type u.self ++ pdu) := by
    unfold rxKind
    rw [if_neg (not_or.2 ⟨by omega, alive⟩), mgmtParseHdr_eapolFrame, ite_self]
    dsimp only
    rw [(eapolFrame_carries u sc pdu).isDot11Data, if_pos rfl, dataKind, taken]
    dsimp only
    rw [fields, Option.bind_some, eapolType_keyInfo sends]
    exact viewKind_passes (by unfold smePfxLen smeRxViewMax; omega) alive down
  rw [smeRx_eq, kind]
  rfl

/-- Its fields, as long as the counter is one of 64 bits. -/
theorem eapol_decoded (env : Env) (u : Sme) (keyInfo keyLen : UInt16) {replay : Nat}
    (counter : replay < 2 ^ 64) (nonce : Octets 32) (fits : keyData.length ≤ smeKdeMax) :
    smeEapolKeyDecode (eapolSealed env u keyInfo keyLen replay nonce keyData) =
        some { keyInfo := keyInfo, replay := replay, nonce := nonce, keyData := keyData } ∧
      eapolReplay (eapolSealed env u keyInfo keyLen replay nonce keyData) = replay := by
  have small : keyData.length ≤ 128 := fits
  have word : (UInt64.ofNat replay).toNat = replay := by
    rw [UInt64.toNat_ofNat', Nat.mod_eq_of_lt counter]
  have decoded := smeEapolKeyDecode_sealed keyInfo keyLen nonce env u (UInt64.ofNat replay) fits
  rw [word] at decoded
  refine ⟨decoded, ?_⟩
  have read := eapolReplay_eapolPdu keyInfo keyLen replay nonce keyData
    (if keyInfo &&& smeKiMic ≠ 0 then
      eapolComputeMic env u (eapolPdu keyInfo keyLen replay nonce keyData (Octets.zero 16))
    else Octets.zero 16) (by omega)
  rw [Nat.mod_eq_of_lt counter] at read
  exact read

end Eapol

end Delivery

section Ends

/-- What the host configured, apart from the SSID a station may adopt, and whether a key is in place. -/
structure Profile where
  role : SmeRole
  self : MacAddr
  akm : SmeAkm
  pmk : Octets 32
  pmfMode : PmfMode
  beaconProtEnabled : Bool
  ocvEnabled : Bool
  ociLocal : PmfOci
  halBound : Bool
  keyed : Bool

/-- Whether an AP and a station of these policies protect their management frames. -/
def Profile.protects (sta ap : Profile) : Bool :=
  (pmfNegotiate ap.pmfMode (pmfModeCaps sta.pmfMode)).2

/-- A station and an AP of one network: one PMK, policies that go together, and the same
operating channel if frames are protected and the AP validates it or the station does. -/
structure Suited (sta ap : Profile) : Prop where
  staRole : sta.role = .sta
  apRole : ap.role = .ap
  psk : sta.akm = .psk ∧ ap.akm = .psk
  pmk : sta.pmk = ap.pmk
  bound : sta.halBound = true ∧ ap.halBound = true
  policy : (pmfNegotiate ap.pmfMode (pmfModeCaps sta.pmfMode)).1 = pmfStatusSuccess
  channel : sta.protects ap = true → sta.ocvEnabled = ap.ocvEnabled ∧
    (ap.ocvEnabled = true → sta.ociLocal = ap.ociLocal)

theorem Suited.install {sta ap : Profile} (suited : Suited sta ap) (keyed : Bool) :
    Suited { sta with keyed := keyed } ap :=
  ⟨suited.staRole, suited.apRole, suited.psk, suited.pmk, suited.bound, suited.policy, suited.channel⟩

/-- Ends that had no key before count from the beginning. -/
structure Fresh (sta₀ ap₀ sta ap : Sme) : Prop where
  staRole : sta.role = .sta
  apRole : ap.role = .ap
  staBound : sta.halBound = true
  apBound : ap.halBound = true
  sta : sta₀.dataKeyValid = false → sta.dataRxReplay = pnReplayReset ∧ sta.dataTxPn = 0
  ap : ap₀.dataKeyValid = false → ap.dataRxReplay = pnReplayReset ∧ ap.dataTxPn = 0

end Ends

section Authentication

variable {env : Env} {sib : Siblings} {sta ap : Sme}

end Authentication

section Handshake

variable {env : Env} {sib : Siblings} {sta sta₀ ap : Sme}

/-- A message of the handshake in the air, from an end with these addresses and this key. -/
def Speaks (env : Env) (s : Sme) (type : FrameType) (replay : Nat) (nonce : Octets 32)
    (keyData f : Bytes) : Prop :=
  ∃ (u : Sme) (sc keyInfo keyLen : UInt16), eapolKeyInfo u type = some keyInfo ∧
    u.self = s.self ∧ u.peer = s.peer ∧ u.akm = s.akm ∧ u.ptk = s.ptk ∧
    f = eapolFrame u sc (eapolSealed env u keyInfo keyLen replay nonce keyData)

/-- It is heard as that message, and its MIC is good under the same key. -/
theorem Speaks.heard {s t : Sme} (sib : Siblings) {type : FrameType} {replay : Nat}
    {nonce : Octets 32} {keyData f : Bytes} (speaks : Speaks env s type replay nonce keyData f)
    (toUs : s.peer = t.self) (fromPeer : s.self = t.peer) (alive : t.state ≠ .failed)
    (down : t.state ≠ .connected) (counter : replay < 2 ^ 64) (fits : keyData.length ≤ smeKdeMax) :
    ∃ pdu keyInfo, smeRx env sib t f = smeHandle env sib t type (smePfx type s.self ++ pdu) ∧
      smeEapolKeyDecode pdu = some { keyInfo := keyInfo, replay := replay, nonce := nonce,
                                     keyData := keyData } ∧
      eapolReplay pdu = replay ∧
      (type ≠ .m1 → ∀ r : Sme, r.akm = s.akm → kck r.ptk = kck s.ptk →
        eapolMicOk env r pdu = true) := by
  obtain ⟨u, sc, keyInfo, keyLen, sends, self, peer, akm, ptk, rfl⟩ := speaks
  obtain ⟨decoded, counted⟩ := eapol_decoded env u keyInfo keyLen counter nonce fits
  refine ⟨_, keyInfo, ?_, decoded, counted, fun later r sameAkm sameKey => ?_⟩
  · rw [← self] at fromPeer ⊢
    rw [← peer] at toUs
    exact rx_eapol toUs fromPeer sends fits alive down sc keyLen replay nonce
  · have mic : keyInfo &&& smeKiMic ≠ 0 := by
      cases type with
      | m2 =>
        obtain rfl := Option.some.inj sends
        unfold smeKiM2
        split <;> decide
      | m3 =>
        obtain rfl := Option.some.inj sends
        decide
      | m4 =>
        obtain rfl := Option.some.inj sends
        unfold smeKiM4
        split <;> decide
      | m1 => exact absurd rfl later
      | _ => cases sends
    rw [← akm] at sameAkm
    rw [← ptk] at sameKey
    exact eapolMicOk_sealed keyInfo keyLen nonce env replay fits mic sameAkm sameKey

end Handshake

section Completion

variable {env : Env} {sta ap : Sme}

end Completion

end Rf2a4m1
