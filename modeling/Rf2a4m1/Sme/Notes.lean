import Rf2a4m1.Sme.KeyData
import Rf2a4m1.Sme.MgmtFrames
import Rf2a4m1.Sme.DataPath

/-!
# What is sent and what it means

A frame means a note when every entity ignores it or acts on it as the note
says. Each function that transmits sends frames with a known meaning.
-/

set_option autoImplicit false

namespace Rf2a4m1

open ByteString

/-- The part of the state that the exchange up to the keys is about. -/
structure Held where
  role : SmeRole
  self : MacAddr
  akm : SmeAkm
  state : SmeState
  peer : MacAddr
  pmk : Octets 32
  ptk : Octets 48
  gtk : Octets 16
  replay : Nat
  installedTk : Octets 16
  mfpActive : Bool
  igtkKey : Octets 16
  beaconProtEnabled : Bool
  bigtkKey : Octets 16
  ftEnabled : Bool
  earlyM1 : Option Bytes

def Sme.held (s : Sme) : Held :=
  { role := s.role, self := s.self, akm := s.akm, state := s.state, peer := s.peer, pmk := s.pmk
    ptk := s.ptk, gtk := s.gtk, replay := s.replay, installedTk := s.installedTk
    mfpActive := s.mfpActive, igtkKey := s.igtk.key, beaconProtEnabled := s.beaconProtEnabled
    bigtkKey := s.bigtk.key, ftEnabled := s.ftEnabled, earlyM1 := s.earlyM1 }

/-- Frames that concern no key are read as one of these. -/
def FrameType.keyless : FrameType → Bool
  | .data | .qosData | .addbaReq | .addbaRsp | .addtsReq | .addtsRsp | .delts => true
  | .saQueryReq | .saQueryResp => true
  | _ => false

def RxKind.keyless : RxKind → Bool
  | .ignored | .badMic | .unprotected | .probed _ => true
  | .handle none type _ => type.keyless
  | _ => false

inductive Note where
  | keyless
  | announcement
  | authReq
  | authResp
  | assocReq
  | assocResp
  | m1 (n : Nat)
  | m2 (n : Nat)
  | m3 (n : Nat) (ptk : Octets 48) (kd : Bytes)
  | m4 (n : Nat)

/-- The counter of a PDU, of which 64 bits are sent. -/
structure Numbered (n : Nat) (pdu : Bytes) : Prop where
  read : ∀ k, smeEapolKeyDecode pdu = some k → k.replay = n % 2 ^ 64
  checked : eapolReplay pdu = n % 2 ^ 64

/-- A PDU whose MIC and key data were made with a pairwise key. -/
structure MadeWith (env : Env) (ptk : Octets 48) (kd pdu : Bytes) : Prop where
  mic : ∀ s : Sme, s.akm = .psk → eapolMicOk env s pdu = true →
    ∃ m, env.mic (kck s.ptk) m = env.mic (kck ptk) m
  keyData : ∀ k, smeEapolKeyDecode pdu = some k → k.keyData = env.keyWrap smeKdeMax (kek ptk) kd

/-- How a frame with a note is acted on, sent by the holder of address `src`. -/
def Note.readAs (env : Env) (src : MacAddr) (k : RxKind) : Note → Prop
  | keyless => k.keyless = true
  | announcement => ∃ h, k = .announce h ∧ h.addr3 = src
  | authReq => ∃ body, k = .handle none .authReq (smePfx .authReq src ++ body)
  | authResp => ∃ inp, k = .handle none .authResp inp
  | assocReq => ∃ inp, k = .handle none .assocReq inp
  | assocResp => (∃ a, k = .aid a) ∨ ∃ a inp, k = .handle (some a) .assocResp inp
  | m1 n => ∃ inp, k = .handle none .m1 inp ∧ Numbered n (frameBody inp)
  | m2 n => ∃ inp, k = .handle none .m2 inp ∧ Numbered n (frameBody inp)
  | m3 n ptk kd => ∃ inp, k = .handle none .m3 inp ∧ Numbered n (frameBody inp) ∧
      MadeWith env ptk kd (frameBody inp)
  | m4 n => ∃ inp, k = .handle none .m4 inp ∧ Numbered n (frameBody inp)

/-- Whoever receives the frame ignores it or acts on it as the note says. -/
def Means (env : Env) (src : MacAddr) (note : Note) (frame : Bytes) : Prop :=
  ∀ t : Sme, rxKind t frame = .ignored ∨ note.readAs env src (rxKind t frame)

section Sends

/-- What was handed to the HAL between two transmit states. -/
def Sends (P : Bytes → Prop) (l m : SmeTx) : Prop :=
  ∃ new, m.sent = new ++ l.sent ∧ ∀ f ∈ new, P f.data

variable {P Q : Bytes → Prop} {l m n : SmeTx}

theorem Sends.of_eq (same : m.sent = l.sent) : Sends P l m :=
  ⟨[], same, fun _ no => absurd no List.not_mem_nil⟩

theorem Sends.refl (l : SmeTx) : Sends P l l := .of_eq rfl

theorem Sends.trans (first : Sends P l m) (second : Sends P m n) : Sends P l n := by
  obtain ⟨new, eq, all⟩ := first
  obtain ⟨new', eq', all'⟩ := second
  refine ⟨new' ++ new, by rw [eq', eq, List.append_assoc], ?_⟩
  intro f mem
  rcases List.mem_append.1 mem with later | earlier
  · exact all' f later
  · exact all f earlier

theorem Sends.mono (weaker : ∀ f, P f → Q f) (sends : Sends P l m) : Sends Q l m := by
  obtain ⟨new, eq, all⟩ := sends
  exact ⟨new, eq, fun f mem => weaker _ (all f mem)⟩

theorem Sends.push {f : TxFrame} (holds : P f.data) : Sends P l (l.push f) := by
  unfold SmeTx.push
  split
  · refine ⟨[f], rfl, ?_⟩
    intro g mem
    rw [List.mem_singleton.1 mem]
    exact holds
  · exact .refl l

theorem Sends.raw {f : Bytes} (holds : P f) : Sends P l (l.raw f) := .push holds

theorem Sends.rawOpt {f : Option Bytes} (holds : ∀ g, f = some g → P g) :
    Sends P l (l.rawOpt f) := by
  cases f with
  | none => exact .refl l
  | some f => exact .raw (holds f rfl)

theorem Sends.newSent {s t : Sme} (sends : Sends P s.toSmeTx t.toSmeTx) :
    ∀ f ∈ newSent s t, P f := by
  obtain ⟨new, eq, all⟩ := sends
  intro f mem
  rw [newSent_append eq, List.mem_reverse] at mem
  obtain ⟨g, sent, rfl⟩ := List.mem_map.1 mem
  exact all g sent

end Sends

section Management

variable {env : Env} {P : Bytes → Prop} (s : Sme)

theorem txMgmtTo_sends (type : FrameType) (da : MacAddr) (ie : Bytes)
    (built : ∀ sc f, mgmtFrame s type da sc ie = some f → P f) :
    Sends P s.toSmeTx (txMgmtTo s type da ie).toSmeTx := by
  unfold txMgmtTo
  refine (Sends.of_eq rfl : Sends P s.toSmeTx s.toSmeTx.nextSeq.2).trans (.rawOpt fun f some => ?_)
  split at some
  · cases some
  · exact built _ f some

theorem txMgmtTo_probeReq (da : MacAddr) (ie : Bytes) :
    Sends (Means env s.self .keyless) s.toSmeTx (txMgmtTo s .probeReq da ie).toSmeTx := by
  apply txMgmtTo_sends
  intro sc f built t
  obtain ⟨w, rfl⟩ := mgmtFrame_probeReq built
  right
  rcases @rxKind_probeReq da s.self da sc w t with
    ignored | probed
  · rw [ignored]
    rfl
  · rw [probed]
    rfl

theorem txMgmtTo_probeResp (da : MacAddr) (ie : Bytes) :
    Sends (Means env s.self .announcement) s.toSmeTx (txMgmtTo s .probeResp da ie).toSmeTx := by
  apply txMgmtTo_sends
  intro sc f built t
  obtain ⟨w, rfl⟩ := mgmtFrame_probeResp built
  exact (rxKind_probeResp w t).imp_right fun announced => ⟨_, announced, rfl⟩

theorem txMgmt_authReq :
    Sends (Means env s.self .authReq) s.toSmeTx (txMgmt s .authReq).toSmeTx := by
  apply txMgmtTo_sends
  intro sc f built t
  rw [mgmtFrame_authReq built]
  exact (rxKind_authReq t).imp_right fun handled => ⟨_, handled⟩

theorem txMgmt_authResp :
    Sends (Means env s.self .authResp) s.toSmeTx (txMgmt s .authResp).toSmeTx := by
  apply txMgmtTo_sends
  intro sc f built t
  rw [mgmtFrame_authResp built]
  exact (rxKind_authResp t).imp_right fun handled => ⟨_, handled⟩

theorem txAssocReq_sends :
    Sends (Means env s.self .assocReq) s.toSmeTx (txAssocReq s).toSmeTx := by
  unfold txAssocReq txMgmtIe
  refine (Sends.of_eq rfl).trans (txMgmtTo_sends _ .assocReq _ _ fun sc f built t => ?_)
  obtain ⟨w, rfl⟩ := mgmtFrame_assocReq built
  exact (rxKind_assocReq w t).imp_right fun handled => ⟨_, handled⟩

theorem txAssocResp_sends :
    Sends (Means env s.self .assocResp) s.toSmeTx (txAssocResp s).toSmeTx := by
  apply txMgmtTo_sends
  intro sc f built t
  obtain ⟨cap, aid, w, rfl⟩ := mgmtFrame_assocResp built
  exact (rxKind_assocResp w t cap aid).imp_right
    (Or.imp_right fun ⟨a, handled⟩ => ⟨a, _, handled⟩)

end Management

section Handshake

variable {env : Env} {P : Bytes → Prop} (s : Sme)

theorem txEapol_sends (keyInfo keyLen : UInt16) (replay : Nat) (nonce : Octets 32) (keyData : Bytes)
    (framed : ∀ sc, 99 + keyData.length ≤ 288 →
      P (eapolFrame s sc (eapolSealed env s keyInfo keyLen replay nonce keyData))) :
    Sends P s.toSmeTx (txEapol env s keyInfo keyLen replay nonce keyData).toSmeTx := by
  have spent : Sends P s.toSmeTx s.toSmeTx.nextSeq.2 := .of_eq rfl
  change Sends P s.toSmeTx (eapolTx env s keyInfo keyLen replay nonce keyData)
  by_cases room : 99 + keyData.length ≤ 288
  · rw [eapolTx_eq env s keyInfo keyLen replay nonce keyData room]
    exact spent.trans (.raw (framed _ room))
  · rw [eapolTx_none env s keyInfo keyLen replay nonce keyData (Nat.lt_of_not_le room)]
    exact spent

theorem eapolPdu_numbered (keyInfo keyLen : UInt16) (replay : Nat) (nonce : Octets 32)
    {keyData : Bytes} (room : 99 + keyData.length ≤ 288) (mic : Octets 16) :
    Numbered replay (eapolPdu keyInfo keyLen replay nonce keyData mic) where
  read k decoded := by
    rw [smeEapolKeyDecode_eapolPdu keyInfo keyLen replay nonce keyData mic (by omega) decoded]
  checked := eapolReplay_eapolPdu keyInfo keyLen replay nonce keyData mic (by omega)

/-- A PDU that is sent is received as the message of its key information field. -/
theorem eapolFrame_read (keyInfo keyLen : UInt16) (replay : Nat) (nonce : Octets 32)
    {keyData : Bytes} (room : 99 + keyData.length ≤ 288) (sc : UInt16) {type : FrameType}
    (kind : eapolType keyInfo = some type) (t : Sme) :
    rxKind t (eapolFrame s sc (eapolSealed env s keyInfo keyLen replay nonce keyData)) = .ignored ∨
      ∃ inp, rxKind t (eapolFrame s sc (eapolSealed env s keyInfo keyLen replay nonce keyData)) =
          .handle none type inp ∧
        frameBody inp = eapolSealed env s keyInfo keyLen replay nonce keyData := by
  have trimmed := trimEapol_eapolPdu keyInfo keyLen replay nonce keyData
  have fields := eapolKeyFields_eapolPdu keyInfo keyLen replay nonce keyData
  rcases @rxKind_eapolFrame s t sc _ _ (trimmed _ (by omega))
      (fields _ (by omega)) with ignored | ⟨type', kind', handled⟩
  · exact Or.inl ignored
  · right
    dsimp only at kind'
    obtain rfl : type' = type := Option.some.inj (kind'.symm.trans kind)
    exact ⟨_, handled, frameBody_smePfx _ _ _⟩

theorem txM1_sends (replay : Nat) (nonce : Octets 32) :
    Sends (Means env s.self (.m1 replay)) s.toSmeTx
      (txEapol env s smeKiM1 16 replay nonce []).toSmeTx := by
  apply txEapol_sends
  intro sc room t
  rcases @eapolFrame_read env s smeKiM1 16 replay nonce _ room sc .m1 rfl t with
    ignored | ⟨inp, handled, body⟩
  · exact Or.inl ignored
  · refine Or.inr ⟨inp, handled, ?_⟩
    rw [body]
    exact eapolPdu_numbered _ _ _ _ room _

theorem txM2_sends (replay : Nat) (nonce : Octets 32) (keyData : Bytes) :
    Sends (Means env s.self (.m2 replay)) s.toSmeTx
      (txEapol env s (smeKiM2 s) 0 replay nonce keyData).toSmeTx := by
  have kind : eapolType (smeKiM2 s) = some .m2 := by
    unfold smeKiM2
    split
    · rfl
    · rfl
  apply txEapol_sends
  intro sc room t
  rcases @eapolFrame_read env s _ 0 replay nonce _ room sc _ kind t with
    ignored | ⟨inp, handled, body⟩
  · exact Or.inl ignored
  · refine Or.inr ⟨inp, handled, ?_⟩
    rw [body]
    exact eapolPdu_numbered _ _ _ _ room _

theorem txM4_sends (replay : Nat) (nonce : Octets 32) :
    Sends (Means env s.self (.m4 replay)) s.toSmeTx
      (txEapol env s (smeKiM4 s) 0 replay nonce []).toSmeTx := by
  have kind : eapolType (smeKiM4 s) = some .m4 := by
    unfold smeKiM4
    split
    · rfl
    · rfl
  apply txEapol_sends
  intro sc room t
  rcases @eapolFrame_read env s _ 0 replay nonce _ room sc _ kind t with
    ignored | ⟨inp, handled, body⟩
  · exact Or.inl ignored
  · refine Or.inr ⟨inp, handled, ?_⟩
    rw [body]
    exact eapolPdu_numbered _ _ _ _ room _

/-- The third message is made with the pairwise key its sender holds. -/
theorem txM3_sends (psk : s.akm = .psk) (replay : Nat) (nonce : Octets 32) (kd : Bytes) :
    Sends (Means env s.self (.m3 replay s.ptk kd)) s.toSmeTx
      (txEapol env s smeKiM3 16 replay nonce (env.keyWrap smeKdeMax (kek s.ptk) kd)).toSmeTx := by
  apply txEapol_sends
  intro sc room t
  rcases @eapolFrame_read env s smeKiM3 16 replay nonce _ room sc .m3 rfl t with
    ignored | ⟨inp, handled, body⟩
  · exact Or.inl ignored
  · refine Or.inr ⟨inp, handled, ?_⟩
    rw [body]
    refine ⟨eapolPdu_numbered _ _ _ _ room _, ?_, ?_⟩
    · intro u psk' ok
      unfold eapolSealed at ok
      have same := ((eapolMicOk_eapolPdu smeKiM3 16 replay nonce _ env u _).1 ok).2
      rw [if_pos (by decide)] at same
      unfold eapolComputeMic at same
      rw [psk, psk'] at same
      exact ⟨_, same⟩
    · intro k decoded
      rw [smeEapolKeyDecode_eapolPdu _ _ _ _ _ _ (by omega) decoded]

end Handshake

end Rf2a4m1
