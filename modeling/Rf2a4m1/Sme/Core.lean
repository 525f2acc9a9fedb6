import Rf2a4m1.Sme.Dispatch

/-!
# The core of the state

Association, keys, protection policy and the packet numbers of data frames:
the parts the security properties are about. Each function of the model is
described by what it does to the core; most leave it alone.
-/

set_option autoImplicit false

namespace Rf2a4m1

open ByteString

/-- Packet number counter, number of data frames, and key and packet number of each one sent. -/
structure TxCore where
  dataTxPn : Nat
  dataFrames : Nat
  log : List (Octets 16 × Nat)

def SmeTx.core (l : SmeTx) : TxCore :=
  { dataTxPn := l.dataTxPn, dataFrames := l.dataFrames, log := l.sent.filterMap TxFrame.prot }

structure SmeCore extends SmeKeys, SmePmf where
  role : SmeRole
  self : MacAddr
  akm : SmeAkm
  state : SmeState
  connected : Bool
  peer : MacAddr
  installedTk : Octets 16
  dataKeyValid : Bool
  sae : Sae
  saePhase : Nat
  saeOk : Bool
  ftEnabled : Bool
  ftR0Valid : Bool
  tx : TxCore

def Sme.core (s : Sme) : SmeCore :=
  { toSmeKeys := s.toSmeKeys, toSmePmf := s.toSmePmf, role := s.role, self := s.self, akm := s.akm,
    state := s.state, connected := s.connected, peer := s.peer, installedTk := s.installedTk,
    dataKeyValid := s.dataKeyValid, sae := s.sae, saePhase := s.saePhase, saeOk := s.saeOk,
    ftEnabled := s.ftEnabled, ftR0Valid := s.ftR0Valid, tx := s.toSmeTx.core }

namespace SmeCore

/-- Both keys installed; a pairwise key that differs from the one in use starts a new count. -/
def install (c : SmeCore) : SmeCore :=
  { c with ptkInstalled := true, gtkInstalled := true, installedTk := tk c.ptk, dataKeyValid := true
           tx := if c.dataKeyValid && c.installedTk = tk c.ptk then c.tx
                 else { c.tx with dataTxPn := 0 } }

/-- Keys installed and the link up. -/
def connect (c : SmeCore) : SmeCore := { c.install with connected := true, state := .connected }

/-- A data frame protected with the next packet number, sent when a HAL is bound. -/
def send (c : SmeCore) (bound : Bool) : SmeCore :=
  let pn := c.tx.dataTxPn + 1
  { c with tx := { dataTxPn := pn, dataFrames := c.tx.dataFrames + 1
                   log := if bound then (tk c.ptk, pn) :: c.tx.log else c.tx.log } }

end SmeCore

section Transmit

variable (s : Sme)

@[simp] theorem SmeTx.nextSeq_core (l : SmeTx) : l.nextSeq.2.core = l.core := rfl

@[simp] theorem SmeTx.raw_core (l : SmeTx) (f : Bytes) : (l.raw f).core = l.core := by
  unfold SmeTx.raw SmeTx.push
  split <;> rfl

@[simp] theorem SmeTx.rawOpt_core (l : SmeTx) (f : Option Bytes) : (l.rawOpt f).core = l.core := by
  cases f with
  | none => rfl
  | some f => exact SmeTx.raw_core l f

/-- Only the packet numbers and the log of the transmit part are in the core. -/
theorem core_of_tx {l : SmeTx} (h : l.core = s.toSmeTx.core) :
    Sme.core { s with toSmeTx := l } = s.core :=
  congrArg (fun t => { s.core with tx := t }) h

@[simp] theorem txRaw_core (f : Bytes) : (txRaw s f).core = s.core :=
  core_of_tx s (SmeTx.raw_core _ f)

@[simp] theorem txMgmtTo_core (type : FrameType) (da : MacAddr) (ie : Bytes) :
    (txMgmtTo s type da ie).core = s.core :=
  core_of_tx s (SmeTx.rawOpt_core _ _)

@[simp] theorem txMgmtIe_core (type : FrameType) (ie : Bytes) :
    (txMgmtIe s type ie).core = s.core :=
  txMgmtTo_core s type s.peer ie

@[simp] theorem txMgmt_core (type : FrameType) : (txMgmt s type).core = s.core :=
  txMgmtIe_core s type []

@[simp] theorem txAssocReq_core : (txAssocReq s).core = s.core :=
  txMgmtIe_core { s with oweDhTx := _ } .assocReq _

@[simp] theorem txAssocResp_core : (txAssocResp s).core = s.core :=
  txMgmtIe_core s .assocResp _

theorem actionTx_core (body : Bytes) : (actionTx s body).core = s.toSmeTx.core := by
  unfold actionTx
  dsimp only
  split_ifs
  · rfl
  · exact SmeTx.rawOpt_core _ _
  · rfl
  · exact SmeTx.raw_core _ _

@[simp] theorem txActionDot11_core (body : Bytes) : (txActionDot11 s body).core = s.core :=
  core_of_tx s (actionTx_core s body)

@[simp] theorem saQueryTx_core (body : Bytes) : (saQueryTx s body).core = s.core := by
  unfold saQueryTx
  split
  · rfl
  · exact txActionDot11_core s body

@[simp] theorem txInt_core (type : FrameType) (payload : Bytes) :
    (txInt s type payload).core = s.core :=
  txRaw_core s _

@[simp] theorem txEapol_core (env : Env) (keyInfo keyLen : UInt16) (replay : Nat)
    (nonce : Octets 32) (keyData : Bytes) :
    (txEapol env s keyInfo keyLen replay nonce keyData).core = s.core :=
  core_of_tx s (SmeTx.rawOpt_core _ _)

@[simp] theorem ftTx_core (type : FrameType) (payload : Bytes) :
    (ftTx s type payload).core = s.core := by
  unfold ftTx
  split
  · rfl
  · exact txInt_core s type payload

end Transmit

section Nonces

variable (env : Env) (s : Sme)

@[simp] theorem genNonce_core (salt : UInt64) : (genNonce env s salt).2.core = s.core := rfl

@[simp] theorem smeGenMaterial_core (n : Nat) (salt : UInt64) :
    (smeGenMaterial env s n salt).2.core = s.core := rfl

end Nonces

section Send

variable (env : Env) (s : Sme)

theorem txProt_core (hdr payload : Bytes) (ac tid : UInt8) :
    (txProt env s hdr payload ac tid).core = s.core.send s.halBound := by
  unfold txProt SmeTx.push
  cases bound : s.halBound <;> simp [Sme.core, SmeCore.send, SmeTx.core, bound]

/-- Sending data needs a live link; otherwise nothing happens. -/
theorem tdlsEncapTx_core (body : Bytes) :
    (tdlsEncapTx env s body).core = s.core ∨
      s.state = .connected ∧ (tdlsEncapTx env s body).core = s.core.send s.halBound := by
  unfold tdlsEncapTx
  split
  · exact Or.inl rfl
  · rename_i allowed
    rw [not_or] at allowed
    exact Or.inr ⟨not_not.1 allowed.1, txProt_core env s _ _ _ _⟩

theorem smeDataTx_core (payload : Bytes) :
    (smeDataTx env s payload).1.core = s.core ∨
      s.state = .connected ∧ (smeDataTx env s payload).1.core = s.core.send s.halBound := by
  unfold smeDataTx
  by_cases up : s.state = .connected
  · by_cases long : payload.length > smeDataMax
    · left
      simp [up, long]
    · right
      refine ⟨up, ?_⟩
      rw [if_neg (not_not.2 up), if_neg long]
      exact txProt_core env s _ _ _ _
  · left
    simp [up]

theorem smeDataTxQos_core (payload : Bytes) (up : UInt8) :
    (smeDataTxQos env s payload up).1.core = s.core ∨
      s.state = .connected ∧ (smeDataTxQos env s payload up).1.core = s.core.send s.halBound := by
  unfold smeDataTxQos
  split
  · exact Or.inl rfl
  · rename_i connected
    split
    · exact Or.inl rfl
    split
    · exact smeDataTx_core env s payload
    · exact Or.inr ⟨not_not.1 connected, txProt_core env s _ _ _ _⟩

end Send

section Negotiate

/-- The first well-formed RSN element of a list. -/
def firstRsneLoop : Nat → Bytes → Option RsneInfo
  | 0, _ => none
  | fuel + 1, ies =>
    if ies.length < 2 then none
    else
      let elen := (byteAt ies 1).toNat
      if 2 + elen > ies.length then none
      else
        match if byteAt ies 0 = 48 then pmfRsneParse (ies.take (2 + elen)) else none with
        | some i => some i
        | none => firstRsneLoop fuel (ies.drop (2 + elen))

def firstRsne (ies : Bytes) : Option RsneInfo := firstRsneLoop ies.length ies

/-- Without an RSN element the policy stays as it was and the outcome is success. -/
def SmePmf.negotiate (p : SmePmf) (ies : Bytes) : SmePmf × UInt16 :=
  match firstRsne ies with
  | none => (p, pmfStatusSuccess)
  | some i =>
    ({ p with pmfPeerCaps := i.rsnCaps, mfpActive := (pmfNegotiate p.pmfMode i.rsnCaps).2 },
      (pmfNegotiate p.pmfMode i.rsnCaps).1)

theorem pmfNegotiateLoop_eq (fuel : Nat) (s : Sme) (ies : Bytes) :
    pmfNegotiateLoop fuel s ies =
      match firstRsneLoop fuel ies with
      | none => (s, pmfStatusSuccess)
      | some i =>
        ({ s with pmfPeerCaps := i.rsnCaps, mfpActive := (pmfNegotiate s.pmfMode i.rsnCaps).2 },
          (pmfNegotiate s.pmfMode i.rsnCaps).1) := by
  induction fuel generalizing ies with
  | zero => rfl
  | succ fuel ih =>
    unfold pmfNegotiateLoop firstRsneLoop
    split
    · rfl
    dsimp only
    split
    · rfl
    cases (if byteAt ies 0 = 48 then pmfRsneParse (ies.take (2 + (byteAt ies 1).toNat))
      else none) with
    | none => exact ih _
    | some i => rfl

/-- The negotiation touches nothing but the protection policy. -/
theorem pmfNegotiateIes_eq (s : Sme) (ies : Bytes) :
    pmfNegotiateIes s ies =
      ({ s with toSmePmf := (s.toSmePmf.negotiate ies).1 }, (s.toSmePmf.negotiate ies).2) := by
  unfold pmfNegotiateIes SmePmf.negotiate firstRsne
  rw [pmfNegotiateLoop_eq]
  cases firstRsneLoop ies.length ies <;> rfl

theorem negotiate_pmfMode (p : SmePmf) (ies : Bytes) :
    (p.negotiate ies).1.pmfMode = p.pmfMode := by
  unfold SmePmf.negotiate
  cases firstRsne ies <;> rfl

theorem negotiate_igtk (p : SmePmf) (ies : Bytes) : (p.negotiate ies).1.igtk = p.igtk := by
  unfold SmePmf.negotiate
  cases firstRsne ies <;> rfl

@[simp] theorem apQosNegotiate_core (s : Sme) (ies : Bytes) :
    (apQosNegotiate s ies).core = s.core := by
  unfold apQosNegotiate
  split <;> rfl

@[simp] theorem staQosNegotiate_core (s : Sme) (ies : Bytes) :
    (staQosNegotiate s ies).core = s.core := by
  unfold staQosNegotiate qosApplyLmac
  split
  · rfl
  split
  · rfl
  · split <;> rfl

end Negotiate

/-- A key from key data, or the one held. -/
def pmfKeyOr (held : PmfIgtk) : Option (Octets 16 × UInt16 × Nat) → PmfIgtk
  | none => held
  | some (key, kid, ipn) => pmfIgtkInstall key kid ipn

/-- The third message's key data, all of it. -/
theorem staM3Mfp_eq (s : Sme) (kde : Bytes) :
    ∃ fails, staM3Mfp s kde =
      { s with
        igtk := pmfKeyOr s.igtk (igtkKdeFind kde)
        bigtk := pmfKeyOr s.bigtk (if s.beaconProtEnabled then pmfBigtkKdeFind kde else none)
        ocvFail := fails
        tdBitmap := (pmfTdKdeFind kde).getD s.tdBitmap
        tdReceived := (pmfTdKdeFind kde).isSome || s.tdReceived } := by
  unfold staM3Mfp
  cases igtkKdeFind kde <;> dsimp only <;>
    cases (if s.beaconProtEnabled then pmfBigtkKdeFind kde else none) <;> dsimp only <;>
    cases pmfTdKdeFind kde <;> dsimp only <;> split <;> exact ⟨_, rfl⟩

end Rf2a4m1
