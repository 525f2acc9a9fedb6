import Rf2a4m1.Sme.Core
import Rf2a4m1.Sme.Notes

/-!
# What each message does to the keys

For each handler of the exchange: what it does to the keys, and the note its
answer carries.
-/

set_option autoImplicit false

namespace Rf2a4m1

open ByteString

section Negotiation

variable {env : Env} (s : Sme) (ies : Bytes)

/-- Only the policy changes, and nothing is sent. -/
theorem pmfNegotiateIes_held :
    ∃ active, (pmfNegotiateIes s ies).1.held = { s.held with mfpActive := active } ∧
      (pmfNegotiateIes s ies).1.toSmeTx = s.toSmeTx := by
  rw [pmfNegotiateIes_eq]
  refine ⟨(s.toSmePmf.negotiate ies).1.mfpActive, ?_, rfl⟩
  have same := negotiate_igtk s.toSmePmf ies
  unfold Sme.held
  dsimp only
  rw [same]

theorem apQosNegotiate_held :
    (apQosNegotiate s ies).held = s.held ∧ (apQosNegotiate s ies).toSmeTx = s.toSmeTx := by
  unfold apQosNegotiate
  split
  · exact ⟨rfl, rfl⟩
  · exact ⟨rfl, rfl⟩

theorem staQosNegotiate_held :
    (staQosNegotiate s ies).held = s.held ∧ (staQosNegotiate s ies).sent = s.sent := by
  unfold staQosNegotiate
  split
  · exact ⟨rfl, rfl⟩
  split
  · exact ⟨rfl, rfl⟩
  · unfold qosApplyLmac
    split
    · exact ⟨rfl, rfl⟩
    · exact ⟨rfl, rfl⟩

theorem smeFtEstablish_off (off : s.ftEnabled = false) : smeFtEstablish s = s := by
  unfold smeFtEstablish
  rw [off]
  rfl

/-- Installing the pairwise key makes it the one in use. -/
theorem smeInstallKeys_held : (smeInstallKeys s).held = { s.held with installedTk := tk s.ptk } := by
  unfold smeInstallKeys smeInstallDataKey
  split
  · rename_i same
    obtain ⟨_, key⟩ := Bool.and_eq_true_iff.1 same
    have key : s.installedTk = tk s.ptk := of_decide_eq_true key
    unfold Sme.held
    dsimp only
    rw [key]
  · rfl

end Negotiation

section Ap

variable (env : Env) (s : Sme)

theorem apOnAuthReq_step (src : MacAddr) :
    (apOnAuthReq s src).held = { s.held with peer := src, state := .authed } ∧
      Sends (Means env s.self .authResp) s.toSmeTx (apOnAuthReq s src).toSmeTx :=
  ⟨rfl, txMgmt_authResp { s with peer := src }⟩

/-- The AP answers and starts over with the next number, or fails. -/
theorem apOnAssocReq_step (ies : Bytes) :
    ∃ active,
      (apOnAssocReq env s ies).held = { s.held with mfpActive := active, state := .failed } ∧
          (apOnAssocReq env s ies).sent = s.sent ∨
        (apOnAssocReq env s ies).held =
            { s.held with mfpActive := active, replay := s.replay + 1, state := .fourWay } ∧
          Sends (fun f => Means env s.self .assocResp f ∨ Means env s.self (.m1 (s.replay + 1)) f)
            s.toSmeTx (apOnAssocReq env s ies).toSmeTx := by
  obtain ⟨same, sameTx⟩ := apQosNegotiate_held s ies
  obtain ⟨active, negotiated, quiet⟩ := pmfNegotiateIes_held (apQosNegotiate s ies) ies
  refine ⟨active, ?_⟩
  unfold apOnAssocReq
  generalize pmfNegotiateIes (apQosNegotiate s ies) ies = r at negotiated quiet
  obtain ⟨t, st⟩ := r
  rw [same] at negotiated
  rw [sameTx] at quiet
  dsimp only at negotiated quiet ⊢
  split
  · left
    exact ⟨congrArg (fun h : Held => { h with state := .failed }) negotiated,
      congrArg SmeTx.sent quiet⟩
  · right
    have sameSelf : t.self = s.self := congrArg Held.self negotiated
    have sameReplay : t.replay = s.replay := congrArg Held.replay negotiated
    constructor
    · have started : (apStartHandshake env t).held =
          { t.held with replay := t.replay + 1, state := .fourWay } := rfl
      rw [started, negotiated, sameReplay]
    · have answered := @txAssocResp_sends env t
      rw [sameSelf, quiet] at answered
      refine (answered.mono fun f => Or.inl).trans ?_
      have asked := @txM1_sends env
        { (genNonce env (txAssocResp t) t.nonceSalt).2 with
          anonce := (genNonce env (txAssocResp t) t.nonceSalt).1, replay := t.replay + 1 }
        (t.replay + 1) (genNonce env (txAssocResp t) t.nonceSalt).1
      rw [← sameSelf, ← sameReplay]
      exact asked.mono fun f => Or.inr

/-- Fresh group keys are drawn before the third message is built. -/
theorem apGroupKeys_step :
    ∃ gtk igtk bigtk, (apGroupKeys env s).held =
        { s.held with gtk := gtk, igtkKey := igtk, bigtkKey := bigtk } ∧
      (apGroupKeys env s).sent = s.sent := by
  unfold apGroupKeys
  dsimp only
  split
  · exact ⟨_, _, _, rfl, rfl⟩
  split
  · exact ⟨_, _, _, rfl, rfl⟩
  · exact ⟨_, _, _, rfl, rfl⟩

/-- The pairwise key that a nonce of the station gives an AP without WPA3. -/
theorem withSnonce_ptk (psk : s.akm = .psk) (snonce : Octets 32) :
    (smeDerivePtk env { s with snonce := snonce }).held =
      { s.held with ptk := env.kdf s.pmk s.anonce snonce s.self s.peer } := by
  have derived : smePtk env { s with snonce := snonce } =
      env.kdf s.pmk s.anonce snonce s.self s.peer := by
    unfold smePtk
    have wpa3 : smeAkmWpa3 { s with snonce := snonce } = false := by
      unfold smeAkmWpa3
      dsimp only
      rw [psk]
      rfl
    rw [wpa3]
    rfl
  unfold smeDerivePtk Sme.held
  dsimp only
  rw [derived]

/-- What the key data of a third message says about the group keys an end holds. -/
structure HoldsGroup (kd : Bytes) (h : Held) : Prop where
  gtk : gtkKdeFind kd = some h.gtk
  igtk : h.mfpActive = true → ∀ key keyId ipn, igtkKdeFind kd = some (key, keyId, ipn) →
    h.igtkKey = key
  bigtk : h.mfpActive = true → h.beaconProtEnabled = true → ∀ key keyId bipn,
    pmfBigtkKdeFind kd = some (key, keyId, bipn) → h.bigtkKey = key

/-- The key data carries every group key that is in force. -/
structure Carries (kd : Bytes) (h : Held) : Prop where
  igtk : h.mfpActive = true → (igtkKdeFind kd).isSome = true
  bigtk : h.mfpActive = true → h.beaconProtEnabled = true → (pmfBigtkKdeFind kd).isSome = true
  wraps : 16 ≤ kd.length ∧ kd.length % 8 = 0 ∧ kd.length + 8 ≤ smeKdeMax

theorem m3KeyData_holds : HoldsGroup (m3KeyData s) s.held ∧ Carries (m3KeyData s) s.held := by
  obtain ⟨gtk, igtk, bigtk⟩ := m3KeyData_found s
  refine ⟨⟨gtk, ?_, ?_⟩, ⟨?_, ?_, m3KeyData_fits s⟩⟩
  · intro active key keyId ipn found
    obtain ⟨keyId', ipn', present⟩ := igtk active
    rw [found] at present
    exact (congrArg Prod.fst (Option.some.inj present)).symm
  · intro active beacon key keyId bipn found
    obtain ⟨keyId', bipn', present⟩ := bigtk active beacon
    rw [found] at present
    exact (congrArg Prod.fst (Option.some.inj present)).symm
  · intro active
    obtain ⟨keyId, ipn, present⟩ := igtk active
    rw [present]
    rfl
  · intro active beacon
    obtain ⟨keyId, bipn, present⟩ := bigtk active beacon
    rw [present]
    rfl

/-- The third message goes out under the next number, unless the key data cannot be wrapped. -/
theorem apSendM3_step (psk : s.akm = .psk) :
    ∃ gtk igtk bigtk,
      (apSendM3 env s).held = { s.held with gtk := gtk, igtkKey := igtk, bigtkKey := bigtk } ∧
          (apSendM3 env s).sent = s.sent ∨
        ∃ kd, (apSendM3 env s).held =
            { s.held with gtk := gtk, igtkKey := igtk, bigtkKey := bigtk, replay := s.replay + 1 } ∧
          HoldsGroup kd (apSendM3 env s).held ∧ Carries kd (apSendM3 env s).held ∧
          Sends (Means env s.self (.m3 (s.replay + 1) s.ptk kd)) s.toSmeTx
            (apSendM3 env s).toSmeTx := by
  obtain ⟨gtk, igtk, bigtk, drawn, quiet⟩ := apGroupKeys_step env s
  refine ⟨gtk, igtk, bigtk, ?_⟩
  obtain ⟨holds, carries⟩ := m3KeyData_holds (apGroupKeys env s)
  unfold apSendM3
  generalize apGroupKeys env s = t at drawn quiet holds carries
  dsimp only
  split
  · exact Or.inl ⟨drawn, quiet⟩
  · right
    have sameReplay : t.replay = s.replay := congrArg Held.replay drawn
    have samePtk : t.ptk = s.ptk := congrArg Held.ptk drawn
    have sameSelf : t.self = s.self := congrArg Held.self drawn
    have sameAkm : t.akm = s.akm := congrArg Held.akm drawn
    refine ⟨m3KeyData t, ?_, { holds with }, { carries with }, ?_⟩
    · have sent : Sme.held (txEapol env { t with replay := t.replay + 1 } smeKiM3 16 (t.replay + 1)
          t.anonce (env.keyWrap smeKdeMax (kek t.ptk) (m3KeyData t))) =
          { t.held with replay := t.replay + 1 } := rfl
      rw [sent, drawn, sameReplay]
    · have delivered := @txM3_sends env { t with replay := t.replay + 1 }
        (sameAkm.trans psk) (t.replay + 1) t.anonce (m3KeyData t)
      rw [← samePtk, ← sameReplay, ← sameSelf]
      exact (Sends.of_eq quiet).trans delivered

/-- A second message with the current number: the key is derived from its nonce, and the third
message may go out. -/
theorem apOnM2_step (psk : s.akm = .psk) (pdu : Bytes) :
    (apOnM2 env s pdu).held = s.held ∧ (apOnM2 env s pdu).sent = s.sent ∨
      (s.state = .fourWay ∧ eapolReplay pdu = s.replay) ∧ ∃ anonce snonce gtk igtk bigtk,
        let derived := { s.held with ptk := env.kdf s.pmk anonce snonce s.self s.peer, gtk := gtk,
                                     igtkKey := igtk, bigtkKey := bigtk }
        (apOnM2 env s pdu).held = derived ∧ (apOnM2 env s pdu).sent = s.sent ∨
          ∃ kd, (apOnM2 env s pdu).held = { derived with replay := s.replay + 1 } ∧
            HoldsGroup kd (apOnM2 env s pdu).held ∧ Carries kd (apOnM2 env s pdu).held ∧
            Sends (Means env s.self (.m3 (s.replay + 1) derived.ptk kd)) s.toSmeTx
              (apOnM2 env s pdu).toSmeTx := by
  unfold apOnM2
  split
  · exact Or.inl ⟨rfl, rfl⟩
  rename_i takes
  rw [not_or, not_not, not_not] at takes
  split
  · exact Or.inl ⟨rfl, rfl⟩
  rename_i k _
  refine Or.inr ⟨takes, s.anonce, k.nonce, ?_⟩
  have derived := withSnonce_ptk env s psk k.nonce
  have quiet : (smeDerivePtk env { s with snonce := k.nonce }).toSmeTx = s.toSmeTx := rfl
  generalize smeDerivePtk env { s with snonce := k.nonce } = t at derived quiet
  dsimp only
  split
  · exact ⟨s.gtk, s.igtk.key, s.bigtk.key, Or.inl ⟨derived, congrArg SmeTx.sent quiet⟩⟩
  split
  · exact ⟨s.gtk, s.igtk.key, s.bigtk.key, Or.inl ⟨derived, congrArg SmeTx.sent quiet⟩⟩
  · have tPtk : t.ptk = env.kdf s.pmk s.anonce k.nonce s.self s.peer := congrArg Held.ptk derived
    have sameReplay : t.replay = s.replay := congrArg Held.replay derived
    have sameSelf : t.self = s.self := congrArg Held.self derived
    have sameAkm : t.akm = s.akm := congrArg Held.akm derived
    obtain ⟨gtk, igtk, bigtk, held⟩ := apSendM3_step env t (sameAkm.trans psk)
    rw [derived, quiet, tPtk, sameReplay, sameSelf] at held
    exact ⟨gtk, igtk, bigtk, held⟩

/-- A fourth message with the current number brings the link up. -/
theorem apOnM4_step (off : s.ftEnabled = false) (pdu : Bytes) :
    (apOnM4 env s pdu).sent = s.sent ∧
      ((apOnM4 env s pdu).held = s.held ∨
        (s.state = .fourWay ∧ eapolReplay pdu = s.replay) ∧ (apOnM4 env s pdu).held =
          { s.held with installedTk := tk s.ptk, state := .connected }) := by
  unfold apOnM4
  split
  · exact ⟨rfl, Or.inl rfl⟩
  rename_i takes
  rw [not_or, not_not, not_not] at takes
  split
  · exact ⟨rfl, Or.inl rfl⟩
  have installed := smeInstallKeys_held s
  have quiet : (smeInstallKeys s).sent = s.sent := by
    unfold smeInstallKeys smeInstallDataKey
    split
    · rfl
    · rfl
  generalize smeInstallKeys s = t at installed quiet
  have off' : t.ftEnabled = false := (congrArg Held.ftEnabled installed).trans off
  have established := smeFtEstablish_off { t with connected := true, state := .connected } off'
  unfold connectAndEstablish
  rw [established]
  exact ⟨quiet, Or.inr ⟨takes, congrArg (fun h : Held => { h with state := .connected }) installed⟩⟩

end Ap

section Sta

variable (env : Env) (s : Sme)

theorem smeConnectStart_step :
    (smeConnectStart s).1 = s ∨
      (smeConnectStart s).1.held = { s.held with state := .scanning } ∧
        Sends (Means env s.self .keyless) s.toSmeTx (smeConnectStart s).1.toSmeTx := by
  unfold smeConnectStart
  split
  · exact Or.inl rfl
  · exact Or.inr ⟨rfl, txMgmtTo_probeReq { s with state := .scanning } _ []⟩

/-- A station that scans and does not use SAE answers with an Authentication Request. -/
theorem rxBssAnnounce_step (psk : s.akm = .psk) (h : MgmtHdr) :
    rxBssAnnounce env s h = s ∨
      s.state = .scanning ∧ ∃ active,
        (rxBssAnnounce env s h).held = { s.held with mfpActive := active, peer := h.addr3 } ∧
        Sends (Means env s.self .authReq) s.toSmeTx (rxBssAnnounce env s h).toSmeTx := by
  unfold rxBssAnnounce
  split
  · exact Or.inl rfl
  rename_i scanning
  rw [not_or, not_not, not_not] at scanning
  split
  · exact Or.inl rfl
  split
  · exact Or.inl rfl
  rename_i bi t found
  right
  refine ⟨scanning.2, ?_⟩
  have adopted : t.held = s.held ∧ t.sent = s.sent := by
    obtain ⟨bi', _, announced⟩ := Option.bind_eq_some_iff.1 found
    obtain ⟨t', adopted, eq⟩ := Option.map_eq_some_iff.1 announced
    obtain ⟨rfl, rfl⟩ := Prod.mk.inj eq
    unfold announceSsid at adopted
    split at adopted
    · split at adopted
      · cases adopted
        exact ⟨rfl, rfl⟩
      · cases adopted
    · cases adopted
      exact ⟨rfl, rfl⟩
  have started (u : Sme) (active : Bool)
      (held : u.held = { s.held with mfpActive := active, peer := h.addr3 })
      (quiet : u.sent = s.sent) :
      (startAuth env u).held = { s.held with mfpActive := active, peer := h.addr3 } ∧
        Sends (Means env s.self .authReq) s.toSmeTx (startAuth env u).toSmeTx := by
    have sameAkm : u.akm = .psk := (congrArg Held.akm held).trans psk
    have sameSelf : u.self = s.self := congrArg Held.self held
    unfold startAuth
    rw [sameAkm, if_neg (by decide)]
    refine ⟨held, (Sends.of_eq quiet).trans ?_⟩
    rw [← sameSelf]
    exact txMgmt_authReq u
  set u : Sme := { t with channel := if bi.channel ≠ 0 then bi.channel else t.channel,
                          peer := h.addr3 } with taken
  have uHeld : u.held = { s.held with peer := h.addr3 } :=
    congrArg (fun x : Held => { x with peer := h.addr3 }) adopted.1
  dsimp only
  split
  · obtain ⟨active, negotiated, quiet⟩ := pmfNegotiateIes_held u (h.body.drop 12)
    rw [uHeld] at negotiated
    exact ⟨active, started _ active negotiated ((congrArg SmeTx.sent quiet).trans adopted.2)⟩
  · exact ⟨s.mfpActive, started u s.mfpActive uHeld adopted.2⟩

theorem staOnAuthResp_step :
    staOnAuthResp s = s ∨
      (s.state = .scanning ∨ s.state = .init) ∧
        (staOnAuthResp s).held = { s.held with state := .authed } ∧
        Sends (Means env s.self .assocReq) s.toSmeTx (staOnAuthResp s).toSmeTx := by
  unfold staOnAuthResp
  split
  · exact Or.inl rfl
  · rename_i waiting
    exact Or.inr ⟨(not_and_or.1 waiting).imp not_not.1 not_not.1, rfl, txAssocReq_sends s⟩

/-- What a first message leads to: its number and a key from its nonce, and the second message. -/
def Answered (k : EapolKey) (t : Sme) : Prop :=
  ∃ snonce, t.held =
      { s.held with replay := k.replay, ptk := env.kdf s.pmk k.nonce snonce s.self s.peer,
                    state := .fourWay } ∧
    Sends (Means env s.self (.m2 k.replay)) s.toSmeTx t.toSmeTx

theorem staOnM1_step (psk : s.akm = .psk) (pdu : Bytes) :
    staOnM1 env s pdu = s ∨
      ∃ k, smeEapolKeyDecode pdu = some k ∧ Answered env s k (staOnM1 env s pdu) := by
  unfold staOnM1
  cases decoded : smeEapolKeyDecode pdu with
  | none => exact Or.inl rfl
  | some k =>
    refine Or.inr ⟨k, rfl, ?_⟩
    dsimp only
    set t : Sme := { s with eapolM1Rx := s.eapolM1Rx + 1, anonce := k.nonce, replay := k.replay }
      with taken
    have drawn : (staSnonce env t).held = t.held ∧ (staSnonce env t).anonce = k.nonce ∧
        (staSnonce env t).sent = s.sent := by
      unfold staSnonce
      split
      · exact ⟨rfl, rfl, rfl⟩
      · exact ⟨rfl, rfl, rfl⟩
    obtain ⟨held, nonce, quiet⟩ := drawn
    generalize staSnonce env t = u at held nonce quiet
    have uAkm : u.akm = .psk := (congrArg Held.akm held).trans psk
    have derived : (smeDerivePtk env u).held =
        { u.held with ptk := env.kdf u.pmk u.anonce u.snonce u.self u.peer } :=
      withSnonce_ptk env u uAkm u.snonce
    have samePmk : u.pmk = s.pmk := congrArg Held.pmk held
    have sameSelf : u.self = s.self := congrArg Held.self held
    have samePeer : u.peer = s.peer := congrArg Held.peer held
    rw [nonce, samePmk, sameSelf, samePeer] at derived
    set v : Sme := smeDerivePtk env u with keyed
    have vHeld : v.held =
        { s.held with replay := k.replay
                      ptk := env.kdf s.pmk k.nonce u.snonce s.self s.peer } := by
      rw [derived, held]
      rfl
    have vSelf : v.self = s.self := congrArg Held.self vHeld
    have vReplay : v.replay = k.replay := congrArg Held.replay vHeld
    refine ⟨u.snonce, congrArg (fun h : Held => { h with state := .fourWay }) vHeld, ?_⟩
    have sent := @txM2_sends env v v.replay v.snonce (m2KeyData v)
    have noted : Means env v.self (.m2 v.replay) = Means env s.self (.m2 k.replay) := by
      rw [vSelf, vReplay]
    rw [noted] at sent
    have vQuiet : v.sent = s.sent := quiet
    exact (Sends.of_eq vQuiet).trans sent

theorem staRxM1_step (psk : s.akm = .psk) (pdu : Bytes) :
    staRxM1 env s pdu = s ∨
      (staRxM1 env s pdu).held = { s.held with earlyM1 := some pdu } ∧
        (staRxM1 env s pdu).sent = s.sent ∨
      ∃ k, smeEapolKeyDecode pdu = some k ∧ Answered env s k (staRxM1 env s pdu) := by
  unfold staRxM1
  split
  · exact Or.inl rfl
  split
  · split
    · exact Or.inl rfl
    · exact Or.inr (Or.inl ⟨rfl, rfl⟩)
  · exact (staOnM1_step env s psk pdu).imp_right Or.inr

/-- After the negotiation the station fails, waits for the first message, or answers the one
that came early. -/
theorem staOnAssocResp_step (psk : s.akm = .psk) (ies : Bytes) :
    ∃ active early, (early = s.earlyM1 ∨ early = none) ∧
      ((∃ state, (state = .failed ∨ state = .assoced) ∧ (staOnAssocResp env s ies).held =
            { s.held with mfpActive := active, earlyM1 := early, state := state } ∧
          (staOnAssocResp env s ies).sent = s.sent) ∨
        ∃ pdu k t, s.earlyM1 = some pdu ∧ smeEapolKeyDecode pdu = some k ∧ t.sent = s.sent ∧
          t.held = { s.held with mfpActive := active, earlyM1 := early, state := .assoced } ∧
          Answered env t k (staOnAssocResp env s ies)) := by
  obtain ⟨same, sameTx⟩ := staQosNegotiate_held s ies
  obtain ⟨active, negotiated, quiet⟩ := pmfNegotiateIes_held (staQosNegotiate s ies) ies
  refine ⟨active, ?_⟩
  unfold staOnAssocResp
  generalize pmfNegotiateIes (staQosNegotiate s ies) ies = r at negotiated quiet
  obtain ⟨t, st⟩ := r
  rw [same] at negotiated
  dsimp only at negotiated quiet ⊢
  have quiet : t.sent = s.sent := (congrArg SmeTx.sent quiet).trans sameTx
  split
  · exact ⟨s.earlyM1, Or.inl rfl, Or.inl ⟨.failed, Or.inl rfl,
      congrArg (fun h : Held => { h with state := .failed }) negotiated, quiet⟩⟩
  have tAkm : t.akm = .psk := (congrArg Held.akm negotiated).trans psk
  have plain : ¬t.akm = .owe := by
    rw [tAkm]
    decide
  rw [if_neg plain]
  dsimp only
  rw [if_pos rfl]
  unfold staAssoced
  dsimp only
  have tEarly : t.earlyM1 = s.earlyM1 := congrArg Held.earlyM1 negotiated
  cases early : t.earlyM1 with
  | none =>
    refine ⟨none, Or.inr rfl, Or.inl ⟨.assoced, Or.inr rfl, ?_, quiet⟩⟩
    exact congrArg (fun h : Held => { h with earlyM1 := none, state := .assoced }) negotiated
  | some pdu =>
    set u : Sme := { { t with state := .assoced } with earlyM1 := none } with waiting
    have uHeld : u.held =
        { s.held with mfpActive := active, earlyM1 := none, state := .assoced } :=
      congrArg (fun h : Held => { h with earlyM1 := none, state := .assoced }) negotiated
    rcases staOnM1_step env u tAkm pdu with unread | ⟨k, decoded, answered⟩
    · refine ⟨none, Or.inr rfl, Or.inl ⟨.assoced, Or.inr rfl, ?_, ?_⟩⟩
      · exact (congrArg Sme.held unread).trans uHeld
      · exact (congrArg (fun x : Sme => x.sent) unread).trans quiet
    · exact ⟨none, Or.inr rfl,
        Or.inr ⟨pdu, k, u, tEarly.symm.trans early, decoded, quiet, uHeld, answered⟩⟩

theorem pmfKeyOr_named {held : PmfIgtk} {found : Option (Octets 16 × UInt16 × Nat)}
    {key : Octets 16} {keyId : UInt16} {pn : Nat} (named : found = some (key, keyId, pn)) :
    (pmfKeyOr held found).key = key := by
  rw [named]
  rfl

/-- The group management and beacon keys of the third message. -/
theorem staM3Mfp_step (kde : Bytes) :
    ∃ igtk bigtk, (staM3Mfp s kde).held = { s.held with igtkKey := igtk, bigtkKey := bigtk } ∧
      (staM3Mfp s kde).sent = s.sent ∧
      (∀ key keyId ipn, igtkKdeFind kde = some (key, keyId, ipn) → igtk = key) ∧
      (s.beaconProtEnabled = true → ∀ key keyId bipn,
        pmfBigtkKdeFind kde = some (key, keyId, bipn) → bigtk = key) := by
  obtain ⟨fails, eq⟩ := staM3Mfp_eq s kde
  rw [eq]
  refine ⟨_, _, rfl, rfl, ?_, ?_⟩
  · intro key keyId ipn found
    exact pmfKeyOr_named found
  · intro enabled key keyId bipn found
    exact pmfKeyOr_named ((if_pos enabled).trans found)

/-- The station is up with its key in use, and its answer carries the number it took. -/
theorem staAcceptM3_step (off : s.ftEnabled = false) (replay : Nat) (gtk : Octets 16) :
    (staAcceptM3 env s replay gtk).held =
        { s.held with replay := replay, gtk := gtk, installedTk := tk s.ptk, state := .connected } ∧
      Sends (Means env s.self (.m4 replay)) s.toSmeTx (staAcceptM3 env s replay gtk).toSmeTx := by
  have installed := smeInstallKeys_held { s with replay := replay, gtk := gtk }
  have quiet : (smeInstallKeys { s with replay := replay, gtk := gtk }).sent = s.sent := by
    unfold smeInstallKeys smeInstallDataKey
    split
    · rfl
    · rfl
  unfold staAcceptM3 connectAndEstablish
  dsimp only
  generalize smeInstallKeys { s with replay := replay, gtk := gtk } = t at installed quiet
  have sent := @txM4_sends env t t.replay (Octets.zero 32)
  have tSelf : t.self = s.self := congrArg Held.self installed
  have tReplay : t.replay = replay := congrArg Held.replay installed
  have noted : Means env t.self (.m4 t.replay) = Means env s.self (.m4 replay) := by
    rw [tSelf, tReplay]
  rw [noted] at sent
  have off' : t.ftEnabled = false := (congrArg Held.ftEnabled installed).trans off
  set u : Sme := txEapol env t (smeKiM4 t) 0 t.replay (Octets.zero 32) [] with answered
  have established := smeFtEstablish_off
    { u with eapolM4Tx := u.eapolM4Tx + 1, connected := true, state := .connected } off'
  rw [established]
  exact ⟨congrArg (fun h : Held => { h with state := .connected }) installed,
    (Sends.of_eq quiet).trans sent⟩

/-- A third message that is accepted verified under the pairwise key. -/
theorem staOnM3_step (off : s.ftEnabled = false) (pdu : Bytes) :
    (∃ igtk bigtk, (s.state = .fourWay ∨ igtk = s.igtk.key ∧ bigtk = s.bigtk.key) ∧
        (staOnM3 env s pdu).held = { s.held with igtkKey := igtk, bigtkKey := bigtk } ∧
        (staOnM3 env s pdu).sent = s.sent) ∨
      s.state = .fourWay ∧ ∃ k, smeEapolKeyDecode pdu = some k ∧ eapolMicOk env s pdu = true ∧
        ∃ gtk igtk bigtk,
          (staOnM3 env s pdu).held =
            { s.held with replay := k.replay, gtk := gtk, igtkKey := igtk, bigtkKey := bigtk,
                          installedTk := tk s.ptk, state := .connected } ∧
          HoldsGroup (env.keyUnwrap smeKdeMax (kek s.ptk) k.keyData) (staOnM3 env s pdu).held ∧
          Sends (Means env s.self (.m4 k.replay)) s.toSmeTx (staOnM3 env s pdu).toSmeTx := by
  have kept : ∃ igtk bigtk, (s.state = .fourWay ∨ igtk = s.igtk.key ∧ bigtk = s.bigtk.key) ∧
      s.held = { s.held with igtkKey := igtk, bigtkKey := bigtk } ∧ s.sent = s.sent :=
    ⟨s.igtk.key, s.bigtk.key, Or.inr ⟨rfl, rfl⟩, rfl, rfl⟩
  unfold staOnM3
  split
  · exact Or.inl kept
  rename_i waiting
  rw [not_not] at waiting
  split
  · exact Or.inl kept
  rename_i k decoded
  split
  · exact Or.inl kept
  split
  · exact Or.inl kept
  rename_i mic
  dsimp only
  split
  · exact Or.inl kept
  have mic : eapolMicOk env s pdu = true := by simpa using mic
  generalize unwrapped : env.keyUnwrap smeKdeMax (kek s.ptk) k.keyData = kde
  unfold staM3Keys
  split
  · exact Or.inl kept
  rename_i gtk group
  split
  · rename_i inactive
    have inactive : s.mfpActive = false := by simpa using inactive
    obtain ⟨held, sent⟩ := staAcceptM3_step env { s with eapolM3Rx := s.eapolM3Rx + 1 } off k.replay
      gtk
    refine Or.inr ⟨waiting, k, decoded, mic, gtk, s.igtk.key, s.bigtk.key, held, ?_, sent⟩
    rw [held, unwrapped]
    refine ⟨group, fun active => ?_, fun active => ?_⟩
    · rw [show s.mfpActive = true from active] at inactive
      cases inactive
    · rw [show s.mfpActive = true from active] at inactive
      cases inactive
  · obtain ⟨igtk, bigtk, taken, quiet, isIgtk, isBigtk⟩ :=
      staM3Mfp_step { s with eapolM3Rx := s.eapolM3Rx + 1 } kde
    generalize staM3Mfp { s with eapolM3Rx := s.eapolM3Rx + 1 } kde = t at taken quiet
    dsimp only
    split
    · exact Or.inl ⟨igtk, bigtk, Or.inl waiting, taken, quiet⟩
    · have tPtk : t.ptk = s.ptk := congrArg Held.ptk taken
      have tSelf : t.self = s.self := congrArg Held.self taken
      have off' : t.ftEnabled = false := (congrArg Held.ftEnabled taken).trans off
      obtain ⟨held, sent⟩ := staAcceptM3_step env t off' k.replay gtk
      rw [taken, tPtk] at held
      rw [tSelf] at sent
      refine Or.inr ⟨waiting, k, decoded, mic, gtk, igtk, bigtk, held, ?_,
        (Sends.of_eq quiet).trans sent⟩
      rw [held, unwrapped]
      exact ⟨group, fun _ => isIgtk, fun _ => isBigtk⟩

end Sta

end Rf2a4m1
