import Rf2a4m1.Crypto.Sswu
import Rf2a4m1.Safety.SaeFirst
import Rf2a4m1.Sme.MgmtFrames

/-!
# Announcements during an SAE exchange

The station stays in scanning until the exchange is over, and in scanning it
acts on every announcement of its BSS: it commits anew. The exchange is left
alone by the announcements it does not act on.
-/

set_option autoImplicit false

namespace Rf2a4m1

open ByteString Runs

/-- A Beacon or a Probe Response. -/
def announces (s : Sme) : SmeOp → Bool
  | .rx _ frame =>
    match rxKind s frame with
    | .announce _ => true
    | .handle none .probeResp _ => true
    | _ => false
  | _ => false

/-- A scanning station acts on a well-formed announcement of its BSS and SSID, where it has
been told these. -/
def heedsBss (s : Sme) (h : MgmtHdr) : Bool :=
  decide (s.role = .sta ∧ s.state = .scanning) && (macIsZero s.peer || decide (h.addr3 = s.peer)) &&
    match mgmtParseBeacon h.body with
    | none => false
    | some bi => decide (s.ssid.length = 0) || decide (bi.ssid = s.ssid)

/-- A Probe Response in internal form names neither. -/
def heedsAnnouncement (s : Sme) : SmeOp → Bool
  | .rx _ frame =>
    match rxKind s frame with
    | .announce h => heedsBss s h
    | .handle none .probeResp _ => decide (s.role = .sta ∧ s.state = .scanning)
    | _ => false
  | _ => false

/-- A station whose Commit is out, and possibly its Confirm. -/
structure SaeRunning (s : Sme) : Prop where
  role : s.role = .sta
  akm : s.akm = .sae
  scanning : s.state = .scanning
  phase : s.saePhase = 1 ∨ s.saePhase = 2

/-- How far the exchange is, and everything it has produced. -/
structure SaeKept (s t : Sme) : Prop where
  state : t.state = s.state
  phase : t.saePhase = s.saePhase
  sae : t.sae = s.sae
  pmk : t.pmk = s.pmk
  ok : t.saeOk = s.saeOk

/-- The exchange has begun again with a secret drawn just now, or it has failed. -/
def SaeRestarted (env : Env) (s t : Sme) : Prop :=
  t.state = .failed ∨
    t.saePhase = 1 ∧ t.sae.haveKeys = false ∧ ∃ n salt, s.draws ≤ n ∧ n < s.draws + 32 ∧
      t.sae.rnd = env.genNonce n s.pmk s.self salt

section Announcement

variable {env : Env} {s : Sme} {h : MgmtHdr}

theorem rxBssAnnounce_unheeded (unheeded : heedsBss s h = false) :
    rxBssAnnounce env s h = s := by
  unfold rxBssAnnounce
  by_cases other : s.role ≠ .sta ∨ s.state ≠ .scanning
  · exact if_pos other
  rw [if_neg other]
  rw [not_or, not_not, not_not] at other
  by_cases bssid : !macIsZero s.peer ∧ h.addr3 ≠ s.peer
  · exact if_pos bssid
  rw [if_neg bssid]
  have named : (macIsZero s.peer || decide (h.addr3 = s.peer)) = true := by
    by_contra unnamed
    apply bssid
    simpa using unnamed
  unfold heedsBss at unheeded
  rw [decide_eq_true other, named, Bool.true_and, Bool.true_and] at unheeded
  cases parsed : mgmtParseBeacon h.body with
  | none => rfl
  | some bi =>
    rw [parsed] at unheeded
    obtain ⟨set, differs⟩ := Bool.or_eq_false_iff.1 unheeded
    have filtered : announceSsid s bi = none := by
      unfold announceSsid
      rw [if_pos (of_decide_eq_false set), if_neg (of_decide_eq_false differs)]
    rw [Option.bind_some, filtered]
    rfl

theorem saeCommit_drawn {sae sae' : Sae} {pt : Octets 64} {a b : MacAddr} {rnd mask : Octets 32}
    (done : saeCommit sae pt a b rnd mask = (sae', true)) :
    sae'.rnd = rnd ∧ sae'.haveKeys = false := by
  unfold saeCommit saeCommitPwe at done
  split at done
  · cases done
  split at done
  · cases done
  dsimp only at done
  split at done
  · cases done
  split at done
  · cases done
  split at done
  · cases done
  · cases done
    exact ⟨rfl, rfl⟩

/-- The secret of a commit is one of the nonces drawn for it. -/
theorem saeCommitLoop_drawn {pt : Octets 64} {fuel : Nat} {attempt : UInt64} {s t : Sme}
    (done : saeCommitLoop env pt fuel attempt s = (t, true)) :
    t.sae.haveKeys = false ∧ ∃ n salt, s.draws ≤ n ∧ n < s.draws + 2 * fuel ∧
      t.sae.rnd = env.genNonce n s.pmk s.self salt := by
  induction fuel generalizing attempt s with
  | zero => cases done
  | succ fuel ih =>
    unfold saeCommitLoop genNonce at done
    dsimp only at done
    split at done
    · rename_i ok
      cases done
      obtain ⟨rnd, keys⟩ := saeCommit_drawn (Prod.ext rfl ok)
      exact ⟨keys, s.draws, _, Nat.le_refl _, by omega, rnd⟩
    · obtain ⟨keys, n, salt, first, last, rnd⟩ := ih done
      dsimp only at first last rnd
      exact ⟨keys, n, salt, by omega, by omega, rnd⟩

/-- A commit that succeeds at once goes out. -/
theorem startAuth_commits (akm : s.akm = .sae) (secret : s.saePw.length ≠ 0)
    (named : s.ssid.length ≠ 0) {pt : Octets 64} {sae : Sae}
    (derived : saeDerivePtH2e s.ssid s.saePw [] = some pt)
    (commits : saeCommit s.sae pt s.self s.peer
      (env.genNonce s.draws s.pmk s.self (s.nonceSalt + 0 * 2))
      (env.genNonce (s.draws + 1) s.pmk s.self (s.nonceSalt + 0 * 2 + 1)) = (sae, true)) :
    ∃ l : SmeTx, l.ssid = s.ssid ∧ l.draws = s.draws + 2 ∧ startAuth env s =
      { s with toSmeTx := l, sae := sae, saePhase := 1, saeCommitTx := s.saeCommitTx + 1 } := by
  set drawn : SmeTx := { s.toSmeTx with draws := s.draws + 2 }
  have looped : saeCommitLoop env pt 16 0 s = ({ s with toSmeTx := drawn, sae := sae }, true) := by
    unfold saeCommitLoop genNonce
    dsimp only
    rw [commits]
    rfl
  have room : ¬256 < 24 + 6 + 2 + sae.commitScalar.bytes.length + sae.commitElement.bytes.length := by
    rw [Octets.length_bytes, Octets.length_bytes]
    omega
  have raw (l : SmeTx) (f : Bytes) : (l.raw f).ssid = l.ssid ∧ (l.raw f).draws = l.draws := by
    unfold SmeTx.raw SmeTx.push
    split <;> exact ⟨rfl, rfl⟩
  have sent : ∃ f, smeSaeTxCommit env s = ({ s with
      toSmeTx := drawn.nextSeq.2.raw f
      sae := sae, saePhase := 1, saeCommitTx := s.saeCommitTx + 1 }, true) := by
    unfold smeSaeTxCommit mgmtBuildAuthSaeCommit
    rw [if_neg (by simp [secret, named]), derived]
    dsimp only
    rw [looped]
    dsimp only
    rw [if_neg (by simp), if_neg room]
    exact ⟨_, rfl⟩
  obtain ⟨f, sent⟩ := sent
  refine ⟨drawn.nextSeq.2.raw f, (raw _ f).1, (raw _ f).2, ?_⟩
  unfold startAuth
  rw [if_pos akm, sent]
  rfl

/-- A station with SAE that starts to authenticate commits. -/
theorem startAuth_restarts (akm : s.akm = .sae) : SaeRestarted env s (startAuth env s) := by
  unfold startAuth
  rw [if_pos akm]
  cases sent : (smeSaeTxCommit env s).2 with
  | false =>
    left
    dsimp only
    rw [sent]
    rfl
  | true =>
    right
    dsimp only
    rw [sent, if_pos rfl]
    unfold smeSaeTxCommit at sent ⊢
    split at sent
    · cases sent
    rename_i filled
    rw [if_neg filled]
    split at sent
    · cases sent
    rename_i pt derived
    dsimp only at sent ⊢
    cases looped : saeCommitLoop env pt 16 0 s with
    | mk t ok =>
      rw [looped] at sent
      cases ok with
      | false => cases sent
      | true =>
        obtain ⟨keys, n, salt, first, last, rnd⟩ := saeCommitLoop_drawn looped
        dsimp only at sent ⊢
        rw [if_neg (by simp)] at sent ⊢
        split at sent
        · cases sent
        · exact ⟨rfl, keys, n, salt, first, last, rnd⟩

/-- What an announcement brings beside the exchange: SSID, channel, BSSID and MFP policy. -/
theorem rxBssAnnounce_heeded (heeds : heedsBss s h = true) :
    ∃ ssid channel pmf, (s.ssid.length ≠ 0 → ssid = s.ssid) ∧ rxBssAnnounce env s h =
      startAuth env { s with ssid := ssid, channel := channel, peer := h.addr3, toSmePmf := pmf } := by
  unfold heedsBss at heeds
  obtain ⟨named, filter⟩ := Bool.and_eq_true_iff.1 heeds
  obtain ⟨waits, bssid⟩ := Bool.and_eq_true_iff.1 named
  have open' := of_decide_eq_true waits
  unfold rxBssAnnounce
  have named : ¬(!macIsZero s.peer ∧ h.addr3 ≠ s.peer) := by
    intro other
    rcases Bool.or_eq_true_iff.1 bssid with zero | same
    · simp [zero] at other
    · exact other.2 (of_decide_eq_true same)
  rw [if_neg (by simp [open']), if_neg named]
  cases parsed : mgmtParseBeacon h.body with
  | none =>
    rw [parsed] at filter
    cases filter
  | some bi =>
    rw [parsed] at filter
    have adopted : ∃ ssid, (s.ssid.length ≠ 0 → ssid = s.ssid) ∧
        announceSsid s bi = some { s with ssid := ssid } := by
      unfold announceSsid
      by_cases unset : s.ssid.length ≠ 0
      · have same : bi.ssid = s.ssid := by
          rcases Bool.or_eq_true_iff.1 filter with empty | same
          · exact absurd (of_decide_eq_true empty) unset
          · exact of_decide_eq_true same
        rw [if_pos unset, if_pos same]
        exact ⟨s.ssid, fun _ => rfl, rfl⟩
      · rw [if_neg unset]
        exact ⟨bi.ssid, fun set => absurd set unset, rfl⟩
    obtain ⟨ssid, kept, adopted⟩ := adopted
    rw [Option.bind_some, adopted]
    dsimp only [Option.map_some]
    split
    · rw [pmfNegotiateIes_eq]
      exact ⟨ssid, _, _, kept, rfl⟩
    · exact ⟨ssid, _, s.toSmePmf, kept, rfl⟩

/-- Without SAE as with it, an announcement is acted on whatever was begun before. -/
theorem rxBssAnnounce_restarts (akm : s.akm = .sae) (heeds : heedsBss s h = true) :
    SaeRestarted env s (rxBssAnnounce env s h) := by
  obtain ⟨ssid, channel, pmf, _, acted⟩ := @rxBssAnnounce_heeded env s h heeds
  rw [acted]
  exact @startAuth_restarts env
    { s with ssid := ssid, channel := channel, peer := h.addr3, toSmePmf := pmf } akm

end Announcement

section Step

variable {env : Env} {s : Sme} {op : SmeOp}

theorem smeStep_announce {sib : Siblings} {frame : Bytes} {h : MgmtHdr}
    (reads : rxKind s frame = .announce h) :
    smeStep env s (.rx sib frame) = rxBssAnnounce env s h := by
  rw [smeStep_rx_eq, reads]
  rfl

/-- What is not heeded changes nothing. -/
theorem announcement_idle (announces : announces s op = true)
    (unheeded : heedsAnnouncement s op = false) : smeStep env s op = s := by
  cases op with
  | rx sib frame =>
    unfold Rf2a4m1.announces at announces
    unfold heedsAnnouncement at unheeded
    dsimp only at announces unheeded
    cases kind : rxKind s frame with
    | announce h =>
      rw [kind] at unheeded
      exact (smeStep_announce kind).trans (rxBssAnnounce_unheeded unheeded)
    | handle aid type inp =>
      rw [kind] at announces unheeded
      split at announces
      · rename_i found
        cases found
      · rename_i found
        cases found
        cases role : s.role with
        | ap =>
          exact @ap_handles env sib s frame inp none .probeResp role kind nofun nofun
        | sta =>
          have waits : s.state ≠ .scanning := by
            intro scanning
            simp [role, scanning] at unheeded
          have handled := @sta_handles env sib s frame inp none .probeResp role kind nofun
          exact handled.trans (if_pos waits)
      · cases announces
    | _ =>
      rw [kind] at announces
      cases announces
  | _ => cases announces

/-- While SAE runs, what is heeded starts it again. -/
theorem announcement_restarts (akm : s.akm = .sae) (heeded : heedsAnnouncement s op = true) :
    SaeRestarted env s (smeStep env s op) := by
  cases op with
  | rx sib frame =>
    unfold heedsAnnouncement at heeded
    dsimp only at heeded
    cases kind : rxKind s frame with
    | announce h =>
      rw [kind] at heeded
      rw [smeStep_announce kind]
      exact rxBssAnnounce_restarts akm heeded
    | handle aid type inp =>
      rw [kind] at heeded
      split at heeded
      · rename_i found
        cases found
      · rename_i found
        cases found
        obtain ⟨role, scanning⟩ := of_decide_eq_true heeded
        have handled := @sta_handles env sib s frame inp none .probeResp role kind nofun
        rw [handled]
        change SaeRestarted env s
          (if s.state ≠ .scanning then s else startAuth env { s with peer := frameSrc inp })
        rw [if_neg (not_not.2 scanning)]
        exact @startAuth_restarts env { s with peer := frameSrc inp } akm
      · cases heeded
    | _ =>
      rw [kind] at heeded
      cases heeded
  | _ => cases heeded

/-- A Confirm that is out is out no more, and of a Commit the secret is another, unless the
same nonce is drawn again. -/
theorem SaeRunning.restarted {t : Sme} (running : SaeRunning s) (restarted : SaeRestarted env s t)
    (kept : SaeKept s t) :
    s.saePhase = 1 ∧ ∃ n salt, s.draws ≤ n ∧ n < s.draws + 32 ∧
      s.sae.rnd = env.genNonce n s.pmk s.self salt := by
  rcases restarted with failed | ⟨phase, _, n, salt, drawn, before, rnd⟩
  · have still := kept.state.symm.trans failed
    exact absurd (running.scanning.symm.trans still) (by decide)
  · refine ⟨kept.phase.symm.trans phase, n, salt, drawn, before, ?_⟩
    rw [← rnd, kept.sae]

end Step

section Run

variable {env : Env}

/-- A station with and without the announcements, in one run of any operations: as long as it
acts on none of them, it does not miss them. -/
theorem saeUndisturbed_run {s : Sme} {p : Sme × Sme}
    (run : Run (spared (smeStep env) announces)
      (fun p op => announces p.1 op = true → heedsAnnouncement p.1 op = false) (s, s) p) :
    SaeKept p.2 p.1 := by
  have same : p.2 = p.1 := run.spared_eq fun p op unheeded announced =>
    announcement_idle announced (unheeded announced)
  rw [same]
  exact ⟨rfl, rfl, rfl, rfl, rfl⟩

end Run

section Demo

def demoNetwork : SmeConfig := { SmeConfig.plain with akm := .sae, saePw := [0x70], ssid := [0x6e] }

/-- A station that looks for its AP in a network with a password. -/
def demoSeeking : Sme := staStarted demoStaMac demoPmk 9 demoNetwork [.bindHal, .peer demoApMac]

/-- A Probe Response of the AP with an SSID. -/
def demoProbeBody (ssid : Bytes) : Bytes :=
  List.replicate 12 0 ++ [0, UInt8.ofNat ssid.length] ++ ssid

def demoProbe (ssid : Bytes) : Bytes :=
  putHdr .probeResp demoStaMac demoApMac demoApMac 0 ++ demoProbeBody ssid

def demoProbeHdr (ssid : Bytes) : MgmtHdr :=
  mgmtHdrOf .probeResp demoStaMac demoApMac demoApMac 0 (demoProbeBody ssid)

theorem demoProbe_kind {s : Sme} (alive : s.state ≠ .failed) {ssid : Bytes}
    (short : (demoProbe ssid).length ≤ 0xffff) :
    rxKind s (demoProbe ssid) = .announce (demoProbeHdr ssid) :=
  rxKind_mgmt mgmtParseHdr_putHdr alive short

/-- The station with its Commit out. -/
@[irreducible] def demoCommitted : Sme :=
  smeStep demoEnv demoSeeking (.rx noSiblings (demoProbe [0x6e]))

theorem demoCommitted_reach :
    Reach (smeStep demoEnv) (smeConfigure (smeInit .sta demoStaMac demoPmk 9) demoNetwork)
      demoCommitted := by
  unfold demoCommitted
  have seeking : Reach (smeStep demoEnv)
      (smeConfigure (smeInit .sta demoStaMac demoPmk 9) demoNetwork) demoSeeking :=
    Run.reach [SmeOp.set .bindHal, .set (.peer demoApMac), .connectStart]
  exact seeking.trans (Run.single _ trivial)

/-- The password point of the network. -/
theorem demoNetwork_point : ∃ pt, saeDerivePtH2e [0x6e] [0x70] [] = some pt ∧
    ∃ P : P256, P ≠ 0 ∧ encodePoint P = some pt := by
  have elements : ((h2eElement [0x6e] [0x70] (ascii "SAE Hash to Element u1 P1")).bind fun u1 =>
      (h2eElement [0x6e] [0x70] (ascii "SAE Hash to Element u2 P2")).map fun u2 =>
        (ofBe u1.bytes < p256Prime ∧ ofBe u2.bytes < p256Prime ∧
          ofBe u1.bytes % 2 = ofBe u2.bytes % 2 : Bool)) = some true := by
    decide +kernel
  obtain ⟨u1, first, elements⟩ := Option.bind_eq_some_iff.1 elements
  obtain ⟨u2, second, facts⟩ := Option.map_eq_some_iff.1 elements
  obtain ⟨small1, small2, parity⟩ := of_decide_eq_true facts
  exact saeDerivePtH2e_finite (by decide) first second small1 small2 parity

theorem demoCommit_succeeds :
    ∃ pt sae, saeDerivePtH2e [0x6e] [0x70] [] = some pt ∧
      saeCommit demoSeeking.sae pt demoStaMac demoApMac (demoEnv.genNonce 0 demoPmk demoStaMac 9)
        (demoEnv.genNonce 1 demoPmk demoStaMac 10) = (sae, true) := by
  obtain ⟨pt, derived, P, finite, encoded⟩ := demoNetwork_point
  have scalar : scalarInRange (pweScalar demoStaMac demoApMac) = true := by decide +kernel
  have nonces : p256ScalarValid (demoEnv.genNonce 0 demoPmk demoStaMac 9) = true ∧
      p256ScalarValid (demoEnv.genNonce 1 demoPmk demoStaMac 10) = true ∧
      p256ScalarValid (p256ScalarAddN (demoEnv.genNonce 0 demoPmk demoStaMac 9)
        (demoEnv.genNonce 1 demoPmk demoStaMac 10)) = true ∧
      (p256ScalarAddN (demoEnv.genNonce 0 demoPmk demoStaMac 9)
        (demoEnv.genNonce 1 demoPmk demoStaMac 10)).bytes ≠ List.replicate 31 0 ++ [1] := by
    decide +kernel
  obtain ⟨rndOk, maskOk, sumOk, large⟩ := nonces
  obtain ⟨sae, commits⟩ := saeCommit_succeeds finite encoded scalar demoSeeking.sae rndOk maskOk
    sumOk large
  exact ⟨pt, sae, derived, commits⟩

theorem demoProbe_heeded {s : Sme} (role : s.role = .sta) (scanning : s.state = .scanning)
    (peer : s.peer = demoApMac) (ssid : s.ssid = [0x6e]) :
    heedsBss s (demoProbeHdr [0x6e]) = true ∧ heedsBss s (demoProbeHdr []) = false := by
  have parsed : (mgmtParseBeacon (demoProbeBody [0x6e])).map BeaconInfo.ssid = some [0x6e] ∧
      (mgmtParseBeacon (demoProbeBody [])).map BeaconInfo.ssid = some [] := by
    decide +kernel
  obtain ⟨bi, named, first⟩ := Option.map_eq_some_iff.1 parsed.1
  obtain ⟨bi', hidden, second⟩ := Option.map_eq_some_iff.1 parsed.2
  have bodies (b : Bytes) : (demoProbeHdr b).body = demoProbeBody b ∧
      (demoProbeHdr b).addr3 = demoApMac := ⟨rfl, rfl⟩
  unfold heedsBss
  rw [(bodies [0x6e]).1, (bodies []).1, (bodies [0x6e]).2, (bodies []).2, named, hidden, peer, ssid,
    role, scanning]
  dsimp only
  rw [first, second]
  decide

/-- How far the station is. -/
structure DemoCommitted (s : Sme) : Prop extends SaeRunning s where
  peer : s.peer = demoApMac
  ssid : s.ssid = [0x6e]
  draws : s.draws = 2
  pmk : s.pmk = demoPmk
  self : s.self = demoStaMac
  rnd : s.sae.rnd = demoEnv.genNonce 0 demoPmk demoStaMac 9

theorem demoCommitted_facts : DemoCommitted demoCommitted := by
  have heeded := (@demoProbe_heeded demoSeeking rfl rfl rfl rfl).1
  have kind := @demoProbe_kind demoSeeking (by decide) [0x6e] (by decide)
  obtain ⟨ssid, channel, pmf, kept, acted⟩ := @rxBssAnnounce_heeded demoEnv _ _ heeded
  obtain ⟨pt, sae, derived, commits⟩ := demoCommit_succeeds
  have secret : demoSeeking.saePw.length ≠ 0 := by decide
  have named : [0x6e].length ≠ 0 := by decide
  obtain rfl : ssid = [0x6e] := kept (by decide)
  obtain ⟨l, sameSsid, drawn, started⟩ := @startAuth_commits demoEnv { demoSeeking with
    ssid := [0x6e], channel := channel, peer := (demoProbeHdr [0x6e]).addr3, toSmePmf := pmf } rfl
    secret named pt sae derived commits
  have eq := (@smeStep_announce demoEnv _ noSiblings _ _ kind).trans (acted.trans started)
  unfold demoCommitted
  rw [eq]
  exact
    { role := rfl, akm := rfl, scanning := rfl, phase := Or.inl rfl, peer := rfl
      ssid := sameSsid, draws := drawn, pmk := rfl, self := rfl
      rnd := (saeCommit_drawn commits).1 }

section DemoCommitted

variable {s : Sme}

theorem DemoCommitted.announced (facts : DemoCommitted s) {ssid : Bytes}
    (short : (demoProbe ssid).length ≤ 0xffff) :
    announces s (.rx noSiblings (demoProbe ssid)) = true ∧
      heedsAnnouncement s (.rx noSiblings (demoProbe ssid)) = heedsBss s (demoProbeHdr ssid) := by
  have alive : s.state ≠ .failed := by
    rw [facts.scanning]
    decide
  have kind := @demoProbe_kind s alive ssid short
  constructor
  · unfold announces
    dsimp only
    rw [kind]
  · unfold heedsAnnouncement
    dsimp only
    rw [kind]

/-- The announcement of a hidden network is one the station does not act on. -/
theorem DemoCommitted.hidden_run (facts : DemoCommitted s) :
    Run (spared (smeStep demoEnv) announces)
      (fun p op => announces p.1 op = true → heedsAnnouncement p.1 op = false)
      (s, s) (smeStep demoEnv s (.rx noSiblings (demoProbe [])), s) := by
  obtain ⟨announced, heeds⟩ := @DemoCommitted.announced s facts [] (by decide)
  have unheeded := (demoProbe_heeded facts.role facts.scanning facts.peer facts.ssid).2
  have step := @Run.single _ _ (spared (smeStep demoEnv) announces)
    (fun p op => announces p.1 op = true → heedsAnnouncement p.1 op = false)
    (s, s) (.rx noSiblings (demoProbe [])) fun _ => heeds.trans unheeded
  unfold spared at step
  dsimp only at step
  rwa [if_pos announced] at step

/-- That of the network itself makes it draw another secret. -/
theorem DemoCommitted.disturbed (facts : DemoCommitted s) :
    ¬SaeKept s (smeStep demoEnv s (.rx noSiblings (demoProbe [0x6e]))) := by
  intro kept
  obtain ⟨_, heeds⟩ := @DemoCommitted.announced s facts [0x6e] (by decide)
  have heeded := (demoProbe_heeded facts.role facts.scanning facts.peer facts.ssid).1
  obtain ⟨_, n, salt, later, before, rnd⟩ :=
    facts.toSaeRunning.restarted (announcement_restarts facts.akm (heeds.trans heeded)) kept
  rw [facts.draws] at later before
  rw [facts.rnd, facts.pmk, facts.self] at rnd
  have fresh : ∀ n < 2 + 32, 2 ≤ n → demoEnv.genNonce 0 demoPmk demoStaMac 9 ≠
      demoEnv.genNonce n demoPmk demoStaMac 0 := by
    decide +kernel
  exact fresh n before later rnd

end DemoCommitted

/-- The hidden network's announcements are passed over. -/
theorem saeUndisturbed_run_demo :
    SaeRunning demoCommitted ∧
      SaeKept demoCommitted (smeStep demoEnv demoCommitted (.rx noSiblings (demoProbe []))) :=
  ⟨demoCommitted_facts.toSaeRunning, saeUndisturbed_run demoCommitted_facts.hidden_run⟩

/-- One more Probe Response of the AP, and the station has drawn another secret. -/
theorem announcement_disturbs :
    ¬∀ s frame,
      Reach (smeStep demoEnv) (smeConfigure (smeInit .sta demoStaMac demoPmk 9) demoNetwork) s →
      SaeRunning s → announces s (.rx noSiblings frame) = true →
      SaeKept s (smeStep demoEnv s (.rx noSiblings frame)) := by
  intro all
  have announced := (@DemoCommitted.announced demoCommitted demoCommitted_facts [0x6e] (by decide)).1
  exact demoCommitted_facts.disturbed
    (all _ _ demoCommitted_reach demoCommitted_facts.toSaeRunning announced)

end Demo

end Rf2a4m1
