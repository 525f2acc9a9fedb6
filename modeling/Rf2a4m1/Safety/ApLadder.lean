import Rf2a4m1.Sme.DataPath
import Rf2a4m1.Sme.Demo
import Rf2a4m1.Sme.MgmtFrames
import Rf2a4m1.Sme.Stash

/-!
# The order of Authentication, Association and handshake at the AP

The handler of an Association Request looks at the elements of the request
alone. Beside the AP runs the address of the last station whose Authentication
was answered, so that a request can be compared with both that and the peer.
-/

set_option autoImplicit false

namespace Rf2a4m1

open ByteString Runs

section Law

/-- The states between Authentication and the end of the handshake. -/
def Climbing (s : Sme) : Prop := s.state = .authed ∨ s.state = .assoced ∨ s.state = .fourWay

/-- An Association Response, then a first message that carries the next counter. -/
structure StartsHandshake (s t : Sme) : Prop where
  during : t.state = .fourWay
  counter : t.replay = s.replay + 1
  sends : s.halBound = true → ∃ sc sc' ie resp,
    mgmtFrame s .assocResp s.peer sc ie = some resp ∧
      newSent s t = [resp, eapolFrame s sc'
        (eapolPdu smeKiM1 16 t.replay t.anonce [] (Octets.zero 16))]

/-- Anything sent, or a handshake begun without a HAL. -/
def Answers (s t : Sme) : Prop := newSent s t ≠ [] ∨ t.state = .fourWay ∧ t.replay ≠ s.replay

/-- The source of a frame that is read as an Authentication. -/
def RxKind.authSrc : RxKind → Option MacAddr
  | .handle _ .authReq inp => some (frameSrc inp)
  | _ => none

def authSrc (s : Sme) : SmeOp → Option MacAddr
  | .rx _ frame => (rxKind s frame).authSrc
  | _ => none

/-- An AP together with the last station that completed Authentication. -/
def ladderStep (env : Env) (x : Sme × Option MacAddr) (op : SmeOp) : Sme × Option MacAddr :=
  (smeStep env x.1 op, (authSrc x.1 op).or x.2)

/-- The station the AP is on the ladder with. -/
structure Serves (x : Sme × Option MacAddr) (src : MacAddr) : Prop where
  climbing : Climbing x.1
  peer : x.1.peer = src
  authenticated : x.2 = some src

/-- Only the station that is served gets an answer, and no other fails the AP. -/
structure LadderLaw (x : Sme × Option MacAddr) (src : MacAddr) (t : Sme) : Prop where
  answered : Answers x.1 t → Serves x src
  spared : Climbing x.1 → ¬Serves x src → t.state ≠ .failed

end Law

section Start

variable {env : Env} {s : Sme} {ies : Bytes}

theorem appendIe_length {cap : Nat} {w : Bytes} {build : Nat → Option Bytes} (room : w.length ≤ cap)
    (fits : ∀ c f, build c = some f → f.length ≤ c) : (appendIe cap w build).length ≤ cap := by
  unfold appendIe
  rw [List.length_append]
  cases built : build (cap - w.length) with
  | none => exact room
  | some f =>
    have added := fits _ f built
    rw [Option.getD_some]
    omega

theorem wmmParamBuild_length {cap : Nat} {p : EdcaParam} {f : Bytes}
    (built : wmmParamBuild cap p = some f) : f.length ≤ cap := by
  unfold wmmParamBuild at built
  split at built
  · cases built
  · rename_i room
    cases built
    have recs : (acRecsPut p.ac).length = 16 := rfl
    rw [List.length_append, recs]
    exact Nat.le_of_not_lt room

theorem pmfRsneBuild_length {cap : Nat} {caps : UInt16} {akm : UInt8} {f : Bytes}
    (built : pmfRsneBuild cap caps akm = some f) : f.length ≤ cap := by
  obtain ⟨room, eq⟩ := Option.ite_none_left_eq_some.1 built
  rw [← Option.some.inj eq, List.length_append]
  exact Nat.le_of_not_lt room

theorem assocRespIes_length (s : Sme) : (assocRespIes s).length ≤ 240 := by
  have qos : (if s.qosEnabled then
      appendIe 240 [] fun c => wmmParamBuild c (s.edcaAdvert.getD edcaDefaults)
      else []).length ≤ 240 := by
    split
    · exact appendIe_length (Nat.zero_le _) fun _ _ => wmmParamBuild_length
    · exact Nat.zero_le _
  unfold assocRespIes
  dsimp only
  split
  · exact appendIe_length qos fun _ _ => pmfRsneBuild_length
  · exact qos

theorem mgmtFrame_assocResp_fits (s : Sme) (da : MacAddr) (sc : UInt16) {ie : Bytes}
    (room : ie.length ≤ 240) : ∃ resp, mgmtFrame s .assocResp da sc ie = some resp := by
  have head : (putHdr .assocResp da s.self s.self sc ++ putLe16 smeCapInfo ++ putLe16 0 ++
      putLe16 (0xc000 ||| (1 &&& 0x3fff)) ++ ([] ++ 1 :: UInt8.ofNat smeSuppRates.length ::
        smeSuppRates)).length = 40 := by
    simp [putHdr, smeSuppRates]
  refine ⟨_, if_neg ?_⟩
  unfold smeMgmtMax
  rw [head]
  omega

/-- A frame as it is handed to the HAL outside the data path. -/
def rawFrame (f : Bytes) : TxFrame := { data := f, ac := 1, tid := 0xff, prot := none }

theorem raw_sent {l : SmeTx} (bound : l.halBound = true) (f : Bytes) :
    (l.raw f).sent = rawFrame f :: l.sent ∧ (l.raw f).halBound = true := by
  unfold SmeTx.raw SmeTx.push
  rw [if_pos bound]
  exact ⟨rfl, bound⟩

theorem txAssocResp_sent (bound : s.halBound = true) :
    ∃ sc resp, mgmtFrame s .assocResp s.peer sc (assocRespIes s) = some resp ∧
      (txAssocResp s).sent = rawFrame resp :: s.sent ∧ (txAssocResp s).halBound = true := by
  have room := assocRespIes_length s
  obtain ⟨resp, built⟩ := mgmtFrame_assocResp_fits s s.peer s.toSmeTx.nextSeq.1 room
  refine ⟨_, resp, built, ?_⟩
  unfold txAssocResp txMgmtIe txMgmtTo
  dsimp only
  rw [if_neg (Nat.not_lt.2 room), built]
  exact raw_sent (l := s.toSmeTx.nextSeq.2) bound resp

/-- The answer and the first message leave in this order. -/
theorem apStartHandshake_starts : StartsHandshake s (apStartHandshake env s) := by
  constructor
  · rfl
  · rfl
  · intro bound
    obtain ⟨sc, resp, built, answered, bound'⟩ := txAssocResp_sent bound
    set r := txAssocResp s with hr
    set u : Sme := { (genNonce env r s.nonceSalt).2 with
      anonce := (genNonce env r s.nonceSalt).1, replay := r.replay + 1 } with hu
    have first : (apStartHandshake env s).sent =
        rawFrame (eapolFrame u u.toSmeTx.nextSeq.1
          (eapolSealed env u smeKiM1 16 u.replay u.anonce [])) :: u.sent := by
      have started : (apStartHandshake env s).toSmeTx =
          eapolTx env u smeKiM1 16 u.replay u.anonce [] := rfl
      rw [started, eapolTx_eq env u smeKiM1 16 u.replay u.anonce [] (by decide)]
      exact (raw_sent (l := u.toSmeTx.nextSeq.2) bound' _).1
    have sent : (apStartHandshake env s).sent =
        [rawFrame (eapolFrame u u.toSmeTx.nextSeq.1
          (eapolSealed env u smeKiM1 16 u.replay u.anonce [])), rawFrame resp] ++ s.sent := by
      rw [first]
      exact congrArg _ answered
    exact ⟨_, _, _, resp, built, newSent_append sent⟩

/-- A request that passes the negotiation begins the handshake, whatever the state. -/
theorem apOnAssocReq_accepted (accepted : (s.toSmePmf.negotiate ies).2 = pmfStatusSuccess) :
    ∃ on, apOnAssocReq env s ies = apStartHandshake env
      { s with qosEnabled := on, toSmePmf := (s.toSmePmf.negotiate ies).1 } := by
  obtain ⟨on, qos⟩ : ∃ on, apQosNegotiate s ies = { s with qosEnabled := on } := by
    unfold apQosNegotiate
    split
    · exact ⟨_, rfl⟩
    · exact ⟨s.qosEnabled, rfl⟩
  refine ⟨on, ?_⟩
  unfold apOnAssocReq
  rw [pmfNegotiateIes_eq, qos]
  exact if_neg (not_not.2 accepted)

/-- It is answered whatever the address. -/
theorem apOnAssocReq_starts (accepted : (s.toSmePmf.negotiate ies).2 = pmfStatusSuccess) :
    StartsHandshake s (apOnAssocReq env s ies) := by
  obtain ⟨on, starts⟩ := @apOnAssocReq_accepted env _ _ accepted
  obtain ⟨during, counter, sends⟩ := @apStartHandshake_starts env
    { s with qosEnabled := on, toSmePmf := (s.toSmePmf.negotiate ies).1 }
  rw [starts]
  constructor
  · exact during
  · exact counter
  · exact sends

/-- One that does not fails the AP without a word. -/
theorem apOnAssocReq_refused (refused : (s.toSmePmf.negotiate ies).2 ≠ pmfStatusSuccess) :
    (apOnAssocReq env s ies).state = .failed ∧ newSent s (apOnAssocReq env s ies) = [] := by
  have quiet : (apQosNegotiate s ies).sent = s.sent := by
    unfold apQosNegotiate
    split <;> rfl
  have same : (apQosNegotiate s ies).toSmePmf = s.toSmePmf := by
    unfold apQosNegotiate
    split <;> rfl
  have fails : apOnAssocReq env s ies =
      { apQosNegotiate s ies with toSmePmf := (s.toSmePmf.negotiate ies).1, state := .failed } := by
    unfold apOnAssocReq
    rw [pmfNegotiateIes_eq, same]
    exact if_pos refused
  rw [fails]
  exact ⟨rfl, newSent_same quiet⟩

/-- The AID taken over with a request plays no part. -/
theorem StartsHandshake.of_aid {t : Sme} {a : UInt16}
    (starts : StartsHandshake { s with aid := a } t) : StartsHandshake s t :=
  ⟨starts.during, starts.counter, starts.sends⟩

theorem StartsHandshake.answers {t : Sme} (starts : StartsHandshake s t) : Answers s t := by
  apply Or.inr
  refine ⟨starts.during, ?_⟩
  rw [starts.counter]
  exact Nat.succ_ne_self _

end Start

section Run

variable {env : Env} {x : Sme × Option MacAddr} {op : SmeOp} {frame inp : Bytes}
  {aid : Option UInt16} {sib : Siblings}

/-- The peer is the station that completed Authentication, as long as the AP is on the ladder. -/
structure OnLadder (x : Sme × Option MacAddr) : Prop where
  role : x.1.role = .ap
  idle : x.1.state ≠ .scanning
  served : Climbing x.1 → x.2 = some x.1.peer

/-- Association Requests come from the station that is served or are refused, and nothing but
an Authentication names a peer. -/
def Orderly (x : Sme × Option MacAddr) (op : SmeOp) : Prop :=
  match smeEvent x.1 op with
  | .handle .assocReq inp =>
    Serves x (frameSrc inp) ∨ (x.1.toSmePmf.negotiate (frameBody inp)).2 ≠ pmfStatusSuccess
  | .handle .ftAuth1 _ => False
  | .set (.peer _) => False
  | .dsPush _ _ _ _ => False
  | _ => True

theorem authSrc_some {s : Sme} {src : MacAddr} (reads : authSrc s op = some src) :
    ∃ sib frame aid inp, op = .rx sib frame ∧ rxKind s frame = .handle aid .authReq inp ∧
      frameSrc inp = src := by
  cases op with
  | rx sib frame =>
    have reads : (rxKind s frame).authSrc = some src := reads
    cases kind : rxKind s frame with
    | handle aid type inp =>
      rw [kind] at reads
      cases type with
      | authReq => exact ⟨sib, frame, aid, inp, rfl, kind, Option.some.inj reads⟩
      | _ => cases reads
    | _ =>
      rw [kind] at reads
      cases reads
  | _ => cases reads

theorem OnLadder.step (inv : OnLadder x) (ok : Orderly x op) : OnLadder (ladderStep env x op) := by
  obtain ⟨s, who⟩ := x
  obtain ⟨role, idle, served⟩ := inv
  dsimp only at role idle served
  unfold ladderStep
  dsimp only
  cases authed : authSrc s op with
  | some src =>
    obtain ⟨sib, frame, aid, inp, rfl, reads, rfl⟩ := authSrc_some authed
    have core := apOnAuthReq_core { s with aid := aid.getD s.aid } (frameSrc inp)
    have eq : smeStep env s (.rx sib frame) =
        apOnAuthReq { s with aid := aid.getD s.aid } (frameSrc inp) :=
      ap_handles role reads nofun nofun
    rw [← eq] at core
    have state : (smeStep env s (.rx sib frame)).state = .authed :=
      congrArg (fun c : SmeCore => c.state) core
    have peer : (smeStep env s (.rx sib frame)).peer = frameSrc inp :=
      congrArg (fun c : SmeCore => c.peer) core
    constructor
    · exact (smeStep_role _).trans role
    · rw [state]
      nofun
    · intro _
      exact congrArg some peer.symm
  | none =>
    have effect := smeStep_effect env s op
    have keeps : (smeStep env s op).core.state ≠ .scanning ∧
        ((smeStep env s op).core.state = .authed ∨ (smeStep env s op).core.state = .assoced ∨
          (smeStep env s op).core.state = .fourWay →
            who = some (smeStep env s op).core.peer) := by
      have noAuth : ∀ inp, smeEvent s op ≠ .handle .authReq inp := by
        intro inp event
        obtain ⟨sib, frame, aid, rfl, reads⟩ := smeEvent_handle event
        have authed : (rxKind s frame).authSrc = none := authed
        rw [reads] at authed
        cases authed
      unfold Orderly at ok
      dsimp only at ok
      revert effect
      generalize smeEvent s op = e at ok noAuth ⊢
      generalize (smeStep env s op).core = c
      intro effect
      cases effect with
      | apAuthReq => exact absurd rfl (noAuth _)
      | apAssocReq role success =>
        refine ⟨nofun, fun _ => ?_⟩
        rcases ok with serves | refused
        · exact served serves.climbing
        · exact absurd success refused
      | apFtAuth1Unnamed => exact ok.elim
      | apFtAuth1 => exact ok.elim
      | peerSet => exact ok.elim
      | dsPush => exact ok.elim
      | saeFailed scanning => exact absurd scanning idle
      | saeCommit scanning => exact absurd scanning idle
      | saeCommitFailed scanning => exact absurd scanning idle
      | saeConfirm scanning => exact absurd scanning idle
      | announced sta => cases role.symm.trans sta
      | staProbeResp sta => cases role.symm.trans sta
      | staAuthResp sta => cases role.symm.trans sta
      | staAssocRefused sta => cases role.symm.trans sta
      | staAssocResp sta => cases role.symm.trans sta
      | staAssocRespM1 sta => cases role.symm.trans sta
      | staM1 sta => cases role.symm.trans sta
      | staM3Refused sta => cases role.symm.trans sta
      | staM3 sta => cases role.symm.trans sta
      | staFtAuth2 sta => cases role.symm.trans sta
      | staFtDsResp sta => cases role.symm.trans sta
      | staFtReassoc sta => cases role.symm.trans sta
      | connectStart sta => cases role.symm.trans sta
      | refused => exact ⟨nofun, nofun⟩
      | tornProtected => exact ⟨nofun, nofun⟩
      | tornPlain => exact ⟨nofun, nofun⟩
      | apAssocRefused => exact ⟨nofun, nofun⟩
      | apM4 => exact ⟨nofun, nofun⟩
      | apFtReassoc => exact ⟨nofun, nofun⟩
      | _ => exact ⟨idle, served⟩
    constructor
    · exact (smeStep_role _).trans role
    · exact keeps.1
    · exact keeps.2

/-- In an orderly run the peer of an AP on the ladder has completed Authentication. -/
theorem orderly_served {self : MacAddr} {pmk : Octets 32} {salt : UInt64} {config : SmeConfig}
    (run : Run (ladderStep env) Orderly
      (smeConfigure (smeInit .ap self pmk salt) config, none) x) : OnLadder x := by
  refine run.invariant OnLadder ?_ fun _ _ inv ok => inv.step ok
  refine ⟨rfl, nofun, fun climbing => ?_⟩
  rcases climbing with authed | assoced | during
  · cases authed
  · cases assoced
  · cases during

/-- The ladder is kept exactly by the requests of the station that is served, and by those that
are refused while no station is. -/
theorem assocReq_ladder_iff {self : MacAddr} {pmk : Octets 32} {salt : UInt64}
    {config : SmeConfig}
    (reach : Reach (ladderStep env) (smeConfigure (smeInit .ap self pmk salt) config, none) x)
    (reads : rxKind x.1 frame = .handle aid .assocReq inp) :
    LadderLaw x (frameSrc inp) (ladderStep env x (.rx sib frame)).1 ↔
      Serves x (frameSrc inp) ∨
        ¬Climbing x.1 ∧ (x.1.toSmePmf.negotiate (frameBody inp)).2 ≠ pmfStatusSuccess := by
  have role : x.1.role = .ap := by
    refine reach.invariant (fun y => y.1.role = .ap) ?_ fun y op inv _ => ?_
    · rfl
    · exact (smeStep_role op).trans inv
  have handled : (ladderStep env x (.rx sib frame)).1 =
      apOnAssocReq env { x.1 with aid := aid.getD x.1.aid } (frameBody inp) :=
    ap_handles role reads nofun nofun
  rw [handled]
  set s : Sme := { x.1 with aid := aid.getD x.1.aid }
  by_cases accepted : (x.1.toSmePmf.negotiate (frameBody inp)).2 = pmfStatusSuccess
  · have starts : StartsHandshake s (apOnAssocReq env s (frameBody inp)) :=
      apOnAssocReq_starts accepted
    constructor
    · intro law
      exact Or.inl (law.answered starts.of_aid.answers)
    · rintro (serves | ⟨_, refused⟩)
      · exact ⟨fun _ => serves, fun _ other => absurd serves other⟩
      · exact absurd accepted refused
  · obtain ⟨failed, quiet⟩ : (apOnAssocReq env s (frameBody inp)).state = .failed ∧
        newSent s (apOnAssocReq env s (frameBody inp)) = [] := apOnAssocReq_refused accepted
    have silent : ¬Answers x.1 (apOnAssocReq env s (frameBody inp)) := by
      rintro (sends | ⟨during, _⟩)
      · exact sends quiet
      · cases failed.symm.trans during
    constructor
    · intro law
      by_cases climbing : Climbing x.1
      · by_cases serves : Serves x (frameSrc inp)
        · exact Or.inl serves
        · exact absurd failed (law.spared climbing serves)
      · exact Or.inr ⟨climbing, accepted⟩
    · rintro (serves | ⟨idle, _⟩)
      · exact ⟨fun answers => absurd answers silent, fun _ other => absurd serves other⟩
      · exact ⟨fun answers => absurd answers silent, fun climbing => absurd climbing idle⟩

end Run

section Demo

/-- An Association Request with elements `ies`. -/
def demoAssocFrame (sa : MacAddr) (ies : Bytes) : Bytes :=
  putHdr .assocReq demoApMac sa demoApMac 0 ++ [0x31, 0x04, 0x0a, 0x00] ++ ies

def demoThirdMac : MacAddr := Octets.of 6 [2, 0, 0, 0, 0, 3]

/-- An RSN element of a station that cannot protect management frames. -/
def demoPlainRsne : Bytes := (pmfRsneBuild 64 0 2).getD []

def demoLadder (ops : List SmeOp) : Sme × Option MacAddr :=
  ops.foldl (ladderStep demoEnv) (demoApInit, none)

def demoLadderAuthed : List SmeOp :=
  [.set .bindHal, .set (.pmf .required), .rx noSiblings (demoAuthFrame demoApMac demoStaMac 1 0)]

/-- Before any Authentication, after one, and in the handshake that follows. -/
@[irreducible] def demoFresh : Sme × Option MacAddr := demoLadder [.set .bindHal]

@[irreducible] def demoFirst : Sme × Option MacAddr := demoLadder demoLadderAuthed

@[irreducible] def demoSecond : Sme × Option MacAddr :=
  demoLadder (demoLadderAuthed ++ [.rx noSiblings (demoAssocFrame demoStaMac demoRsne)])

theorem demoLadder_reach (ops : List SmeOp) :
    Reach (ladderStep demoEnv)
      (smeConfigure (smeInit .ap demoApMac demoPmk 7) .plain, none) (demoLadder ops) :=
  Run.reach ops

/-- How a state reads a request: from whom, and with which elements. -/
def demoReads (x : Sme × Option MacAddr) (sa : MacAddr) (ies : Bytes) : Option (MacAddr × Bytes) :=
  ((rxKind x.1 (demoAssocFrame sa ies)).body .assocReq).map fun inp => (frameSrc inp, frameBody inp)

theorem demoReads_handle {x : Sme × Option MacAddr} {sa : MacAddr} {ies : Bytes}
    (reads : demoReads x sa ies = some (sa, ies)) : ∃ aid inp,
      rxKind x.1 (demoAssocFrame sa ies) = .handle aid .assocReq inp ∧ frameSrc inp = sa ∧
        frameBody inp = ies := by
  obtain ⟨inp, body, eq⟩ := Option.map_eq_some_iff.1 reads
  obtain ⟨aid, kind⟩ := RxKind.of_body body
  cases eq
  exact ⟨aid, inp, kind, rfl, rfl⟩

/-- The station that authenticated is answered. -/
theorem assocReq_ladder_iff_demo :
    LadderLaw demoFirst demoStaMac
      (ladderStep demoEnv demoFirst (.rx noSiblings (demoAssocFrame demoStaMac demoRsne))).1 := by
  have facts : demoFirst.1.state = .authed ∧ demoFirst.1.peer = demoStaMac ∧
      demoFirst.2 = some demoStaMac ∧ demoReads demoFirst demoStaMac demoRsne = some (demoStaMac, demoRsne) := by
    decide +kernel
  obtain ⟨state, peer, who, reads⟩ := facts
  obtain ⟨aid, inp, kind, src, _⟩ := demoReads_handle reads
  have reach := demoLadder_reach demoLadderAuthed
  have here : demoLadder demoLadderAuthed = demoFirst := by
    unfold demoFirst
    rfl
  rw [here] at reach
  have law : LadderLaw demoFirst (frameSrc inp)
      (ladderStep demoEnv demoFirst (.rx noSiblings (demoAssocFrame demoStaMac demoRsne))).1 :=
    (assocReq_ladder_iff reach kind).2
      (Or.inl ⟨Or.inl state, peer.trans src.symm, who.trans (congrArg some src.symm)⟩)
  rw [src] at law
  exact law

/-- A station that never authenticated is answered, and one whose policy does not fit ends the
handshake of another. -/
theorem assocReq_ladder_broken :
    (¬∀ x frame aid inp,
        Reach (ladderStep demoEnv) (smeConfigure (smeInit .ap demoApMac demoPmk 7) .plain, none) x →
        rxKind x.1 frame = .handle aid .assocReq inp →
        StartsHandshake x.1 (ladderStep demoEnv x (.rx noSiblings frame)).1 →
        Serves x (frameSrc inp)) ∧
      ¬∀ x frame aid inp,
        Reach (ladderStep demoEnv) (smeConfigure (smeInit .ap demoApMac demoPmk 7) .plain, none) x →
        rxKind x.1 frame = .handle aid .assocReq inp →
        Climbing x.1 → ¬Serves x (frameSrc inp) →
        (ladderStep demoEnv x (.rx noSiblings frame)).1.state ≠ .failed := by
  constructor
  · intro all
    have facts : demoFresh.1.state = .init ∧ demoFresh.1.role = .ap ∧
        (demoFresh.1.toSmePmf.negotiate []).2 = pmfStatusSuccess ∧
        demoReads demoFresh demoStaMac [] = some (demoStaMac, []) := by
      decide +kernel
    obtain ⟨state, role, accepted, reads⟩ := facts
    obtain ⟨aid, inp, kind, _, body⟩ := demoReads_handle reads
    have reach : Reach (ladderStep demoEnv)
        (smeConfigure (smeInit .ap demoApMac demoPmk 7) .plain, none) demoFresh := by
      unfold demoFresh
      exact demoLadder_reach _
    have starts : StartsHandshake demoFresh.1 (ladderStep demoEnv demoFresh
        (.rx noSiblings (demoAssocFrame demoStaMac []))).1 := by
      have handled : (ladderStep demoEnv demoFresh
          (.rx noSiblings (demoAssocFrame demoStaMac []))).1 =
            apOnAssocReq demoEnv { demoFresh.1 with aid := aid.getD demoFresh.1.aid }
              (frameBody inp) := ap_handles role kind nofun nofun
      rw [handled, body]
      apply StartsHandshake.of_aid
      exact apOnAssocReq_starts accepted
    have climbing := (all _ _ _ _ reach kind starts).climbing
    unfold Climbing at climbing
    rw [state] at climbing
    revert climbing
    decide
  · intro all
    have facts : demoSecond.1.state = .fourWay ∧ demoSecond.1.peer = demoStaMac ∧
        demoReads demoSecond demoThirdMac demoPlainRsne = some (demoThirdMac, demoPlainRsne) ∧
        (ladderStep demoEnv demoSecond
          (.rx noSiblings (demoAssocFrame demoThirdMac demoPlainRsne))).1.state = .failed := by
      decide +kernel
    obtain ⟨state, peer, reads, failed⟩ := facts
    obtain ⟨aid, inp, kind, src, _⟩ := demoReads_handle reads
    have reach : Reach (ladderStep demoEnv)
        (smeConfigure (smeInit .ap demoApMac demoPmk 7) .plain, none) demoSecond := by
      unfold demoSecond
      exact demoLadder_reach _
    refine all _ _ _ _ reach kind (Or.inr (Or.inr state)) ?_ failed
    intro serves
    exact absurd (peer.symm.trans (serves.peer.trans src)) (by decide)

end Demo

end Rf2a4m1
