import Rf2a4m1.Sme.Demo
import Rf2a4m1.Sme.FtMessages
import Rf2a4m1.Sme.Plugin

/-!
# A fast transition completes

A station and a target AP deliver in order what they send each other. Over the
air as over the DS both derive the pairwise key in the first exchange, and the
second one leaves them connected under it with one group key.
-/

set_option autoImplicit false

namespace Rf2a4m1

open ByteString

section Delivery

/-- The frames handed to the HAL while `s` became `t`, oldest first. -/
def sentSince (s t : Sme) : List Bytes :=
  ((t.sent.take (t.sent.length - s.sent.length)).map TxFrame.data).reverse

/-- Reception of frames in order. -/
def rxFrames (env : Env) (sib : Siblings) (s : Sme) (frames : List Bytes) : Sme × Siblings :=
  frames.foldl (fun p frame => smeRx env p.2 p.1 frame) (s, sib)

/-- So many rounds of a station's frames being delivered to an AP and its frames being
delivered to the station; what the station has sent last is still in flight. -/
def exchange (env : Env) (sib : Siblings) : Nat → Sme → Sme → List Bytes → Sme × Sme × List Bytes
  | 0, sta, ap, inFlight => (sta, ap, inFlight)
  | rounds + 1, sta, ap, inFlight =>
    let ap' := (rxFrames env sib ap inFlight).1
    let sta' := (rxFrames env sib sta (sentSince ap ap')).1
    exchange env sib rounds sta' ap' (sentSince sta sta')

/-- The roam over the air: the station starts it, and the two ends exchange frames. -/
def roamOverAir (env : Env) (sib : Siblings) (rounds : Nat) (sta target : Sme) :
    Sme × Sme × List Bytes :=
  let started := (smeFtRoam env sta target.self).1
  exchange env sib rounds started target (sentSince sta started)

/-- The roam over the DS: one round with the current AP, which reaches the target through its
siblings, then rounds with the target. -/
def roamOverDs (env : Env) (sib : Siblings) (rounds : Nat) (sta current target : Sme) :
    Option (Sme × Sme × List Bytes) :=
  let started := (smeFtRoamOverDs env sta target.self).1
  let (current', sib') :=
    rxFrames env { sib with ftDsTarget := some target } current (sentSince sta started)
  let sta' := (rxFrames env sib started (sentSince current current')).1
  sib'.ftDsTarget.map fun target' =>
    exchange env sib rounds sta' target' (sentSince started sta')

section Lemmas

variable {env : Env} {sib : Siblings} {s t : Sme}

theorem sentSince_one {frame : Bytes}
    (sent : t.sent = { data := frame, ac := 1, tid := 0xff, prot := none } :: s.sent) :
    sentSince s t = [frame] := by
  unfold sentSince
  rw [sent, List.length_cons, Nat.add_sub_cancel_left]
  rfl

theorem sentSince_none (sent : t.sent = s.sent) : sentSince s t = [] := by
  unfold sentSince
  rw [sent, Nat.sub_self]
  rfl

theorem txInt_sent (bound : s.halBound = true) (type : FrameType) (payload : Bytes) :
    (txInt s type payload).sent =
      { data := smePfx type s.self ++ payload, ac := 1, tid := 0xff, prot := none } :: s.sent := by
  unfold txInt txRaw SmeTx.raw SmeTx.push
  dsimp only
  rw [bound]
  rfl

@[simp] theorem SmeTx.raw_halBound (l : SmeTx) (f : Bytes) : (l.raw f).halBound = l.halBound := by
  unfold raw push
  split <;> rfl

theorem rxFrames_one (frame : Bytes) : rxFrames env sib s [frame] = smeRx env sib s frame := rfl

theorem rxFrames_nil : rxFrames env sib s [] = (s, sib) := rfl

/-- Nothing happens any more once nothing is in flight. -/
theorem exchange_nil (rounds : Nat) (sta ap : Sme) :
    exchange env sib rounds sta ap [] = (sta, ap, []) := by
  induction rounds with
  | zero => rfl
  | succ rounds ih =>
    rw [exchange, rxFrames_nil]
    dsimp only
    rw [sentSince_none rfl, rxFrames_nil]
    dsimp only
    rw [sentSince_none rfl, ih]

/-- A frame of the fast transition is read as what it says it is. -/
theorem rxKind_passed (alive : s.state ≠ .failed) {type : FrameType}
    (passes : type.whenConnected = true) (src : MacAddr) (body : Bytes) :
    rxKind s (smePfx type src ++ body) = .handle none type (smePfx type src ++ body) := by
  have long : smePfxLen ≤ (smePfx type src ++ body).length := by
    rw [List.length_append, smePfx_length]
    exact Nat.le_add_right _ _
  have gate : demuxGate s type (smePfx type src ++ body) = true := by
    unfold demuxGate
    rw [decide_eq_true long, passes]
    simp [alive]
  rw [rxKind_internal long rfl alive]
  unfold internalKind
  rw [if_pos gate]

theorem smeRx_passed (alive : s.state ≠ .failed) {type : FrameType}
    (passes : type.whenConnected = true) (src : MacAddr) (body : Bytes) :
    smeRx env sib s (smePfx type src ++ body) =
      smeHandle env sib s type (smePfx type src ++ body) := by
  rw [smeRx_eq, rxKind_passed alive passes]
  rfl

theorem smeRx_ap (ap : s.role = .ap) (alive : s.state ≠ .failed) {type : FrameType}
    (passes : type.whenConnected = true) (src : MacAddr) (body : Bytes) :
    smeRx env sib s (smePfx type src ++ body) =
      apDemux env sib s type src (smePfx type src ++ body) body := by
  rw [smeRx_passed alive passes]
  unfold smeHandle
  rw [if_pos ap]
  have source : macAt (smePfx type src ++ body) 1 = src := frameSrc_smePfx type src body
  have payload : (smePfx type src ++ body).drop smePfxLen = body := frameBody_smePfx type src body
  rw [source, payload]

theorem smeRx_sta (sta : s.role = .sta) (alive : s.state ≠ .failed) {type : FrameType}
    (passes : type.whenConnected = true) (src : MacAddr) (body : Bytes) :
    smeRx env sib s (smePfx type src ++ body) =
      staDemux env sib s type src (smePfx type src ++ body) body := by
  rw [smeRx_passed alive passes]
  unfold smeHandle
  rw [if_neg (by rw [sta]; decide)]
  have source : macAt (smePfx type src ++ body) 1 = src := frameSrc_smePfx type src body
  have payload : (smePfx type src ++ body).drop smePfxLen = body := frameBody_smePfx type src body
  rw [source, payload]

end Lemmas

end Delivery

section Ends

/-- PMK-R0 as it follows from the parameters. -/
def FtEstablished (s : Sme) : Prop :=
  s.ftR0Valid = true ∧
    ftDerivePmkR0 s.pmk.bytes s.ftSsid s.ftMdid s.ftR0khId (if s.role = .sta then s.self else s.peer) =
      some (s.ftPmkR0, s.ftPmkR0Name)

theorem smeFtEstablish_established {s : Sme} (enabled : s.ftEnabled = true)
    (ssid : s.ftSsid.length ≤ 32) (holder : s.ftR0khId.length ≤ 48) :
    FtEstablished (smeFtEstablish s) := by
  have derived : ∃ r0, ftDerivePmkR0 s.pmk.bytes s.ftSsid s.ftMdid s.ftR0khId
      (if s.role = .sta then s.self else s.peer) = some r0 := by
    unfold ftDerivePmkR0
    rw [if_neg (by omega)]
    exact ⟨_, rfl⟩
  obtain ⟨r0, derived⟩ := derived
  unfold smeFtEstablish
  rw [enabled, derived]
  exact ⟨rfl, derived⟩

/-- Both ends of a handshake establish PMK-R0 as they connect. -/
theorem connectAndEstablish_established {s : Sme} (enabled : s.ftEnabled = true)
    (ssid : s.ftSsid.length ≤ 32) (holder : s.ftR0khId.length ≤ 48) :
    FtEstablished (connectAndEstablish s) :=
  smeFtEstablish_established (s := { s with connected := true, state := .connected }) enabled ssid
    holder

/-- The fast transition is on, with the same parameters and PMK. -/
structure SameFt (s t : Sme) : Prop where
  enabled : s.ftEnabled = true ∧ t.ftEnabled = true
  pmk : s.pmk = t.pmk
  ssid : s.ftSsid = t.ftSsid
  mdid : s.ftMdid = t.ftMdid
  r0kh : s.ftR0khId = t.ftR0khId

/-- A station and an AP of one mobility domain, validating one channel if the AP validates. -/
structure FtEnds (sta ap : Sme) : Prop where
  staRole : sta.role = .sta
  apRole : ap.role = .ap
  up : sta.state = .connected
  alive : ap.state ≠ .failed
  bound : sta.halBound = true ∧ ap.halBound = true
  same : SameFt sta ap
  ssid : sta.ftSsid.length ≤ 32
  holder : sta.ftR0khId.length ≤ 48
  established : FtEstablished sta
  channel : ap.ocvEnabled = true → sta.ocvEnabled = true ∧ sta.ociLocal = ap.ociLocal

/-- The two ends once both have derived the pairwise key of a roam. -/
structure FtKeyed (sta ap : Sme) : Prop extends FtEnds sta ap where
  target : sta.ftTarget = ap.self
  peer : ap.peer = sta.self
  ptk : sta.ptk = ap.ptk
  pmkR1Name : sta.ftPmkR1Name = ap.ftPmkR1Name
  fresh : sta.ricRespReceived = false

/-- Transmitting changes nothing of it. -/
theorem FtKeyed.tx {sta ap : Sme} (keyed : FtKeyed sta ap) {l m : SmeTx}
    (bound : l.halBound = true ∧ m.halBound = true) :
    FtKeyed { sta with toSmeTx := l } { ap with toSmeTx := m } :=
  { keyed with bound := bound, same := { keyed.same with } }

end Ends

section GroupKey

theorem gtkKde_length (gtk : Octets 16) : (gtkKdeBuild gtk 1).length = 24 := by
  simp [gtkKdeBuild, rsnOui]

theorem gtkKdeParse_build (gtk : Octets 16) : gtkKdeParse (gtkKdeBuild gtk 1) = some gtk := by
  have long : ¬((gtkKdeBuild gtk 1).length < 24 ∨ byteAt (gtkKdeBuild gtk 1) 0 ≠ 0xdd ∨
      byteAt (gtkKdeBuild gtk 1) 1 ≠ 22) := by
    rw [gtkKde_length]
    simp [gtkKdeBuild, byteAt]
  have tag : ¬(slice (gtkKdeBuild gtk 1) 2 3 ≠ rsnOui ∨ byteAt (gtkKdeBuild gtk 1) 5 ≠ 1) := by
    simp [gtkKdeBuild, byteAt, slice, rsnOui]
  have key : slice (gtkKdeBuild gtk 1) 8 16 = gtk.bytes := by
    unfold gtkKdeBuild
    rw [slice_append_right (by simp [rsnOui])]
    have front : 8 - ([0xdd, 22] ++ rsnOui ++ [1, (1 : UInt8) &&& 0x03, 0x00]).length = 0 := rfl
    rw [front]
    unfold slice
    rw [List.drop_zero, List.take_of_length_le (by simp)]
  unfold gtkKdeParse
  rw [if_neg long, if_neg tag, key, Octets.of_bytes]

variable {env : Env} (wrap : KeyWrapInverts env) (kek : Octets 16) (gtk : Octets 16)
include wrap

theorem wrappedGtk_length :
    (env.keyWrap smeKdeMax kek (gtkKdeBuild gtk 1)).length = 32 := by
  have len := gtkKde_length gtk
  rw [wrap.length _ _ _ (by omega) (by omega) (by rw [len]; decide), len]

theorem unwrappedGtk :
    env.keyUnwrap smeKdeMax kek (env.keyWrap smeKdeMax kek (gtkKdeBuild gtk 1)) =
      gtkKdeBuild gtk 1 := by
  have len := gtkKde_length gtk
  exact wrap.unwrap _ _ _ _ (by omega) (by omega) (by rw [len]; decide) (by rw [len]; decide)

end GroupKey

section Connect

variable (s : Sme)

/-- Connecting changes the link and the data key, nothing else that a roam looks at. -/
theorem ftConnect_link : (ftConnect s).state = .connected ∧ (ftConnect s).ptk = s.ptk ∧
    (ftConnect s).gtk = s.gtk ∧ (ftConnect s).installedTk = tk s.ptk ∧
    (ftConnect s).peer = s.peer ∧ (ftConnect s).self = s.self ∧
    (ftConnect s).toSmeRic = s.toSmeRic ∧ (ftConnect s).sent = s.sent := by
  unfold ftConnect smeInstallKeys smeInstallDataKey
  dsimp only
  by_cases kept : (s.dataKeyValid && decide (s.installedTk = tk s.ptk)) = true
  · rw [if_pos kept]
    rw [Bool.and_eq_true, decide_eq_true_eq] at kept
    exact ⟨rfl, rfl, rfl, kept.2, rfl, rfl, rfl, rfl⟩
  · rw [if_neg kept]
    exact ⟨rfl, rfl, rfl, rfl, rfl, rfl, rfl, rfl⟩

end Connect

section Reassociation

variable {env : Env} {sta ap : Sme}

/-- What a station asks for beside the keys: its channel and its resources. -/
def ftExtra (sta : Sme) : Bytes := ociPart sta ++ ricPart sta.ricRequest

def ftReqElems (sta : Sme) : Bytes := ftReassocElems sta sta.self 5 sta.ftTarget (ftExtra sta)

theorem ftTxReassocReq_eq (role : sta.role = .sta) (holder : sta.ftR0khId.length ≤ 48) :
    ftTxReassocReq env sta =
      txInt { sta with draws := sta.draws + 1 } .ftReassocReq (ftReqElems sta) := by
  have short : (ftExtra sta).length ≤ 69 := ftReassocExtra_length
  unfold ftTxReassocReq
  have extra : ftBuildReassocReqExtra sta 220 = ftExtra sta := ftBuildReassocReqExtra_eq
  rw [extra, ftTxReassoc_eq env holder (Nat.le_trans short (by omega)), if_pos role]
  rfl

/-- Keys that agree give one MIC over one set of elements. -/
theorem ftMicOf_agree (keyed : FtKeyed sta ap) (seq : UInt8) (f : FtFte) (extra : Bytes) :
    ftMicOf ap ap.peer ap.self seq f extra = ftMicOf sta sta.self sta.ftTarget seq f extra := by
  unfold ftMicOf ftMdeOf
  rw [keyed.peer, keyed.target, keyed.ptk, keyed.pmkR1Name, keyed.same.mdid]

/-- What an AP finds in a Reassociation Request under its key. -/
theorem ftLocateFte_reassoc (keyed : FtKeyed sta ap) (extra : Bytes) :
    ftLocateFte ap (ftReassocElems sta sta.self 5 sta.ftTarget extra) 16 =
      some ({ mdid := ap.ftMdid, mde := ftMdeOf ap,
              fte := fteOf (ftReassocFte sta sta.self 5 sta.ftTarget extra),
              trailing := ap.ftPmkR1Name.bytes ++ extra },
        ftReassocFte sta sta.self 5 sta.ftTarget extra) := by
  have ok : fteR0khOk (ftReassocFte sta sta.self 5 sta.ftTarget extra) = true :=
    ftFillFte_ok keyed.holder true true (some sta.ftTarget)
  have mde : ftMdeOf sta = ftMdeOf ap := congrArg (fun mdid => mdeOf mdid 0x01) keyed.same.mdid
  unfold ftReassocElems
  rw [mde, keyed.pmkR1Name]
  exact ftLocateFte_append ok _ (by simp)

/-- Such a request passes the check of name and MIC, whatever trails them in scope. -/
theorem ftApOnReassoc_sealed (keyed : FtKeyed sta ap) {extra : Bytes}
    (short : extra.length ≤ 160)
    (channel : ftApOcvOk { ap with draws := ap.draws + 1 } extra = true) :
    ftApOnReassoc env ap (ftReassocElems sta sta.self 5 sta.ftTarget extra) =
      ftApAccept env { ap with draws := ap.draws + 1 } extra := by
  have ok : fteR0khOk (ftReassocFte sta sta.self 5 sta.ftTarget extra) = true :=
    ftFillFte_ok keyed.holder true true (some sta.ftTarget)
  have name : (ap.ftPmkR1Name.bytes ++ extra).drop 16 = extra :=
    List.drop_left' ap.ftPmkR1Name.length_bytes
  have named : slice (ap.ftPmkR1Name.bytes ++ extra) 0 16 = ap.ftPmkR1Name.bytes :=
    slice_append_left ap.ftPmkR1Name.length_bytes
  have mic := ftMic_fteOf (s := ap) env ok short ap.peer ap.self 5
  have same : ftMicOf ap ap.peer ap.self 5 (ftReassocFte sta sta.self 5 sta.ftTarget extra) extra =
      (ftReassocFte sta sta.self 5 sta.ftTarget extra).mic := by
    unfold ftReassocFte
    rw [ftMicOf_mic, ftMicOf_agree keyed]
  unfold ftApOnReassoc
  rw [ftLocateFte_reassoc keyed]
  dsimp only
  rw [if_neg (not_not.2 named), name, mic]
  dsimp only
  rw [if_neg (not_not.2 same), channel]
  rfl

/-- The AP finds every check met as such a request comes in, and answers it. -/
theorem FtKeyed.accepts (keyed : FtKeyed sta ap) (sib : Siblings) {extra : Bytes}
    (short : extra.length ≤ 160)
    (channel : ftApOcvOk { ap with draws := ap.draws + 1 } extra = true) :
    (smeRx env sib ap (smePfx .ftReassocReq sta.self ++
        ftReassocElems sta sta.self 5 sta.ftTarget extra)).1 =
      ftApAccept env { ap with draws := ap.draws + 1 } extra := by
  rw [smeRx_ap keyed.apRole keyed.alive rfl]
  change (if ap.ftEnabled then
    ftApOnReassoc env ap (ftReassocElems sta sta.self 5 sta.ftTarget extra) else ap) = _
  rw [if_pos keyed.same.enabled.2]
  exact ftApOnReassoc_sealed keyed short channel

/-- The AP as it answers: it has counted the request and drawn a group key. -/
def ftAnswering (env : Env) (sta ap : Sme) : Sme :=
  let s := { ap with toSmeRic := ap.toSmeRic.answered sta.ricRequest }
  let (gtk, s) := smeGenMaterial env s 16 (s.nonceSalt + 21)
  { s with gtk := gtk }

theorem SmeRic.answered_deny (r : SmeRic) (request : Option Tspec) :
    (r.answered request).ricApDeny = r.ricApDeny := by
  cases request <;> rfl

/-- The answer to the resource request, and the group key under the key encryption key. -/
def ftAnswerExtra (env : Env) (sta ap : Sme) : Bytes :=
  ricAnswerPart ap.ricApDeny sta.ricRequest ++
    env.keyWrap smeKdeMax (kek ap.ptk) (gtkKdeBuild ap.gtk 1)

def ftRespElems (env : Env) (sta ap : Sme) : Bytes :=
  ftReassocElems ap ap.peer 6 ap.self (ftAnswerExtra env sta ap)

theorem ftAnswerExtra_length (wrap : KeyWrapInverts env) :
    (ftAnswerExtra env sta ap).length ≤ 97 := by
  have ric := ricAnswerPart_length ap.ricApDeny sta.ricRequest
  unfold ftAnswerExtra
  rw [List.length_append, wrappedGtk_length wrap]
  omega

theorem ftAnswering_keyed (keyed : FtKeyed sta ap) : FtKeyed sta (ftAnswering env sta ap) :=
  { keyed with same := { keyed.same with } }

theorem ftApAccept_eq (wrap : KeyWrapInverts env) (role : ap.role = .ap)
    (holder : ap.ftR0khId.length ≤ 48) :
    ftApAccept env ap (ftExtra sta) =
      ftConnect (txInt { ftAnswering env sta ap with draws := (ftAnswering env sta ap).draws + 1 }
        .ftReassocResp (ftRespElems env sta (ftAnswering env sta ap))) := by
  have ric : ftApRic ap (ftExtra sta) = (ricAnswerPart ap.ricApDeny sta.ricRequest,
      { ap with toSmeRic := ap.toSmeRic.answered sta.ricRequest }) := ftApRic_region
  have deny : (ftAnswering env sta ap).ricApDeny = ap.ricApDeny := SmeRic.answered_deny _ _
  have short := @ftAnswerExtra_length env sta (ftAnswering env sta ap) wrap
  have nonempty : env.keyWrap smeKdeMax (kek (ftAnswering env sta ap).ptk)
      (gtkKdeBuild (ftAnswering env sta ap).gtk 1) ≠ [] := by
    intro empty
    have len := wrappedGtk_length wrap (kek (ftAnswering env sta ap).ptk)
      (ftAnswering env sta ap).gtk
    rw [empty] at len
    cases len
  have sent := ftTxReassoc_eq (s := ftAnswering env sta ap) env holder
    (Nat.le_trans short (by omega)) .ftReassocResp 6 ap.self
  have other : (ftAnswering env sta ap).role ≠ .sta := by
    change ap.role ≠ .sta
    rw [role]
    decide
  rw [if_neg other] at sent
  unfold ftApAccept
  rw [ric]
  change (if env.keyWrap smeKdeMax (kek (ftAnswering env sta ap).ptk)
        (gtkKdeBuild (ftAnswering env sta ap).gtk 1) = [] then ftAnswering env sta ap
      else ftConnect (ftTxReassoc env (ftAnswering env sta ap) .ftReassocResp 6 ap.self
        (ricAnswerPart ap.ricApDeny sta.ricRequest ++ env.keyWrap smeKdeMax
          (kek (ftAnswering env sta ap).ptk) (gtkKdeBuild (ftAnswering env sta ap).gtk 1)))) = _
  rw [if_neg nonempty, ← deny]
  exact congrArg ftConnect sent

/-- The station as it connects: it has taken the verdict and the group key over. -/
def ftTold (sta ap : Sme) : Sme :=
  { sta with draws := sta.draws + 1, toSmeRic := sta.toSmeRic.told ap.ricApDeny, gtk := ap.gtk
             peer := sta.ftTarget }

/-- The station finds every check of the answer met, and unwraps the AP's group key. -/
theorem ftStaOnReassoc_keyed (wrap : KeyWrapInverts env) (keyed : FtKeyed sta ap) :
    ftStaOnReassoc env sta (ftRespElems env sta ap) = ftConnect (ftTold sta ap) := by
  have ok : fteR0khOk (ftReassocFte ap ap.peer 6 ap.self (ftAnswerExtra env sta ap)) = true :=
    ftFillFte_ok (by rw [← keyed.same.r0kh]; exact keyed.holder) true true (some ap.self)
  have short := @ftAnswerExtra_length env sta ap wrap
  have mde : ftMdeOf ap = ftMdeOf sta :=
    congrArg (fun mdid => mdeOf mdid 0x01) keyed.same.mdid.symm
  have name : (ap.ftPmkR1Name.bytes ++ ftAnswerExtra env sta ap).drop 16 =
      ftAnswerExtra env sta ap := List.drop_left' ap.ftPmkR1Name.length_bytes
  have located : ftLocateFte sta (ftRespElems env sta ap) 16 =
      some ({ mdid := sta.ftMdid, mde := ftMdeOf sta,
              fte := fteOf (ftReassocFte ap ap.peer 6 ap.self (ftAnswerExtra env sta ap)),
              trailing := ap.ftPmkR1Name.bytes ++ ftAnswerExtra env sta ap },
        ftReassocFte ap ap.peer 6 ap.self (ftAnswerExtra env sta ap)) := by
    unfold ftRespElems ftReassocElems
    rw [mde]
    exact ftLocateFte_append ok _ (by simp)
  have mic := ftMic_fteOf (s := sta) env ok (Nat.le_trans short (by omega)) sta.self sta.ftTarget 6
  have same : ftMicOf sta sta.self sta.ftTarget 6
      (ftReassocFte ap ap.peer 6 ap.self (ftAnswerExtra env sta ap)) (ftAnswerExtra env sta ap) =
      (ftReassocFte ap ap.peer 6 ap.self (ftAnswerExtra env sta ap)).mic := by
    unfold ftReassocFte
    rw [ftMicOf_mic, ← ftMicOf_agree keyed]
  have told : ftStaRic { sta with draws := sta.draws + 1 } (ftAnswerExtra env sta ap) =
      (env.keyWrap smeKdeMax (kek ap.ptk) (gtkKdeBuild ap.gtk 1),
        { sta with draws := sta.draws + 1, toSmeRic := sta.toSmeRic.told ap.ricApDeny }) :=
    @ftStaRic_region { sta with draws := sta.draws + 1 } ap.ricApDeny _
  have kde : env.keyUnwrap smeKdeMax (kek sta.ptk)
      (env.keyWrap smeKdeMax (kek ap.ptk) (gtkKdeBuild ap.gtk 1)) = gtkKdeBuild ap.gtk 1 := by
    rw [keyed.ptk]
    exact unwrappedGtk wrap _ _
  have nonempty : gtkKdeBuild ap.gtk 1 ≠ [] := by
    intro empty
    have len := gtkKde_length ap.gtk
    rw [empty] at len
    cases len
  unfold ftStaOnReassoc
  rw [located]
  dsimp only
  rw [name, mic]
  dsimp only
  rw [if_neg (not_not.2 same), told]
  dsimp only
  rw [kde, if_neg nonempty, gtkKdeParse_build]
  rfl

/-- Where a roam from `sta` to `target` ends: both connected to each other with equal keys, and
the station knows the AP's verdict on its resources. -/
structure FtAgreed (sta target sta' ap' : Sme) : Prop where
  up : sta'.state = .connected ∧ ap'.state = .connected
  ptk : sta'.ptk = ap'.ptk
  installedTk : sta'.installedTk = ap'.installedTk
  gtk : sta'.gtk = ap'.gtk
  peer : sta'.peer = target.self ∧ ap'.peer = sta.self
  verdict : sta'.toSmeRic.verdict = ricVerdictOf target.ricApDeny sta.ricRequest
  counted : ap'.toSmeRic = target.toSmeRic.answered sta.ricRequest

theorem ftConnect_agreed (keyed : FtKeyed sta ap) {sta' ap' : Sme}
    (told : sta' = ftConnect (ftTold sta (ftAnswering env sta ap))) {s : Sme}
    (answered : ap' = ftConnect s) (link : s.toSmeKeys = (ftAnswering env sta ap).toSmeKeys)
    (assoc : s.toSmeAssoc = ap.toSmeAssoc)
    (ric : s.toSmeRic = ap.toSmeRic.answered sta.ricRequest) : FtAgreed sta ap sta' ap' := by
  subst told answered
  obtain ⟨staUp, staPtk, staGtk, staTk, staPeer, _, staRic, _⟩ :=
    ftConnect_link (ftTold sta (ftAnswering env sta ap))
  obtain ⟨apUp, apPtk, apGtk, apTk, apPeer, _, apRic, _⟩ := ftConnect_link s
  have ptk : s.ptk = (ftAnswering env sta ap).ptk := congrArg (fun k : SmeKeys => k.ptk) link
  have gtk : s.gtk = (ftAnswering env sta ap).gtk := congrArg (fun k : SmeKeys => k.gtk) link
  have apPeer' : s.peer = ap.peer := congrArg (fun a : SmeAssoc => a.peer) assoc
  refine ⟨⟨staUp, apUp⟩, ?_, ?_, ?_, ⟨?_, ?_⟩, ?_, ?_⟩
  · rw [staPtk, apPtk, ptk]
    exact keyed.ptk
  · rw [staTk, apTk, ptk]
    exact congrArg tk keyed.ptk
  · rw [staGtk, apGtk, gtk]
    rfl
  · rw [staPeer]
    exact keyed.target
  · rw [apPeer, apPeer']
    exact keyed.peer
  · rw [staRic]
    have deny : (ftAnswering env sta ap).ricApDeny = ap.ricApDeny := SmeRic.answered_deny _ _
    change (sta.toSmeRic.told (ftAnswering env sta ap).ricApDeny).verdict = _
    rw [deny]
    exact SmeRic.told_verdict keyed.fresh ap.ricApDeny
  · rw [apRic, ric]

/-- The second exchange, from the request in flight to a quiet air. -/
theorem reassociation_exchange (wrap : KeyWrapInverts env) (keyed : FtKeyed sta ap)
    (sib : Siblings) (rounds : Nat) :
    ∃ sta' ap', exchange env sib (rounds + 1) (ftTxReassocReq env sta) ap
        [smePfx .ftReassocReq sta.self ++ ftReqElems sta] = (sta', ap', []) ∧
      FtAgreed sta ap sta' ap' := by
  have holder : ap.ftR0khId.length ≤ 48 := by
    rw [← keyed.same.r0kh]
    exact keyed.holder
  set sta₁ := txInt { sta with draws := sta.draws + 1 } .ftReassocReq (ftReqElems sta)
  set ap₀ := { ap with draws := ap.draws + 1 }
  have requested : ftTxReassocReq env sta = sta₁ := ftTxReassocReq_eq keyed.staRole keyed.holder
  have keyed₁ : FtKeyed sta₁ ap₀ :=
    keyed.tx ⟨(SmeTx.raw_halBound _ _).trans keyed.bound.1, keyed.bound.2⟩
  set ap₁ := ftAnswering env sta₁ ap₀
  set sending := txInt { ap₁ with draws := ap₁.draws + 1 } .ftReassocResp (ftRespElems env sta₁ ap₁)
  have received : (rxFrames env sib ap [smePfx .ftReassocReq sta.self ++ ftReqElems sta]).1 =
      ftConnect sending := by
    have short : (ftExtra sta).length ≤ 69 := ftReassocExtra_length
    have validated : ftApOcvOk { ap with draws := ap.draws + 1 } (ftExtra sta) = true :=
      ftApOcvOk_region keyed.channel _
    rw [rxFrames_one, ftReqElems, keyed.accepts sib (Nat.le_trans short (by omega)) validated]
    exact @ftApAccept_eq env sta₁ ap₀ wrap keyed.apRole holder
  have answered : sentSince ap (ftConnect sending) =
      [smePfx .ftReassocResp ap.self ++ ftRespElems env sta₁ ap₁] := by
    apply sentSince_one
    rw [(ftConnect_link sending).2.2.2.2.2.2.2]
    exact txInt_sent (s := { ap₁ with draws := ap₁.draws + 1 }) keyed.bound.2 _ _
  have connected : (rxFrames env sib sta₁ (sentSince ap (ftConnect sending))).1 =
      ftConnect (ftTold sta₁ ap₁) := by
    have alive : sta₁.state ≠ .failed := by
      rw [keyed₁.up]
      decide
    rw [answered, rxFrames_one, smeRx_sta keyed₁.staRole alive rfl]
    change (if sta₁.ftEnabled && sta₁.ftR0Valid then
      ftStaOnReassoc env sta₁ (ftRespElems env sta₁ ap₁) else sta₁) = _
    rw [keyed₁.same.enabled.1, keyed₁.established.1, Bool.and_self, if_pos rfl]
    exact ftStaOnReassoc_keyed wrap (ftAnswering_keyed keyed₁)
  have quiet : sentSince sta₁ (ftConnect (ftTold sta₁ ap₁)) = [] := by
    apply sentSince_none
    rw [(ftConnect_link _).2.2.2.2.2.2.2]
    rfl
  refine ⟨ftConnect (ftTold sta₁ ap₁), ftConnect sending, ?_, ?_⟩
  · rw [requested, exchange, received, connected, quiet, exchange_nil]
  · have agreed : FtAgreed sta₁ ap₀ (ftConnect (ftTold sta₁ ap₁)) (ftConnect sending) :=
      ftConnect_agreed keyed₁ rfl rfl rfl rfl rfl
    exact { agreed with }

end Reassociation

section Authentication

variable {env : Env} {sta ap : Sme}

/-- Both ends derive the same PMK-R0 for the station. -/
theorem FtEnds.pmkR0 (ends : FtEnds sta ap) :
    ftDerivePmkR0 ap.pmk.bytes ap.ftSsid ap.ftMdid ap.ftR0khId sta.self =
      some (sta.ftPmkR0, sta.ftPmkR0Name) := by
  have derived := ends.established.2
  rw [if_pos ends.staRole] at derived
  rw [← ends.same.pmk, ← ends.same.ssid, ← ends.same.mdid, ← ends.same.r0kh]
  exact derived

/-- What an AP finds in a request. -/
theorem ftLocateFte_request (same : sta.ftMdid = ap.ftMdid) (holder : sta.ftR0khId.length ≤ 48) :
    ftLocateFte ap (ftRequestElems sta) 16 =
      some ({ mdid := ap.ftMdid, mde := ftMdeOf ap, fte := fteOf (ftFillFte sta false true none),
              trailing := sta.ftPmkR0Name.bytes }, ftFillFte sta false true none) := by
  have mde : ftMdeOf sta = ftMdeOf ap := congrArg (fun mdid => mdeOf mdid 0x01) same
  unfold ftRequestElems
  rw [mde]
  exact ftLocateFte_append (ftFillFte_ok holder false true none) _ (by simp)

/-- The AP as it offers: the station is its peer, PMK-R0 and the pairwise key are derived. -/
def ftOffering (env : Env) (sta ap : Sme) : Sme :=
  ftApDerive env { ap with peer := sta.self, ftSnonce := sta.ftSnonce, ftPmkR0 := sta.ftPmkR0
                           ftPmkR0Name := sta.ftPmkR0Name, ftR0Valid := true }

theorem ftApOnAuth1_request (ends : FtEnds sta ap) :
    ftApOnAuth1 env ap sta.self (ftRequestElems sta) =
      txInt (ftOffering env sta ap) .ftAuth2 (ftOfferElems (ftOffering env sta ap)) := by
  have holder : (ftOffering env sta ap).ftR0khId.length ≤ 48 := by
    change ap.ftR0khId.length ≤ 48
    rw [← ends.same.r0kh]
    exact ends.holder
  have named : sta.ftPmkR0Name.bytes = slice sta.ftPmkR0Name.bytes 0 16 := by
    have one := @slice_append_left sta.ftPmkR0Name.bytes [] 16 sta.ftPmkR0Name.length_bytes
    rw [List.append_nil] at one
    exact one.symm
  unfold ftApOnAuth1
  rw [ftLocateFte_request ends.same.mdid ends.holder]
  dsimp only
  rw [ends.pmkR0]
  dsimp only
  rw [if_neg (not_not.2 named)]
  exact ftTxAuth2_eq holder

/-- The station takes up an offer for the SNonce it asked with. -/
theorem ftStaOnAuth2_offer (same : sta.ftMdid = ap.ftMdid) (holder : ap.ftR0khId.length ≤ 48)
    (snonce : ap.ftSnonce = sta.ftSnonce) (trailing : Bytes) :
    ftStaOnAuth2 env sta (ftOfferElems ap ++ trailing) = ftStaDerive env sta ap.ftAnonce := by
  have mde : ftMdeOf ap = ftMdeOf sta := congrArg (fun mdid => mdeOf mdid 0x01) same.symm
  have located := ftLocateFte_append (s := sta) (ftFillFte_ok holder true true (some ap.self))
    trailing (Nat.zero_le _)
  have echoed : (ftFillFte ap true true (some ap.self)).snonce = sta.ftSnonce := snonce
  unfold ftOfferElems ftStaOnAuth2
  rw [mde, located]
  dsimp only
  rw [if_neg (not_not.2 echoed)]
  rfl

/-- The target answers a station that starts a roam. -/
theorem FtEnds.offers (ends : FtEnds sta ap) (sib : Siblings) :
    (smeRx env sib ap (smePfx .ftAuth1 sta.self ++ ftRequestElems sta)).1 =
      txInt (ftOffering env sta ap) .ftAuth2 (ftOfferElems (ftOffering env sta ap)) := by
  rw [smeRx_ap ends.apRole ends.alive rfl]
  change (if ap.ftEnabled then ftApOnAuth1 env ap sta.self (ftRequestElems sta) else ap) = _
  rw [if_pos ends.same.enabled.2]
  exact ftApOnAuth1_request ends

/-- The station as it reassociates, with the keys of the target. -/
def ftReassociating (sta : Sme) (anonce : Octets 32) : Sme :=
  let (r1, r1Name) := ftDerivePmkR1 sta.ftPmkR0 sta.ftPmkR0Name sta.ftTarget sta.self
  { sta with ftAnonce := anonce, ftPmkR1 := r1, ftPmkR1Name := r1Name
             ptk := ftDerivePtk r1 sta.ftSnonce anonce sta.ftTarget sta.self }

/-- A station that has started a roam is still the end it was. -/
theorem FtEnds.started (ends : FtEnds sta ap) (target : MacAddr) (salt : UInt64) :
    FtEnds (ftRoamStart env sta target salt) ap :=
  { ends with same := { ends.same with } }

theorem FtEnds.allowed (ends : FtEnds sta ap) : ftRoamAllowed sta = true := by
  unfold ftRoamAllowed
  rw [ends.staRole, ends.same.enabled.1, ends.established.1, ends.up]
  rfl

/-- One exchange over the air and both ends hold the pairwise key. -/
theorem ftOffering_keyed (ends : FtEnds sta ap) (salt : UInt64) :
    FtKeyed (ftReassociating (ftRoamStart env sta ap.self salt)
        (ftOffering env (ftRoamStart env sta ap.self salt) ap).ftAnonce)
      (ftOffering env (ftRoamStart env sta ap.self salt) ap) :=
  { ends with
    same := { ends.same with }
    target := rfl
    peer := rfl
    ptk := rfl
    pmkR1Name := rfl
    fresh := rfl }

/-- Over the air: two exchanges and no more. -/
theorem roamOverAir_agreed (wrap : KeyWrapInverts env) (ends : FtEnds sta ap) (sib : Siblings)
    (rounds : Nat) :
    ∃ sta' ap', roamOverAir env sib (rounds + 2) sta ap = (sta', ap', []) ∧
      FtAgreed sta ap sta' ap' := by
  set asking := ftRoamStart env sta ap.self (sta.nonceSalt + 30)
  set started := txInt asking .ftAuth1 (ftRequestElems asking)
  set offering := ftOffering env asking ap
  set ap₁ := txInt offering .ftAuth2 (ftOfferElems offering)
  set sta₁ := ftReassociating started offering.ftAnonce
  have starts : (smeFtRoam env sta ap.self).1 = started := by
    unfold smeFtRoam
    rw [ends.allowed]
    exact ftTxAuth1_eq ends.holder
  have holder : offering.ftR0khId.length ≤ 48 := by
    change ap.ftR0khId.length ≤ 48
    rw [← ends.same.r0kh]
    exact ends.holder
  have asked : sentSince sta started = [smePfx .ftAuth1 sta.self ++ ftRequestElems asking] := by
    apply sentSince_one
    exact txInt_sent (s := asking) ends.bound.1 _ _
  have offered : (rxFrames env sib ap (sentSince sta started)).1 = ap₁ := by
    rw [asked, rxFrames_one]
    exact (ends.started ap.self (sta.nonceSalt + 30)).offers sib
  have offer : sentSince ap ap₁ = [smePfx .ftAuth2 ap.self ++ ftOfferElems offering] := by
    apply sentSince_one
    exact txInt_sent (s := offering) ends.bound.2 _ _
  have requests : (rxFrames env sib started (sentSince ap ap₁)).1 = ftTxReassocReq env sta₁ := by
    have alive : started.state ≠ .failed := by
      change sta.state ≠ .failed
      rw [ends.up]
      decide
    rw [offer, rxFrames_one, smeRx_sta (s := started) ends.staRole alive rfl]
    change (if sta.ftEnabled && sta.ftR0Valid then
      ftStaOnAuth2 env started (ftOfferElems offering) else started) = _
    rw [ends.same.enabled.1, ends.established.1, Bool.and_self, if_pos rfl,
      ← List.append_nil (ftOfferElems offering),
      @ftStaOnAuth2_offer env started offering ends.same.mdid holder rfl]
    rfl
  have keyed : FtKeyed sta₁ ap₁ := (ftOffering_keyed ends _).tx
    ⟨(SmeTx.raw_halBound _ _).trans ends.bound.1, (SmeTx.raw_halBound _ _).trans ends.bound.2⟩
  have request : sentSince started (ftTxReassocReq env sta₁) =
      [smePfx .ftReassocReq sta₁.self ++ ftReqElems sta₁] := by
    rw [ftTxReassocReq_eq keyed.staRole keyed.holder]
    apply sentSince_one
    exact txInt_sent (s := { sta₁ with draws := sta₁.draws + 1 }) keyed.bound.1 _ _
  obtain ⟨sta', ap', delivered, agreed⟩ := reassociation_exchange wrap keyed sib rounds
  refine ⟨sta', ap', ?_, { agreed with }⟩
  unfold roamOverAir
  rw [starts, exchange, offered, requests, request, delivered]

end Authentication

section OverDs

/-- The AP a station is connected to, as seen from it: same domain, PMK-R0 established for it. -/
structure FtCurrent (sta ap : Sme) : Prop where
  role : ap.role = .ap
  alive : ap.state ≠ .failed
  bound : ap.halBound = true
  same : SameFt sta ap
  established : FtEstablished ap
  peer : ap.peer = sta.self

variable {env : Env} {sta current target : Sme}

/-- The current AP holds the station's PMK-R0. -/
theorem FtCurrent.pmkR0 (serves : FtCurrent sta current) (ends : FtEnds sta target) :
    current.ftPmkR0 = sta.ftPmkR0 ∧ current.ftPmkR0Name = sta.ftPmkR0Name := by
  have theirs := serves.established.2
  have ours := ends.established.2
  have isAp : current.role ≠ .sta := by
    rw [serves.role]
    decide
  rw [if_neg isAp, serves.peer, ← serves.same.pmk, ← serves.same.ssid, ← serves.same.mdid,
    ← serves.same.r0kh] at theirs
  rw [if_pos ends.staRole] at ours
  have both := Option.some.inj (theirs.symm.trans ours)
  exact ⟨congrArg Prod.fst both, congrArg Prod.snd both⟩

/-- The target with a PMK-R1 pushed to it, as it offers. -/
def ftPushed (env : Env) (sta target : Sme) : Sme :=
  let (r1, r1Name) := ftDerivePmkR1 sta.ftPmkR0 sta.ftPmkR0Name target.self sta.self
  let t := { target with peer := sta.self, ftSnonce := sta.ftSnonce, ftPmkR1 := r1,
                         ftPmkR1Name := r1Name }
  let (anonce, t) := smeGenMaterial env t 32 (t.nonceSalt + 12)
  { t with ftAnonce := anonce, ptk := ftDerivePtk r1 sta.ftSnonce anonce target.self sta.self }

/-- The answer that goes back over the DS. -/
def ftPushedResp (env : Env) (sta target : Sme) : Bytes :=
  [6, 2] ++ sta.self.bytes ++ target.self.bytes ++ putLe16 0 ++
    (ftOfferElems (ftPushed env sta target) ++ (ftPushed env sta target).ftPmkR1Name.bytes)

theorem ftPushedElems_length (holder : target.ftR0khId.length ≤ 48) :
    (ftOfferElems (ftPushed env sta target) ++
      (ftPushed env sta target).ftPmkR1Name.bytes).length ≤ 163 := by
  have offer := ftOfferElems_length (s := ftPushed env sta target) holder
  rw [List.length_append, Octets.length_bytes]
  omega

theorem ftDsTargetProcess_eq (enabled : target.ftEnabled = true)
    (holder : target.ftR0khId.length ≤ 48) :
    ftDsTargetProcess env target sta.self target.self sta.ftSnonce
        (ftDerivePmkR1 sta.ftPmkR0 sta.ftPmkR0Name target.self sta.self).1
        (ftDerivePmkR1 sta.ftPmkR0 sta.ftPmkR0Name target.self sta.self).2 260 =
      (ftPushed env sta target, some (ftPushedResp env sta target)) := by
  have build := ftBuildMdeFte_eq (s := ftPushed env sta target) holder
    (by decide : 147 ≤ 220) true true (some target.self)
  obtain ⟨mde, fte⟩ := @ftElems_length (ftPushed env sta target) _
    (ftFillFte_ok (s := ftPushed env sta target) holder true true (some target.self))
  have short := @ftPushedElems_length env sta target holder
  have resp := @ftActionRespBuild_eq sta.self target.self 260 _ 0
    (Nat.le_trans short (by omega)) (by omega)
  have mine : ¬((!target.ftEnabled) = true ∨ target.self ≠ target.self) := by
    rw [enabled]
    simp
  have room : ¬(ftMdeOf (ftPushed env sta target)).length +
      (fteOf (ftFillFte (ftPushed env sta target) true true (some target.self))).length + 16 > 220 := by
    omega
  unfold ftPushed smeGenMaterial genNonce at build
  unfold ftDsTargetProcess smeGenMaterial genNonce
  rw [if_neg mine]
  dsimp only at build ⊢
  rw [build]
  exact (if_neg room).trans (congrArg (Prod.mk (ftPushed env sta target)) resp)

/-- The current AP pushes the key, and forwards the target's answer. -/
theorem ftApOnDsRequest_eq (serves : FtCurrent sta current) (ends : FtEnds sta target)
    (aimed : sta.ftTarget = target.self) (sib : Siblings) :
    ftApOnDsRequest env { sib with ftDsTarget := some target } current
        ([6, 1] ++ sta.self.bytes ++ sta.ftTarget.bytes ++ ftRequestElems sta) =
      (txInt current .ftDsResp (ftPushedResp env sta target),
        { sib with ftDsTarget := some (ftPushed env sta target) }) := by
  have holder : target.ftR0khId.length ≤ 48 := by
    rw [← ends.same.r0kh]
    exact ends.holder
  have ok := ftFillFte_ok ends.holder false true none
  have mde : ftMdeOf sta = ftMdeOf current :=
    congrArg (fun mdid => mdeOf mdid 0x01) serves.same.mdid
  have located : ftLocate (ftRequestElems sta) =
      some { mdid := current.ftMdid, mde := ftMdeOf current,
             fte := fteOf (ftFillFte sta false true none), trailing := sta.ftPmkR0Name.bytes } := by
    unfold ftRequestElems
    rw [mde]
    exact ftLocate_append ok _
  have named : slice sta.ftPmkR0Name.bytes 0 16 = current.ftPmkR0Name.bytes := by
    have one := @slice_append_left sta.ftPmkR0Name.bytes [] 16 sta.ftPmkR0Name.length_bytes
    rw [List.append_nil] at one
    rw [one, (serves.pmkR0 ends).2]
  have looks : ¬(current.ftMdid ≠ current.ftMdid ∨ sta.ftPmkR0Name.bytes.length < 16 ∨
      (!current.ftR0Valid) = true) := by
    rw [serves.established.1]
    simp
  have short := @ftPushedElems_length env sta target holder
  unfold ftApOnDsRequest
  rw [ftActionReqParse_append]
  dsimp only
  rw [located]
  dsimp only
  rw [if_neg looks, ftFteParse_fteOf ok]
  dsimp only
  rw [if_neg (not_not.2 named), (serves.pmkR0 ends).1, (serves.pmkR0 ends).2, aimed]
  have pushed := @ftDsTargetProcess_eq env sta _ ends.same.enabled.2 holder
  have snonce : (ftFillFte sta false true none).snonce = sta.ftSnonce := rfl
  rw [snonce, pushed]
  dsimp only
  rw [ftTx_eq]
  unfold ftPushedResp
  rw [List.length_append]
  simp only [List.length_append, List.length_cons, List.length_nil, Octets.length_bytes,
    putLe16_length] at short ⊢
  omega

/-- The push, and both ends hold the pairwise key. -/
theorem ftPushed_keyed (ends : FtEnds sta target) (salt : UInt64) :
    FtKeyed (ftReassociating (ftRoamStart env sta target.self salt)
        (ftPushed env (ftRoamStart env sta target.self salt) target).ftAnonce)
      (ftPushed env (ftRoamStart env sta target.self salt) target) :=
  { ends with
    same := { ends.same with }
    target := rfl
    peer := rfl
    ptk := rfl
    pmkR1Name := rfl
    fresh := rfl }

/-- Over the DS: one exchange with the current AP, one with the target, and no more. -/
theorem roamOverDs_agreed (wrap : KeyWrapInverts env) (ends : FtEnds sta target)
    (serves : FtCurrent sta current) (sib : Siblings) (rounds : Nat) :
    ∃ sta' ap', roamOverDs env sib (rounds + 1) sta current target = some (sta', ap', []) ∧
      FtAgreed sta target sta' ap' := by
  set asking := ftRoamStart env sta target.self (sta.nonceSalt + 40)
  set started := txInt asking .ftDsReq
    ([6, 1] ++ asking.self.bytes ++ asking.ftTarget.bytes ++ ftRequestElems asking)
  set pushed := ftPushed env asking target
  set current₁ := txInt current .ftDsResp (ftPushedResp env asking target)
  set sta₁ := ftReassociating started pushed.ftAnonce
  have endsAsking : FtEnds asking target := ends.started _ _
  have servesAsking : FtCurrent asking current := { serves with same := { serves.same with } }
  have holder : pushed.ftR0khId.length ≤ 48 := by
    change target.ftR0khId.length ≤ 48
    rw [← ends.same.r0kh]
    exact ends.holder
  have starts : (smeFtRoamOverDs env sta target.self).1 = started := by
    unfold smeFtRoamOverDs
    rw [ends.allowed]
    exact ftTxDsRequest_eq ends.holder
  have asked : sentSince sta started = [smePfx .ftDsReq sta.self ++
      ([6, 1] ++ asking.self.bytes ++ asking.ftTarget.bytes ++ ftRequestElems asking)] := by
    apply sentSince_one
    exact txInt_sent (s := asking) ends.bound.1 _ _
  have forwarded : rxFrames env { sib with ftDsTarget := some target } current
      (sentSince sta started) = (current₁, { sib with ftDsTarget := some pushed }) := by
    rw [asked, rxFrames_one, smeRx_ap serves.role serves.alive rfl]
    change (if current.ftEnabled then ftApOnDsRequest env _ current _ else (current, _)) = _
    rw [if_pos serves.same.enabled.2]
    exact ftApOnDsRequest_eq servesAsking endsAsking rfl sib
  have offer : sentSince current current₁ =
      [smePfx .ftDsResp current.self ++ ftPushedResp env asking target] := by
    apply sentSince_one
    exact txInt_sent serves.bound _ _
  have requests : (rxFrames env sib started (sentSince current current₁)).1 =
      ftTxReassocReq env sta₁ := by
    have alive : started.state ≠ .failed := by
      change sta.state ≠ .failed
      rw [ends.up]
      decide
    have offered := @ftStaOnAuth2_offer env started pushed ends.same.mdid
      holder rfl pushed.ftPmkR1Name.bytes
    rw [offer, rxFrames_one, smeRx_sta (s := started) ends.staRole alive rfl]
    change (if sta.ftEnabled && sta.ftR0Valid then
      ftStaOnDsResponse env started (ftPushedResp env asking target) else started) = _
    rw [ends.same.enabled.1, ends.established.1, Bool.and_self, if_pos rfl]
    unfold ftStaOnDsResponse ftPushedResp
    rw [ftActionRespParse_append]
    exact offered
  have keyed : FtKeyed sta₁ pushed := (ftPushed_keyed ends _).tx
    ⟨(SmeTx.raw_halBound _ _).trans ends.bound.1, ends.bound.2⟩
  have request : sentSince started (ftTxReassocReq env sta₁) =
      [smePfx .ftReassocReq sta₁.self ++ ftReqElems sta₁] := by
    rw [ftTxReassocReq_eq keyed.staRole keyed.holder]
    apply sentSince_one
    exact txInt_sent (s := { sta₁ with draws := sta₁.draws + 1 }) keyed.bound.1 _ _
  obtain ⟨sta', ap', delivered, agreed⟩ := reassociation_exchange wrap keyed sib rounds
  refine ⟨sta', ap', ?_, { agreed with }⟩
  unfold roamOverDs
  rw [starts]
  dsimp only
  rw [forwarded]
  dsimp only
  rw [requests, request, Option.map_some, delivered]

/--
A roam completes: the frames of either kind of roam, delivered in order, leave
nothing in flight and both ends connected to each other with equal keys, and the
station with the target's verdict on its resources.
-/
theorem ft_roam_completes (env : Env) (wrap : KeyWrapInverts env) (sta target : Sme)
    (ends : FtEnds sta target) (sib : Siblings) (rounds : Nat) :
    (∃ sta' ap', roamOverAir env sib (rounds + 2) sta target = (sta', ap', []) ∧
        FtAgreed sta target sta' ap') ∧
      ∀ current, FtCurrent sta current →
        ∃ sta' ap', roamOverDs env sib (rounds + 1) sta current target = some (sta', ap', []) ∧
          FtAgreed sta target sta' ap' :=
  ⟨roamOverAir_agreed wrap ends sib rounds, fun _ serves =>
    roamOverDs_agreed wrap ends serves sib rounds⟩

/-- An end of a mobility domain, validating its channel, with resources to request. -/
def demoFtEnd (role : SmeRole) (self : MacAddr) : Sme :=
  { smeInit role self demoPmk 7 with
    halBound := true, ftEnabled := true, ftMdid := 0x1234, ftSsid := [0x6e, 0x65, 0x74]
    ftR0khId := [0x72, 0x30], ocvEnabled := true
    ociLocal := { opClass := 81, primChan := 6, seg1Freq := 0 }
    ricRequest := some { Tspec.empty with nominalMsdu := 200, meanRate := 64000 } }

/-- A station connected to its first AP. -/
def demoFtSta : Sme := connectAndEstablish { demoFtEnd .sta demoStaMac with peer := demoApMac }

def demoFtCurrent : Sme := connectAndEstablish { demoFtEnd .ap demoApMac with peer := demoStaMac }

/-- The AP it roams to denies what it requests. -/
def demoFtTarget : Sme :=
  { demoFtEnd .ap (Octets.of 6 [2, 0, 0, 0, 0, 3]) with ricApDeny := true }

/-- The station roams, over the air and over the DS. -/
theorem ft_roam_completes_demo :
    (∃ sta' ap', roamOverAir (withKeyWrap demoEnv) noSiblings 2 demoFtSta demoFtTarget =
        (sta', ap', []) ∧ FtAgreed demoFtSta demoFtTarget sta' ap') ∧
      ∃ sta' ap', roamOverDs (withKeyWrap demoEnv) noSiblings 1 demoFtSta demoFtCurrent
        demoFtTarget = some (sta', ap', []) ∧ FtAgreed demoFtSta demoFtTarget sta' ap' := by
  have ends : FtEnds demoFtSta demoFtTarget :=
    { staRole := rfl, apRole := rfl, up := rfl, alive := by decide, bound := ⟨rfl, rfl⟩
      same := { enabled := ⟨rfl, rfl⟩, pmk := rfl, ssid := rfl, mdid := rfl, r0kh := rfl }
      ssid := by decide, holder := by decide
      established := connectAndEstablish_established rfl (by decide) (by decide)
      channel := fun _ => ⟨rfl, rfl⟩ }
  have serves : FtCurrent demoFtSta demoFtCurrent :=
    { role := rfl, alive := by decide, bound := rfl
      same := { enabled := ⟨rfl, rfl⟩, pmk := rfl, ssid := rfl, mdid := rfl, r0kh := rfl }
      established := connectAndEstablish_established rfl (by decide) (by decide), peer := rfl }
  have roams := ft_roam_completes (withKeyWrap demoEnv) (withKeyWrap_inverts demoEnv) demoFtSta
    demoFtTarget ends noSiblings 0
  exact ⟨roams.1, roams.2 demoFtCurrent serves⟩

end OverDs

end Rf2a4m1
