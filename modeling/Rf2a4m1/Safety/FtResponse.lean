import Rf2a4m1.Safety.FtMic
import Rf2a4m1.Safety.FtRefusal

/-!
# The answer to a fast transition Reassociation

The AP connects whether or not its answer goes out. The answer is dropped when
it does not fit the buffer it is built in, and the resource response is left
out when it does not fit its own. Which sizes fit is decided by the number of
resources granted and the length of R0KH-ID.
-/

set_option autoImplicit false

namespace Rf2a4m1

open ByteString Runs

/-- What follows PMKR1Name in a request that gets as far as the MIC check. -/
def ftRegion (s : Sme) (body : Bytes) : Bytes :=
  match ftApChecked s body with
  | none => []
  | some found => found.1.trailing.drop 16

/-- The resources a Reassociation Request asks for. -/
def ftRicRequest (s : Sme) (body : Bytes) : Option RicRequest :=
  ricScan (ftRegion s body).length (ftRegion s body)

/-- Octets that read as the AP's verdict on every resource, none without a request. -/
def RicAnswers (s : Sme) (request : Option RicRequest) (ric : Bytes) : Prop :=
  match request with
  | none => ric = []
  | some rq =>
    ricResponseParse ric =
      some ({ rdieId := rq.rdieId
              resources := rq.tspecs.map fun t => ricAnswer (t, ricStatusOf s.ricApDeny) }, [])

/-- One frame was sent: the verdict on the resources and the wrapped group key trail PMKR1Name,
under a MIC over all of it. -/
def FtAnswered (env : Env) (s : Sme) (request : Option RicRequest) (t : Sme) : Prop :=
  ∃ ric, RicAnswers s request ric ∧
    newSent s t = [smePfx .ftReassocResp s.self ++ ftReassocElems s s.peer 6 s.self
      (ric ++ env.keyWrap smeKdeMax (kek s.ptk) (gtkKdeBuild t.gtk 1))]

/-- A HAL is bound, and of the resources all are denied or no more are granted than there is
room for: one, or two beside an R0KH-ID of at most 29 octets. -/
def FtResponseFits (s : Sme) (request : Option RicRequest) : Prop :=
  s.halBound = true ∧ ∀ rq, request = some rq →
    s.ricApDeny = true ∨ rq.tspecs.length = 1 ∨ rq.tspecs.length = 2 ∧ s.ftR0khId.length ≤ 29

section Resources

variable {s : Sme} {region : Bytes} {rq : RicRequest}

/-- The resource response the AP builds, empty when it finds no room for it. -/
theorem ftApRic_octets (region : Bytes) :
    (ftApRic s region).1 = ((ricScan region.length region).bind fun rq =>
      ricResponseBuild 128 rq.rdieId
        (rq.tspecs.map fun t => (t, ricStatusOf s.ricApDeny))).getD [] := by
  unfold ftApRic
  cases ricScan region.length region with
  | none => rfl
  | some rq => rfl

theorem RicAnswers.nonempty : ¬RicAnswers s (some rq) [] := by
  intro answers
  have none : ricResponseParse [] = none := rfl
  cases none.symm.trans answers

theorem ftApRic_short (region : Bytes) : (ftApRic s region).1.length ≤ 128 := by
  rw [ftApRic_octets]
  cases scanned : ricScan region.length region with
  | none => exact Nat.zero_le _
  | some rq =>
    rw [Option.bind_some]
    cases built : ricResponseBuild 128 rq.rdieId
        (rq.tspecs.map fun t => (t, ricStatusOf s.ricApDeny)) with
    | none => exact Nat.zero_le _
    | some b =>
      exact ricResponseBuild_le (by rw [List.length_map]; exact (ricScan_few scanned).2) (by omega)
        built

/-- Octets of the response to a request for so many resources. -/
def ricOctets (s : Sme) (rq : RicRequest) : Nat :=
  6 + rq.tspecs.length * if s.ricApDeny then 2 else 59

/-- What is built answers the request; only a response without room is no answer. -/
theorem ftApRic_answers (scanned : ricScan region.length region = some rq) :
    (RicAnswers s (some rq) (ftApRic s region).1 ∧
        (ftApRic s region).1.length = ricOctets s rq ∧ ricOctets s rq ≤ 128) ∨
      (ftApRic s region).1 = [] ∧ 128 < ricOctets s rq := by
  have few : (rq.tspecs.map fun t => (t, ricStatusOf s.ricApDeny)).length ≤ ricMaxResources := by
    rw [List.length_map]
    exact (ricScan_few scanned).2
  have size : ricOctets s rq = 6 + ((rq.tspecs.map fun t =>
      (t, ricStatusOf s.ricApDeny)).flatMap ricResourceOf).length := by
    rw [ricResources_length, ricOctets]
    cases s.ricApDeny <;> rfl
  have octets := @ftApRic_octets s region
  rw [scanned, Option.bind_some] at octets
  rw [octets, size]
  cases built : ricResponseBuild 128 rq.rdieId
      (rq.tspecs.map fun t => (t, ricStatusOf s.ricApDeny)) with
  | none => exact Or.inr ⟨rfl, (ricResponseBuild_eq_none_iff few (by omega)).1 built⟩
  | some b =>
    have answers : RicAnswers s (some rq) b := by
      have read := @ricResponseParse_append [] 128 rq.rdieId _ b built
      rw [List.append_nil, List.map_map] at read
      exact read
    have long := ricResponseBuild_length built
    have fits := ricResponseBuild_le few (by omega) built
    rw [long] at fits
    exact Or.inl ⟨answers, long, fits⟩

end Resources

section Answer

variable {env : Env} {s : Sme}

/-- The AP as it answers. -/
def ftAnswerer (env : Env) (s : Sme) (region : Bytes) : Sme :=
  let s := (ftApRic s region).2
  let (gtk, s) := smeGenMaterial env s 16 (s.nonceSalt + 21)
  { s with gtk := gtk }

theorem ftAnswerer_eq (region : Bytes) :
    ∃ ric draws gtk, ftAnswerer env s region =
      { s with toSmeRic := ric, draws := draws, gtk := gtk } := by
  unfold ftAnswerer ftApRic
  cases ricScan region.length region with
  | none => exact ⟨s.toSmeRic, _, _, rfl⟩
  | some rq => exact ⟨{ s.toSmeRic with ricApGrants := _, ricApDenials := _ }, _, _, rfl⟩

/-- With a key that wraps, an authenticated request always connects. -/
theorem ftApAccept_connects (wrap : KeyWrapInverts env) (region : Bytes) :
    ftApAccept env s region =
      ftConnect (ftTxReassoc env (ftAnswerer env s region) .ftReassocResp 6 s.self
        ((ftApRic s region).1 ++ env.keyWrap smeKdeMax (kek s.ptk)
          (gtkKdeBuild (ftAnswerer env s region).gtk 1))) := by
  obtain ⟨ric, draws, gtk, answerer⟩ := @ftAnswerer_eq env s region
  have nonempty : env.keyWrap smeKdeMax (kek (ftAnswerer env s region).ptk)
      (gtkKdeBuild (ftAnswerer env s region).gtk 1) ≠ [] := by
    intro empty
    have len := wrappedGtk_length wrap (kek (ftAnswerer env s region).ptk)
      (ftAnswerer env s region).gtk
    rw [empty] at len
    cases len
  have same : (ftAnswerer env s region).ptk = s.ptk ∧ (ftAnswerer env s region).self = s.self := by
    rw [answerer]
    exact ⟨rfl, rfl⟩
  have accept : ftApAccept env s region =
      if env.keyWrap smeKdeMax (kek (ftAnswerer env s region).ptk)
        (gtkKdeBuild (ftAnswerer env s region).gtk 1) = [] then ftAnswerer env s region
      else ftConnect (ftTxReassoc env (ftAnswerer env s region) .ftReassocResp 6
        (ftAnswerer env s region).self ((ftApRic s region).1 ++ env.keyWrap smeKdeMax
          (kek (ftAnswerer env s region).ptk)
          (gtkKdeBuild (ftAnswerer env s region).gtk 1))) := rfl
  rw [accept, if_neg nonempty, same.1, same.2]

/-- What the AP answers, for the group key it has drawn. -/
def ftAnswerElems (env : Env) (s : Sme) (region : Bytes) (gtk : Octets 16) : Bytes :=
  ftReassocElems s s.peer 6 s.self
    ((ftApRic s region).1 ++ env.keyWrap smeKdeMax (kek s.ptk) (gtkKdeBuild gtk 1))

/-- The link comes up with the frame handed over, or without it where it does not fit. -/
theorem ftApAccept_cases (wrap : KeyWrapInverts env) (role : s.role = .ap)
    (holder : s.ftR0khId.length ≤ 48) (region : Bytes) :
    ∃ ric draws gtk, ftApAccept env s region = ftConnect
      (if 145 + r0khPart s + (ftApRic s region).1.length ≤ 300 then
        txInt { s with toSmeRic := ric, draws := draws + 1, gtk := gtk } .ftReassocResp
          (ftAnswerElems env s region gtk)
      else { s with toSmeRic := ric, draws := draws, gtk := gtk }) := by
  have short := @ftApRic_short s region
  have connects := @ftApAccept_connects env s wrap region
  obtain ⟨ric, draws, gtk, answerer⟩ := @ftAnswerer_eq env s region
  rw [answerer] at connects
  refine ⟨ric, draws, gtk, connects.trans (congrArg ftConnect ?_)⟩
  set u : Sme := { s with toSmeRic := ric, draws := draws, gtk := gtk }
  set extra := (ftApRic s region).1 ++ env.keyWrap smeKdeMax (kek s.ptk) (gtkKdeBuild u.gtk 1)
  have size : extra.length = (ftApRic s region).1.length + 32 := by
    rw [List.length_append, wrappedGtk_length wrap]
  have part : r0khPart u = r0khPart s := rfl
  by_cases fits : 145 + r0khPart s + (ftApRic s region).1.length ≤ 300
  · have sends := @ftTxReassoc_fits env u holder extra (by omega) (by omega) .ftReassocResp 6 s.self
    have other : ¬u.role = .sta := by
      change ¬s.role = .sta
      rw [role]
      decide
    rw [if_neg other] at sends
    rw [if_pos fits]
    exact sends
  · rw [if_neg fits]
    exact @ftTxReassoc_dropped env u holder extra (by omega) _ _ _

/-- The frame goes out when a HAL is bound and it fits the buffer. -/
theorem ftApAccept_newSent (wrap : KeyWrapInverts env) (role : s.role = .ap)
    (holder : s.ftR0khId.length ≤ 48) (region : Bytes) :
    newSent s (ftApAccept env s region) =
      if s.halBound = true ∧ 145 + r0khPart s + (ftApRic s region).1.length ≤ 300 then
        [smePfx .ftReassocResp s.self ++
          ftAnswerElems env s region (ftApAccept env s region).gtk]
      else [] := by
  obtain ⟨ric, draws, gtk, connects⟩ := @ftApAccept_cases env s wrap role holder region
  set u : Sme := { s with toSmeRic := ric, draws := draws, gtk := gtk }
  by_cases fits : 145 + r0khPart s + (ftApRic s region).1.length ≤ 300
  · rw [if_pos fits] at connects
    obtain ⟨_, _, group, _, _, _, _, sent⟩ := ftConnect_link
      (txInt { u with draws := draws + 1 } .ftReassocResp (ftAnswerElems env s region gtk))
    have key : (ftApAccept env s region).gtk = gtk := by
      rw [connects]
      exact group
    rw [key, connects]
    by_cases bound : s.halBound = true
    · rw [if_pos ⟨bound, fits⟩]
      exact newSent_cons (sent.trans (@txInt_sent { u with draws := draws + 1 } bound _ _))
    · rw [if_neg fun both => bound both.1]
      exact newSent_same (sent.trans (@txInt_unbound { u with draws := draws + 1 } bound _ _))
  · rw [if_neg fits] at connects
    rw [if_neg fun both => fits both.2, connects]
    exact newSent_same (ftConnect_link u).2.2.2.2.2.2.2

theorem ftApAccept_counts (wrap : KeyWrapInverts env) (role : s.role = .ap)
    (holder : s.ftR0khId.length ≤ 48) (region : Bytes) :
    (ftApAccept env s region).ftReassocs = s.ftReassocs + 1 := by
  obtain ⟨ric, draws, gtk, connects⟩ := @ftApAccept_cases env s wrap role holder region
  rw [connects]
  split <;> rfl

/-- A frame that answers is the frame the AP builds. -/
theorem ftAnswered_iff_built (wrap : KeyWrapInverts env) (role : s.role = .ap)
    (holder : s.ftR0khId.length ≤ 48) (request : Option RicRequest) (region : Bytes) :
    FtAnswered env s request (ftApAccept env s region) ↔
      s.halBound = true ∧ 145 + r0khPart s + (ftApRic s region).1.length ≤ 300 ∧
        RicAnswers s request (ftApRic s region).1 := by
  have sent := @ftApAccept_newSent env s wrap role holder region
  constructor
  · intro ⟨ric, answers, frame⟩
    rw [sent] at frame
    split at frame
    · rename_i goes
      refine ⟨goes.1, goes.2, ?_⟩
      have elems := List.append_cancel_left (List.head_eq_of_cons_eq frame)
      have sealed (extra : Bytes) : (ftMdeOf s ++ fteOf (ftReassocFte s s.peer 6 s.self
          extra)).length = 97 + r0khPart s := by
        have mde : (ftMdeOf s).length = 5 := mdeOf_length _ _
        rw [List.length_append, mde, ftReassocFte_sealed]
        omega
      have trailing := (List.append_inj elems (by rw [sealed, sealed])).2
      have same := List.append_cancel_right (List.append_cancel_left trailing)
      rw [same]
      exact answers
    · cases frame
  · intro ⟨bound, fits, answers⟩
    exact ⟨_, answers, sent.trans (if_pos ⟨bound, fits⟩)⟩

/-- The link that comes up is answered exactly when the answer fits. -/
theorem ftApAccept_answered_iff (wrap : KeyWrapInverts env) (role : s.role = .ap)
    (holder : s.ftR0khId.length ≤ 48) (region : Bytes) :
    FtAnswered env s (ricScan region.length region) (ftApAccept env s region) ↔
      FtResponseFits s (ricScan region.length region) := by
  rw [ftAnswered_iff_built wrap role holder]
  have part := r0khPart_le holder
  cases scanned : ricScan region.length region with
  | none =>
    have empty : (ftApRic s region).1 = [] := by
      rw [ftApRic_octets, scanned]
      rfl
    rw [empty]
    constructor
    · intro ⟨bound, _, _⟩
      exact ⟨bound, nofun⟩
    · intro ⟨bound, _⟩
      exact ⟨bound, by rw [List.length_nil]; omega, rfl⟩
  | some rq =>
    obtain ⟨one, few⟩ := ricScan_few scanned
    unfold ricMaxResources at few
    have granted : (s.ricApDeny = true ∧ ricOctets s rq = 6 + rq.tspecs.length * 2) ∨
        ¬s.ricApDeny = true ∧ ricOctets s rq = 6 + rq.tspecs.length * 59 := by
      unfold ricOctets
      cases s.ricApDeny <;> simp
    have name : r0khPart s ≤ 31 ↔ s.ftR0khId.length ≤ 29 := by
      unfold r0khPart
      split <;> omega
    constructor
    · intro ⟨bound, fits, answers⟩
      refine ⟨bound, fun rq' same => ?_⟩
      cases same
      rcases ftApRic_answers (s := s) scanned with ⟨_, size, _⟩ | ⟨empty, _⟩
      · rw [size] at fits
        rcases granted with ⟨deny, _⟩ | ⟨_, octets⟩
        · exact Or.inl deny
        · exact Or.inr (by omega)
      · rw [empty] at answers
        exact absurd answers RicAnswers.nonempty
    · intro ⟨bound, room⟩
      have fits : ricOctets s rq ≤ 128 ∧ 145 + r0khPart s + ricOctets s rq ≤ 300 := by
        rcases granted with ⟨_, octets⟩ | ⟨grant, octets⟩
        · omega
        · have room := (room rq rfl).resolve_left grant
          omega
      rcases ftApRic_answers (s := s) scanned with ⟨answers, size, _⟩ | ⟨_, long⟩
      · rw [size]
        exact ⟨bound, fits.2, answers⟩
      · omega

end Answer

section Step

variable {env : Env} {s : Sme} {body : Bytes}

/-- An AP whose count of fast transitions moves has accepted the request. -/
theorem ftApOnReassoc_completes
    (completes : (ftApOnReassoc env s body).ftReassocs ≠ s.ftReassocs) :
    ftApOnReassoc env s body =
      ftApAccept env { s with draws := s.draws + 1 } (ftRegion s body) := by
  rw [ftApOnReassoc_verdict] at completes ⊢
  unfold ftRegion
  cases checked : ftApChecked s body with
  | none =>
    rw [checked] at completes
    exact absurd rfl completes
  | some found =>
    rw [checked] at completes
    dsimp only at completes ⊢
    split at completes
    · exact absurd rfl completes
    · rename_i verified
      rw [if_neg verified]
      split at completes
      · exact absurd rfl completes
      · rename_i channel
        rw [if_neg channel]

variable {sib : Siblings} {frame inp : Bytes} {aid : Option UInt16}

/-- An AP that connects through a fast transition has answered exactly when it denies the
resources or grants no more than fit, and has a HAL to answer through. -/
theorem ftResponse_iff (wrap : KeyWrapInverts env) (role : s.role = .ap)
    (holder : s.ftR0khId.length ≤ 48) (reads : rxKind s frame = .handle aid .ftReassocReq inp)
    (completes : (smeStep env s (.rx sib frame)).ftReassocs ≠ s.ftReassocs) :
    FtAnswered env s (ftRicRequest s (frameBody inp)) (smeStep env s (.rx sib frame)) ↔
      FtResponseFits s (ftRicRequest s (frameBody inp)) := by
  have handled : smeStep env s (.rx sib frame) =
      if s.ftEnabled then ftApOnReassoc env { s with aid := aid.getD s.aid } (frameBody inp)
      else { s with aid := aid.getD s.aid } := ap_handles role reads nofun nofun
  rw [handled] at completes ⊢
  by_cases enabled : s.ftEnabled = true
  · rw [if_pos enabled] at completes ⊢
    rw [ftApOnReassoc_completes completes]
    exact @ftApAccept_answered_iff env
      { s with aid := aid.getD s.aid, draws := s.draws + 1 } wrap role holder _
  · rw [if_neg enabled] at completes
    exact absurd rfl completes

end Step

section Keyed

variable {env : Env} {sta ap : Sme}

/-- The AP reads the resources out of the station's request. -/
theorem ftRicRequest_reassoc (keyed : FtKeyed sta ap) (extra : Bytes) :
    ftRicRequest ap (frameBody (smePfx .ftReassocReq sta.self ++
        ftReassocElems sta sta.self 5 sta.ftTarget extra)) = ricScan extra.length extra := by
  have region : ftRegion ap (ftReassocElems sta sta.self 5 sta.ftTarget extra) = extra := by
    have name := @slice_append_left ap.ftPmkR1Name.bytes extra 16 ap.ftPmkR1Name.length_bytes
    unfold ftRegion ftApChecked
    rw [ftLocateFte_reassoc keyed, Option.filter_some]
    dsimp only
    rw [name, decide_eq_true rfl, if_pos rfl]
    exact List.drop_left' ap.ftPmkR1Name.length_bytes
  unfold ftRicRequest
  rw [frameBody_smePfx, region]

theorem FtKeyed.accepts_step (keyed : FtKeyed sta ap) (sib : Siblings) {extra : Bytes}
    (short : extra.length ≤ 160) (open' : ap.ocvEnabled = false) :
    smeStep env ap (.rx sib (smePfx .ftReassocReq sta.self ++
        ftReassocElems sta sta.self 5 sta.ftTarget extra)) =
      ftApAccept env { ap with draws := ap.draws + 1 } extra := by
  apply keyed.accepts sib short
  unfold ftApOcvOk
  dsimp only
  rw [open']
  rfl

/-- The link comes up, and it is answered only when the answer fits. -/
theorem FtKeyed.connects_step (wrap : KeyWrapInverts env) (keyed : FtKeyed sta ap)
    (sib : Siblings) {extra : Bytes} (short : extra.length ≤ 160) (open' : ap.ocvEnabled = false)
    (holder : ap.ftR0khId.length ≤ 48) :
    (smeStep env ap (.rx sib (smePfx .ftReassocReq sta.self ++
        ftReassocElems sta sta.self 5 sta.ftTarget extra))).ftReassocs ≠ ap.ftReassocs ∧
      (FtAnswered env ap (ricScan extra.length extra)
        (smeStep env ap (.rx sib (smePfx .ftReassocReq sta.self ++
          ftReassocElems sta sta.self 5 sta.ftTarget extra))) →
        FtResponseFits ap (ricScan extra.length extra)) := by
  rw [keyed.accepts_step sib short open']
  constructor
  · rw [@ftApAccept_counts env { ap with draws := ap.draws + 1 } wrap keyed.apRole holder extra]
    exact Nat.succ_ne_self _
  · intro answered
    exact (@ftApAccept_answered_iff env { ap with draws := ap.draws + 1 } wrap keyed.apRole holder
      extra).1 answered

end Keyed

section Demo

def demoFtEnv : Env := withKeyWrap demoEnv

/-- Thirty octets. -/
def demoR0kh : Bytes := List.replicate 30 0x72

def demoFtAp : Sme :=
  [SmeOp.set .bindHal, .set (.ft 0x1234 [0x6e] demoR0kh)].foldl (smeStep demoFtEnv) demoApInit

/-- A station connected to another AP of the mobility domain. -/
def demoFtPeer : Sme :=
  connectAndEstablish { smeInit .sta demoStaMac demoPmk 7 with
    halBound := true, ftEnabled := true, ftMdid := 0x1234, ftSsid := [0x6e], ftR0khId := demoR0kh
    peer := Octets.of 6 [2, 0, 0, 0, 0, 3] }

theorem demoFt_ends : FtEnds demoFtPeer demoFtAp :=
  { staRole := rfl, apRole := rfl, up := rfl, alive := by decide, bound := ⟨rfl, rfl⟩
    same := { enabled := ⟨rfl, rfl⟩, pmk := rfl, ssid := rfl, mdid := rfl, r0kh := rfl }
    ssid := by decide, holder := by decide
    established := connectAndEstablish_established rfl (by decide) (by decide)
    channel := nofun }

/-- The station asks the AP, and the AP answers. -/
def demoFtAsking : Sme := ftRoamStart demoFtEnv demoFtPeer demoFtAp.self 0

@[irreducible] def demoFtServing : Sme :=
  smeStep demoFtEnv demoFtAp
    (.rx noSiblings (smePfx .ftAuth1 demoFtAsking.self ++ ftRequestElems demoFtAsking))

def demoFtMoving : Sme :=
  ftReassociating demoFtAsking (ftOffering demoFtEnv demoFtAsking demoFtAp).ftAnonce

theorem demoFtServing_reach :
    Reach (smeStep demoFtEnv) (smeConfigure (smeInit .ap demoApMac demoPmk 7) .plain)
      demoFtServing := by
  unfold demoFtServing
  have up : Reach (smeStep demoFtEnv) demoApInit demoFtAp := Run.reach _
  exact up.trans (Run.single _ trivial)

theorem demoFtServing_eq :
    demoFtServing = txInt (ftOffering demoFtEnv demoFtAsking demoFtAp) .ftAuth2
      (ftOfferElems (ftOffering demoFtEnv demoFtAsking demoFtAp)) := by
  unfold demoFtServing
  exact (demoFt_ends.started _ _).offers noSiblings

/-- Both hold the pairwise key. -/
theorem demoFt_keyed : FtKeyed demoFtMoving demoFtServing := by
  rw [demoFtServing_eq]
  exact (ftOffering_keyed demoFt_ends 0).tx ⟨rfl, SmeTx.raw_halBound _ _⟩

/-- So many resources. -/
def demoRic (n : Nat) : Bytes := (ricRequestBuild 220 1 (List.replicate n Tspec.empty)).getD []

def demoFtElems (n : Nat) : Bytes :=
  ftReassocElems demoFtMoving demoFtMoving.self 5 demoFtMoving.ftTarget (demoRic n)

def demoFtRequest (n : Nat) : Bytes := smePfx .ftReassocReq demoFtMoving.self ++ demoFtElems n

theorem demoFtRequest_reads (n : Nat) :
    rxKind demoFtServing (demoFtRequest n) = .handle none .ftReassocReq (demoFtRequest n) :=
  rxKind_passed demoFt_keyed.alive rfl _ _

theorem demoFtServing_config :
    demoFtServing.ricApDeny = false ∧ demoFtServing.ftR0khId = demoR0kh ∧
      demoFtServing.halBound = true ∧ demoFtServing.ocvEnabled = false := by
  refine ⟨?_, demoFt_keyed.same.r0kh.symm, demoFt_keyed.bound.2, ?_⟩
  · rw [demoFtServing_eq]
    rfl
  · rw [demoFtServing_eq]
    rfl

theorem demoFtRequest_ric (n : Nat) :
    ftRicRequest demoFtServing (frameBody (demoFtRequest n)) =
      ricScan (demoRic n).length (demoRic n) := by
  unfold demoFtRequest demoFtElems
  exact ftRicRequest_reassoc demoFt_keyed (demoRic n)

theorem demoFtServing_holder : demoFtServing.ftR0khId.length = 30 := by
  rw [demoFtServing_config.2.1]
  rfl

/-- The AP accepts the request, and the link is up. -/
theorem demoFtRequest_connects {n : Nat} (short : (demoRic n).length ≤ 160) :
    (smeStep demoFtEnv demoFtServing (.rx noSiblings (demoFtRequest n))).ftReassocs ≠
      demoFtServing.ftReassocs ∧
      (FtAnswered demoFtEnv demoFtServing (ricScan (demoRic n).length (demoRic n))
        (smeStep demoFtEnv demoFtServing (.rx noSiblings (demoFtRequest n))) →
        FtResponseFits demoFtServing (ricScan (demoRic n).length (demoRic n))) := by
  have holder : demoFtServing.ftR0khId.length ≤ 48 := by
    rw [demoFtServing_holder]
    decide
  unfold demoFtRequest demoFtElems
  exact demoFt_keyed.connects_step (withKeyWrap_inverts demoEnv) noSiblings short
    demoFtServing_config.2.2.2 holder

/-- One resource is granted in the answer. -/
theorem ftResponse_iff_demo :
    FtAnswered demoFtEnv demoFtServing
      (ftRicRequest demoFtServing (frameBody (demoFtRequest 1)))
      (smeStep demoFtEnv demoFtServing (.rx noSiblings (demoFtRequest 1))) := by
  have holder : demoFtServing.ftR0khId.length ≤ 48 := by
    rw [demoFtServing_holder]
    decide
  have wrap : KeyWrapInverts demoFtEnv := withKeyWrap_inverts demoEnv
  have short : (demoRic 1).length ≤ 160 := by decide +kernel
  have connects := (demoFtRequest_connects short).1
  refine (ftResponse_iff wrap demoFt_keyed.apRole holder (demoFtRequest_reads 1) connects).2
    ⟨demoFtServing_config.2.2.1, fun rq scanned => Or.inr (Or.inl ?_)⟩
  rw [demoFtRequest_ric] at scanned
  have one : (ricScan (demoRic 1).length (demoRic 1)).map
      (fun rq => rq.tspecs.length) = some 1 := by decide +kernel
  rw [scanned] at one
  exact Option.some.inj one

/-- Two are granted beside an R0KH-ID of thirty octets, and the link comes up unanswered. -/
theorem ftResponse_dropped :
    ¬∀ s frame aid inp,
      Reach (smeStep demoFtEnv) (smeConfigure (smeInit .ap demoApMac demoPmk 7) .plain) s →
      s.ftR0khId.length ≤ 48 → rxKind s frame = .handle aid .ftReassocReq inp →
      (smeStep demoFtEnv s (.rx noSiblings frame)).ftReassocs ≠ s.ftReassocs →
      FtAnswered demoFtEnv s (ftRicRequest s (frameBody inp))
        (smeStep demoFtEnv s (.rx noSiblings frame)) := by
  intro all
  have holder := demoFtServing_holder
  have short : (demoRic 2).length ≤ 160 := by decide +kernel
  obtain ⟨connects, fits⟩ := demoFtRequest_connects short
  have answered := all demoFtServing _ none _ demoFtServing_reach (by omega)
    (demoFtRequest_reads 2) connects
  rw [demoFtRequest_ric] at answered
  have two : (ricScan (demoRic 2).length (demoRic 2)).map
      (fun rq => rq.tspecs.length) = some 2 := by decide +kernel
  obtain ⟨rq, scanned, count⟩ := Option.map_eq_some_iff.1 two
  rcases (fits answered).2 rq scanned with deny | one | both
  · exact absurd (demoFtServing_config.1.symm.trans deny) (by decide)
  · omega
  · have short := both.2
    omega

end Demo

end Rf2a4m1
