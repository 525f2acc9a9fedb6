import Rf2a4m1.Lib.Network
import Rf2a4m1.Safety.HandshakeEnds
import Rf2a4m1.Sme.Demo

/-!
# Agreement on the keys

A station and an AP exchange frames over a network that loses, repeats and
reorders them. Whenever both are connected they hold the same keys.
-/

set_option autoImplicit false

namespace Rf2a4m1

open ByteString Runs Network

/-- The two ends and every frame sent so far. -/
abbrev Link := Config SmeRole Sme Bytes

inductive LinkOp where
  | host (e : SmeRole) (op : SmeOp)
  | deliver (e : SmeRole) (sib : Siblings) (index : Nat)

namespace Link

def start (sta ap : Sme) : Link where
  ends
    | .sta => sta
    | .ap => ap
  air := []

/-- An operation at one end; what it hands to its HAL is in the air from then on. -/
def operate (env : Env) (c : Link) (e : SmeRole) (op : SmeOp) : Link :=
  c.act e (smeStep env (c.ends e) op) (newSent (c.ends e) (smeStep env (c.ends e) op))

/-- An end receives frames of the other one only. -/
def step (env : Env) (c : Link) : LinkOp → Link
  | .host e op => operate env c e op
  | .deliver e sib index =>
    match c.air[index]? with
    | none => c
    | some (sender, frame) => if sender = e then c else operate env c e (.rx sib frame)

/-- The host starts the exchange while the link is down and uses it when it is up; it sends no
teardown frames. -/
def Allowed (c : Link) : LinkOp → Prop
  | .host e op => op.keyless = true ∨ op = .connectStart ∧ (c.ends e).state ≠ .connected
  | .deliver _ _ _ => True

end Link

/-- An end that was initialised and configured for the pairing and has done nothing yet. -/
structure FreshEnd (p : Pairing) (e : SmeRole) (peer : MacAddr) (s : Sme) : Prop where
  paired : Paired p e peer s.held
  init : s.state = .init
  empty : s.earlyM1 = none

/-- Settings other than the peer's address and fast transition. -/
def SmeSetting.keepsPairing : SmeSetting → Bool
  | .peer _ | .ft _ _ _ => false
  | _ => true

/-- The keys of two ends are the same, as far as both use them. -/
structure KeysAgree (s t : Sme) : Prop where
  ptk : s.ptk = t.ptk
  installedTk : s.installedTk = t.installedTk
  gtk : s.gtk = t.gtk
  igtk : s.mfpActive = true → t.mfpActive = true → s.igtk.key = t.igtk.key
  bigtk : s.mfpActive = true → t.mfpActive = true → s.beaconProtEnabled = true →
    t.beaconProtEnabled = true → s.bigtk.key = t.bigtk.key

section Start

variable {p : Pairing} {e : SmeRole} {peer : MacAddr} {s : Sme}

theorem FreshEnd.set (fresh : FreshEnd p e peer s) {c : SmeSetting}
    (keeps : c.keepsPairing = true) : FreshEnd p e peer (smeSet s c) := by
  cases c with
  | peer m => cases keeps
  | ft mdid ssid r0khId => cases keeps
  | _ => exact ⟨{ fresh.paired with }, fresh.init, fresh.empty⟩

/-- Every way to set up an end gives a fresh one. -/
theorem freshEnd_init (p : Pairing) (e : SmeRole) (peer : MacAddr) (salt : UInt64) {c : SmeConfig}
    (psk : c.akm = .psk) {settings : List SmeSetting}
    (keep : ∀ x ∈ settings, x.keepsPairing = true) :
    FreshEnd p e peer (settings.foldl smeSet
      (smeSet (smeConfigure (smeInit e (p.addr e) p.pmk salt) c) (.peer peer))) := by
  have start : FreshEnd p e peer
      (smeSet (smeConfigure (smeInit e (p.addr e) p.pmk salt) c) (.peer peer)) :=
    ⟨⟨rfl, rfl, rfl, rfl, psk, rfl⟩, rfl, rfl⟩
  generalize smeSet (smeConfigure (smeInit e (p.addr e) p.pmk salt) c) (.peer peer) = s at start
  induction settings generalizing s with
  | nil => exact start
  | cons x rest ih =>
    apply ih (fun y mem => keep y (List.mem_cons_of_mem x mem))
    exact start.set (keep x List.mem_cons_self)

end Start

section Simulation

variable {env : Env} {p : Pairing} {a b : Handshake} {c : Link}

/-- Both ends follow their party, and every frame has a message behind it. -/
structure Joint (env : Env) (p : Pairing) (c : Link) (a : Handshake) : Prop where
  ends : ∀ e, Follows env p a e (c.ends e).held
  air : ∀ e frame, (e, frame) ∈ c.air → Spoken env p a e frame

/-- The abstract handshake before anything was sent. -/
def freshHandshake (sta ap : Sme) : Handshake where
  ap := ⟨.idle, ap.replay, ap.ptk, none⟩
  sta := ⟨.idle, 0, sta.ptk, none⟩
  air := ∅

theorem freshHandshake_fresh (sta ap : Sme) : FourWay.Fresh (freshHandshake sta ap) where
  down := ⟨fun up => (nomatch up), fun up => (nomatch up)⟩
  silent := rfl

theorem FreshEnd.idle {e : SmeRole} {peer : MacAddr} {s : Sme} (fresh : FreshEnd p e peer s) :
    s.held.state ≠ .connected ∧ s.held.state ≠ .fourWay := by
  rw [show s.held.state = .init from fresh.init]
  exact ⟨by decide, by decide⟩

theorem sta_starts {sta ap : Sme} (fresh : FreshEnd p .sta p.ap sta) :
    StaFollows env p (freshHandshake sta ap) sta.held where
  paired := fresh.paired
  key := rfl
  up := ⟨fun up => (nomatch up), fun up => absurd up fresh.idle.1⟩
  installed up := absurd up fresh.idle.1
  group up := absurd up fresh.idle.1
  derived waits := absurd waits fresh.idle.2
  early pdu stashed := by
    rw [show sta.held.earlyM1 = none from fresh.empty] at stashed
    cases stashed

theorem ap_starts {sta ap : Sme} (fresh : FreshEnd p .ap p.sta ap) :
    ApFollows p (freshHandshake sta ap) ap.held where
  paired := fresh.paired
  key := rfl
  counter := rfl
  up := ⟨fun up => (nomatch up), fun up => absurd up fresh.idle.1⟩
  waiting waits := absurd waits fresh.idle.2
  installed up := absurd up fresh.idle.1
  group busy := absurd rfl busy

theorem joint_start {sta ap : Sme} (freshSta : FreshEnd p .sta p.ap sta)
    (freshAp : FreshEnd p .ap p.sta ap) :
    Joint env p (Link.start sta ap) (freshHandshake sta ap) where
  ends e := by
    cases e with
    | sta => exact sta_starts freshSta
    | ap => exact ap_starts freshAp
  air _ _ sent := absurd sent List.not_mem_nil

/-- What one end does is matched, and the other one goes on following. -/
theorem Joint.operate (joint : Joint env p c a) {e : SmeRole} {op : SmeOp}
    (moves : Moves env p a e (c.ends e) (smeStep env (c.ends e) op)) :
    ∃ b, FourWay.Reach a b ∧ Joint env p (c.operate env e op) b := by
  obtain ⟨b, reach, ext, follows, sends⟩ := moves
  refine ⟨b, reach, ?_, ?_⟩
  · intro other
    by_cases same : other = e
    · rw [same, Link.operate, Config.act_self]
      exact follows
    · rw [Link.operate, Config.act_other same]
      exact (joint.ends other).other same ext
  · intro sender frame sent
    rcases Config.mem_act.1 sent with old | ⟨rfl, new⟩
    · exact (joint.air sender frame old).mono ext.air
    · exact sends.newSent frame new

/-- Before the link is up the host may start the exchange. -/
theorem connectStart_moves {e : SmeRole} {s : Sme} (follows : Follows env p a e s.held)
    (self : s.self = p.addr e) (down : s.state ≠ .connected) :
    Moves env p a e s (smeStep env s .connectStart) := by
  change Moves env p a e s (smeConnectStart s).1
  rcases smeConnectStart_step env s with same | ⟨held, sends⟩
  · rw [same]
    exact .keyless follows (.refl s) self
  cases e with
  | ap =>
    have role : s.role = .ap := ApFollows.paired follows |>.role
    have refused : (smeConnectStart s).1 = s := by
      unfold smeConnectStart
      rw [if_pos fun sta => by rw [role] at sta; cases sta]
    rw [refused]
    exact .keyless follows (.refl s) self
  | sta =>
    have follows : StaFollows env p a s.held := follows
    have paired : Paired p .sta p.ap (smeConnectStart s).1.held := by
      rw [held]
      exact { follows.paired with }
    have state : (smeConnectStart s).1.state = .scanning := congrArg Held.state held
    have stash : (smeConnectStart s).1.earlyM1 = s.earlyM1 := congrArg Held.earlyM1 held
    refine follows.moves down paired (by rw [state]; decide) (fun waits => ?_)
      (fun pdu stashed => follows.early pdu (stash.symm.trans stashed)) ?_
    · rw [state] at waits
      cases waits
    · rw [self] at sends
      exact sends.mono fun f means => ⟨.keyless, trivial, means⟩

theorem Follows.self {e : SmeRole} {h : Held} (follows : Follows env p a e h) :
    h.self = p.addr e := by
  cases e with
  | ap => exact ApFollows.paired follows |>.self
  | sta => exact StaFollows.paired follows |>.self

/-- Every step of the two ends is matched by the abstract handshake. -/
theorem joint_step (crypto : HandshakeCrypto env) (joint : Joint env p c a) (inv : FourWay.Inv a)
    {op : LinkOp} (allowed : Link.Allowed c op) :
    ∃ b, FourWay.Reach a b ∧ Joint env p (Link.step env c op) b := by
  cases op with
  | host e op =>
    have self := (joint.ends e).self
    rcases allowed with outside | ⟨rfl, down⟩
    · exact joint.operate (.keyless (joint.ends e) (smeStep_keyless env (c.ends e) outside) self)
    · exact joint.operate (connectStart_moves (joint.ends e) self down)
  | deliver e sib index =>
    unfold Link.step
    dsimp only
    split
    · exact ⟨a, .refl, joint⟩
    rename_i sender frame found
    split
    · exact ⟨a, .refl, joint⟩
    rename_i differs
    have spoken := joint.air sender frame (List.mem_of_getElem? found)
    cases e with
    | ap =>
      have isSta : sender = .sta := by
        cases sender with
        | ap => exact absurd rfl differs
        | sta => rfl
      rw [isSta] at spoken
      exact joint.operate (ap_receives inv (joint.ends .ap) spoken sib)
    | sta =>
      have isAp : sender = .ap := by
        cases sender with
        | ap => rfl
        | sta => exact absurd rfl differs
      rw [isAp] at spoken
      exact joint.operate (sta_receives crypto (joint.ends .sta) spoken sib)

/-- The keys of the abstract handshake are the keys of the ends. -/
theorem Joint.keysAgree (joint : Joint env p c a) (inv : FourWay.Inv a)
    (up : ∀ e, (c.ends e).state = .connected) : KeysAgree (c.ends .sta) (c.ends .ap) := by
  have ap : ApFollows p a (c.ends .ap).held := joint.ends .ap
  have sta : StaFollows env p a (c.ends .sta).held := joint.ends .sta
  obtain ⟨_, sameKey, sameGroup⟩ := inv.agreed (ap.up.2 (up .ap))
  obtain ⟨kd, group, holdsSta⟩ := sta.group (up .sta)
  have busy : a.ap.phase ≠ .idle := by
    rw [ap.up.2 (up .ap)]
    decide
  obtain ⟨holdsAp, carries⟩ := ap.group busy kd (sameGroup.trans group)
  have ptk : (c.ends .sta).ptk = (c.ends .ap).ptk :=
    (sta.key.symm.trans sameKey.symm).trans ap.key
  refine ⟨ptk, ?_, ?_, ?_, ?_⟩
  · have installedSta : (c.ends .sta).installedTk = tk (c.ends .sta).ptk := sta.installed (up .sta)
    have installedAp : (c.ends .ap).installedTk = tk (c.ends .ap).ptk := ap.installed (up .ap)
    rw [installedSta, installedAp, ptk]
  · exact Option.some.inj (holdsSta.gtk.symm.trans holdsAp.gtk)
  · intro activeSta activeAp
    obtain ⟨⟨key, keyId, ipn⟩, found⟩ := Option.isSome_iff_exists.1 (carries.igtk activeAp)
    exact (holdsSta.igtk activeSta key keyId ipn found).trans
      (holdsAp.igtk activeAp key keyId ipn found).symm
  · intro activeSta activeAp beaconSta beaconAp
    obtain ⟨⟨key, keyId, bipn⟩, found⟩ :=
      Option.isSome_iff_exists.1 (carries.bigtk activeAp beaconAp)
    exact (holdsSta.bigtk activeSta beaconSta key keyId bipn found).trans
      (holdsAp.bigtk activeAp beaconAp key keyId bipn found).symm

end Simulation

section Run

/-- Whenever both ends are connected, their keys agree. -/
theorem handshake_agreement {env : Env} (crypto : HandshakeCrypto env) {p : Pairing} {sta ap : Sme}
    (freshSta : FreshEnd p .sta p.ap sta) (freshAp : FreshEnd p .ap p.sta ap) {c : Link}
    (run : Run (Link.step env) Link.Allowed (Link.start sta ap) c)
    (up : ∀ e, (c.ends e).state = .connected) : KeysAgree (c.ends .sta) (c.ends .ap) := by
  have fresh := freshHandshake_fresh sta ap
  obtain ⟨a, reach, joint⟩ := run.simulates (Joint env p) (joint_start freshSta freshAp)
    fun _ _ _ reach joint allowed => joint_step crypto joint (fresh.inv.reach reach) allowed
  exact joint.keysAgree (fresh.inv.reach reach) up

/-- The plug-in of the demonstration with a key wrap that adds eight octets. -/
def demoWrapEnv : Env :=
  { demoEnv with
    keyWrap := fun cap _ kd => if kd.length + 8 ≤ cap then kd ++ List.replicate 8 0 else []
    keyUnwrap := fun cap _ wrapped =>
      if wrapped.length - 8 ≤ cap then wrapped.take (wrapped.length - 8) else [] }

theorem demoWrapEnv_keyWrap : KeyWrapInverts demoWrapEnv where
  length cap _ kd _ _ room := by
    change (if kd.length + 8 ≤ cap then kd ++ List.replicate 8 0 else []).length = _
    rw [if_pos room, List.length_append, List.length_replicate]
  unwrap cap cap' _ kd _ _ room back := by
    have wrapped : demoWrapEnv.keyWrap cap ‹_› kd = kd ++ List.replicate 8 0 := if_pos room
    have length : (kd ++ List.replicate 8 (0 : UInt8)).length - 8 = kd.length := by simp
    rw [wrapped]
    change (if (kd ++ List.replicate 8 0).length - 8 ≤ cap' then
      (kd ++ List.replicate 8 0).take ((kd ++ List.replicate 8 0).length - 8) else []) = kd
    rw [length, if_pos back, List.take_left]

/-- The first of three equal blocks is the confirmation key. -/
theorem kck_blocks {k : Bytes} (length : k.length = 16) :
    (kck (Octets.of 48 (k ++ k ++ k))).bytes = k := by
  have whole : (Octets.of 48 (k ++ k ++ k)).bytes = k ++ (k ++ k) := by
    rw [← List.append_assoc]
    exact Octets.of_bytes_of_length (by simp [length])
  unfold kck
  rw [whole, slice_append_left length, Octets.of_bytes_of_length length]

/-- The key of the demonstration repeats one block of sixteen octets, which its MIC adds in. -/
theorem demoWrapEnv_crypto : HandshakeCrypto demoWrapEnv where
  symmetric := demoEnv_kdf_symm
  mic pmk anonce snonce anonce' snonce' self peer m same := by
    have cancel (x y : Nat)
        (same : demoEnv.mic (kck (Octets.of 48 (be 16 x ++ be 16 x ++ be 16 x))) m =
          demoEnv.mic (kck (Octets.of 48 (be 16 y ++ be 16 y ++ be 16 y))) m) :
        be 16 x = be 16 y := by
      have sums := congrArg Octets.bytes same
      unfold demoEnv at sums
      dsimp only at sums
      rw [kck_blocks (be_length 16 x), kck_blocks (be_length 16 y),
        Octets.of_bytes_of_length (be_length 16 _), Octets.of_bytes_of_length (be_length 16 _)]
        at sums
      have values := congrArg ofBe sums
      rw [ofBe_be, ofBe_be, ofBe_be, ofBe_be] at values
      have residues : x % 256 ^ 16 = y % 256 ^ 16 := by omega
      unfold be
      rw [← le_mod 16 x, residues, le_mod]
    have blocks := cancel _ _ same
    change Octets.of 48 _ = Octets.of 48 _
    rw [blocks]
  keyWrap := demoWrapEnv_keyWrap

def demoPairing : Pairing := ⟨demoApMac, demoStaMac, demoPmk⟩

/-- Both ends of the demonstration offer MFP and beacon protection. -/
def demoSettings : List SmeSetting := [.bindHal, .pmf .optional, .beaconProtection true]

def demoFreshSta : Sme :=
  demoSettings.foldl smeSet (smeSet demoStaInit (.peer demoApMac))

def demoFreshAp : Sme :=
  demoSettings.foldl smeSet (smeSet demoApInit (.peer demoStaMac))

/-- Every frame is delivered once, in the order in which it was sent, but the first message of
the handshake twice. -/
def demoHandshake : List LinkOp :=
  [.host .sta .connectStart, .deliver .ap noSiblings 0, .deliver .sta noSiblings 1,
    .deliver .ap noSiblings 2, .deliver .sta noSiblings 3, .deliver .ap noSiblings 4,
    .deliver .sta noSiblings 6, .deliver .sta noSiblings 5, .deliver .ap noSiblings 7,
    .deliver .sta noSiblings 6, .deliver .sta noSiblings 8, .deliver .ap noSiblings 10]

@[irreducible] def runLink (ops : List LinkOp) : Link :=
  ops.foldl (Link.step demoWrapEnv) (Link.start demoFreshSta demoFreshAp)

/-- A check that suffices for `Allowed`. -/
def Link.allowedCheck (c : Link) : LinkOp → Bool
  | .host e .connectStart => (c.ends e).state ≠ .connected
  | .host _ op => op.keyless
  | .deliver _ _ _ => true

theorem Link.allowed_of_check {c : Link} {op : LinkOp} (h : c.allowedCheck op = true) :
    c.Allowed op := by
  cases op with
  | deliver e sib index => trivial
  | host e op =>
    cases op with
    | connectStart => exact Or.inr ⟨rfl, of_decide_eq_true h⟩
    | _ => exact Or.inl h

theorem handshake_agreement_demo :
    KeysAgree ((runLink demoHandshake).ends .sta) ((runLink demoHandshake).ends .ap) ∧
      ((runLink demoHandshake).ends .sta).mfpActive = true := by
  have run : Run (Link.step demoWrapEnv) Link.Allowed (Link.start demoFreshSta demoFreshAp)
      (runLink demoHandshake) := by
    unfold runLink
    apply Run.of_allAlong fun _ _ => Link.allowed_of_check
    decide +kernel
  have outcome : (((runLink demoHandshake).ends .sta).state = .connected ∧
      ((runLink demoHandshake).ends .ap).state = .connected) ∧
      ((runLink demoHandshake).ends .sta).mfpActive = true := by
    decide +kernel
  have up (e : SmeRole) : ((runLink demoHandshake).ends e).state = .connected := by
    cases e with
    | sta => exact outcome.1.1
    | ap => exact outcome.1.2
  have keep : ∀ x ∈ demoSettings, x.keepsPairing = true := by decide
  exact ⟨handshake_agreement demoWrapEnv_crypto
    (freshEnd_init demoPairing .sta demoApMac 9 rfl keep)
    (freshEnd_init demoPairing .ap demoStaMac 7 rfl keep) run up, outcome.2⟩

end Run

end Rf2a4m1
