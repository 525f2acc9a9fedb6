import Rf2a4m1.Lib.FourWay
import Rf2a4m1.Sme.Keyless
import Rf2a4m1.Sme.Ladder
import Rf2a4m1.Sme.Plugin

/-!
# The two ends of the 4-way handshake

An AP and a station that share a PMK follow the two parties of the abstract
handshake: whatever an end does with a frame of the other one is matched by
steps of its party.
-/

set_option autoImplicit false

namespace Rf2a4m1

open ByteString FourWay

/-- Addresses of the two ends and the PMK they share. -/
structure Pairing where
  ap : MacAddr
  sta : MacAddr
  pmk : Octets 32

def Pairing.addr (p : Pairing) : SmeRole → MacAddr
  | .ap => p.ap
  | .sta => p.sta

/-- The abstract handshake over pairwise keys and, once they are sent, the group keys' KDEs. -/
abbrev Handshake := FourWay.State (Octets 48) (Option Bytes)

variable (env : Env) (p : Pairing)

/-- A pairwise key that some two nonces give. -/
def Pairing.Derived (ptk : Octets 48) : Prop :=
  ∃ anonce snonce, ptk = env.kdf p.pmk anonce snonce p.ap p.sta

/-- A message of the abstract handshake stands behind the frame of an end. -/
def Note.Backed (a : Handshake) : SmeRole → Note → Prop
  | _, .keyless => True
  | _, .announcement => True
  | .ap, .authResp => True
  | .ap, .assocResp => True
  | .ap, .m1 n => .first n ∈ a.air
  | .ap, .m3 n ptk kd => .third n ptk (some kd) ∈ a.air ∧ p.Derived env ptk ∧
      (16 ≤ kd.length ∧ kd.length % 8 = 0 ∧ kd.length + 8 ≤ smeKdeMax)
  | .sta, .authReq => True
  | .sta, .assocReq => True
  | .sta, .m2 n => .second n ∈ a.air
  | .sta, .m4 n => .fourth n ∈ a.air
  | _, _ => False

/-- A frame that an end may have sent. -/
def Spoken (a : Handshake) (role : SmeRole) (frame : Bytes) : Prop :=
  ∃ note : Note, note.Backed env p a role ∧ Means env (p.addr role) note frame

/-- What an end was started with and keeps. -/
structure Paired (e : SmeRole) (peer : MacAddr) (h : Held) : Prop where
  role : h.role = e
  self : h.self = p.addr e
  peer : h.peer = peer
  pmk : h.pmk = p.pmk
  akm : h.akm = .psk
  off : h.ftEnabled = false

/-- The AP and the authenticator of the abstract handshake. -/
structure ApFollows (a : Handshake) (h : Held) : Prop where
  paired : Paired p .ap p.sta h
  key : a.ap.key = h.ptk
  counter : a.ap.counter = h.replay
  up : a.ap.phase = .up ↔ h.state = .connected
  waiting : h.state = .fourWay → a.ap.phase = .waiting
  installed : h.state = .connected → h.installedTk = tk h.ptk
  group : a.ap.phase ≠ .idle → ∀ kd, a.ap.group = some kd → HoldsGroup kd h ∧ Carries kd h

/-- The station and the supplicant. -/
structure StaFollows (a : Handshake) (h : Held) : Prop where
  paired : Paired p .sta p.ap h
  key : a.sta.key = h.ptk
  up : a.sta.phase = .up ↔ h.state = .connected
  installed : h.state = .connected → h.installedTk = tk h.ptk
  group : h.state = .connected → ∃ kd, a.sta.group = some kd ∧ HoldsGroup kd h
  derived : h.state = .fourWay → p.Derived env h.ptk
  early : ∀ pdu, h.earlyM1 = some pdu → ∃ n, .first n ∈ a.air ∧ Numbered n pdu

def Follows (a : Handshake) : SmeRole → Held → Prop
  | .ap => ApFollows p a
  | .sta => StaFollows env p a

/-- Nothing of the other end changes, and what was sent stays. -/
structure Extends (role : SmeRole) (a b : Handshake) : Prop where
  ap : role = .sta → b.ap = a.ap
  sta : role = .ap → b.sta = a.sta
  air : a.air ⊆ b.air

/-- An end moves, and steps of its party match. -/
def Moves (a : Handshake) (role : SmeRole) (s t : Sme) : Prop :=
  ∃ b, FourWay.Reach a b ∧ Extends role a b ∧ Follows env p b role t.held ∧
    Sends (Spoken env p b role) s.toSmeTx t.toSmeTx

section General

variable {env p} {a b : Handshake} {role : SmeRole} {s t : Sme}

theorem Extends.refl (role : SmeRole) (a : Handshake) : Extends role a a :=
  ⟨fun _ => rfl, fun _ => rfl, fun _ => id⟩

theorem Extends.ofAp (sta : b.sta = a.sta) (air : a.air ⊆ b.air) : Extends .ap a b where
  ap no := nomatch no
  sta _ := sta
  air := air

theorem Extends.ofSta (ap : b.ap = a.ap) (air : a.air ⊆ b.air) : Extends .sta a b where
  ap _ := ap
  sta no := nomatch no
  air := air

theorem Note.Backed.mono (air : a.air ⊆ b.air) {note : Note} (backed : note.Backed env p a role) :
    note.Backed env p b role := by
  cases role with
  | ap =>
    cases note with
    | m1 n => exact air backed
    | m3 n ptk kd => exact ⟨air backed.1, backed.2⟩
    | _ => exact backed
  | sta =>
    cases note with
    | m2 n => exact air backed
    | m4 n => exact air backed
    | _ => exact backed

theorem Spoken.mono (air : a.air ⊆ b.air) {frame : Bytes} (spoken : Spoken env p a role frame) :
    Spoken env p b role frame := by
  obtain ⟨note, backed, means⟩ := spoken
  exact ⟨note, backed.mono air, means⟩

/-- The other end goes on following. -/
theorem Follows.other {other : SmeRole} (differs : other ≠ role) (ext : Extends role a b)
    {h : Held} (follows : Follows env p a other h) : Follows env p b other h := by
  cases other with
  | ap =>
    have sta : role = .sta := by
      cases role with
      | ap => exact absurd rfl differs
      | sta => rfl
    have same := ext.ap sta
    exact { follows with
      key := by rw [same]; exact follows.key
      counter := by rw [same]; exact follows.counter
      up := by rw [same]; exact follows.up
      waiting := by rw [same]; exact follows.waiting
      group := by rw [same]; exact follows.group }
  | sta =>
    have ap : role = .ap := by
      cases role with
      | ap => rfl
      | sta => exact absurd rfl differs
    have same := ext.sta ap
    exact { follows with
      key := by rw [same]; exact follows.key
      up := by rw [same]; exact follows.up
      group := by rw [same]; exact follows.group
      early := fun pdu stashed =>
        (follows.early pdu stashed).imp fun _ => And.imp_left fun sent => ext.air sent }

/-- An end whose keys stay as they are has not moved. -/
theorem Moves.stay (follows : Follows env p a role s.held) (held : t.held = s.held)
    (sends : Sends (Spoken env p a role) s.toSmeTx t.toSmeTx) : Moves env p a role s t := by
  refine ⟨a, .refl, .refl role a, ?_, sends⟩
  rw [held]
  exact follows

theorem Moves.keyless (follows : Follows env p a role s.held) (keyless : Keyless env s t)
    (self : s.self = p.addr role) : Moves env p a role s t := by
  refine .stay follows keyless.held (keyless.sends.mono fun f means => ⟨.keyless, ?_, ?_⟩)
  · cases role <;> exact trivial
  · rw [← self]
    exact means

/-- A message that an open link does not take was not received over one. -/
theorem gate_down {type : FrameType} {inp : Bytes} (gate : demuxGate s type inp = true)
    (closed : type.whenConnected = false) : s.state ≠ .connected := by
  intro up
  rw [(demuxGate_state gate).2 up] at closed
  cases closed

/-- The 64 bits that are sent say which number was meant, if it is not above the one at hand. -/
theorem number_eq {n m : Nat} (le : n ≤ m) (read : n % 2 ^ 64 = m) : n = m :=
  Nat.le_antisymm le (read ▸ Nat.mod_le n _)

end General

section Ap

variable {env p} {a : Handshake} {s : Sme}

theorem ApFollows.down (follows : ApFollows p a s.held) (down : s.state ≠ .connected) :
    a.ap.phase ≠ .up :=
  fun up => down (follows.up.1 up)

/-- The AP gives up the handshake. -/
theorem ApFollows.leaves (follows : ApFollows p a s.held) (down : s.state ≠ .connected) {t : Sme}
    (paired : Paired p .ap p.sta t.held) (ptk : t.ptk = s.ptk) (replay : t.replay = s.replay)
    (out : t.state ≠ .connected ∧ t.state ≠ .fourWay)
    (sends : Sends (Spoken env p a .ap) s.toSmeTx t.toSmeTx) : Moves env p a .ap s t := by
  have next := FourWay.Step.apLeaves a (follows.down down)
  refine ⟨_, .single next, .ofAp rfl fun _ => id, ?_, ?_⟩
  · exact {
      paired := paired
      key := follows.key.trans ptk.symm
      counter := follows.counter.trans replay.symm
      up := ⟨fun up => (nomatch up), fun up => absurd up out.1⟩
      waiting := fun waits => absurd waits out.2
      installed := fun up => absurd up out.1
      group := fun busy => absurd rfl busy }
  · exact sends.mono fun f spoken => spoken.mono fun _ => id

theorem apOnAuthReq_moves (follows : ApFollows p a s.held) (down : s.state ≠ .connected) :
    Moves env p a .ap s (apOnAuthReq s p.sta) := by
  obtain ⟨held, sends⟩ := apOnAuthReq_step env s p.sta
  have self : s.self = p.ap := follows.paired.self
  have paired : Paired p .ap p.sta (apOnAuthReq s p.sta).held := by
    rw [held]
    exact { follows.paired with peer := rfl }
  have state : (apOnAuthReq s p.sta).state = .authed := congrArg Held.state held
  refine follows.leaves down paired (congrArg Held.ptk held) (congrArg Held.replay held) ?_ ?_
  · rw [state]
    exact ⟨by decide, by decide⟩
  · rw [self] at sends
    exact sends.mono fun f means => ⟨.authResp, trivial, means⟩

theorem apOnAssocReq_moves (follows : ApFollows p a s.held) (down : s.state ≠ .connected)
    (ies : Bytes) : Moves env p a .ap s (apOnAssocReq env s ies) := by
  obtain ⟨active, ⟨held, quiet⟩ | ⟨held, sends⟩⟩ := apOnAssocReq_step env s ies
  · have paired : Paired p .ap p.sta (apOnAssocReq env s ies).held := by
      rw [held]
      exact { follows.paired with }
    have state : (apOnAssocReq env s ies).state = .failed := congrArg Held.state held
    refine follows.leaves down paired (congrArg Held.ptk held) (congrArg Held.replay held) ?_
      (.of_eq quiet)
    rw [state]
    exact ⟨by decide, by decide⟩
  · have self : s.self = p.ap := follows.paired.self
    have counter : a.ap.counter = s.replay := follows.counter
    have next := FourWay.Step.apStarts a (follows.down down) none
    refine ⟨_, .single next, .ofAp rfl fun _ => Or.inr, ?_, ?_⟩
    · rw [held]
      exact {
        paired := { follows.paired with }
        key := follows.key
        counter := congrArg (· + 1) counter
        up := ⟨fun up => (nomatch up), fun up => nomatch up⟩
        waiting := fun _ => rfl
        installed := fun up => nomatch up
        group := fun _ _ no => nomatch no }
    · rw [self] at sends
      refine sends.mono fun f means => ?_
      rcases means with answer | first
      · exact ⟨.assocResp, trivial, answer⟩
      · refine ⟨.m1 (s.replay + 1), Or.inl ?_, first⟩
        rw [counter]

theorem apOnM2_moves (inv : FourWay.Inv a) (follows : ApFollows p a s.held) {n : Nat}
    (sent : .second n ∈ a.air) {pdu : Bytes} (numbered : Numbered n pdu) :
    Moves env p a .ap s (apOnM2 env s pdu) := by
  have psk : s.akm = .psk := follows.paired.akm
  have self : s.self = p.ap := follows.paired.self
  have peer : s.peer = p.sta := follows.paired.peer
  have pmk : s.pmk = p.pmk := follows.paired.pmk
  have counter : a.ap.counter = s.replay := follows.counter
  rcases apOnM2_step env s psk pdu with ⟨held, quiet⟩ | ⟨⟨waits, current⟩, step⟩
  · exact .stay follows held (.of_eq quiet)
  have waiting : a.ap.phase = .waiting := follows.waiting waits
  have same : n = s.replay := by
    refine number_eq ?_ (numbered.checked.symm.trans current)
    rw [← counter]
    exact inv.first n (inv.second n sent)
  have echoed : .second a.ap.counter ∈ a.air := by
    rw [counter, ← same]
    exact sent
  obtain ⟨anonce, snonce, gtk, igtk, bigtk, step⟩ := step
  dsimp only at step
  set ptk := env.kdf s.pmk anonce snonce s.self s.peer with derived
  have isDerived : p.Derived env ptk := ⟨anonce, snonce, by rw [derived, pmk, self, peer]⟩
  rcases step with ⟨held, quiet⟩ | ⟨kd, held, holds, carries, sends⟩
  · have next := FourWay.Step.apDerives a waiting echoed ptk none
    refine ⟨_, .single next, .ofAp rfl fun _ => id, ?_,
      .of_eq quiet⟩
    rw [held]
    exact {
      paired := { follows.paired with }
      key := rfl
      counter := counter
      up := follows.up
      waiting := follows.waiting
      installed := fun up => by
        rw [show s.state = .connected from up] at waits
        cases waits
      group := fun _ _ no => nomatch no }
  · have next := FourWay.Step.apDelivers a waiting echoed ptk (some kd)
    refine ⟨_, .single next, .ofAp rfl fun _ => Or.inr, ?_, ?_⟩
    · have group : ∀ kd', some kd = some kd' → HoldsGroup kd' (apOnM2 env s pdu).held ∧
          Carries kd' (apOnM2 env s pdu).held := by
        intro kd' this
        cases this
        exact ⟨holds, carries⟩
      rw [held] at group ⊢
      exact {
        paired := { follows.paired with }
        key := rfl
        counter := congrArg (· + 1) counter
        up := follows.up
        waiting := follows.waiting
        installed := fun up => by
          rw [show s.state = .connected from up] at waits
          cases waits
        group := fun _ => group }
    · rw [self] at sends
      refine sends.mono fun f means => ⟨.m3 (s.replay + 1) ptk kd, ⟨Or.inl ?_, isDerived,
        carries.wraps⟩, means⟩
      rw [counter]

theorem apOnM4_moves (inv : FourWay.Inv a) (follows : ApFollows p a s.held) {n : Nat}
    (sent : .fourth n ∈ a.air) {pdu : Bytes} (numbered : Numbered n pdu) :
    Moves env p a .ap s (apOnM4 env s pdu) := by
  have counter : a.ap.counter = s.replay := follows.counter
  obtain ⟨quiet, held | ⟨⟨waits, current⟩, held⟩⟩ := apOnM4_step env s follows.paired.off pdu
  · exact .stay follows held (.of_eq quiet)
  have waiting : a.ap.phase = .waiting := follows.waiting waits
  have same : n = s.replay := by
    refine number_eq ?_ (numbered.checked.symm.trans current)
    rw [← counter]
    exact (inv.third _ _ _ (inv.fourth n sent).2).1
  have echoed : .fourth a.ap.counter ∈ a.air := by
    rw [counter, ← same]
    exact sent
  have next := FourWay.Step.apConnects a waiting echoed
  refine ⟨_, .single next, .ofAp rfl fun _ => id, ?_, .of_eq quiet⟩
  rw [held]
  exact {
    paired := { follows.paired with }
    key := follows.key
    counter := counter
    up := ⟨fun _ => rfl, fun _ => rfl⟩
    waiting := fun no => nomatch no
    installed := fun _ => rfl
    group := fun _ kd sentGroup => by
      have busy : a.ap.phase ≠ .idle := by
        rw [waiting]
        decide
      obtain ⟨holds, carries⟩ := follows.group busy kd sentGroup
      exact ⟨{ holds with }, { carries with }⟩ }

/-- Whatever the station said, the authenticator matches what the AP does with it. -/
theorem ap_receives (inv : FourWay.Inv a) (follows : ApFollows p a s.held) {frame : Bytes}
    (spoken : Spoken env p a .sta frame) (sib : Siblings) :
    Moves env p a .ap s (smeRx env sib s frame).1 := by
  have role : s.role = .ap := follows.paired.role
  have self : s.self = p.ap := follows.paired.self
  obtain ⟨note, backed, means⟩ := spoken
  have gated := rxKind_gated (s := s) frame
  rw [smeRx_eq]
  rcases means s with ignored | read
  · rw [ignored]
    exact .keyless follows (.refl s) self
  have handled {type : FrameType} {inp : Bytes} (is : rxKind s frame = .handle none type inp) :
      demuxGate s type inp = true ∧ rxAct env sib s frame (rxKind s frame) =
        apDemux env sib s type (macAt inp 1) inp (frameBody inp) := by
    rw [is] at gated ⊢
    exact ⟨gated, rxAct_ap env sib s role frame none type inp⟩
  cases note with
  | keyless =>
    rcases rxAct_keyless env sib s frame read with keyless | ⟨held, sends⟩
    · exact .keyless follows keyless self
    · rw [self] at sends
      exact .stay follows held (sends.mono fun f means => ⟨.announcement, trivial, means⟩)
  | announcement =>
    obtain ⟨h, is, _⟩ := read
    have same : rxBssAnnounce env s h = s := by
      unfold rxBssAnnounce
      exact if_pos (Or.inl fun sta => by rw [role] at sta; cases sta)
    rw [is]
    change Moves env p a .ap s (rxBssAnnounce env s h)
    rw [same]
    exact .keyless follows (.refl s) self
  | authReq =>
    obtain ⟨body, is⟩ := read
    obtain ⟨gate, acts⟩ := handled is
    rw [acts]
    have src : macAt (smePfx .authReq p.sta ++ body) 1 = p.sta := frameSrc_smePfx _ _ _
    change Moves env p a .ap s (apOnAuthReq s (macAt (smePfx .authReq p.sta ++ body) 1))
    rw [src]
    exact apOnAuthReq_moves follows (gate_down gate rfl)
  | assocReq =>
    obtain ⟨inp, is⟩ := read
    obtain ⟨gate, acts⟩ := handled is
    rw [acts]
    exact apOnAssocReq_moves follows (gate_down gate rfl) (frameBody inp)
  | m2 n =>
    obtain ⟨inp, is, numbered⟩ := read
    rw [(handled is).2]
    exact apOnM2_moves inv follows backed numbered
  | m4 n =>
    obtain ⟨inp, is, numbered⟩ := read
    rw [(handled is).2]
    exact apOnM4_moves inv follows backed numbered
  | _ => exact backed.elim

end Ap

section Sta

variable {env p} {a : Handshake} {s t : Sme}

theorem StaFollows.down (follows : StaFollows env p a s.held) (down : s.state ≠ .connected) :
    a.sta.phase ≠ .up :=
  fun up => down (follows.up.1 up)

/-- A station that is not up may take any keys, as long as it does not come up. -/
theorem StaFollows.takes (follows : StaFollows env p a s.held) (down : s.state ≠ .connected)
    (paired : Paired p .sta p.ap t.held) (still : t.state ≠ .connected)
    (derived : t.state = .fourWay → p.Derived env t.ptk)
    (early : ∀ pdu, t.earlyM1 = some pdu → ∃ n, .first n ∈ a.air ∧ Numbered n pdu) :
    ∃ b, FourWay.Step a b ∧ b.ap = a.ap ∧ b.air = a.air ∧ StaFollows env p b t.held := by
  have next := FourWay.Step.staMoves a (follows.down down) ⟨.idle, 0, t.ptk, none⟩
    fun up => nomatch up
  refine ⟨_, next, rfl, rfl, ?_⟩
  exact {
    paired := paired
    key := rfl
    up := ⟨fun up => (nomatch up), fun up => absurd up still⟩
    installed := fun up => absurd up still
    group := fun up => absurd up still
    derived := derived
    early := early }

theorem StaFollows.moves (follows : StaFollows env p a s.held) (down : s.state ≠ .connected)
    (paired : Paired p .sta p.ap t.held) (still : t.state ≠ .connected)
    (derived : t.state = .fourWay → p.Derived env t.ptk)
    (early : ∀ pdu, t.earlyM1 = some pdu → ∃ n, .first n ∈ a.air ∧ Numbered n pdu)
    (sends : Sends (Spoken env p a .sta) s.toSmeTx t.toSmeTx) : Moves env p a .sta s t := by
  obtain ⟨b, next, ap, air, keeps⟩ := follows.takes down paired still derived early
  have grows : a.air ⊆ b.air := fun _ sent => air ▸ sent
  exact ⟨b, .single next, .ofSta ap grows, keeps, sends.mono fun f spoken => spoken.mono grows⟩

/-- Only the 64 bits that are sent of a number matter. -/
theorem Numbered.of_mod {n : Nat} {pdu : Bytes} (numbered : Numbered (n % 2 ^ 64) pdu) :
    Numbered n pdu where
  read k decoded := (numbered.read k decoded).trans (Nat.mod_mod n _)
  checked := numbered.checked.trans (Nat.mod_mod n _)

theorem Means.m2_of_mod {src : MacAddr} {n : Nat} {frame : Bytes}
    (means : Means env src (.m2 (n % 2 ^ 64)) frame) : Means env src (.m2 n) frame := by
  intro u
  rcases means u with ignored | ⟨inp, is, numbered⟩
  · exact Or.inl ignored
  · exact Or.inr ⟨inp, is, numbered.of_mod⟩

theorem Means.m4_of_mod {src : MacAddr} {n : Nat} {frame : Bytes}
    (means : Means env src (.m4 (n % 2 ^ 64)) frame) : Means env src (.m4 n) frame := by
  intro u
  rcases means u with ignored | ⟨inp, is, numbered⟩
  · exact Or.inl ignored
  · exact Or.inr ⟨inp, is, numbered.of_mod⟩

/-- A first message is answered under the number it came with. -/
theorem Answered.moves (symmetric : ∀ anonce snonce,
      env.kdf p.pmk anonce snonce p.sta p.ap = env.kdf p.pmk anonce snonce p.ap p.sta)
    (follows : StaFollows env p a s.held) (down : s.state ≠ .connected) {n : Nat}
    (asked : .first n ∈ a.air) {pdu : Bytes} (numbered : Numbered n pdu) {k : EapolKey}
    (decoded : smeEapolKeyDecode pdu = some k) {u : Sme} (answered : Answered env t k u)
    (paired : Paired p .sta p.ap t.held) (quiet : t.sent = s.sent)
    (early : ∀ pdu, t.earlyM1 = some pdu → ∃ n, .first n ∈ a.air ∧ Numbered n pdu) :
    Moves env p a .sta s u := by
  obtain ⟨snonce, held, sends⟩ := answered
  have self : t.self = p.sta := paired.self
  have peer : t.peer = p.ap := paired.peer
  have pmk : t.pmk = p.pmk := paired.pmk
  have uPaired : Paired p .sta p.ap u.held := by
    rw [held]
    exact { paired with }
  have ptk : u.ptk = env.kdf p.pmk k.nonce snonce p.ap p.sta := by
    have := congrArg Held.ptk held
    rw [← symmetric, ← self, ← peer, ← pmk]
    exact this
  have state : u.state = .fourWay := congrArg Held.state held
  have stash : u.earlyM1 = t.earlyM1 := congrArg Held.earlyM1 held
  obtain ⟨b, next, ap, air, keeps⟩ := follows.takes down uPaired (by rw [state]; decide)
    (fun _ => ⟨k.nonce, snonce, ptk⟩) (fun pdu stashed => early pdu (stash.symm.trans stashed))
  have asked' : .first n ∈ b.air := by
    rw [air]
    exact asked
  have reply := FourWay.Step.staAnswers b n asked'
  have grows : a.air ⊆ b.air := fun _ sent => air ▸ sent
  refine ⟨_, .tail (.single next) reply, .ofSta ap fun _ sent => Or.inr (grows sent), ?_, ?_⟩
  · exact { keeps with
      early := fun pdu stashed =>
        (keeps.early pdu stashed).imp fun _ => And.imp_left Or.inr }
  · rw [self, numbered.read k decoded] at sends
    refine (Sends.of_eq quiet).trans (sends.mono fun f means => ⟨.m2 n, Or.inl rfl, ?_⟩)
    exact means.m2_of_mod

theorem rxBssAnnounce_moves (follows : StaFollows env p a s.held) {h : MgmtHdr}
    (bssid : h.addr3 = p.ap) : Moves env p a .sta s (rxBssAnnounce env s h) := by
  have self : s.self = p.sta := follows.paired.self
  rcases rxBssAnnounce_step env s follows.paired.akm h with same | ⟨scanning, active, held, sends⟩
  · rw [same]
    exact .keyless follows (.refl s) self
  have paired : Paired p .sta p.ap (rxBssAnnounce env s h).held := by
    rw [held]
    exact { follows.paired with peer := bssid }
  have state : (rxBssAnnounce env s h).state = .scanning :=
    (congrArg Held.state held).trans scanning
  have stash : (rxBssAnnounce env s h).earlyM1 = s.earlyM1 := congrArg Held.earlyM1 held
  refine follows.moves (by rw [scanning]; decide) paired (by rw [state]; decide)
    (fun waits => ?_) (fun pdu stashed => follows.early pdu (stash.symm.trans stashed)) ?_
  · rw [state] at waits
    cases waits
  · rw [self] at sends
    exact sends.mono fun f means => ⟨.authReq, trivial, means⟩

theorem staOnAuthResp_moves (follows : StaFollows env p a s.held) :
    Moves env p a .sta s (staOnAuthResp s) := by
  have self : s.self = p.sta := follows.paired.self
  rcases @staOnAuthResp_step env s with same | ⟨waiting, held, sends⟩
  · rw [same]
    exact .keyless follows (.refl s) self
  have down : s.state ≠ .connected := by
    rcases waiting with scanning | init
    · rw [scanning]
      decide
    · rw [init]
      decide
  have paired : Paired p .sta p.ap (staOnAuthResp s).held := by
    rw [held]
    exact { follows.paired with }
  have state : (staOnAuthResp s).state = .authed := congrArg Held.state held
  have stash : (staOnAuthResp s).earlyM1 = s.earlyM1 := congrArg Held.earlyM1 held
  refine follows.moves down paired (by rw [state]; decide) (fun waits => ?_)
    (fun pdu stashed => follows.early pdu (stash.symm.trans stashed)) ?_
  · rw [state] at waits
    cases waits
  · rw [self] at sends
    exact sends.mono fun f means => ⟨.assocReq, trivial, means⟩

theorem staOnAssocResp_moves (crypto : HandshakeCrypto env) (follows : StaFollows env p a s.held)
    (down : s.state ≠ .connected) (ies : Bytes) :
    Moves env p a .sta s (staOnAssocResp env s ies) := by
  obtain ⟨active, early, kept, step⟩ := staOnAssocResp_step env s follows.paired.akm ies
  have backed : ∀ pdu, early = some pdu → ∃ n, .first n ∈ a.air ∧ Numbered n pdu := by
    intro pdu stashed
    rcases kept with same | dropped
    · exact follows.early pdu (same.symm.trans stashed)
    · rw [dropped] at stashed
      cases stashed
  rcases step with ⟨state, outcome, held, quiet⟩ | ⟨pdu, k, t, stashed, decoded, quiet, held, answered⟩
  · have paired : Paired p .sta p.ap (staOnAssocResp env s ies).held := by
      rw [held]
      exact { follows.paired with }
    have isState : (staOnAssocResp env s ies).state = state := congrArg Held.state held
    have stash : (staOnAssocResp env s ies).earlyM1 = early := congrArg Held.earlyM1 held
    have out : state ≠ .connected ∧ state ≠ .fourWay := by
      rcases outcome with failed | assoced
      · rw [failed]
        exact ⟨by decide, by decide⟩
      · rw [assoced]
        exact ⟨by decide, by decide⟩
    exact follows.moves down paired (by rw [isState]; exact out.1)
      (fun waits => absurd (isState.symm.trans waits) out.2)
      (fun pdu stashed => backed pdu (stash.symm.trans stashed)) (.of_eq quiet)
  · obtain ⟨n, asked, numbered⟩ := follows.early pdu stashed
    have paired : Paired p .sta p.ap t.held := by
      rw [held]
      exact { follows.paired with }
    have stash : t.earlyM1 = early := congrArg Held.earlyM1 held
    exact answered.moves (fun _ _ => crypto.symmetric _ _ _ _ _) follows down asked numbered decoded
      paired quiet fun pdu stashed => backed pdu (stash.symm.trans stashed)

theorem staRxM1_moves (crypto : HandshakeCrypto env) (follows : StaFollows env p a s.held)
    (down : s.state ≠ .connected) {n : Nat} (asked : .first n ∈ a.air) {pdu : Bytes}
    (numbered : Numbered n pdu) : Moves env p a .sta s (staRxM1 env s pdu) := by
  rcases staRxM1_step env s follows.paired.akm pdu with
    same | ⟨held, quiet⟩ | ⟨k, decoded, answered⟩
  · rw [same]
    exact .keyless follows (.refl s) follows.paired.self
  · have paired : Paired p .sta p.ap (staRxM1 env s pdu).held := by
      rw [held]
      exact { follows.paired with }
    have state : (staRxM1 env s pdu).state = s.state := congrArg Held.state held
    have ptk : (staRxM1 env s pdu).ptk = s.ptk := congrArg Held.ptk held
    have stash : (staRxM1 env s pdu).earlyM1 = some pdu := congrArg Held.earlyM1 held
    refine follows.moves down paired (by rw [state]; exact down) (fun waits => ?_)
      (fun pdu' stashed => ?_) (.of_eq quiet)
    · rw [ptk]
      exact follows.derived (state.symm.trans waits)
    · rw [stash] at stashed
      cases stashed
      exact ⟨n, asked, numbered⟩
  · exact answered.moves (fun _ _ => crypto.symmetric _ _ _ _ _) follows down asked numbered decoded
      follows.paired rfl follows.early

/-- A third message that verifies was made with the key the station holds. -/
theorem staOnM3_moves (crypto : HandshakeCrypto env) (follows : StaFollows env p a s.held)
    (down : s.state ≠ .connected) {n : Nat} {ptk : Octets 48} {kd : Bytes}
    (delivered : .third n ptk (some kd) ∈ a.air) (derived : p.Derived env ptk)
    (wraps : 16 ≤ kd.length ∧ kd.length % 8 = 0 ∧ kd.length + 8 ≤ smeKdeMax) {pdu : Bytes}
    (numbered : Numbered n pdu) (made : MadeWith env ptk kd pdu) :
    Moves env p a .sta s (staOnM3 env s pdu) := by
  have self : s.self = p.sta := follows.paired.self
  rcases staOnM3_step env s follows.paired.off pdu with
    ⟨igtk, bigtk, _, held, quiet⟩ |
      ⟨waits, k, decoded, mic, gtk, igtk, bigtk, held, holds, sends⟩
  · have paired : Paired p .sta p.ap (staOnM3 env s pdu).held := by
      rw [held]
      exact { follows.paired with }
    have state : (staOnM3 env s pdu).state = s.state := congrArg Held.state held
    have samePtk : (staOnM3 env s pdu).ptk = s.ptk := congrArg Held.ptk held
    have stash : (staOnM3 env s pdu).earlyM1 = s.earlyM1 := congrArg Held.earlyM1 held
    refine follows.moves down paired (by rw [state]; exact down) (fun waits => ?_)
      (fun pdu stashed => follows.early pdu (stash.symm.trans stashed)) (.of_eq quiet)
    rw [samePtk]
    exact follows.derived (state.symm.trans waits)
  · have samePtk : s.ptk = ptk := by
      obtain ⟨anonce, snonce, isKey⟩ := follows.derived waits
      obtain ⟨anonce', snonce', isKey'⟩ := derived
      obtain ⟨m, same⟩ := made.mic s follows.paired.akm mic
      rw [show s.ptk = env.kdf p.pmk anonce snonce p.ap p.sta from isKey, isKey'] at same ⊢
      exact crypto.mic _ _ _ _ _ _ _ _ same
    have key : a.sta.key = ptk := follows.key.trans samePtk
    have unwrapped : env.keyUnwrap smeKdeMax (kek s.ptk) k.keyData = kd := by
      obtain ⟨long, whole, room⟩ := wraps
      rw [made.keyData k decoded, samePtk]
      exact crypto.keyWrap.unwrap _ _ _ _ long whole room (by omega)
    rw [unwrapped] at holds
    have next := FourWay.Step.staConnects a (follows.down down) n (some kd)
      (by rw [key]; exact delivered)
    refine ⟨_, .single next, .ofSta rfl fun _ => Or.inr, ?_, ?_⟩
    · rw [held] at holds ⊢
      exact {
        paired := { follows.paired with }
        key := follows.key
        up := ⟨fun _ => rfl, fun _ => rfl⟩
        installed := fun _ => rfl
        group := fun _ => ⟨kd, rfl, holds⟩
        derived := fun no => nomatch no
        early := fun pdu stashed =>
          (follows.early pdu stashed).imp fun _ => And.imp_left Or.inr }
    · rw [self, numbered.read k decoded] at sends
      exact sends.mono fun f means => ⟨.m4 n, Or.inl rfl, means.m4_of_mod⟩

/-- Whatever the AP said, the supplicant matches what the station does with it. -/
theorem sta_receives (crypto : HandshakeCrypto env) (follows : StaFollows env p a s.held)
    {frame : Bytes} (spoken : Spoken env p a .ap frame) (sib : Siblings) :
    Moves env p a .sta s (smeRx env sib s frame).1 := by
  have role : s.role = .sta := follows.paired.role
  have self : s.self = p.sta := follows.paired.self
  obtain ⟨note, backed, means⟩ := spoken
  have gated := rxKind_gated (s := s) frame
  rw [smeRx_eq]
  rcases means s with ignored | read
  · rw [ignored]
    exact .keyless follows (.refl s) self
  have handled {type : FrameType} {inp : Bytes} (is : rxKind s frame = .handle none type inp) :
      demuxGate s type inp = true ∧ rxAct env sib s frame (rxKind s frame) =
        staDemux env sib s type (macAt inp 1) inp (frameBody inp) := by
    rw [is] at gated ⊢
    exact ⟨gated, rxAct_sta env sib s role frame none type inp⟩
  cases note with
  | keyless =>
    rcases rxAct_keyless env sib s frame read with keyless | ⟨held, sends⟩
    · exact .keyless follows keyless self
    · rw [self] at sends
      exact .stay follows held (sends.mono fun f means => ⟨.announcement, trivial, means⟩)
  | announcement =>
    obtain ⟨h, is, bssid⟩ := read
    rw [is]
    exact rxBssAnnounce_moves follows bssid
  | authResp =>
    obtain ⟨inp, is⟩ := read
    rw [(handled is).2]
    exact staOnAuthResp_moves follows
  | assocResp =>
    rcases read with ⟨aid, is⟩ | ⟨aid, inp, is⟩
    · rw [is]
      exact .keyless follows (.quiet rfl rfl) self
    · rw [is] at gated ⊢
      have down : s.state ≠ .connected := gate_down gated rfl
      set t : Sme := { s with aid := aid } with noted
      have acts : (rxAct env sib s frame (.handle (some aid) .assocResp inp)).1 =
          staOnAssocResp env t (frameBody inp) := by
        rw [rxAct_sta env sib s role]
        rfl
      rw [acts]
      exact staOnAssocResp_moves (s := t) crypto follows down (frameBody inp)
  | m1 n =>
    obtain ⟨inp, is, numbered⟩ := read
    obtain ⟨gate, acts⟩ := handled is
    rw [acts]
    exact staRxM1_moves crypto follows (gate_down gate rfl) backed numbered
  | m3 n ptk kd =>
    obtain ⟨inp, is, numbered, made⟩ := read
    obtain ⟨gate, acts⟩ := handled is
    rw [acts]
    exact staOnM3_moves crypto follows (gate_down gate rfl) backed.1 backed.2.1 backed.2.2 numbered
      made
  | _ => exact backed.elim

end Sta

end Rf2a4m1
