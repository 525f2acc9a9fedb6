import Rf2a4m1.Safety.FtRoam
import Rf2a4m1.Sme.DataPath
import Rf2a4m1.Sme.Stash

/-!
# A fast transition Authentication that is not answered

The name to compare is derived from the address of the frame, which the AP
takes over as its peer first. What a frame that gets no answer leaves behind
is compared with what was held before.
-/

set_option autoImplicit false

namespace Rf2a4m1

open ByteString Runs

/-- Peer, nonces and keys of a fast transition, and the pairwise key. -/
structure FtUntouched (s t : Sme) : Prop where
  peer : t.peer = s.peer
  snonce : t.ftSnonce = s.ftSnonce
  anonce : t.ftAnonce = s.ftAnonce
  pmkR0 : t.ftPmkR0 = s.ftPmkR0
  pmkR0Name : t.ftPmkR0Name = s.ftPmkR0Name
  pmkR1 : t.ftPmkR1 = s.ftPmkR1
  r0Valid : t.ftR0Valid = s.ftR0Valid
  ptk : t.ptk = s.ptk

/-- Without an answer nothing changes; a name that does not match leaves the data path. -/
structure FtAuth1Atomic (s : Sme) (src : MacAddr) (body : Bytes) (t : Sme) : Prop where
  unanswered : newSent s t = [] → FtUntouched s t
  usable : ftApAuth1Names s src body = none → t.peer = s.peer ∧ t.ptk = s.ptk

/-- A frame that names the peer, the SNonce and the keys that are held already. -/
structure BringsHeld (env : Env) (s : Sme) (src : MacAddr) (body : Bytes) (f : FtFte) : Prop where
  peer : src = s.peer
  snonce : f.snonce = s.ftSnonce
  pmkR0 : ∀ r0, ftPmkR0Of s src = some r0 →
    r0 = (s.ftPmkR0, s.ftPmkR0Name) ∧ s.ftR0Valid = true
  keys : (ftApAuth1Names s src body).isSome = true →
    (ftDerivePmkR1 s.ftPmkR0 s.ftPmkR0Name s.self s.peer).1 = s.ftPmkR1 ∧
      (smeGenMaterial env s 32 (s.nonceSalt + 10)).1 = s.ftAnonce ∧
      ftDerivePtk s.ftPmkR1 s.ftSnonce s.ftAnonce s.self s.peer = s.ptk

/-- Fast transition is off, the elements are not of our domain, the name matches and there is
a HAL to answer through, or the frame repeats what is held. -/
def FtAuth1Spared (env : Env) (s : Sme) (src : MacAddr) (body : Bytes) : Prop :=
  s.ftEnabled = true → ∀ p f, ftLocateFte s body 16 = some (p, f) →
    (s.halBound = true ∧ (ftApAuth1Names s src body).isSome = true) ∨ BringsHeld env s src body f

section Handler

variable {env : Env} {s : Sme} {src : MacAddr} {body : Bytes}

/-- The AP with the station taken over as peer and its PMK-R0 in place. -/
def ftTaken (s : Sme) (src : MacAddr) (f : FtFte) (r0 : Octets 32 × Octets 16) : Sme :=
  { s with peer := src, ftSnonce := f.snonce, ftPmkR0 := r0.1, ftPmkR0Name := r0.2,
           ftR0Valid := true }

theorem ftPmkR0Of_holder {r0 : Octets 32 × Octets 16} (derived : ftPmkR0Of s src = some r0) :
    s.ftR0khId.length ≤ 48 := by
  obtain ⟨range, _⟩ := Option.ite_none_left_eq_some.1 derived
  omega

/-- How far an Authentication of our domain gets. -/
inductive FtAuth1Outcome (env : Env) (s : Sme) (src : MacAddr) (body : Bytes) (f : FtFte) :
    Sme → Prop where
  | underived (no : ftPmkR0Of s src = none) (unnamed : ftApAuth1Names s src body = none) :
      FtAuth1Outcome env s src body f { s with peer := src, ftSnonce := f.snonce }
  | mismatch (r0 : Octets 32 × Octets 16) (derived : ftPmkR0Of s src = some r0)
      (unnamed : ftApAuth1Names s src body = none) :
      FtAuth1Outcome env s src body f (ftTaken s src f r0)
  | named (r0 : Octets 32 × Octets 16) (derived : ftPmkR0Of s src = some r0)
      (named : (ftApAuth1Names s src body).isSome = true) :
      FtAuth1Outcome env s src body f
        (txInt (ftApDerive env (ftTaken s src f r0)) .ftAuth2
          (ftOfferElems (ftApDerive env (ftTaken s src f r0))))

theorem ftApOnAuth1_outcome {p : FtParts} {f : FtFte}
    (located : ftLocateFte s body 16 = some (p, f)) :
    FtAuth1Outcome env s src body f (ftApOnAuth1 env s src body) := by
  have names : ftApAuth1Names s src body =
      ((ftPmkR0Of s src).filter fun r0 => r0.2.bytes = slice p.trailing 0 16).map fun r0 =>
        (r0, f.snonce) := by
    unfold ftApAuth1Names
    rw [located]
    rfl
  unfold ftApOnAuth1
  rw [located]
  dsimp only
  cases derived : ftPmkR0Of s src with
  | none =>
    have none : ftDerivePmkR0 s.pmk.bytes s.ftSsid s.ftMdid s.ftR0khId src = none := derived
    rw [none]
    refine .underived derived ?_
    rw [names, derived]
    rfl
  | some r0 =>
    have some : ftDerivePmkR0 s.pmk.bytes s.ftSsid s.ftMdid s.ftR0khId src = some r0 := derived
    rw [some]
    obtain ⟨key, name⟩ := r0
    dsimp only
    by_cases same : name.bytes = slice p.trailing 0 16
    · rw [if_neg (not_not.2 same)]
      have holder : (ftApDerive env (ftTaken s src f (key, name))).ftR0khId.length ≤ 48 :=
        ftPmkR0Of_holder derived
      have answered := ftTxAuth2_eq holder
      have named : (ftApAuth1Names s src body).isSome = true := by
        rw [names, derived]
        simp [same]
      exact answered ▸ @FtAuth1Outcome.named env s src body f (key, name) derived named
    · rw [if_pos same]
      refine .mismatch (key, name) derived ?_
      rw [names, derived]
      simp [same]

theorem ftApOnAuth1_peer {p : FtParts} {f : FtFte}
    (located : ftLocateFte s body 16 = some (p, f)) : (ftApOnAuth1 env s src body).peer = src := by
  have outcome := @ftApOnAuth1_outcome env s src body p f located
  revert outcome
  generalize ftApOnAuth1 env s src body = t
  intro outcome
  cases outcome <;> rfl

theorem ftApAuth1Names_some (named : (ftApAuth1Names s src body).isSome = true) {p : FtParts}
    {f : FtFte} (located : ftLocateFte s body 16 = some (p, f)) :
    ∃ r0, ftPmkR0Of s src = some r0 ∧ r0.2.bytes = slice p.trailing 0 16 := by
  obtain ⟨found, names⟩ := Option.isSome_iff_exists.1 named
  unfold ftApAuth1Names at names
  rw [located, Option.bind_some] at names
  obtain ⟨r0, derived, _⟩ := Option.map_eq_some_iff.1 names
  obtain ⟨derived, same⟩ := Option.filter_eq_some_iff.1 derived
  exact ⟨r0, derived, of_decide_eq_true same⟩

theorem txInt_unbound (unbound : ¬s.halBound = true) (type : FrameType) (payload : Bytes) :
    (txInt s type payload).sent = s.sent := by
  unfold txInt txRaw SmeTx.raw SmeTx.push
  dsimp only
  rw [if_neg unbound]

section Outcome

variable {f : FtFte} {t : Sme}

theorem FtAuth1Outcome.spared (outcome : FtAuth1Outcome env s src body f t)
    (atomic : FtAuth1Atomic s src body t) :
    (s.halBound = true ∧ (ftApAuth1Names s src body).isSome = true) ∨
      BringsHeld env s src body f := by
  cases outcome with
  | underived no unnamed =>
    have kept := atomic.unanswered (newSent_same rfl)
    right
    refine ⟨kept.peer, kept.snonce, fun r0 derived => ?_, fun named => ?_⟩
    · cases no.symm.trans derived
    · rw [unnamed] at named
      cases named
  | mismatch r0 derived unnamed =>
    have kept := atomic.unanswered (newSent_same rfl)
    right
    refine ⟨kept.peer, kept.snonce, fun r0' derived' => ?_, fun named => ?_⟩
    · cases derived.symm.trans derived'
      exact ⟨Prod.ext kept.pmkR0 kept.pmkR0Name, kept.r0Valid.symm⟩
    · rw [unnamed] at named
      cases named
  | named r0 derived named =>
    by_cases bound : s.halBound = true
    · exact Or.inl ⟨bound, named⟩
    right
    have silent : (txInt (ftApDerive env (ftTaken s src f r0)) .ftAuth2
        (ftOfferElems (ftApDerive env (ftTaken s src f r0)))).sent = s.sent :=
      @txInt_unbound (ftApDerive env (ftTaken s src f r0)) bound _ _
    have kept := atomic.unanswered (newSent_same silent)
    have peer : src = s.peer := kept.peer
    have snonce : f.snonce = s.ftSnonce := kept.snonce
    have held : r0 = (s.ftPmkR0, s.ftPmkR0Name) := Prod.ext kept.pmkR0 kept.pmkR0Name
    have r1 : (ftDerivePmkR1 r0.1 r0.2 s.self src).1 = s.ftPmkR1 := kept.pmkR1
    have drawn : (smeGenMaterial env s 32 (s.nonceSalt + 10)).1 = s.ftAnonce := kept.anonce
    have key : ftDerivePtk (ftDerivePmkR1 r0.1 r0.2 s.self src).1 f.snonce
        (smeGenMaterial env s 32 (s.nonceSalt + 10)).1 s.self src = s.ptk := kept.ptk
    rw [r1, drawn, snonce, peer] at key
    rw [held, peer] at r1
    refine ⟨peer, snonce, fun r0' derived' => ?_, fun _ => ⟨r1, drawn, key⟩⟩
    cases derived.symm.trans derived'
    exact ⟨held, kept.r0Valid.symm⟩

/-- With a HAL to answer through, a name that matches is answered. -/
theorem FtAuth1Outcome.answered (outcome : FtAuth1Outcome env s src body f t)
    (bound : s.halBound = true) (named : (ftApAuth1Names s src body).isSome = true) :
    FtAuth1Atomic s src body t := by
  cases outcome with
  | underived no unnamed =>
    rw [unnamed] at named
    cases named
  | mismatch r0 derived unnamed =>
    rw [unnamed] at named
    cases named
  | named r0 derived _ =>
    have answered := @txInt_sent (ftApDerive env (ftTaken s src f r0)) bound .ftAuth2
      (ftOfferElems (ftApDerive env (ftTaken s src f r0)))
    refine ⟨fun silent => ?_, fun unnamed => ?_⟩
    · have answer := @newSent_cons s _ _ answered
      rw [silent] at answer
      cases answer
    · rw [unnamed] at named
      cases named

/-- What brings the held keys leaves them. -/
theorem FtAuth1Outcome.untouched (outcome : FtAuth1Outcome env s src body f t)
    (held : BringsHeld env s src body f) : FtUntouched s t := by
  cases outcome with
  | underived no unnamed => exact ⟨held.peer, held.snonce, rfl, rfl, rfl, rfl, rfl, rfl⟩
  | mismatch r0 derived unnamed =>
    obtain ⟨same, valid⟩ := held.pmkR0 r0 derived
    exact ⟨held.peer, held.snonce, rfl, congrArg Prod.fst same, congrArg Prod.snd same, rfl,
      valid.symm, rfl⟩
  | named r0 derived named =>
    obtain ⟨same, valid⟩ := held.pmkR0 r0 derived
    obtain ⟨r1, drawn, key⟩ := held.keys named
    have pmkR1 : (ftDerivePmkR1 r0.1 r0.2 s.self src).1 = s.ftPmkR1 := by
      rw [same, held.peer]
      exact r1
    refine ⟨held.peer, held.snonce, drawn, congrArg Prod.fst same, congrArg Prod.snd same,
      pmkR1, valid.symm, ?_⟩
    have ptk : ftDerivePtk (ftDerivePmkR1 r0.1 r0.2 s.self src).1 f.snonce
        (smeGenMaterial env s 32 (s.nonceSalt + 10)).1 s.self src = s.ptk := by
      rw [pmkR1, held.snonce, drawn, held.peer]
      exact key
    exact ptk

end Outcome

theorem ftApOnAuth1_atomic_iff (enabled : s.ftEnabled = true) :
    FtAuth1Atomic s src body (ftApOnAuth1 env s src body) ↔ FtAuth1Spared env s src body := by
  cases located : ftLocateFte s body 16 with
  | none =>
    have same : ftApOnAuth1 env s src body = s := by
      unfold ftApOnAuth1
      rw [located]
    rw [same]
    constructor
    · intro _ _ p f found
      cases located.symm.trans found
    · intro _
      exact ⟨fun _ => ⟨rfl, rfl, rfl, rfl, rfl, rfl, rfl, rfl⟩, fun _ => ⟨rfl, rfl⟩⟩
  | some found =>
    obtain ⟨p, f⟩ := found
    have outcome := @ftApOnAuth1_outcome env s src body p f located
    constructor
    · intro atomic _ p' f' located'
      cases located.symm.trans located'
      exact outcome.spared atomic
    · intro spared
      rcases spared enabled p f located with ⟨bound, named⟩ | held
      · exact outcome.answered bound named
      · have kept := outcome.untouched held
        exact ⟨fun _ => kept, fun _ => ⟨kept.peer, kept.ptk⟩⟩

end Handler

section Step

variable {env : Env} {s : Sme} {sib : Siblings} {frame inp : Bytes} {aid : Option UInt16}

theorem FtAuth1Atomic.of_aid {t : Sme} {a : UInt16} {src : MacAddr} {body : Bytes} :
    FtAuth1Atomic { s with aid := a } src body t ↔ FtAuth1Atomic s src body t := by
  constructor
  · intro h
    exact ⟨fun silent => { h.unanswered silent with }, h.usable⟩
  · intro h
    exact ⟨fun silent => { h.unanswered silent with }, h.usable⟩

theorem FtAuth1Spared.of_aid {a : UInt16} {src : MacAddr} {body : Bytes} :
    FtAuth1Spared env { s with aid := a } src body ↔ FtAuth1Spared env s src body := by
  constructor
  · intro h enabled p f located
    exact (h enabled p f located).imp id fun held => { held with }
  · intro h enabled p f located
    exact (h enabled p f located).imp id fun held => { held with }

/-- A fast transition Authentication is atomic exactly when it is answered, is not taken up at
all, or brings nothing but what is held. -/
theorem ftAuth1_atomic_iff (role : s.role = .ap) (reads : rxKind s frame = .handle aid .ftAuth1 inp) :
    FtAuth1Atomic s (frameSrc inp) (frameBody inp) (smeStep env s (.rx sib frame)) ↔
      FtAuth1Spared env s (frameSrc inp) (frameBody inp) := by
  have handled : smeStep env s (.rx sib frame) =
      if s.ftEnabled then
        ftApOnAuth1 env { s with aid := aid.getD s.aid } (frameSrc inp) (frameBody inp)
      else { s with aid := aid.getD s.aid } := ap_handles role reads nofun nofun
  rw [handled]
  by_cases enabled : s.ftEnabled = true
  · rw [if_pos enabled, ← FtAuth1Atomic.of_aid, ← FtAuth1Spared.of_aid]
    exact ftApOnAuth1_atomic_iff (s := { s with aid := aid.getD s.aid }) enabled
  · rw [if_neg enabled]
    constructor
    · intro _ on
      exact absurd on enabled
    · intro _
      exact ⟨fun _ => ⟨rfl, rfl, rfl, rfl, rfl, rfl, rfl, rfl⟩, fun _ => ⟨rfl, rfl⟩⟩

end Step

section Demo

/-- An AP connected to a station, in mobility domain 0x1234. -/
@[irreducible] def demoFtLink : Sme :=
  runOps demoApInit (demoApOps .disabled [] ++ [.set (.ft 0x1234 [0x6e] [0x72])])

def demoRoamerMac : MacAddr := Octets.of 6 [2, 0, 0, 0, 0, 9]

/-- Elements of a mobility domain, with a name of sixteen equal octets. -/
def demoAuth1Body (domain name : UInt8) : Bytes :=
  [54, 3, domain, 0x12, 1] ++ [55, 82] ++ List.replicate 82 0 ++ List.replicate 16 name

def demoAuth1 (domain name : UInt8) : Bytes :=
  smePfx .ftAuth1 demoRoamerMac ++ demoAuth1Body domain name

theorem demoFtLink_reach :
    Reach (smeStep demoEnv) (smeConfigure (smeInit .ap demoApMac demoPmk 7) .plain)
      demoFtLink := by
  unfold demoFtLink
  exact runOps_reach _ _

/-- How the link reads such a frame. -/
def demoAuth1Read (domain name : UInt8) : Option (MacAddr × Bytes) :=
  ((rxKind demoFtLink (demoAuth1 domain name)).body .ftAuth1).map fun inp =>
    (frameSrc inp, frameBody inp)

theorem demoAuth1_handle {domain name : UInt8}
    (reads : demoAuth1Read domain name = some (demoRoamerMac, demoAuth1Body domain name)) :
    ∃ aid inp, rxKind demoFtLink (demoAuth1 domain name) = .handle aid .ftAuth1 inp ∧
      frameSrc inp = demoRoamerMac ∧ frameBody inp = demoAuth1Body domain name := by
  obtain ⟨inp, body, eq⟩ := Option.map_eq_some_iff.1 reads
  obtain ⟨aid, kind⟩ := RxKind.of_body body
  obtain ⟨src, elems⟩ := Prod.mk.inj eq
  exact ⟨aid, inp, kind, src, elems⟩

/-- A frame of another domain changes nothing. -/
theorem ftAuth1_atomic_iff_demo :
    FtAuth1Atomic demoFtLink demoRoamerMac (demoAuth1Body 0x35 0)
      (smeStep demoEnv demoFtLink (.rx noSiblings (demoAuth1 0x35 0))) := by
  have facts : demoFtLink.role = .ap ∧
      demoAuth1Read 0x35 0 = some (demoRoamerMac, demoAuth1Body 0x35 0) ∧
      (ftLocateFte demoFtLink (demoAuth1Body 0x35 0) 16).isNone = true := by
    decide +kernel
  obtain ⟨role, reads, foreign⟩ := facts
  obtain ⟨aid, inp, kind, src, body⟩ := demoAuth1_handle reads
  have atomic : FtAuth1Atomic demoFtLink (frameSrc inp) (frameBody inp)
      (smeStep demoEnv demoFtLink (.rx noSiblings (demoAuth1 0x35 0))) := by
    refine (ftAuth1_atomic_iff role kind).2 fun _ p f located => ?_
    rw [body] at located
    rw [located] at foreign
    cases foreign
  rw [src, body] at atomic
  exact atomic

/-- Of two names at least one does not match, and the station that gave it becomes the peer of
a live link. -/
theorem ftAuth1_takes_over :
    ¬∀ s frame aid inp,
      Reach (smeStep demoEnv) (smeConfigure (smeInit .ap demoApMac demoPmk 7) .plain) s →
      s.state = .connected → rxKind s frame = .handle aid .ftAuth1 inp →
      ftApAuth1Names s (frameSrc inp) (frameBody inp) = none →
      (smeStep demoEnv s (.rx noSiblings frame)).peer = s.peer ∧
        (smeStep demoEnv s (.rx noSiblings frame)).ptk = s.ptk := by
  intro all
  have facts : demoFtLink.role = .ap ∧ demoFtLink.state = .connected ∧
      demoFtLink.ftEnabled = true ∧ demoFtLink.peer = demoStaMac ∧
      (demoAuth1Read 0x34 0 = some (demoRoamerMac, demoAuth1Body 0x34 0) ∧
        demoAuth1Read 0x34 1 = some (demoRoamerMac, demoAuth1Body 0x34 1)) ∧
      (ftLocateFte demoFtLink (demoAuth1Body 0x34 0) 16).map
        (fun x => slice x.1.trailing 0 16) = some (List.replicate 16 0) ∧
      (ftLocateFte demoFtLink (demoAuth1Body 0x34 1) 16).map
        (fun x => slice x.1.trailing 0 16) = some (List.replicate 16 1) := by
    decide +kernel
  obtain ⟨role, up, enabled, peer, ⟨reads₀, reads₁⟩, trails₀, trails₁⟩ := facts
  have taken (name : UInt8)
      (reads : demoAuth1Read 0x34 name = some (demoRoamerMac, demoAuth1Body 0x34 name))
      (located : (ftLocateFte demoFtLink (demoAuth1Body 0x34 name) 16).isSome = true)
      (unnamed : ftApAuth1Names demoFtLink demoRoamerMac (demoAuth1Body 0x34 name) = none) :
      False := by
    obtain ⟨aid, inp, kind, src, body⟩ := demoAuth1_handle reads
    obtain ⟨⟨p, f⟩, located⟩ := Option.isSome_iff_exists.1 located
    have kept := (all _ _ _ _ demoFtLink_reach up kind (by rw [src, body]; exact unnamed)).1
    have handled : smeStep demoEnv demoFtLink (.rx noSiblings (demoAuth1 0x34 name)) =
        if demoFtLink.ftEnabled then ftApOnAuth1 demoEnv
          { demoFtLink with aid := aid.getD demoFtLink.aid } (frameSrc inp) (frameBody inp)
        else { demoFtLink with aid := aid.getD demoFtLink.aid } :=
      ap_handles role kind nofun nofun
    rw [handled, if_pos enabled, src, body] at kept
    have moved := @ftApOnAuth1_peer demoEnv { demoFtLink with aid := aid.getD demoFtLink.aid }
      demoRoamerMac (demoAuth1Body 0x34 name) p f located
    rw [moved, peer] at kept
    exact absurd kept (by decide)
  obtain ⟨⟨p₀, f₀⟩, located₀, trails₀⟩ := Option.map_eq_some_iff.1 trails₀
  obtain ⟨⟨p₁, f₁⟩, located₁, trails₁⟩ := Option.map_eq_some_iff.1 trails₁
  cases named₀ : ftApAuth1Names demoFtLink demoRoamerMac (demoAuth1Body 0x34 0) with
  | none => exact taken 0 reads₀ (by rw [located₀]; rfl) named₀
  | some _ =>
    refine taken 1 reads₁ (by rw [located₁]; rfl) ?_
    by_contra named₁
    obtain ⟨r0, derived, name⟩ := @ftApAuth1Names_some demoFtLink demoRoamerMac _
      (by rw [named₀]; rfl) p₀ f₀ located₀
    obtain ⟨r0', derived', name'⟩ := @ftApAuth1Names_some demoFtLink demoRoamerMac _
      (Option.isSome_iff_ne_none.2 named₁) p₁ f₁ located₁
    cases derived.symm.trans derived'
    have both := name.symm.trans name'
    rw [trails₀, trails₁] at both
    exact absurd both (by decide)

end Demo

end Rf2a4m1
