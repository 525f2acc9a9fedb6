import Rf2a4m1.Sme.DataPath
import Rf2a4m1.Sme.Demo
import Rf2a4m1.Sme.EapolFrames
import Rf2a4m1.Sme.Stash

/-!
# Handshake messages that are refused

What a third message that does not connect the station, and a second message
that the AP refuses, leave of the state they were received in.
-/

set_option autoImplicit false

namespace Rf2a4m1

open ByteString Runs

section ThirdMessage

/-- Keys, counters, policy and state of a station, and the frames it handed to the HAL. -/
structure M3Atomic (s t : Sme) : Prop where
  gtk : t.gtk = s.gtk
  igtk : t.igtk = s.igtk
  bigtk : t.bigtk = s.bigtk
  tdBitmap : t.tdBitmap = s.tdBitmap
  tdReceived : t.tdReceived = s.tdReceived
  replay : t.replay = s.replay
  ptk : t.ptk = s.ptk
  installedTk : t.installedTk = s.installedTk
  dataTxPn : t.dataTxPn = s.dataTxPn
  dataRxReplay : t.dataRxReplay = s.dataRxReplay
  ptkInstalled : t.ptkInstalled = s.ptkInstalled
  gtkInstalled : t.gtkInstalled = s.gtkInstalled
  state : t.state = s.state
  connected : t.connected = s.connected
  silent : newSent s t = []

/-- The key data names no management group key, beacon key or disabled mode but those held. -/
structure NamesHeld (s : Sme) (kde : Bytes) : Prop where
  igtk : ∀ igtk kid ipn, igtkKdeFind kde = some (igtk, kid, ipn) →
    pmfIgtkInstall igtk kid ipn = s.igtk
  bigtk : s.beaconProtEnabled = true → ∀ bigtk kid ipn,
    pmfBigtkKdeFind kde = some (bigtk, kid, ipn) → pmfIgtkInstall bigtk kid ipn = s.bigtk
  disabled : ∀ bitmap, pmfTdKdeFind kde = some bitmap → s.tdBitmap = bitmap ∧ s.tdReceived = true

section Step

variable {env : Env} {s : Sme}

theorem pmfKeyOr_held {held : PmfIgtk} {found : Option (Octets 16 × UInt16 × Nat)} :
    pmfKeyOr held found = held ↔
      ∀ key kid ipn, found = some (key, kid, ipn) → pmfIgtkInstall key kid ipn = held := by
  constructor
  · rintro same key kid ipn rfl
    exact same
  · intro named
    cases found with
    | none => rfl
    | some key => exact named _ _ _ rfl

/-- What is taken over before the operating channel decides. -/
theorem staM3Mfp_atomic_iff (kde : Bytes) (rx : Nat) :
    M3Atomic s (staM3Mfp { s with eapolM3Rx := rx } kde) ↔ NamesHeld s kde := by
  obtain ⟨fails, eq⟩ := staM3Mfp_eq { s with eapolM3Rx := rx } kde
  rw [eq]
  constructor
  · intro atomic
    constructor
    · exact pmfKeyOr_held.1 atomic.igtk
    · intro on bigtk kid ipn found
      have same := pmfKeyOr_held.1 atomic.bigtk
      exact same bigtk kid ipn ((if_pos on).trans found)
    · intro bitmap found
      have value : (pmfTdKdeFind kde).getD s.tdBitmap = s.tdBitmap := atomic.tdBitmap
      have known : ((pmfTdKdeFind kde).isSome || s.tdReceived) = s.tdReceived := atomic.tdReceived
      rw [found] at value known
      exact ⟨value.symm, by simpa using known.symm⟩
  · intro held
    have bigtk : pmfKeyOr s.bigtk (if s.beaconProtEnabled then pmfBigtkKdeFind kde else none) =
        s.bigtk := by
      apply pmfKeyOr_held.2
      intro key kid ipn found
      split at found
      · exact held.bigtk ‹_› key kid ipn found
      · cases found
    have disabled : (pmfTdKdeFind kde).getD s.tdBitmap = s.tdBitmap ∧
        ((pmfTdKdeFind kde).isSome || s.tdReceived) = s.tdReceived := by
      cases found : pmfTdKdeFind kde with
      | none => exact ⟨rfl, rfl⟩
      | some bitmap =>
        obtain ⟨value, known⟩ := held.disabled bitmap found
        exact ⟨value.symm, by rw [known]; rfl⟩
    exact ⟨rfl, pmfKeyOr_held.2 held.igtk, bigtk, disabled.1, disabled.2, rfl, rfl, rfl, rfl, rfl,
      rfl, rfl, rfl, rfl, newSent_same rfl⟩

theorem staAcceptM3_connected (replay : Nat) (gtk : Octets 16) :
    (staAcceptM3 env s replay gtk).state = .connected := by
  obtain ⟨valid, up⟩ := staAcceptM3_core env s replay gtk
  exact congrArg (fun c : SmeCore => c.state) up

/-- A third message changes nothing, connects, or is refused with its keys taken over. -/
theorem staOnM3_atomic (pdu : Bytes) :
    staTakesM3 env s pdu = none ∧ M3Atomic s (staOnM3 env s pdu) ∨
      (staOnM3 env s pdu).state = .connected ∨
      ∃ replay gtk kde, staTakesM3 env s pdu = some (replay, gtk, kde) ∧
        staOnM3 env s pdu = staM3Mfp { s with eapolM3Rx := s.eapolM3Rx + 1 } kde := by
  have same : M3Atomic s s := ⟨rfl, rfl, rfl, rfl, rfl, rfl, rfl, rfl, rfl, rfl, rfl, rfl, rfl, rfl,
    newSent_same rfl⟩
  unfold staOnM3 staTakesM3 staReadsM3
  by_cases during : s.state = .fourWay
  · rw [if_neg (not_not.2 during), if_pos during]
    cases smeEapolKeyDecode pdu with
    | none => exact Or.inl ⟨rfl, same⟩
    | some k =>
      dsimp only
      by_cases stale : k.replay ≤ s.replay
      · rw [if_pos stale]
        exact Or.inl ⟨by simp [Nat.not_lt.2 stale], same⟩
      rw [if_neg stale]
      have fresh : s.replay < k.replay := Nat.lt_of_not_le stale
      cases mic : eapolMicOk env s pdu with
      | false =>
        refine Or.inl ⟨by simp, ?_⟩
        exact { same with }
      | true =>
        have read : (some k).filter (fun k => decide (s.replay < k.replay) && true) = some k := by
          simp [fresh]
        rw [if_neg (by decide), read, Option.bind_some]
        by_cases unwrapped : m3Kde env s k = []
        · refine Or.inl ⟨?_, ?_⟩
          · rw [unwrapped]
            rfl
          · have bad : env.keyUnwrap smeKdeMax (kek s.ptk) k.keyData = [] := unwrapped
            rw [if_pos bad]
            exact { same with }
        have good : ¬env.keyUnwrap smeKdeMax (kek s.ptk) k.keyData = [] := unwrapped
        rw [if_neg good]
        unfold staM3Keys
        have here : env.keyUnwrap smeKdeMax (kek s.ptk) k.keyData = m3Kde env s k := rfl
        rw [here]
        cases group : gtkKdeFind (m3Kde env s k) with
        | none => exact Or.inl ⟨rfl, { same with }⟩
        | some gtk =>
          right
          dsimp only
          by_cases active : s.mfpActive = true
          · rw [if_neg (by simp [active]), staM3Mfp_ocv]
            split
            · exact Or.inr ⟨k.replay, gtk, _, rfl, rfl⟩
            · exact Or.inl (staAcceptM3_connected _ _)
          · rw [if_pos (by simpa using active)]
            exact Or.inl (staAcceptM3_connected _ _)
  · rw [if_pos during, if_neg during]
    exact Or.inl ⟨rfl, same⟩

theorem M3Atomic.of_aid {t : Sme} {a : UInt16} :
    M3Atomic { s with aid := a } t ↔ M3Atomic s t := by
  constructor
  · intro h
    exact { h with }
  · intro h
    exact { h with }

/-- A third message that does not connect the station leaves everything as it was exactly when it
gets no further than the group key, or names only keys and modes that are held. -/
theorem rejectedM3_iff {sib : Siblings} {frame inp : Bytes} {aid : Option UInt16}
    (role : s.role = .sta) (reads : rxKind s frame = .handle aid .m3 inp)
    (rejected : (smeStep env s (.rx sib frame)).state ≠ .connected) :
    M3Atomic s (smeStep env s (.rx sib frame)) ↔
      ∀ replay gtk kde, staTakesM3 env s (frameBody inp) = some (replay, gtk, kde) →
        NamesHeld s kde := by
  have handled : smeStep env s (.rx sib frame) =
      staOnM3 env { s with aid := aid.getD s.aid } (frameBody inp) := sta_handles role reads nofun
  rw [handled] at rejected ⊢
  have takes : staTakesM3 env { s with aid := aid.getD s.aid } (frameBody inp) =
      staTakesM3 env s (frameBody inp) := rfl
  rcases @staOnM3_atomic env { s with aid := aid.getD s.aid } (frameBody inp) with
    ⟨none, atomic⟩ | connects | ⟨replay, gtk, kde, some, eq⟩
  · rw [takes] at none
    constructor
    · intro _ replay gtk kde taken
      cases none.symm.trans taken
    · intro _
      exact M3Atomic.of_aid.1 atomic
  · exact absurd connects rejected
  · rw [takes] at some
    rw [eq, ← M3Atomic.of_aid, staM3Mfp_atomic_iff]
    constructor
    · intro held replay' gtk' kde' taken
      cases some.symm.trans taken
      exact { held with }
    · intro held
      exact { held _ _ _ some with }

end Step

section Demo

/-- A station that validates its channel, in the handshake with an AP that does not. -/
@[irreducible] def demoOcvSta : Sme :=
  runOps demoStaInit (.set (.ocv true { opClass := 81, primChan := 6, seg1Freq := 0 }) ::
    demoStaStart .optional demoRsne ++ [demoM1 .optional demoRsne])

/-- The third message of that AP, which names no channel. -/
@[irreducible] def demoOcvM3 : Bytes :=
  lastSent (runOps demoApInit (demoApStart .optional demoRsne ++ [rxSent demoOcvSta]))

theorem demoOcvSta_reach :
    Reach (smeStep demoEnv) (smeConfigure (smeInit .sta demoStaMac demoPmk 9) .plain)
      demoOcvSta := by
  unfold demoOcvSta
  exact runOps_reach _ _

/-- With its last octet changed the MIC does not verify, and nothing changes. -/
theorem rejectedM3_iff_demo :
    M3Atomic demoOcvSta
      (smeStep demoEnv demoOcvSta (.rx noSiblings (demoOcvM3.modify 135 (· + 1)))) := by
  have facts : demoOcvSta.role = .sta ∧
      ((rxKind demoOcvSta (demoOcvM3.modify 135 (· + 1))).body .m3).map
        (fun inp => (staTakesM3 demoEnv demoOcvSta (frameBody inp)).isNone) = some true ∧
      (smeStep demoEnv demoOcvSta (.rx noSiblings (demoOcvM3.modify 135 (· + 1)))).state ≠
        .connected := by
    decide +kernel
  obtain ⟨role, reads, rejected⟩ := facts
  obtain ⟨inp, body, none⟩ := Option.map_eq_some_iff.1 reads
  obtain ⟨aid, kind⟩ := RxKind.of_body body
  refine (rejectedM3_iff role kind rejected).2 fun replay gtk kde taken => ?_
  rw [taken] at none
  cases none

/-- The message as it was sent is refused for its channel with its group key taken over. -/
theorem rejectedM3_rekeys :
    ¬∀ s frame aid inp,
      Reach (smeStep demoEnv) (smeConfigure (smeInit .sta demoStaMac demoPmk 9) .plain) s →
      s.state = .fourWay → rxKind s frame = .handle aid .m3 inp →
      (smeStep demoEnv s (.rx noSiblings frame)).state ≠ .connected →
      M3Atomic s (smeStep demoEnv s (.rx noSiblings frame)) := by
  intro all
  have facts : demoOcvSta.state = .fourWay ∧
      ((rxKind demoOcvSta demoOcvM3).body .m3).isSome = true ∧
      (smeStep demoEnv demoOcvSta (.rx noSiblings demoOcvM3)).state ≠ .connected ∧
      (smeStep demoEnv demoOcvSta (.rx noSiblings demoOcvM3)).igtk ≠ demoOcvSta.igtk := by
    decide +kernel
  obtain ⟨during, reads, rejected, rekeyed⟩ := facts
  obtain ⟨inp, body⟩ := Option.isSome_iff_exists.1 reads
  obtain ⟨aid, kind⟩ := RxKind.of_body body
  exact rekeyed (all _ _ _ _ demoOcvSta_reach during kind rejected).igtk

end Demo

end ThirdMessage

section SecondMessage

/-- Nonce, keys, counter and state of an AP in the handshake, and what it makes of a fourth
message. -/
structure M2Harmless (env : Env) (s t : Sme) : Prop where
  ptk : t.ptk = s.ptk
  snonce : t.snonce = s.snonce
  gtk : t.gtk = s.gtk
  replay : t.replay = s.replay
  state : t.state = s.state
  fourth : ∀ pdu, apAcceptsM4 env t pdu = apAcceptsM4 env s pdu

section Step

variable {env : Env} {s : Sme} {sib : Siblings} {frame inp pdu : Bytes} {aid : Option UInt16}

/-- Refused, a second message that was read leaves its nonce and the key derived from it. -/
theorem apOnM2_refused (refused : apAcceptsM2 env s pdu = false) :
    apReadsM2 s pdu = none ∧ apOnM2 env s pdu = s ∨
      ∃ k mics ocvs, apReadsM2 s pdu = some k ∧
        apOnM2 env s pdu = { withSnonce env s k with badMic := mics, ocvFail := ocvs } := by
  rw [apOnM2_eq]
  unfold apAcceptsM2 at refused
  cases reads : apReadsM2 s pdu with
  | none => exact Or.inl ⟨rfl, rfl⟩
  | some k =>
    right
    rw [reads] at refused
    dsimp only at refused ⊢
    cases mic : eapolMicOk env (withSnonce env s k) pdu with
    | false => exact ⟨k, _, _, rfl, rfl⟩
    | true =>
      rw [mic, Bool.true_and, Bool.not_eq_false'] at refused
      rw [refused]
      exact ⟨k, _, _, rfl, rfl⟩

/-- Whether a second message is accepted depends on neither the nonce nor the key held. -/
theorem apAcceptsM2_withSnonce (k : EapolKey) (mics ocvs : Nat) (pdu : Bytes) :
    apAcceptsM2 env { withSnonce env s k with badMic := mics, ocvFail := ocvs } pdu =
      apAcceptsM2 env s pdu := rfl

/-- The fourth message is checked with the key held. -/
theorem apAcceptsM4_withSnonce {k : EapolKey} {mics ocvs : Nat}
    (key : (withSnonce env s k).ptk = s.ptk) (pdu : Bytes) :
    apAcceptsM4 env { withSnonce env s k with badMic := mics, ocvFail := ocvs } pdu =
      apAcceptsM4 env s pdu := by
  have mic : eapolComputeMic env { withSnonce env s k with badMic := mics, ocvFail := ocvs } =
      eapolComputeMic env s := by
    unfold eapolComputeMic
    dsimp only
    rw [key]
    rfl
  unfold apAcceptsM4 eapolMicOk
  rw [mic]
  rfl

/-- A refused second message changes nothing but the nonce, the key and two counts. -/
theorem refusedM2_cases (role : s.role = .ap) (reads : rxKind s frame = .handle aid .m2 inp)
    (refused : apAcceptsM2 env s (frameBody inp) = false) :
    apReadsM2 s (frameBody inp) = none ∧
        smeStep env s (.rx sib frame) = { s with aid := aid.getD s.aid } ∨
      ∃ k mics ocvs, apReadsM2 s (frameBody inp) = some k ∧
        smeStep env s (.rx sib frame) =
          { withSnonce env { s with aid := aid.getD s.aid } k with badMic := mics
                                                                   ocvFail := ocvs } := by
  have handled : smeStep env s (.rx sib frame) =
      apOnM2 env { s with aid := aid.getD s.aid } (frameBody inp) := ap_handles role reads nofun nofun
  rw [handled]
  exact @apOnM2_refused env { s with aid := aid.getD s.aid } (frameBody inp) refused

theorem refusedM2_later (role : s.role = .ap) (reads : rxKind s frame = .handle aid .m2 inp)
    (refused : apAcceptsM2 env s (frameBody inp) = false) (pdu : Bytes) :
    apAcceptsM2 env (smeStep env s (.rx sib frame)) pdu = apAcceptsM2 env s pdu := by
  rcases refusedM2_cases role reads refused with ⟨_, same⟩ | ⟨k, mics, ocvs, _, eq⟩
  · rw [same]
    rfl
  · rw [eq]
    exact apAcceptsM2_withSnonce k mics ocvs pdu

/-- However many second messages are refused before it, a genuine one is accepted. -/
theorem refusedM2_run {t : Sme} (role : s.role = .ap)
    (run : Run (smeStep env) (fun u op => ∃ sib frame aid inp, op = .rx sib frame ∧
      rxKind u frame = .handle aid .m2 inp ∧ apAcceptsM2 env u (frameBody inp) = false) s t)
    (pdu : Bytes) : apAcceptsM2 env t pdu = apAcceptsM2 env s pdu := by
  refine (run.invariant (fun u => u.role = .ap ∧ apAcceptsM2 env u pdu = apAcceptsM2 env s pdu)
    ⟨role, rfl⟩ ?_).2
  rintro u op ⟨role, same⟩ ⟨sib, frame, aid, inp, rfl, reads, refused⟩
  refine ⟨(smeStep_role _).trans role, ?_⟩
  exact (refusedM2_later role reads refused pdu).trans same

/-- A refused second message leaves the handshake as it was exactly when it is not read, or brings
the nonce that the key held was derived from. A later second message is accepted as before. -/
theorem refusedM2_iff (role : s.role = .ap) (reads : rxKind s frame = .handle aid .m2 inp)
    (refused : apAcceptsM2 env s (frameBody inp) = false) :
    (M2Harmless env s (smeStep env s (.rx sib frame)) ↔
        ∀ k, apReadsM2 s (frameBody inp) = some k → k.nonce = s.snonce ∧ smePtk env s = s.ptk) ∧
      ∀ pdu, apAcceptsM2 env (smeStep env s (.rx sib frame)) pdu = apAcceptsM2 env s pdu := by
  refine ⟨?_, refusedM2_later role reads refused⟩
  rcases refusedM2_cases role reads refused with ⟨unread, same⟩ | ⟨k, mics, ocvs, read, eq⟩
  · rw [same]
    constructor
    · intro _ k read
      cases unread.symm.trans read
    · intro _
      exact ⟨rfl, rfl, rfl, rfl, rfl, fun _ => rfl⟩
  · rw [eq]
    have derived : (withSnonce env { s with aid := aid.getD s.aid } k).ptk =
        smePtk env { s with snonce := k.nonce } := rfl
    constructor
    · intro harmless k' read'
      cases read.symm.trans read'
      have nonce : k.nonce = s.snonce := harmless.snonce
      refine ⟨nonce, ?_⟩
      have key := derived.symm.trans harmless.ptk
      rw [nonce] at key
      exact key
    · intro held
      obtain ⟨nonce, key⟩ := held k read
      rw [nonce] at derived
      have key : (withSnonce env { s with aid := aid.getD s.aid } k).ptk = s.ptk :=
        derived.trans key
      exact ⟨key, nonce, rfl, rfl, rfl, fun pdu => apAcceptsM4_withSnonce key pdu⟩

end Step

section Demo

/-- An AP that sent its third message. -/
@[irreducible] def demoApSentM3 : Sme :=
  runOps demoApInit (demoApStart .optional demoRsne ++ [demoM2 .optional demoRsne])

/-- The fourth message of the station, without the header of its frame. -/
@[irreducible] def demoM4Pdu : Bytes :=
  (lastSent (runOps demoStaInit (demoStaOps .optional demoRsne))).drop 32

def demoForgedNonce : Octets 32 := Octets.of 32 (be 32 1)

/-- A second message in an 802.11 frame from the station's address. -/
def demoForgedM2 (replay : Nat) (nonce : Octets 32) : Bytes :=
  eapolFrame { demoStaInit with peer := demoApMac } 0
    (eapolPdu 0x010a 0 replay nonce [] (Octets.zero 16))

/-- With a counter that is not in force the message is not even read. -/
theorem refusedM2_iff_demo :
    M2Harmless demoEnv demoApSentM3
        (smeStep demoEnv demoApSentM3 (.rx noSiblings (demoForgedM2 9 demoForgedNonce))) ∧
      ∀ pdu, apAcceptsM2 demoEnv
        (smeStep demoEnv demoApSentM3 (.rx noSiblings (demoForgedM2 9 demoForgedNonce))) pdu =
          apAcceptsM2 demoEnv demoApSentM3 pdu := by
  have facts : demoApSentM3.role = .ap ∧
      ((rxKind demoApSentM3 (demoForgedM2 9 demoForgedNonce)).body .m2).map
        (fun inp => (apReadsM2 demoApSentM3 (frameBody inp)).isNone) = some true := by
    decide +kernel
  obtain ⟨role, reads⟩ := facts
  obtain ⟨inp, body, unread⟩ := Option.map_eq_some_iff.1 reads
  obtain ⟨aid, kind⟩ := RxKind.of_body body
  have unread : apReadsM2 demoApSentM3 (frameBody inp) = none := Option.isNone_iff_eq_none.1 unread
  have refused : apAcceptsM2 demoEnv demoApSentM3 (frameBody inp) = false := by
    unfold apAcceptsM2
    rw [unread]
  obtain ⟨harmless, later⟩ := @refusedM2_iff demoEnv demoApSentM3 noSiblings _ inp aid role kind
    refused
  refine ⟨harmless.2 fun k read => ?_, later⟩
  cases unread.symm.trans read

/-- With the counter of the third message it replaces the key, and the genuine fourth message
is refused. -/
theorem refusedM2_rekeys :
    ¬∀ s frame aid inp,
      Reach (smeStep demoEnv) (smeConfigure (smeInit .ap demoApMac demoPmk 7) .plain) s →
      s.state = .fourWay → rxKind s frame = .handle aid .m2 inp →
      apAcceptsM2 demoEnv s (frameBody inp) = false →
      M2Harmless demoEnv s (smeStep demoEnv s (.rx noSiblings frame)) := by
  intro all
  have reach : Reach (smeStep demoEnv) (smeConfigure (smeInit .ap demoApMac demoPmk 7) .plain)
      demoApSentM3 := by
    unfold demoApSentM3
    exact runOps_reach _ _
  have facts : demoApSentM3.state = .fourWay ∧
      ((rxKind demoApSentM3 (demoForgedM2 2 demoForgedNonce)).body .m2).map
        (fun inp => apAcceptsM2 demoEnv demoApSentM3 (frameBody inp)) = some false ∧
      apAcceptsM4 demoEnv demoApSentM3 demoM4Pdu = true ∧ apAcceptsM4 demoEnv
        (smeStep demoEnv demoApSentM3 (.rx noSiblings (demoForgedM2 2 demoForgedNonce)))
          demoM4Pdu = false := by
    decide +kernel
  obtain ⟨during, reads, before, after⟩ := facts
  obtain ⟨inp, body, refused⟩ := Option.map_eq_some_iff.1 reads
  obtain ⟨aid, kind⟩ := RxKind.of_body body
  have fourth := (all _ _ _ _ reach during kind refused).fourth demoM4Pdu
  rw [before, after] at fourth
  cases fourth

end Demo

end SecondMessage

end Rf2a4m1
