import Rf2a4m1.Sme.Demo
import Rf2a4m1.Sme.Dispatch

/-!
# Action frames under management frame protection

An Action frame is decrypted, dropped or taken as it stands. With a pairwise
key only decrypted bodies should get through; a frame that claims to be
protected but is too short to be decrypted is taken as it stands.
-/

set_option autoImplicit false

namespace Rf2a4m1

open ByteString Runs

/-- Type and body that an Action frame hands to the demultiplexer. -/
def actionPassed (s : Sme) (frame : Bytes) (h : MgmtHdr) : Option (FrameType × Bytes) :=
  if s.state = .failed ∨ frame.length > 0xffff then none
  else
    match actionVerdict s frame h with
    | .badMic | .dropUnprotected => none
    | .accept body =>
      if smePfxLen + body.length > smeRxViewMax then none
      else (actionType body).map fun type => (type, body)

/-- The frame, with or without a trailing frame check sequence, decrypts to the body. -/
def Decrypts (s : Sme) (frame body : Bytes) : Prop :=
  ∃ pn, ccmpDecrypt frame 24 (tk s.ptk) 128 = some (body, pn) ∨
    ccmpDecrypt (frame.take (frame.length - 4)) 24 (tk s.ptk) 128 = some (body, pn)

/-- What the frame hands on is what a protected frame decrypts to; otherwise only drops are counted. -/
structure ActionGuarded (env : Env) (sib : Siblings) (s : Sme) (frame : Bytes) (h : MgmtHdr) :
    Prop where
  authentic : ∀ type body, actionPassed s frame h = some (type, body) →
    protectedBit frame = true ∧ Decrypts s frame body
  handed : ∀ type body, actionPassed s frame h = some (type, body) →
    smeRx env sib s frame = smeDemux env sib s type (smePfx type h.addr2 ++ body)
  dropped : actionPassed s frame h = none → ∃ badMic unprotected,
    smeRx env sib s frame =
      ({ s with mgmtProtBadmic := badMic, mgmtUnprotDropped := unprotected }, sib)

/-- A frame with the Protected bit, too short for a CCMP header and MIC around a body. -/
def ShortProtected (s : Sme) (frame : Bytes) (h : MgmtHdr) : Prop :=
  s.state ≠ .failed ∧ protectedBit frame = true ∧ frame.length ≤ 40 ∧
    (actionType h.body).isSome = true

section Receive

variable {env : Env} {sib : Siblings} {s : Sme} {frame : Bytes} {h : MgmtHdr}

/-- `actionPassed` is what reception does with an Action frame. -/
theorem smeRx_action (parsed : mgmtParseHdr frame = some h)
    (action : h.subtype = 13 ∨ h.subtype = 14) :
    (∀ type body, actionPassed s frame h = some (type, body) →
      smeRx env sib s frame = smeDemux env sib s type (smePfx type h.addr2 ++ body)) ∧
    (actionPassed s frame h = none → ∃ badMic unprotected, smeRx env sib s frame =
      ({ s with mgmtProtBadmic := badMic, mgmtUnprotDropped := unprotected }, sib)) := by
  rw [smeRx_eq]
  by_cases out : s.state = .failed ∨ frame.length > 0xffff
  · have none : actionPassed s frame h = none := if_pos out
    rw [rxKind_mgmt_ignored parsed out, none]
    exact ⟨fun _ _ passed => (nomatch passed), fun _ => ⟨_, _, rfl⟩⟩
  have other : ¬(h.subtype = 12 ∨ h.subtype = 10) := by
    rcases action with eq | eq <;> rw [eq] <;> decide
  have kind : rxKind s frame = actionKind s frame h := by
    rw [not_or, Nat.not_lt] at out
    rw [rxKind_mgmt parsed out.1 out.2]
    unfold mgmtKind
    rw [if_neg other, if_pos action]
  rw [kind, actionKind_act]
  unfold actionPassed rxAction
  rw [if_neg out]
  cases actionVerdict s frame h with
  | badMic => exact ⟨fun _ _ passed => (nomatch passed), fun _ => ⟨_, _, rfl⟩⟩
  | dropUnprotected => exact ⟨fun _ _ passed => (nomatch passed), fun _ => ⟨_, _, rfl⟩⟩
  | accept body =>
    dsimp only
    unfold demuxView
    cases actionType body with
    | none =>
      rw [Option.map_none, ite_self]
      exact ⟨fun _ _ passed => (nomatch passed), fun _ => ⟨_, _, rfl⟩⟩
    | some type =>
      dsimp only
      split
      · exact ⟨fun _ _ passed => (nomatch passed), fun _ => ⟨_, _, rfl⟩⟩
      · refine ⟨fun _ _ passed => ?_, fun passed => (nomatch passed)⟩
        cases passed
        rfl

end Receive

section Guard

variable {s : Sme} {frame : Bytes} {h : MgmtHdr}

theorem decrypts_of_actionDecrypt {body : Bytes} (plain : actionDecrypt s frame = some body) :
    Decrypts s frame body := by
  unfold actionDecrypt at plain
  cases whole : ccmpDecrypt frame 24 (tk s.ptk) 128 with
  | some p =>
    rw [whole] at plain
    cases plain
    exact ⟨p.2, Or.inl whole⟩
  | none =>
    rw [whole] at plain
    dsimp only at plain
    split at plain
    · obtain ⟨p, cut, rfl⟩ := Option.map_eq_some_iff.1 plain
      exact ⟨p.2, Or.inr cut⟩
    · cases plain

/-- What decrypts at all has room for a CCMP header and a MIC; the rest is the body. -/
theorem ccmpDecrypt_short {inp body : Bytes} {key : Octets 16} {pn : Nat}
    (short : inp.length ≤ 40) (plain : ccmpDecrypt inp 24 key 128 = some (body, pn)) :
    body = [] := by
  unfold ccmpDecrypt at plain
  split at plain
  · cases plain
  rename_i long
  split at plain
  · cases plain
  dsimp only at plain
  split at plain
  · cases plain
  split at plain
  · have empty : slice inp (24 + 8) (inp.length - 24 - 8 - 8) = [] := by
      have none : inp.length - 24 - 8 - 8 = 0 := by omega
      rw [none]
      exact List.take_zero
    rw [empty] at plain
    cases plain
    rfl
  · cases plain

theorem decrypts_short {body : Bytes} (short : frame.length ≤ 40) (plain : Decrypts s frame body) :
    body = [] := by
  obtain ⟨pn, whole | cut⟩ := plain
  · exact ccmpDecrypt_short short whole
  · refine ccmpDecrypt_short ?_ cut
    rw [List.length_take]
    omega

/-- A body that stands for a frame type is robust. -/
theorem actionType_robust {body : Bytes} {fc : UInt16} (management : fcType fc = 0)
    (action : fcSubtype fc = 13 ∨ fcSubtype fc = 14) (type : (actionType body).isSome = true) :
    2 ≤ body.length ∧ pmfIsRobustMgmt fc body = true := by
  have other : ¬(fcSubtype fc = 12 ∨ fcSubtype fc = 10) := by
    rcases action with eq | eq <;> rw [eq] <;> decide
  unfold actionType at type
  split at type
  · cases type
  rename_i long
  have robust (category : pmfActionIsRobust (byteAt body 0) = true) :
      pmfIsRobustMgmt fc body = true := by
    unfold pmfIsRobustMgmt
    rw [if_neg (not_not.2 management), if_neg other, if_pos action, category]
    simp only [Bool.and_true, decide_eq_true_eq]
    omega
  refine ⟨Nat.le_of_not_lt long, robust ?_⟩
  split at type
  · rename_i blockAck
    rw [blockAck]
    decide
  split at type
  · rename_i saQuery
    rw [saQuery]
    decide
  · cases type

/-- A cleartext body is only accepted from a short frame with the Protected bit. -/
theorem actionVerdict_cases (active : s.mfpActive = true) (installed : s.ptkInstalled = true) :
    (∃ body, actionVerdict s frame h = .accept body ∧ protectedBit frame = true ∧
        Decrypts s frame body) ∨
      actionVerdict s frame h = .badMic ∨ actionVerdict s frame h = .dropUnprotected ∨
      actionVerdict s frame h = .accept h.body ∧
        (protectedBit frame = true ∧ frame.length ≤ 40 ∨
          ¬(2 ≤ h.body.length ∧ pmfIsRobustMgmt h.fc h.body = true)) := by
  unfold actionVerdict
  rw [active, installed]
  by_cases bit : protectedBit frame = true
  · by_cases long : frame.length > 40
    · rw [if_pos (by simp [bit, long])]
      cases plain : actionDecrypt s frame with
      | none => exact Or.inr (Or.inl rfl)
      | some body => exact Or.inl ⟨body, rfl, bit, decrypts_of_actionDecrypt plain⟩
    · rw [if_neg (by simp [long]), if_neg (by simp [bit])]
      exact Or.inr (Or.inr (Or.inr ⟨rfl, Or.inl ⟨bit, Nat.le_of_not_lt long⟩⟩))
  · rw [if_neg (by simp [bit])]
    by_cases robust : 2 ≤ h.body.length ∧ pmfIsRobustMgmt h.fc h.body = true
    · rw [if_pos (by simp [bit, robust.1, robust.2]),
        if_pos (by simp [pmfRxUnprotectedOk, robust.2])]
      exact Or.inr (Or.inr (Or.inl rfl))
    · rw [if_neg (by simpa [bit] using robust)]
      exact Or.inr (Or.inr (Or.inr ⟨rfl, Or.inr robust⟩))

end Guard

section Claim

variable {env : Env} {sib : Siblings} {s : Sme} {frame : Bytes} {h : MgmtHdr}

/-- A short frame with the Protected bit hands its body on although nothing decrypts to it. -/
theorem ShortProtected.not_guarded (short : ShortProtected s frame h)
    (parsed : mgmtParseHdr frame = some h) : ¬ActionGuarded env sib s frame h := by
  intro guarded
  obtain ⟨live, bit, short, type⟩ := short
  obtain ⟨_, _, _, _, _, body⟩ := mgmtParseHdr_fc parsed
  obtain ⟨type, code⟩ := Option.isSome_iff_exists.1 type
  have room : ¬smePfxLen + h.body.length > smeRxViewMax := by
    rw [body, List.length_drop]
    simp only [smePfxLen, smeRxViewMax]
    omega
  have verdict : actionVerdict s frame h = .accept h.body := by
    unfold actionVerdict
    rw [if_neg (by simp [Nat.not_lt.2 short]), if_neg (by simp [bit])]
  have passed : actionPassed s frame h = some (type, h.body) := by
    unfold actionPassed
    rw [if_neg (by simp only [live, false_or]; omega), verdict]
    dsimp only
    rw [if_neg room, code]
    rfl
  have empty := decrypts_short short (guarded.authentic type h.body passed).2
  rw [empty] at code
  cases code

/-- With a pairwise key only decrypted Action bodies get through, except from short frames. -/
theorem actionGuarded_iff (active : s.mfpActive = true) (installed : s.ptkInstalled = true)
    (parsed : mgmtParseHdr frame = some h) (action : h.subtype = 13 ∨ h.subtype = 14) :
    ActionGuarded env sib s frame h ↔ ¬ShortProtected s frame h := by
  obtain ⟨handed, dropped⟩ := @smeRx_action env sib s _ _ parsed action
  obtain ⟨_, subtype, _, management, _, _⟩ := mgmtParseHdr_fc parsed
  rw [subtype] at action
  constructor
  · exact fun guarded short => short.not_guarded parsed guarded
  · intro long
    refine ⟨fun type body passed => ?_, handed, dropped⟩
    unfold actionPassed at passed
    split at passed
    · cases passed
    rename_i live
    rcases @actionVerdict_cases _ frame h active installed with
      ⟨plain, verdict, bit, decrypts⟩ | verdict | verdict | ⟨verdict, clear⟩
    · rw [verdict] at passed
      dsimp only at passed
      split at passed
      · cases passed
      obtain ⟨_, _, same⟩ := Option.map_eq_some_iff.1 passed
      cases same
      exact ⟨bit, decrypts⟩
    · rw [verdict] at passed
      cases passed
    · rw [verdict] at passed
      cases passed
    · rw [verdict] at passed
      dsimp only at passed
      split at passed
      · cases passed
      obtain ⟨_, code, same⟩ := Option.map_eq_some_iff.1 passed
      have type : (actionType h.body).isSome = true := by rw [code]; rfl
      rcases clear with ⟨bit, short⟩ | notRobust
      · exact absurd ⟨fun failed => live (Or.inl failed), bit, short, type⟩ long
      · exact absurd (actionType_robust management action type) notRobust

/-- An ADDBA Request in the clear, with or without the Protected bit. -/
def clearAddba (flags : UInt8) : Bytes :=
  [0xd0, flags, 0, 0] ++ demoApMac.bytes ++ demoStaMac.bytes ++ demoApMac.bytes ++
    [0, 0, 3, 0, 1, 2, 16, 0, 0, 0, 0]

/-- Without the Protected bit it is dropped at the protected AP of the demonstration. -/
theorem actionGuarded_iff_demo :
    let s := runOps demoApInit (demoApOps .optional demoRsne)
    s.state = .connected ∧
      ∃ h, mgmtParseHdr (clearAddba 0) = some h ∧
        ActionGuarded demoEnv noSiblings s (clearAddba 0) h := by
  intro s
  have up : s.state = .connected ∧ s.mfpActive = true ∧ s.ptkInstalled = true := by
    decide +kernel
  have parsed : (mgmtParseHdr (clearAddba 0)).isSome = true := by
    decide
  obtain ⟨h, parsed⟩ := Option.isSome_iff_exists.1 parsed
  have action : h.subtype = 13 ∨ h.subtype = 14 := by
    have subtype : (mgmtParseHdr (clearAddba 0)).map MgmtHdr.subtype = some 13 := by
      decide
    rw [parsed] at subtype
    exact Or.inl (Option.some.inj subtype)
  refine ⟨up.1, h, parsed, (actionGuarded_iff up.2.1 up.2.2 parsed action).2 fun short => ?_⟩
  exact absurd short.2.1 (by decide)

/-- With it the AP acts on the request, although it decrypted nothing. -/
theorem clear_action_passed :
    ¬∀ (role : SmeRole) (self : MacAddr) (pmk : Octets 32) (salt : UInt64) (config : SmeConfig)
        (s : Sme) (frame : Bytes) (h : MgmtHdr),
      Reach (smeStep demoEnv) (smeConfigure (smeInit role self pmk salt) config) s →
      s.mfpActive = true → s.ptkInstalled = true → mgmtParseHdr frame = some h →
      h.subtype = 13 ∨ h.subtype = 14 → pmfIsRobustMgmt h.fc h.body = true →
      ActionGuarded demoEnv noSiblings s frame h := by
  intro all
  let s := runOps demoApInit (demoApOps .optional demoRsne)
  have up : s.state = .connected ∧ s.mfpActive = true ∧ s.ptkInstalled = true := by
    decide +kernel
  have parsed : ∃ h, mgmtParseHdr (clearAddba 0x40) = some h ∧ h.subtype = 13 ∧
      pmfIsRobustMgmt h.fc h.body = true ∧ (actionType h.body).isSome = true :=
    ⟨_, rfl, by decide, by decide, by decide⟩
  obtain ⟨h, parsed, subtype, robust, type⟩ := parsed
  have guarded := all .ap demoApMac demoPmk 7 .plain s (clearAddba 0x40) h (runOps_reach _ _)
    up.2.1 up.2.2 parsed (Or.inl subtype) robust
  have live : s.state ≠ .failed := by
    rw [up.1]
    decide
  have short : ShortProtected s (clearAddba 0x40) h := ⟨live, by decide, by decide, type⟩
  exact short.not_guarded parsed guarded

end Claim

end Rf2a4m1
