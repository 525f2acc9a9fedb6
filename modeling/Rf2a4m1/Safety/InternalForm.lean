import Rf2a4m1.Safety.EapolReplay

/-!
# The internal form of frames that have a native one

A frame in internal form goes straight to the handlers. Where the native form
is checked for protection or for its transmitter, the internal one is not.
-/

set_option autoImplicit false

namespace Rf2a4m1

open ByteString Runs

/-- Action frames that need protection once there are keys. -/
def FrameType.action : FrameType → Bool
  | .addbaReq | .addbaRsp | .saQueryReq | .saQueryResp => true
  | _ => false

/-- Tag and type of the internal form. -/
def internalType (inp : Bytes) : Option FrameType :=
  if smeIntIs (byteAt inp 0) then FrameType.ofCode (smeIntType (byteAt inp 0)) else none

/-- The native form of the frame would be dropped: it is unprotected, or not from the peer. -/
structure DroppedNative (s : Sme) (type : FrameType) (inp : Bytes) : Prop where
  known : type.action = true ∨ type.eapol = true
  unprotected : type.action = true → s.mfpActive = true ∧ s.ptkInstalled = true
  foreign : type.eapol = true → macIsZero s.peer = false ∧ frameSrc inp ≠ s.peer

/-- Nothing changed, the counters of dropped management frames apart, and nothing was sent. -/
def NotHeeded (type : FrameType) (s t : Sme) : Prop :=
  if type.action then
    ∃ badMic unprotected, t = { s with mgmtProtBadmic := badMic, mgmtUnprotDropped := unprotected }
  else t = s

/-- The checks of the handlers themselves. -/
def ActsOn (s : Sme) (type : FrameType) (body : Bytes) : Prop :=
  match s.role, type with
  | .ap, .addbaReq => (baParseAddbaReq body).isSome = true
  | .sta, .addbaRsp => s.ba.state = .pending
  | _, .saQueryReq => (pmfSaQueryRespond body 4).isSome = true
  | _, .saQueryResp => (pmfSaQueryOnResponse s.saQuery body).2 = true
  | .ap, .m2 => s.state = .fourWay ∧ eapolReplay body = s.replay ∧ (smeEapolKeyDecode body).isSome = true
  | .ap, .m4 => s.state = .fourWay ∧ eapolReplay body = s.replay
  | .sta, .m1 =>
    (smeEapolKeyDecode body).isSome = true ∧
      (s.state = .assoced ∨ s.state = .fourWay ∨ body.length ≤ earlyM1Max)
  | .sta, .m3 => s.state = .fourWay ∧ ∃ k, smeEapolKeyDecode body = some k ∧ s.replay < k.replay
  | _, _ => False

section Receive

variable {env : Env} {sib : Siblings} {s : Sme} {type : FrameType} {inp : Bytes}

/-- A frame in internal form goes to the demultiplexer as it is. -/
theorem smeRx_internal (found : internalType inp = some type) :
    smeRx env sib s inp = smeDemux env sib s type inp := by
  unfold internalType at found
  split at found
  · rename_i tagged
    obtain ⟨noHdr, noData⟩ := internal_exclusive tagged
    unfold smeRx rxInternal
    rw [noHdr]
    dsimp only
    rw [noData, if_neg Bool.false_ne_true, found, tagged]
    dsimp only
    unfold smeDemux
    by_cases out : inp.length < smePfxLen ∨ s.state = .failed
    · rw [if_pos out]
      rcases out with short | failed
      · rw [if_pos (Or.inl short), ite_self]
      · rw [if_pos (Or.inr failed)]
    · rw [not_or, Nat.not_lt] at out
      have nonempty : ¬(inp.length = 0 ∨ s.state = .failed) := by
        unfold smePfxLen at out
        rintro (empty | failed)
        · omega
        · exact out.2 failed
      rw [if_neg nonempty, if_neg (by simp [Nat.not_lt.2 out.1])]
  · cases found

theorem NotHeeded.refl (type : FrameType) (s : Sme) : NotHeeded type s s := by
  unfold NotHeeded
  split
  · exact ⟨_, _, rfl⟩
  · rfl

/-- A frame that changed a field other than those counters was heeded. -/
theorem NotHeeded.same {α : Type} {t : Sme} (unheeded : NotHeeded type s t) (field : Sme → α)
    (apart : ∀ badMic unprotected,
      field { s with mgmtProtBadmic := badMic, mgmtUnprotDropped := unprotected } = field s) :
    field t = field s := by
  unfold NotHeeded at unheeded
  split at unheeded
  · obtain ⟨badMic, unprotected, rfl⟩ := unheeded
    exact apart badMic unprotected
  · rw [unheeded]

theorem NotHeeded.of_grown {t : Sme} (count : Sme → Nat) (grown : count t ≠ count s)
    (apart : ∀ badMic unprotected,
      count { s with mgmtProtBadmic := badMic, mgmtUnprotDropped := unprotected } = count s) :
    ¬NotHeeded type s t :=
  fun unheeded => grown (unheeded.same count apart)

/-- A frame that is sent takes a sequence number. -/
theorem NotHeeded.of_seq {t : Sme} (spent : t.seq = s.seq + 1) : ¬NotHeeded type s t := by
  intro unheeded
  have same := unheeded.same (fun s : Sme => s.seq) fun _ _ => rfl
  have value := congrArg UInt16.toNat (spent.symm.trans same)
  have bound := s.seq.toNat_lt
  rw [UInt16.toNat_add] at value
  have one : (1 : UInt16).toNat = 1 := rfl
  rw [one] at value
  omega

theorem txActionDot11_seq (s : Sme) (body : Bytes) : (txActionDot11 s body).seq = s.seq + 1 := by
  unfold txActionDot11 actionTx SmeTx.rawOpt SmeTx.raw SmeTx.push SmeTx.nextSeq
  dsimp only
  repeat' split
  all_goals rfl

end Receive

section Ap

variable {env : Env} {s : Sme} {body : Bytes}

theorem baApOnAddbaReq_heeds :
    NotHeeded .addbaReq s (baApOnAddbaReq s body) ↔ ¬(baParseAddbaReq body).isSome = true := by
  unfold baApOnAddbaReq
  cases baParseAddbaReq body with
  | none => exact iff_of_true (.refl _ s) Bool.false_ne_true
  | some r =>
    refine iff_of_false ?_ (not_not.2 rfl)
    exact NotHeeded.of_seq (txActionDot11_seq _ _)

theorem saQueryRespond_heeds (active : s.mfpActive = true) :
    NotHeeded .saQueryReq s (saQueryRespond s body) ↔ ¬(pmfSaQueryRespond body 4).isSome = true := by
  unfold saQueryRespond saQueryStaRespond
  rw [if_pos active]
  cases answer : pmfSaQueryRespond body 4 with
  | none => exact iff_of_true (.refl _ s) Bool.false_ne_true
  | some r =>
    refine iff_of_false ?_ (not_not.2 rfl)
    have short : ¬r.length > 4 := by
      unfold pmfSaQueryRespond at answer
      split at answer
      · cases answer
      split at answer
      · cases answer
      · cases answer
        simp
    dsimp only
    unfold saQueryTx
    rw [if_neg short]
    exact NotHeeded.of_seq (txActionDot11_seq _ _)

theorem apOnSaQueryResp_heeds (active : s.mfpActive = true) :
    NotHeeded .saQueryResp s (apOnSaQueryResp s body) ↔
      ¬(pmfSaQueryOnResponse s.saQuery body).2 = true := by
  unfold apOnSaQueryResp
  dsimp only
  rw [active]
  by_cases answered : (pmfSaQueryOnResponse s.saQuery body).2 = true
  · rw [if_pos (by simpa using answered)]
    refine iff_of_false (NotHeeded.of_grown (fun s => s.saQueryResolved) ?_ fun _ _ => rfl)
      (not_not.2 answered)
    exact Nat.succ_ne_self _
  · rw [if_neg (by simpa using answered)]
    exact iff_of_true (.refl _ s) answered

theorem apOnM2_heeds :
    NotHeeded .m2 s (apOnM2 env s body) ↔
      ¬(s.state = .fourWay ∧ eapolReplay body = s.replay ∧
        (smeEapolKeyDecode body).isSome = true) := by
  unfold apOnM2
  by_cases out : s.state ≠ .fourWay ∨ eapolReplay body ≠ s.replay
  · rw [if_pos out]
    exact iff_of_true (.refl _ s) (by tauto)
  rw [if_neg out]
  rw [not_or, not_not, not_not] at out
  cases smeEapolKeyDecode body with
  | none => exact iff_of_true (.refl _ s) fun heeds => by cases heeds.2.2
  | some k =>
    refine iff_of_false ?_ (not_not.2 ⟨out.1, out.2, rfl⟩)
    have grouped (t : Sme) : t.draws < (apGroupKeys env t).draws := by
      unfold apGroupKeys smeGenMaterial genNonce
      dsimp only
      repeat' split
      all_goals
        dsimp only
        omega
    have drawn (t : Sme) : t.draws < (apSendM3 env t).draws := by
      unfold apSendM3
      dsimp only
      split
      · exact grouped t
      · have sent : (txEapol env { apGroupKeys env t with replay := (apGroupKeys env t).replay + 1 }
            smeKiM3 16 ((apGroupKeys env t).replay + 1) (apGroupKeys env t).anonce
            (env.keyWrap smeKdeMax (kek (apGroupKeys env t).ptk)
              (m3KeyData (apGroupKeys env t)))).draws = (apGroupKeys env t).draws := by
          unfold txEapol eapolTx SmeTx.rawOpt SmeTx.raw SmeTx.push SmeTx.nextSeq
          dsimp only
          repeat' split
          all_goals rfl
        rw [sent]
        exact grouped t
    dsimp only
    split
    · exact NotHeeded.of_grown (fun s => s.badMic) (Nat.succ_ne_self _) fun _ _ => rfl
    split
    · exact NotHeeded.of_grown (fun s => s.ocvFail) (Nat.succ_ne_self _) fun _ _ => rfl
    · exact NotHeeded.of_grown (fun s => s.draws)
        (Nat.ne_of_gt (drawn (smeDerivePtk env { s with snonce := k.nonce }))) fun _ _ => rfl

theorem apOnM4_heeds :
    NotHeeded .m4 s (apOnM4 env s body) ↔ ¬(s.state = .fourWay ∧ eapolReplay body = s.replay) := by
  unfold apOnM4
  by_cases out : s.state ≠ .fourWay ∨ eapolReplay body ≠ s.replay
  · rw [if_pos out]
    exact iff_of_true (.refl _ s) (by tauto)
  rw [if_neg out]
  rw [not_or, not_not, not_not] at out
  refine iff_of_false ?_ (not_not.2 out)
  split
  · exact NotHeeded.of_grown (fun s => s.badMic) (Nat.succ_ne_self _) fun _ _ => rfl
  · intro unheeded
    have up : (connectAndEstablish (smeInstallKeys s)).state = .connected := by
      unfold connectAndEstablish smeFtEstablish
      repeat' split
      all_goals rfl
    have same := unheeded.same (fun s : Sme => s.state) fun _ _ => rfl
    cases up.symm.trans (same.trans out.1)

end Ap

section Sta

variable {env : Env} {s : Sme} {body : Bytes}

theorem staOnAddbaRsp_heeds :
    NotHeeded .addbaRsp s (staOnAddbaRsp s body) ↔ ¬s.ba.state = .pending := by
  unfold staOnAddbaRsp
  by_cases pending : s.ba.state = .pending
  · rw [if_neg (not_not.2 pending)]
    refine iff_of_false ?_ (not_not.2 pending)
    exact NotHeeded.of_grown (fun s => s.baRxRsp) (Nat.succ_ne_self _) fun _ _ => rfl
  · rw [if_pos pending]
    exact iff_of_true (.refl _ s) pending

theorem staOnSaQueryResp_heeds (active : s.mfpActive = true) :
    NotHeeded .saQueryResp s (staOnSaQueryResp s body) ↔
      ¬(pmfSaQueryOnResponse s.saQuery body).2 = true := by
  unfold staOnSaQueryResp
  dsimp only
  rw [active]
  by_cases answered : (pmfSaQueryOnResponse s.saQuery body).2 = true
  · rw [if_pos (by simpa using answered)]
    refine iff_of_false ?_ (not_not.2 answered)
    exact NotHeeded.of_grown (fun s => s.saqRxRsp) (Nat.succ_ne_self _) fun _ _ => rfl
  · rw [if_neg (by simpa using answered)]
    exact iff_of_true (.refl _ s) answered

theorem staRxM1_heeds :
    NotHeeded .m1 s (staRxM1 env s body) ↔
      ¬((smeEapolKeyDecode body).isSome = true ∧
        (s.state = .assoced ∨ s.state = .fourWay ∨ body.length ≤ earlyM1Max)) := by
  unfold staRxM1
  cases decoded : smeEapolKeyDecode body with
  | none => exact iff_of_true (.refl _ s) fun heeds => by cases heeds.1
  | some k =>
    rw [if_neg (by simp)]
    by_cases early : s.state ≠ .assoced ∧ s.state ≠ .fourWay
    · rw [if_pos early]
      by_cases long : body.length > earlyM1Max
      · rw [if_pos long]
        have noRoom := Nat.not_le.2 long
        exact iff_of_true (.refl _ s) (by tauto)
      · rw [if_neg long]
        refine iff_of_false ?_ (not_not.2 ⟨rfl, Or.inr (Or.inr (Nat.le_of_not_lt long))⟩)
        exact NotHeeded.of_grown (fun s => s.eapolM1Early) (Nat.succ_ne_self _) fun _ _ => rfl
    · rw [if_neg early]
      refine iff_of_false ?_ (not_not.2 ⟨rfl, by tauto⟩)
      refine NotHeeded.of_grown (fun s => s.eapolM1Rx) ?_ fun _ _ => rfl
      have counted : (staOnM1 env s body).eapolM1Rx = s.eapolM1Rx + 1 := by
        unfold staOnM1
        rw [decoded]
        dsimp only
        unfold staSnonce
        split <;> rfl
      rw [counted]
      exact Nat.succ_ne_self _

theorem staOnM3_heeds :
    NotHeeded .m3 s (staOnM3 env s body) ↔
      ¬(s.state = .fourWay ∧ ∃ k, smeEapolKeyDecode body = some k ∧ s.replay < k.replay) := by
  by_cases heeds : s.state = .fourWay ∧ ∃ k, smeEapolKeyDecode body = some k ∧ s.replay < k.replay
  · refine iff_of_false ?_ (not_not.2 heeds)
    obtain ⟨during, k, decoded, newer⟩ := heeds
    cases mic : eapolMicOk env s body with
    | true =>
      refine NotHeeded.of_grown (fun s => s.eapolM3Rx) ?_ fun _ _ => rfl
      exact Nat.ne_of_gt (Association.staOnM3_reads during decoded newer mic)
    | false =>
      have counted : staOnM3 env s body = { s with badMic := s.badMic + 1 } := by
        unfold staOnM3
        rw [if_neg (not_not.2 during), decoded]
        dsimp only
        rw [if_neg (Nat.not_le.2 newer), mic]
        rfl
      rw [counted]
      exact NotHeeded.of_grown (fun s => s.badMic) (Nat.succ_ne_self _) fun _ _ => rfl
  · have kept : staOnM3 env s body = s := by
      unfold staOnM3
      by_cases during : s.state = .fourWay
      · rw [if_neg (not_not.2 during)]
        cases decoded : smeEapolKeyDecode body with
        | none => rfl
        | some k =>
          dsimp only
          rw [if_pos (Nat.le_of_not_lt fun newer => heeds ⟨during, k, decoded, newer⟩)]
      · rw [if_pos during]
    rw [kept]
    exact iff_of_true (.refl _ s) heeds

end Sta

section Law

variable {env : Env} {sib : Siblings} {s : Sme} {type : FrameType} {inp : Bytes}

/-- The handler of a frame whose native form would be dropped. -/
theorem smeHandle_heeds (dropped : DroppedNative s type inp) :
    (smeHandle env sib s type inp).2 = sib ∧
      (NotHeeded type s (smeHandle env sib s type inp).1 ↔ ¬ActsOn s type (frameBody inp)) := by
  have active : type.action = true → s.mfpActive = true := fun action =>
    (dropped.unprotected action).1
  unfold smeHandle ActsOn
  cases role : s.role with
  | ap =>
    rw [if_pos rfl]
    cases type with
    | addbaReq => exact ⟨rfl, baApOnAddbaReq_heeds⟩
    | saQueryReq => exact ⟨rfl, saQueryRespond_heeds (active rfl)⟩
    | saQueryResp => exact ⟨rfl, apOnSaQueryResp_heeds (active rfl)⟩
    | m2 => exact ⟨rfl, apOnM2_heeds⟩
    | m4 => exact ⟨rfl, apOnM4_heeds⟩
    | addbaRsp | m1 | m3 => exact ⟨rfl, iff_of_true (.refl _ s) not_false⟩
    | _ => rcases dropped.known with no | no <;> cases no
  | sta =>
    rw [if_neg (by decide)]
    cases type with
    | addbaRsp => exact ⟨rfl, staOnAddbaRsp_heeds⟩
    | saQueryReq => exact ⟨rfl, saQueryRespond_heeds (active rfl)⟩
    | saQueryResp => exact ⟨rfl, staOnSaQueryResp_heeds (active rfl)⟩
    | m1 => exact ⟨rfl, staRxM1_heeds⟩
    | m3 => exact ⟨rfl, staOnM3_heeds⟩
    | addbaReq | m2 | m4 => exact ⟨rfl, iff_of_true (.refl _ s) not_false⟩
    | _ => rcases dropped.known with no | no <;> cases no

/-- Where the internal form is no bypass: the demultiplexer or the handler turns the frame away. -/
theorem internal_notHeeded_iff (found : internalType inp = some type)
    (dropped : DroppedNative s type inp) :
    ((smeRx env sib s inp).2 = sib ∧ NotHeeded type s (smeRx env sib s inp).1) ↔
      ¬(demuxGate s type inp = true ∧ ActsOn s type (frameBody inp)) := by
  rw [smeRx_internal found, smeDemux_eq]
  by_cases gate : demuxGate s type inp = true
  · rw [if_pos gate]
    obtain ⟨apart, heeds⟩ := @smeHandle_heeds env sib s type inp dropped
    rw [heeds]
    tauto
  · rw [if_neg gate]
    exact iff_of_true ⟨rfl, .refl type s⟩ fun acts => gate acts.1

end Law

section Demo

/-- A station whose link has protected management frames. -/
@[irreducible] def demoMfpUp : Sme := runOps demoStaInit (demoStaOps .optional demoRsne)

/-- An SA Query in internal form, from any address. -/
def demoSaQuery (type : FrameType) (action : UInt8) : Bytes :=
  smePfx type demoStaMac ++ [8, action, 0, 0]

theorem demoMfpUp_reach :
    Reach (smeStep demoEnv) (smeConfigure (smeInit .sta demoStaMac demoPmk 9) .plain) demoMfpUp := by
  unfold demoMfpUp
  exact runOps_reach _ _

theorem demoMfpUp_protected : demoMfpUp.mfpActive = true ∧ demoMfpUp.ptkInstalled = true := by
  decide +kernel

theorem demoSaQuery_dropped {type : FrameType} (action : type.action = true) (act : UInt8) :
    DroppedNative demoMfpUp type (demoSaQuery type act) where
  known := Or.inl action
  unprotected _ := demoMfpUp_protected
  foreign eapol := by
    cases type <;> first | cases action; done | cases eapol

/-- A response that no query waits for. -/
theorem internal_notHeeded_iff_demo :
    (smeRx demoEnv noSiblings demoMfpUp (demoSaQuery .saQueryResp 1)).2 = noSiblings ∧
      NotHeeded .saQueryResp demoMfpUp
        (smeRx demoEnv noSiblings demoMfpUp (demoSaQuery .saQueryResp 1)).1 := by
  refine (internal_notHeeded_iff (by decide +kernel) (demoSaQuery_dropped rfl 1)).2 ?_
  intro acts
  have role : demoMfpUp.role = .sta := by decide +kernel
  have answered := acts.2
  unfold ActsOn at answered
  rw [role] at answered
  exact absurd answered (by decide +kernel)

/-- A query in the clear is answered. -/
theorem internal_saQuery_heeded :
    ¬∀ s type inp, Reach (smeStep demoEnv) (smeConfigure (smeInit .sta demoStaMac demoPmk 9) .plain) s →
      internalType inp = some type → DroppedNative s type inp →
        NotHeeded type s (smeRx demoEnv noSiblings s inp).1 := by
  intro all
  have unheeded := all _ _ (demoSaQuery .saQueryReq 0) demoMfpUp_reach (by decide +kernel)
    (demoSaQuery_dropped rfl 0)
  have sent : (smeRx demoEnv noSiblings demoMfpUp (demoSaQuery .saQueryReq 0)).1.sent.length ≠
      demoMfpUp.sent.length := by
    decide +kernel
  exact sent (unheeded.same (fun s => s.sent.length) fun _ _ => rfl)

end Demo

end Rf2a4m1
