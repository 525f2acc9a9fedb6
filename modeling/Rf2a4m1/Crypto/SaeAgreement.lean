import Rf2a4m1.Crypto.Reductions
import Rf2a4m1.Crypto.Sae

/-!
# SAE agreement

The masked commits cancel: both sides compute the password point multiplied by
the two secret scalars. Everything that is derived from it is symmetric in the
two sides.
-/

set_option autoImplicit false

namespace Rf2a4m1

open ByteString Jacobian

section Scalars

variable {P : P256}

/-- Scalars count modulo the order. -/
theorem mod_order_nsmul (k : Nat) (P : P256) : (k % p256Order) • P = k • P := by
  by_cases finite : P = 0
  · rw [finite, nsmul_zero, nsmul_zero]
  · have order : p256Order • P = 0 := (p256_nsmul_eq_zero_iff finite _).2 (Nat.dvd_refl _)
    conv_rhs => rw [← Nat.mod_add_div k p256Order]
    rw [add_nsmul, mul_nsmul, order, nsmul_zero, add_zero]

end Scalars

/-- What a successful commit leaves in the context. -/
structure Committed (s : Sae) (P : P256) (rnd mask : Octets 32) : Prop where
  pwe : encodePoint P = some s.pwe
  rndOk : scalarInRange rnd = true
  maskOk : scalarInRange mask = true
  secret : s.rnd = rnd
  scalarOk : scalarInRange s.commitScalar = true
  scalar : s.commitScalar = p256ScalarAddN rnd mask
  element : encodePoint (-(scalarVal mask • P)) = some s.commitElement

variable {s s' a b : Sae} {P : P256} {pwe : Octets 64} {rnd mask rndA maskA rndB maskB : Octets 32}

theorem saeCommitPwe_committed (commit : saeCommitPwe s pwe rnd mask = (s', true))
    (encoded : encodePoint P = some pwe) : Committed s' P rnd mask := by
  unfold saeCommitPwe at commit
  split at commit
  · cases commit
  rename_i valid
  simp only [Bool.or_eq_true, Bool.not_eq_true', not_or, Bool.not_eq_false] at valid
  dsimp only at commit
  split at commit
  · cases commit
  rename_i scalarOk
  split at commit
  · cases commit
  rw [p256PointMul_spec mask encoded] at commit
  split at commit
  · cases commit
  rename_i me product
  obtain ⟨rfl, -⟩ := Prod.mk.inj commit
  constructor
  · exact encoded
  · exact valid.1.2
  · exact valid.2
  · rfl
  · dsimp only
    simpa [p256ScalarValid] using scalarOk
  · dsimp only
  · dsimp only
    exact p256PointNegate_spec product

theorem Committed.finite (h : Committed s P rnd mask) : P ≠ 0 := by
  rintro rfl
  cases h.pwe

/-- The peer's scalar and element give the password point times its secret. -/
theorem Committed.unmasked (h : Committed s P rnd mask) :
    scalarVal s.commitScalar • P + -(scalarVal mask • P) = scalarVal rnd • P := by
  rw [h.scalar, p256ScalarAddN_val ((scalarInRange_iff _).1 h.rndOk).2
    ((scalarInRange_iff _).1 h.maskOk).2, mod_order_nsmul, add_nsmul, add_neg_cancel_right]

/-- The shared point is the password point times both secrets. -/
theorem saeShared_spec (ha : Committed a P rndA maskA) (hb : Committed b P rndB maskB) :
    saeShared a b.commitScalar b.commitElement =
      encodePoint ((scalarVal rndA * scalarVal rndB) • P) := by
  have finite := ha.finite
  unfold saeShared
  rw [p256PointMul_spec _ ha.pwe]
  cases first : encodePoint (scalarVal b.commitScalar • P) with
  | none =>
    exact absurd ((encodePoint_eq_none_iff _).1 first) (nsmul_ne_zero hb.scalarOk finite)
  | some t =>
  rw [Option.bind_some, p256PointAdd_spec first hb.element, hb.unmasked]
  cases second : encodePoint (scalarVal rndB • P) with
  | none => exact absurd ((encodePoint_eq_none_iff _).1 second) (nsmul_ne_zero hb.rndOk finite)
  | some t2 => rw [Option.bind_some, ha.secret, p256PointMul_spec _ second, ← mul_nsmul']

/-- The keys that a shared point and a context give. -/
def saeKeys (k : Octets 64) (ctx : Octets 32) : Bytes :=
  ieee80211KdfLength (hmacSha256 (Octets.zero 32).bytes (slice k.bytes 0 32)).bytes
    (ascii "SAE KCK and PMK") ctx.bytes 512

/-- The context after a peer's commit has been processed. -/
def Sae.keyed (s : Sae) (k : Octets 64) (peerScalar : Octets 32) (peerElement : Octets 64) : Sae :=
  { s with
    kck := Octets.of 32 (saeKeys k (p256ScalarAddN s.commitScalar peerScalar))
    pmk := Octets.of 32 ((saeKeys k (p256ScalarAddN s.commitScalar peerScalar)).drop 32)
    pmkid := Octets.of 16 (p256ScalarAddN s.commitScalar peerScalar).bytes
    peerScalar := peerScalar
    peerElement := peerElement
    haveKeys := true }

/-- A peer's commit is accepted unless it reflects the own one. -/
theorem saeProcessCommit_spec (ha : Committed a P rndA maskA) (hb : Committed b P rndB maskB)
    (differ : ¬(b.commitScalar = a.commitScalar ∧ b.commitElement = a.commitElement)) :
    ∃ k, encodePoint ((scalarVal rndA * scalarVal rndB) • P) = some k ∧
      saeProcessCommit a b.commitScalar b.commitElement =
        some (a.keyed k b.commitScalar b.commitElement) := by
  have valid := (p256PointValid_iff b.commitElement).2 ⟨_, hb.element⟩
  cases shared : encodePoint ((scalarVal rndA * scalarVal rndB) • P) with
  | none =>
    have product : (scalarVal rndA * scalarVal rndB) • P ≠ 0 := by
      rw [mul_nsmul']
      exact nsmul_ne_zero ha.rndOk (nsmul_ne_zero hb.rndOk ha.finite)
    exact absurd ((encodePoint_eq_none_iff _).1 shared) product
  | some k =>
    refine ⟨k, rfl, ?_⟩
    unfold saeProcessCommit
    rw [if_neg (by simp [p256ScalarValid, hb.scalarOk, valid]), if_neg differ,
      saeShared_spec ha hb, shared]
    rfl

section Confirm

variable {k : Octets 64}

/-- A side accepts the confirm of a peer that holds the same key and the same two commits. -/
theorem saeVerifyConfirm_keyed
    (sameCtx : p256ScalarAddN a.commitScalar b.commitScalar =
      p256ScalarAddN b.commitScalar a.commitScalar) (sendConfirm : UInt16) :
    saeVerifyConfirm (a.keyed k b.commitScalar b.commitElement) sendConfirm
      (saeConfirm (b.keyed k a.commitScalar a.commitElement) sendConfirm) = true := by
  unfold saeVerifyConfirm saeConfirm Sae.keyed
  dsimp only
  rw [if_neg (by simp), sameCtx]
  exact decide_eq_true rfl

end Confirm

theorem bytesLt_asymm {x y : Bytes} (lt : bytesLt x y = true) : bytesLt y x = false := by
  induction x generalizing y with
  | nil => cases lt
  | cons x xs ih =>
    cases y with
    | nil => cases lt
    | cons y ys =>
      rw [bytesLt] at lt ⊢
      by_cases less : x < y
      · rw [if_neg (UInt8.lt_asymm less), if_pos less]
      · by_cases more : y < x
        · rw [if_neg less, if_pos more] at lt
          cases lt
        · rw [if_neg less, if_neg more] at lt
          rw [if_neg more, if_neg less]
          exact ih lt

theorem eq_of_not_bytesLt {x y : Bytes} (len : x.length = y.length) (notLt : bytesLt x y = false)
    (notGt : bytesLt y x = false) : x = y := by
  induction x generalizing y with
  | nil => exact (List.length_eq_zero_iff.1 len.symm).symm
  | cons x xs ih =>
    cases y with
    | nil => cases len
    | cons y ys =>
      rw [bytesLt] at notLt notGt
      by_cases less : x < y
      · rw [if_pos less] at notLt
        cases notLt
      · by_cases more : y < x
        · rw [if_pos more] at notGt
          cases notGt
        · rw [if_neg less, if_neg more] at notLt
          rw [if_neg more, if_neg less] at notGt
          have same : x = y := UInt8.le_antisymm (UInt8.not_lt.1 more) (UInt8.not_lt.1 less)
          rw [same, ih (Nat.succ.inj len) notLt notGt]

/-- The password element does not depend on whose address comes first. -/
theorem saeDerivePweFromPt_comm (pt : Octets 64) (macA macB : MacAddr) :
    saeDerivePweFromPt pt macA macB = saeDerivePweFromPt pt macB macA := by
  unfold saeDerivePweFromPt
  cases less : bytesLt macA.bytes macB.bytes with
  | true => simp only [bytesLt_asymm less, if_true, Bool.false_eq_true, if_false]
  | false =>
    cases more : bytesLt macB.bytes macA.bytes with
    | true => simp only [if_true, Bool.false_eq_true, if_false]
    | false =>
      have same : macA = macB :=
        Octets.ext (eq_of_not_bytesLt (by simp) less more)
      rw [same]

/--
Two sides that commit to one password point and do not reflect each other accept
each other's commit, derive the same keys and accept each other's confirm.
-/
theorem sae_agreement (a b a' b' : Sae) (pwe : Octets 64) (rndA maskA rndB maskB : Octets 32)
    (commitA : saeCommitPwe a pwe rndA maskA = (a', true))
    (commitB : saeCommitPwe b pwe rndB maskB = (b', true))
    (differ : ¬(a'.commitScalar = b'.commitScalar ∧ a'.commitElement = b'.commitElement)) :
    (∃ a'' b'', saeProcessCommit a' b'.commitScalar b'.commitElement = some a'' ∧
      saeProcessCommit b' a'.commitScalar a'.commitElement = some b'' ∧
      a''.kck = b''.kck ∧ a''.pmk = b''.pmk ∧ a''.pmkid = b''.pmkid ∧
      ∀ sendConfirm, saeVerifyConfirm a'' sendConfirm (saeConfirm b'' sendConfirm) = true ∧
        saeVerifyConfirm b'' sendConfirm (saeConfirm a'' sendConfirm) = true) ∧
    ∀ (pt : Octets 64) (macA macB : MacAddr),
      saeDerivePweFromPt pt macA macB = saeDerivePweFromPt pt macB macA := by
  refine ⟨?_, saeDerivePweFromPt_comm⟩
  have valid : p256PointValid pwe = true := by
    unfold saeCommitPwe at commitA
    by_contra invalid
    rw [if_pos (by simp [invalid])] at commitA
    cases commitA
  obtain ⟨P, encoded⟩ := (p256PointValid_iff pwe).1 valid
  have ha := saeCommitPwe_committed commitA encoded
  have hb := saeCommitPwe_committed commitB encoded
  obtain ⟨k, shared, processA⟩ := saeProcessCommit_spec ha hb (fun same => differ ⟨same.1.symm, same.2.symm⟩)
  obtain ⟨k', shared', processB⟩ := saeProcessCommit_spec hb ha differ
  obtain rfl : k = k' := by
    rw [Nat.mul_comm, shared] at shared'
    exact Option.some.inj shared'
  have sameCtx := p256ScalarAddN_comm ((scalarInRange_iff _).1 ha.scalarOk).2
    ((scalarInRange_iff _).1 hb.scalarOk).2
  refine ⟨_, _, processA, processB, ?_, ?_, ?_, fun sendConfirm => ?_⟩
  · rw [Sae.keyed, Sae.keyed, sameCtx]
  · rw [Sae.keyed, Sae.keyed, sameCtx]
  · rw [Sae.keyed, Sae.keyed, sameCtx]
  · exact ⟨saeVerifyConfirm_keyed sameCtx sendConfirm, saeVerifyConfirm_keyed sameCtx.symm sendConfirm⟩

/-- A commit succeeds for valid inputs whose sum is neither zero nor one. -/
theorem exists_commit (s : Sae) (valid : p256PointValid pwe = true)
    (rndOk : p256ScalarValid rnd = true) (maskOk : p256ScalarValid mask = true)
    (scalarOk : p256ScalarValid (p256ScalarAddN rnd mask) = true)
    (large : (p256ScalarAddN rnd mask).bytes ≠ List.replicate 31 0 ++ [1]) :
    ∃ s', saeCommitPwe s pwe rnd mask = (s', true) ∧
      s'.commitScalar = p256ScalarAddN rnd mask := by
  obtain ⟨P, encoded⟩ := (p256PointValid_iff pwe).1 valid
  have finite : P ≠ 0 := by
    rintro rfl
    cases encoded
  have multiple := p256PointMul_spec mask encoded
  cases found : p256PointMul mask pwe with
  | none =>
    rw [found] at multiple
    exact absurd ((encodePoint_eq_none_iff _).1 multiple.symm) (nsmul_ne_zero maskOk finite)
  | some me =>
    unfold saeCommitPwe
    rw [if_neg (by simp [valid, rndOk, maskOk])]
    dsimp only
    rw [if_neg (by simp [scalarOk]), if_neg large, found]
    exact ⟨_, rfl, rfl⟩

/-- Two sides with the secrets two and four agree. -/
theorem sae_agreement_demo :
    ∃ a b a' b' : Sae, saeCommitPwe a demoBase (smallScalar 2) (smallScalar 3) = (a', true) ∧
      saeCommitPwe b demoBase (smallScalar 4) (smallScalar 5) = (b', true) ∧
      ∃ a'' b'', saeProcessCommit a' b'.commitScalar b'.commitElement = some a'' ∧
        saeProcessCommit b' a'.commitScalar a'.commitElement = some b'' ∧
        a''.kck = b''.kck ∧ a''.pmk = b''.pmk ∧ a''.pmkid = b''.pmkid ∧
        ∀ sendConfirm, saeVerifyConfirm a'' sendConfirm (saeConfirm b'' sendConfirm) = true ∧
          saeVerifyConfirm b'' sendConfirm (saeConfirm a'' sendConfirm) = true := by
  obtain ⟨a', commitA, scalarA⟩ := @exists_commit demoBase (smallScalar 2) (smallScalar 3) default
    demoBase_valid (by decide +kernel) (by decide +kernel) (by decide +kernel) (by decide +kernel)
  obtain ⟨b', commitB, scalarB⟩ := @exists_commit demoBase (smallScalar 4) (smallScalar 5) default
    demoBase_valid (by decide +kernel) (by decide +kernel) (by decide +kernel) (by decide +kernel)
  have differ : p256ScalarAddN (smallScalar 2) (smallScalar 3) ≠
      p256ScalarAddN (smallScalar 4) (smallScalar 5) := by
    decide +kernel
  exact ⟨default, default, a', b', commitA, commitB,
    (sae_agreement _ _ a' b' demoBase _ _ _ _ commitA commitB
      (fun same => differ (scalarA.symm.trans (same.1.trans scalarB)))).1⟩

end Rf2a4m1
