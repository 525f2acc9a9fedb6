import Rf2a4m1.Sme.Auth
import Rf2a4m1.Wire.QosCodec

/-!
# The Block-Ack handshake

The frames have four bits for a TID and ten for a buffer size. The two ends
agree when what the originator keeps fits them, and the agreement does not grow
when the response does not.
-/

set_option autoImplicit false

namespace Rf2a4m1

open ByteString

section Parameter

variable (tid : UInt8) (amsdu immediate : Bool) (bufSize : UInt16)

theorem flag_bit (b : Bool) (v : UInt16) (k : Nat) (inside : k < 16) :
    (if b then v else 0).toBitVec[k] = (b && v.toBitVec[k]) := by
  cases b <;> simp

theorem baParamTid_baParam : baParamTid (baParam tid amsdu immediate bufSize) = tid &&& 0x0f := by
  apply eq_of_bits
  intro k inside
  interval_cases k <;> simp [baParamTid, baParam, flag_bit]

theorem baParamBufSize_baParam :
    baParamBufSize (baParam tid amsdu immediate bufSize) = bufSize &&& 0x03ff := by
  apply UInt16.eq_of_toBitVec_eq
  apply BitVec.eq_of_getElem_eq
  intro k inside
  interval_cases k <;> simp [baParamBufSize, baParam, flag_bit]

theorem baParam_flag (b : Bool) {v mask : UInt16} (masked : v &&& mask = if b then mask else 0)
    (set : mask ≠ 0) : decide (v &&& mask ≠ 0) = b := by
  rw [masked]
  cases b with
  | false => rfl
  | true => exact decide_eq_true set

theorem baParam_amsdu :
    decide (baParam tid amsdu immediate bufSize &&& 0x0001 ≠ 0) = amsdu := by
  apply baParam_flag
  · apply UInt16.eq_of_toBitVec_eq
    apply BitVec.eq_of_getElem_eq
    intro k inside
    interval_cases k <;> simp [baParam, flag_bit]
  · decide

theorem baParam_immediate :
    decide (baParam tid amsdu immediate bufSize &&& 0x0002 ≠ 0) = immediate := by
  apply baParam_flag
  · apply UInt16.eq_of_toBitVec_eq
    apply BitVec.eq_of_getElem_eq
    intro k inside
    interval_cases k <;> simp [baParam, flag_bit]
  · decide

theorem ssn_onAir (ssn : UInt16) : (((ssn &&& 0x0fff) <<< 4) >>> 4) &&& 0x0fff = ssn &&& 0x0fff := by
  apply UInt16.eq_of_toBitVec_eq
  apply BitVec.eq_of_getElem_eq
  intro k inside
  interval_cases k <;> simp

end Parameter

section Frames

/-- A request with its fields cut to the bits there are for them. -/
def AddbaReq.onAir (r : AddbaReq) : AddbaReq :=
  { r with tid := r.tid &&& 0x0f, bufSize := r.bufSize &&& 0x03ff, ssn := r.ssn &&& 0x0fff }

def AddbaRsp.onAir (r : AddbaRsp) : AddbaRsp :=
  { r with tid := r.tid &&& 0x0f, bufSize := r.bufSize &&& 0x03ff }

theorem baParseAddbaReq_build {cap : Nat} {r : AddbaReq} {f : Bytes}
    (built : baBuildAddbaReq cap r = some f) : baParseAddbaReq f = some r.onAir := by
  unfold baBuildAddbaReq at built
  split at built
  · cases built
  obtain rfl := Option.some.inj built
  have param : getLe16 ([3, 0, r.dialogToken] ++
      putLe16 (baParam r.tid r.amsdu r.immediate r.bufSize) ++ putLe16 r.timeout ++
      putLe16 ((r.ssn &&& 0x0fff) <<< 4)) 3 = baParam r.tid r.amsdu r.immediate r.bufSize := by
    apply getLe16_field
    simp [slice, putLe16, le]
  have timeout : getLe16 ([3, 0, r.dialogToken] ++
      putLe16 (baParam r.tid r.amsdu r.immediate r.bufSize) ++ putLe16 r.timeout ++
      putLe16 ((r.ssn &&& 0x0fff) <<< 4)) 5 = r.timeout := by
    apply getLe16_field
    simp [slice, putLe16, le]
  have ssn : getLe16 ([3, 0, r.dialogToken] ++
      putLe16 (baParam r.tid r.amsdu r.immediate r.bufSize) ++ putLe16 r.timeout ++
      putLe16 ((r.ssn &&& 0x0fff) <<< 4)) 7 = (r.ssn &&& 0x0fff) <<< 4 := by
    apply getLe16_field
    simp [slice, putLe16, le]
  unfold baParseAddbaReq
  rw [if_neg (by simp [byteAt]), param, timeout, ssn]
  dsimp only
  rw [baParamTid_baParam, baParamBufSize_baParam, baParam_amsdu, baParam_immediate, ssn_onAir]
  rfl

theorem baParseAddbaRsp_build {cap : Nat} {r : AddbaRsp} {f : Bytes}
    (built : baBuildAddbaRsp cap r = some f) : baParseAddbaRsp f = some r.onAir := by
  unfold baBuildAddbaRsp at built
  split at built
  · cases built
  obtain rfl := Option.some.inj built
  have status : getLe16 ([3, 1, r.dialogToken] ++ putLe16 r.status ++
      putLe16 (baParam r.tid r.amsdu r.immediate r.bufSize) ++ putLe16 r.timeout) 3 =
      r.status := by
    apply getLe16_field
    simp [slice, putLe16, le]
  have param : getLe16 ([3, 1, r.dialogToken] ++ putLe16 r.status ++
      putLe16 (baParam r.tid r.amsdu r.immediate r.bufSize) ++ putLe16 r.timeout) 5 =
      baParam r.tid r.amsdu r.immediate r.bufSize := by
    apply getLe16_field
    simp [slice, putLe16, le]
  have timeout : getLe16 ([3, 1, r.dialogToken] ++ putLe16 r.status ++
      putLe16 (baParam r.tid r.amsdu r.immediate r.bufSize) ++ putLe16 r.timeout) 7 =
      r.timeout := by
    apply getLe16_field
    simp [slice, putLe16, le]
  unfold baParseAddbaRsp
  rw [if_neg (by simp [byteAt]), status, param, timeout]
  dsimp only
  rw [baParamTid_baParam, baParamBufSize_baParam, baParam_amsdu, baParam_immediate]
  rfl

end Frames

section Agreement

/-- What the recipient answers: yes, with the parameters as they were read. -/
def baGrant (q : AddbaReq) : AddbaRsp :=
  { dialogToken := q.dialogToken, status := 0, tid := q.tid, amsdu := q.amsdu,
    immediate := q.immediate, bufSize := q.bufSize, timeout := q.timeout }

/-- The access point answers a request it can read with the grant. -/
theorem baApOnAddbaReq_grants (s : Sme) {req : Bytes} {q : AddbaReq}
    (parsed : baParseAddbaReq req = some q) :
    ∃ rsp, baBuildAddbaRsp 16 (baGrant q) = some rsp ∧
      baApOnAddbaReq s req =
        txActionDot11 { s with baRecipient := true, baRecipTid := q.tid
                               baRecipBufsize := q.bufSize } rsp := by
  refine ⟨_, if_neg (by decide), ?_⟩
  unfold baApOnAddbaReq
  rw [parsed]
  rfl

/-- The answer of the recipient to a request brings the originator to an agreement with the
recipient's parameters. -/
def BaAgreed (a : BaAgreement) (req : Bytes) : Prop :=
  ∃ q rsp, baParseAddbaReq req = some q ∧ baBuildAddbaRsp 16 (baGrant q) = some rsp ∧
    (baOriginatorOnAddbaRsp a rsp).1.state = .established ∧
    (baOriginatorOnAddbaRsp a rsp).1.tid = q.tid ∧
    (baOriginatorOnAddbaRsp a rsp).1.bufSize = q.bufSize ∧
    (baOriginatorOnAddbaRsp a rsp).1.amsdu = q.amsdu ∧
    (baOriginatorOnAddbaRsp a rsp).1.immediate = q.immediate

/-- A response that is accepted does not make the agreement more than was asked for. -/
def BaNotGrown (a : BaAgreement) (body : Bytes) : Prop :=
  (baOriginatorOnAddbaRsp a body).2 = .ok →
    (baOriginatorOnAddbaRsp a body).1.bufSize ≤ a.bufSize ∧
    ((baOriginatorOnAddbaRsp a body).1.amsdu = true → a.amsdu = true) ∧
    ((baOriginatorOnAddbaRsp a body).1.immediate = true → a.immediate = true)

/-- The fields of a request fit the frame; a buffer size may lose its high bits, not all. -/
def AddbaReq.Fits (r : AddbaReq) : Prop :=
  r.tid < 16 ∧ (r.bufSize &&& 0x03ff = 0 → r.bufSize = 0)

/-- A grant for this agreement asks for no more than the agreement has. -/
def BaModest (a : BaAgreement) (body : Bytes) : Prop :=
  ∀ r, baParseAddbaRsp body = some r → r.dialogToken = a.dialogToken → r.tid = a.tid →
    r.status = 0 →
    r.bufSize ≤ a.bufSize ∧ (r.amsdu = true → a.amsdu = true) ∧
      (r.immediate = true → a.immediate = true)

variable {a : BaAgreement}

/-- The three ways a response that can be read ends. -/
theorem baOriginatorOnAddbaRsp_parsed {body : Bytes} {r : AddbaRsp}
    (parsed : baParseAddbaRsp body = some r) :
    baOriginatorOnAddbaRsp a body =
      if a.state ≠ .pending ∨ r.dialogToken ≠ a.dialogToken ∨ r.tid ≠ a.tid then (a, .errState)
      else if r.status ≠ 0 then ({ a with state := .idle }, .errRejected)
      else
        ({ a with amsdu := r.amsdu, immediate := r.immediate
                  bufSize := if r.bufSize ≠ 0 then r.bufSize else a.bufSize
                  timeout := r.timeout, state := .established }, .ok) := by
  unfold baOriginatorOnAddbaRsp
  rw [parsed]

theorem baOriginatorOnAddbaRsp_granted {body : Bytes} {r : AddbaRsp}
    (parsed : baParseAddbaRsp body = some r) (pending : a.state = .pending)
    (token : r.dialogToken = a.dialogToken) (tid : r.tid = a.tid) (granted : r.status = 0) :
    (baOriginatorOnAddbaRsp a body).1 =
      { a with amsdu := r.amsdu, immediate := r.immediate
               bufSize := if r.bufSize ≠ 0 then r.bufSize else a.bufSize
               timeout := r.timeout, state := .established } := by
  rw [baOriginatorOnAddbaRsp_parsed parsed, if_neg (by simp [pending, token, tid]),
    if_neg (not_not.2 granted)]

theorem baOriginatorOnAddbaRsp_other {body : Bytes} {r : AddbaRsp}
    (parsed : baParseAddbaRsp body = some r) (other : r.tid ≠ a.tid) :
    (baOriginatorOnAddbaRsp a body).1 = a := by
  rw [baOriginatorOnAddbaRsp_parsed parsed, if_pos (Or.inr (Or.inr other))]

theorem tid_masked (tid : UInt8) : tid &&& 0x0f = tid ↔ tid < 16 := by
  rw [← UInt8.toNat_inj, UInt8.toNat_and, UInt8.lt_iff_toNat_lt]
  have low : tid.toNat &&& (0x0f : UInt8).toNat = tid.toNat % 16 :=
    Nat.and_two_pow_sub_one_eq_mod _ 4
  rw [low]
  exact Nat.mod_eq_iff_lt (by decide)

theorem bufSize_masked {bufSize : UInt16} :
    (if bufSize &&& 0x03ff ≠ 0 then bufSize &&& 0x03ff else bufSize) = bufSize &&& 0x03ff ↔
      (bufSize &&& 0x03ff = 0 → bufSize = 0) := by
  by_cases zero : bufSize &&& 0x03ff = 0
  · rw [if_neg (not_not.2 zero), zero]
    exact ⟨fun same _ => same, fun same => same rfl⟩
  · rw [if_pos zero]
    exact iff_of_true rfl fun same => absurd same zero

theorem baGrant_onAir (r : AddbaReq) : (baGrant r.onAir).onAir = baGrant r.onAir := by
  simp only [AddbaRsp.onAir, baGrant, AddbaReq.onAir, UInt8.and_assoc, UInt8.and_self,
    UInt16.and_assoc, UInt16.and_self]

/-- What the originator has after the recipient's answer. -/
theorem baOriginator_answered {cap : Nat} {r : AddbaReq} {req : Bytes}
    (sent : baOriginatorAddba cap r = some (a, req)) :
    ∃ rsp, baParseAddbaReq req = some r.onAir ∧
      baBuildAddbaRsp 16 (baGrant r.onAir) = some rsp ∧
      (baOriginatorOnAddbaRsp a rsp).1 =
        if r.tid < 16 then
          { a with
            bufSize := if r.bufSize &&& 0x03ff ≠ 0 then r.bufSize &&& 0x03ff else r.bufSize
            state := .established }
        else a := by
  obtain ⟨f, built, same⟩ := Option.map_eq_some_iff.1 sent
  obtain ⟨rfl, rfl⟩ := Prod.mk.inj same
  obtain ⟨rsp, answered⟩ : ∃ rsp, baBuildAddbaRsp 16 (baGrant r.onAir) = some rsp :=
    ⟨_, if_neg (by decide)⟩
  have received := baParseAddbaRsp_build answered
  rw [baGrant_onAir] at received
  refine ⟨rsp, baParseAddbaReq_build built, answered, ?_⟩
  have masked : (baGrant r.onAir).tid = r.tid ↔ r.tid < 16 := tid_masked r.tid
  by_cases small : r.tid < 16
  · rw [if_pos small]
    exact baOriginatorOnAddbaRsp_granted received rfl rfl (masked.2 small) rfl
  · rw [if_neg small]
    exact baOriginatorOnAddbaRsp_other received fun same => small (masked.1 same)

/-- Both ends agree exactly when the request fits its frame. -/
theorem baAgreed_iff {cap : Nat} {r : AddbaReq} {req : Bytes}
    (sent : baOriginatorAddba cap r = some (a, req)) : BaAgreed a req ↔ r.Fits := by
  obtain ⟨rsp, parsed, answered, after⟩ := baOriginator_answered sent
  obtain ⟨f, _, same⟩ := Option.map_eq_some_iff.1 sent
  obtain ⟨rfl, rfl⟩ := Prod.mk.inj same
  unfold AddbaReq.Fits
  rw [← bufSize_masked]
  constructor
  · rintro ⟨q, rsp', parsed', answered', established, tid, size, _⟩
    obtain rfl := Option.some.inj (parsed.symm.trans parsed')
    obtain rfl := Option.some.inj (answered.symm.trans answered')
    by_cases small : r.tid < 16
    · rw [after, if_pos small] at size
      exact ⟨small, size⟩
    · rw [after, if_neg small] at established
      cases established
  · rintro ⟨small, size⟩
    refine ⟨_, rsp, parsed, answered, ?_⟩
    rw [after, if_pos small]
    exact ⟨rfl, ((tid_masked r.tid).2 small).symm, size, rfl, rfl⟩

/-- The agreement does not grow exactly when the response asks for no more. -/
theorem baNotGrown_iff (pending : a.state = .pending) (body : Bytes) :
    BaNotGrown a body ↔ BaModest a body := by
  unfold BaNotGrown BaModest
  cases parsed : baParseAddbaRsp body with
  | none =>
    have refused : baOriginatorOnAddbaRsp a body = (a, .errInval) := by
      unfold baOriginatorOnAddbaRsp
      rw [parsed]
    rw [refused]
    exact iff_of_true (fun ok => nomatch ok) fun r found => nomatch found
  | some r =>
    rw [baOriginatorOnAddbaRsp_parsed parsed]
    by_cases other : a.state ≠ .pending ∨ r.dialogToken ≠ a.dialogToken ∨ r.tid ≠ a.tid
    · rw [if_pos other]
      refine iff_of_true (fun ok => nomatch ok) ?_
      rintro r' found token tid
      obtain rfl := Option.some.inj found
      exact absurd other (by simp [pending, token, tid])
    rw [if_neg other]
    by_cases declined : r.status ≠ 0
    · rw [if_pos declined]
      refine iff_of_true (fun ok => nomatch ok) ?_
      rintro r' found _ _ granted
      obtain rfl := Option.some.inj found
      exact absurd granted declined
    rw [if_neg declined]
    rw [not_or, not_or, not_not, not_not, not_not] at other
    have adopted : (if r.bufSize ≠ 0 then r.bufSize else a.bufSize) ≤ a.bufSize ↔
        r.bufSize ≤ a.bufSize := by
      by_cases zero : r.bufSize = 0
      · rw [if_neg (not_not.2 zero), zero]
        exact iff_of_true (UInt16.le_refl _) (UInt16.zero_le)
      · rw [if_pos zero]
    dsimp only
    rw [adopted]
    constructor
    · intro modest r' found _ _ _
      obtain rfl := Option.some.inj found
      exact modest rfl
    · intro modest _
      exact modest r rfl other.2.1 other.2.2 (not_not.1 declined)

/-- The handshake keeps its promises exactly when the request fits its frame and the response
asks for no more than the request. -/
theorem baHandshake_iff {cap : Nat} {r : AddbaReq} {req : Bytes}
    (sent : baOriginatorAddba cap r = some (a, req)) (body : Bytes) :
    (BaAgreed a req ∧ BaNotGrown a body) ↔ (r.Fits ∧ BaModest a body) := by
  have pending : a.state = .pending := by
    obtain ⟨f, _, same⟩ := Option.map_eq_some_iff.1 sent
    obtain ⟨rfl, rfl⟩ := Prod.mk.inj same
    rfl
  rw [baAgreed_iff sent, baNotGrown_iff pending]

/-- A request for 64 buffers without aggregates, and its agreement. -/
def baAsk : AddbaReq :=
  { dialogToken := 1, tid := 5, amsdu := false, immediate := true, bufSize := 64, timeout := 0
    ssn := 0 }

def baAsked : BaAgreement :=
  { state := .pending, tid := 5, dialogToken := 1, amsdu := false, immediate := true
    bufSize := 64, timeout := 0, ssn := 0 }

theorem baHandshake_asked :
    BaAgreed baAsked [3, 0, 1, 0x16, 0x10, 0, 0, 0, 0] ∧
      BaNotGrown baAsked [3, 1, 1, 0, 0, 0x16, 0x10, 0, 0] := by
  have sent : baOriginatorAddba 16 baAsk =
      some (baAsked, [3, 0, 1, 0x16, 0x10, 0, 0, 0, 0]) := by decide
  have parsed : baParseAddbaRsp [3, 1, 1, 0, 0, 0x16, 0x10, 0, 0] =
      some (baGrant baAsk) := by decide
  refine (baHandshake_iff sent [3, 1, 1, 0, 0, 0x16, 0x10, 0, 0]).2 ⟨⟨by decide, by decide⟩, ?_⟩
  intro r found _ _ _
  obtain rfl := Option.some.inj (parsed.symm.trans found)
  decide

/-- A response of 128 buffers with aggregates is adopted whole, and a TID of five bits or a
buffer size of eleven leaves the ends apart. -/
theorem baHandshake_grows :
    ¬BaNotGrown baAsked [3, 1, 1, 0, 0, 0x17, 0x20, 0, 0] ∧
      (∃ a req, baOriginatorAddba 16 { baAsk with tid := 16 } = some (a, req) ∧
        ¬BaAgreed a req) ∧
      ∃ a req, baOriginatorAddba 16 { baAsk with bufSize := 1024 } = some (a, req) ∧
        ¬BaAgreed a req := by
  refine ⟨?_, ⟨_, _, rfl, ?_⟩, ⟨_, _, rfl, ?_⟩⟩
  · intro kept
    exact absurd (kept (by decide)).1 (by decide)
  · rw [@baAgreed_iff _ 16 { baAsk with tid := 16 } _ rfl]
    exact fun fits => absurd fits.1 (by decide)
  · rw [@baAgreed_iff _ 16 { baAsk with bufSize := 1024 } _ rfl]
    exact fun fits => absurd (fits.2 (by decide)) (by decide)

end Agreement

end Rf2a4m1
