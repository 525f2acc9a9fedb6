import Mathlib.Tactic.IntervalCases
import Rf2a4m1.Crypto.AesInverse
import Rf2a4m1.Crypto.Codec

/-!
# What CCMP authenticates of a header

A header field by field, and the fields on which two headers agree when their
additional authenticated data and nonces do.
-/

set_option autoImplicit false

namespace Rf2a4m1

open ByteString

/-- The fields of a MAC header up to QoS Control. -/
structure MacHeader where
  version : Nat
  type : Nat
  subtype : Nat
  toDs : Bool
  fromDs : Bool
  moreFrag : Bool
  retry : Bool
  pwrMgt : Bool
  moreData : Bool
  isProtected : Bool
  order : Bool
  duration : Bytes
  addr1 : Bytes
  addr2 : Bytes
  addr3 : Bytes
  fragment : Nat
  sequence : Nat
  addr4 : Option Bytes
  tid : Option Nat
  qosRest : Option (Nat × UInt8)

/-- The fourth address is there between two distribution systems, QoS Control in data frames of
the upper subtypes. -/
def macHeader (hdr : Bytes) : MacHeader :=
  let fc0 := (byteAt hdr 0).toNat
  let fc1 := (byteAt hdr 1).toNat
  let wds := fc1.testBit 0 && fc1.testBit 1
  let qos : Bool := fc0 / 4 % 4 = 2 ∧ 8 ≤ fc0 / 16
  let qc := if wds then 30 else 24
  { version := fc0 % 4
    type := fc0 / 4 % 4
    subtype := fc0 / 16
    toDs := fc1.testBit 0
    fromDs := fc1.testBit 1
    moreFrag := fc1.testBit 2
    retry := fc1.testBit 3
    pwrMgt := fc1.testBit 4
    moreData := fc1.testBit 5
    isProtected := fc1.testBit 6
    order := fc1.testBit 7
    duration := slice hdr 2 2
    addr1 := slice hdr 4 6
    addr2 := slice hdr 10 6
    addr3 := slice hdr 16 6
    fragment := (byteAt hdr 22).toNat % 16
    sequence := (byteAt hdr 22).toNat / 16 + 16 * (byteAt hdr 23).toNat
    addr4 := if wds then some (slice hdr 24 6) else none
    tid := if qos then some ((byteAt hdr qc).toNat % 16) else none
    qosRest := if qos then some ((byteAt hdr qc).toNat / 16, byteAt hdr (qc + 1)) else none }

/-- Agreement on every field that a retransmission keeps. Of the subtype of a data frame only
the QoS bit counts; Duration, Retry, Power Management, More Data, the sequence number and the
rest of QoS Control do not. -/
structure SameProtected (h h' : MacHeader) : Prop where
  version : h.version = h'.version
  type : h.type = h'.type
  quality : h.subtype / 8 = h'.subtype / 8
  subtype : h.type = 0 → h.subtype = h'.subtype
  toDs : h.toDs = h'.toDs
  fromDs : h.fromDs = h'.fromDs
  moreFrag : h.moreFrag = h'.moreFrag
  isProtected : h.isProtected = h'.isProtected
  order : h.order = h'.order
  addr1 : h.addr1 = h'.addr1
  addr2 : h.addr2 = h'.addr2
  addr3 : h.addr3 = h'.addr3
  fragment : h.fragment = h'.fragment
  addr4 : h.addr4 = h'.addr4
  tid : h.tid = h'.tid

section Octet

variable {x y : UInt8}

theorem isMgmt_iff (x : UInt8) : x &&& 0x0c = 0x00 ↔ x.toNat / 4 % 4 = 0 := by
  apply octet_cases (P := fun x => x &&& 0x0c = 0x00 ↔ x.toNat / 4 % 4 = 0)
  decide +kernel

theorem qosData_iff (x : UInt8) :
    (x &&& 0x0c = 0x08 ∧ x &&& 0x80 ≠ 0) ↔ x.toNat / 4 % 4 = 2 ∧ 8 ≤ x.toNat / 16 := by
  apply octet_cases (P := fun x =>
    (x &&& 0x0c = 0x08 ∧ x &&& 0x80 ≠ 0) ↔ x.toNat / 4 % 4 = 2 ∧ 8 ≤ x.toNat / 16)
  decide +kernel

theorem wds_iff (x : UInt8) : x &&& 0x03 = 0x03 ↔ (x.toNat.testBit 0 && x.toNat.testBit 1) = true := by
  apply octet_cases (P := fun x =>
    x &&& 0x03 = 0x03 ↔ (x.toNat.testBit 0 && x.toNat.testBit 1) = true)
  decide +kernel

theorem fc0_masked (x : UInt8) : (x &&& 0x8f).toNat = x.toNat % 16 + 128 * (x.toNat / 128) := by
  apply octet_cases (P := fun x => (x &&& 0x8f).toNat = x.toNat % 16 + 128 * (x.toNat / 128))
  decide +kernel

theorem fc1_masked (x : UInt8) : (x &&& 0xc7).toNat = x.toNat % 8 + 64 * (x.toNat / 64) := by
  apply octet_cases (P := fun x => (x &&& 0xc7).toNat = x.toNat % 8 + 64 * (x.toNat / 64))
  decide +kernel

theorem low_masked (x : UInt8) : (x &&& 0x0f).toNat = x.toNat % 16 := by
  rw [UInt8.toNat_and]
  exact Nat.and_two_pow_sub_one_eq_mod _ 4

theorem low_eq_iff : x &&& 0x0f = y &&& 0x0f ↔ x.toNat % 16 = y.toNat % 16 := by
  rw [← UInt8.toNat_inj, low_masked, low_masked]

/-- The first octet of the AAD: the subtype of a management frame is kept. -/
def aadFc0 (x : UInt8) : UInt8 := if x &&& 0x0c = 0x00 then x else x &&& 0x8f

theorem aadFc0_eq_iff : aadFc0 x = aadFc0 y ↔
    x.toNat % 4 = y.toNat % 4 ∧ x.toNat / 4 % 4 = y.toNat / 4 % 4 ∧
      x.toNat / 16 / 8 = y.toNat / 16 / 8 ∧ (x.toNat / 4 % 4 = 0 → x.toNat / 16 = y.toNat / 16) := by
  have value (x : UInt8) : (aadFc0 x).toNat =
      if x.toNat / 4 % 4 = 0 then x.toNat else x.toNat % 16 + 128 * (x.toNat / 128) := by
    unfold aadFc0
    by_cases mgmt : x &&& 0x0c = 0x00
    · rw [if_pos mgmt, if_pos ((isMgmt_iff x).1 mgmt)]
    · rw [if_neg mgmt, if_neg (fun zero => mgmt ((isMgmt_iff x).2 zero)), fc0_masked]
  rw [← UInt8.toNat_inj, value, value]
  have below := x.toNat_lt
  have below' := y.toNat_lt
  split <;> split <;> omega

theorem aadFc1_eq_iff : x &&& 0xc7 = y &&& 0xc7 ↔
    x.toNat.testBit 0 = y.toNat.testBit 0 ∧ x.toNat.testBit 1 = y.toNat.testBit 1 ∧
      x.toNat.testBit 2 = y.toNat.testBit 2 ∧ x.toNat.testBit 6 = y.toNat.testBit 6 ∧
      x.toNat.testBit 7 = y.toNat.testBit 7 := by
  have bit (i : Nat) :
      x.toNat.testBit i = y.toNat.testBit i ↔ x.toNat / 2 ^ i % 2 = y.toNat / 2 ^ i % 2 := by
    rw [Nat.testBit_eq_decide_div_mod_eq, Nat.testBit_eq_decide_div_mod_eq, decide_eq_decide]
    omega
  have below := x.toNat_lt
  have below' := y.toNat_lt
  have low : x.toNat % 8 = y.toNat % 8 ↔ x.toNat / 2 ^ 0 % 2 = y.toNat / 2 ^ 0 % 2 ∧
      x.toNat / 2 ^ 1 % 2 = y.toNat / 2 ^ 1 % 2 ∧ x.toNat / 2 ^ 2 % 2 = y.toNat / 2 ^ 2 % 2 := by
    omega
  have high : x.toNat / 64 = y.toNat / 64 ↔ x.toNat / 2 ^ 6 % 2 = y.toNat / 2 ^ 6 % 2 ∧
      x.toNat / 2 ^ 7 % 2 = y.toNat / 2 ^ 7 % 2 := by
    omega
  have parts : x.toNat % 8 + 64 * (x.toNat / 64) = y.toNat % 8 + 64 * (y.toNat / 64) ↔
      x.toNat % 8 = y.toNat % 8 ∧ x.toNat / 64 = y.toNat / 64 := by
    omega
  rw [← UInt8.toNat_inj, fc1_masked, fc1_masked, parts, low, high, bit, bit, bit, bit, bit,
    and_assoc, and_assoc]

end Octet

section Header

variable {h h' : Bytes} {pn pn' : Nat}

theorem ccmpFcHasA4_eq (h : Bytes) :
    ccmpFcHasA4 h = ((macHeader h).toDs && (macHeader h).fromDs) := by
  apply Bool.eq_iff_iff.2
  unfold ccmpFcHasA4
  rw [decide_eq_true_iff]
  exact wds_iff (byteAt h 1)

theorem ccmpFcIsQosData_iff (h : Bytes) :
    ccmpFcIsQosData h = true ↔ (macHeader h).type = 2 ∧ 8 ≤ (macHeader h).subtype := by
  unfold ccmpFcIsQosData
  rw [Bool.and_eq_true, decide_eq_true_iff, decide_eq_true_iff]
  exact qosData_iff (byteAt h 0)

theorem ccmpFcIsQosData_eq (h : Bytes) : ccmpFcIsQosData h =
    decide ((byteAt h 0).toNat / 4 % 4 = 2 ∧ 8 ≤ (byteAt h 0).toNat / 16) :=
  Bool.eq_iff_iff.2 ((ccmpFcIsQosData_iff h).trans (decide_eq_true_iff).symm)

theorem macHeader_addr4 (h : Bytes) :
    (macHeader h).addr4 = if ccmpFcHasA4 h then some (slice h 24 6) else none := by
  rw [ccmpFcHasA4_eq]
  rfl

theorem macHeader_tid (h : Bytes) :
    (macHeader h).tid = if ccmpFcIsQosData h then
      some ((byteAt h (if ccmpFcHasA4 h then 30 else 24)).toNat % 16) else none := by
  rw [ccmpFcIsQosData_eq, ccmpFcHasA4_eq]
  rfl

theorem macHeader_qosRest (h : Bytes) :
    (macHeader h).qosRest = if ccmpFcIsQosData h then
      some ((byteAt h (if ccmpFcHasA4 h then 30 else 24)).toNat / 16,
        byteAt h ((if ccmpFcHasA4 h then 30 else 24) + 1)) else none := by
  rw [ccmpFcIsQosData_eq, ccmpFcHasA4_eq]
  rfl

/-- Three addresses in a row. -/
theorem addresses_iff : slice h 4 18 = slice h' 4 18 ↔
    slice h 4 6 = slice h' 4 6 ∧ slice h 10 6 = slice h' 10 6 ∧ slice h 16 6 = slice h' 16 6 := by
  have split (b : Bytes) : slice b 4 18 = slice b 4 6 ++ (slice b 10 6 ++ slice b 16 6) := by
    rw [← slice_add b 10 6 6, ← slice_add b 4 6 12]
  constructor
  · intro same
    have part (off : Nat) (inside : 4 ≤ off ∧ off + 6 ≤ 22) : slice h off 6 = slice h' off 6 := by
      have cut (b : Bytes) : slice (slice b 4 18) (off - 4) 6 = slice b off 6 := by
        rw [slice_slice (by omega), Nat.add_sub_cancel' inside.1]
      rw [← cut h, ← cut h', same]
    exact ⟨part 4 (by decide), part 10 (by decide), part 16 (by decide)⟩
  · rintro ⟨first, second, third⟩
    rw [split, split, first, second, third]

/-- The AAD without what only some headers have. -/
def aadBase (h : Bytes) : Bytes :=
  [aadFc0 (byteAt h 0), byteAt h 1 &&& 0xc7] ++ slice h 4 18 ++ [byteAt h 22 &&& 0x0f, 0x00]

def aadAddr4 (h : Bytes) : Bytes := if ccmpFcHasA4 h then slice h 24 6 else []

def aadQos (h : Bytes) : Bytes :=
  if ccmpFcIsQosData h then [byteAt h (if ccmpFcHasA4 h then 30 else 24) &&& 0x0f, 0x00] else []

theorem buildAadNonce_aad (h : Bytes) (pn : Nat) :
    (buildAadNonce h pn).1 = aadBase h ++ aadAddr4 h ++ aadQos h := rfl

theorem aadBase_length (long : 24 ≤ h.length) : (aadBase h).length = 22 := by
  have addresses : (slice h 4 18).length = 18 := by
    rw [slice_length]
    omega
  unfold aadBase
  rw [List.length_append, List.length_append, addresses]
  rfl

theorem aadBase_iff (long : 24 ≤ h.length) (long' : 24 ≤ h'.length) : aadBase h = aadBase h' ↔
    aadFc0 (byteAt h 0) = aadFc0 (byteAt h' 0) ∧
      byteAt h 1 &&& 0xc7 = byteAt h' 1 &&& 0xc7 ∧ slice h 4 18 = slice h' 4 18 ∧
      byteAt h 22 &&& 0x0f = byteAt h' 22 &&& 0x0f := by
  unfold aadBase
  constructor
  · intro same
    have addresses : (slice h 4 18).length = (slice h' 4 18).length := by
      rw [slice_length, slice_length]
      omega
    obtain ⟨front, back⟩ := List.append_inj' same rfl
    obtain ⟨control, addrs⟩ := List.append_inj front rfl
    obtain ⟨fc0, rest⟩ := List.cons.inj control
    exact ⟨fc0, (List.cons.inj rest).1, addrs, (List.cons.inj back).1⟩
  · rintro ⟨fc0, fc1, addrs, fragment⟩
    rw [fc0, fc1, addrs, fragment]

/-- The nonce ends with the second address and the packet number. -/
theorem nonce_bytes (long : 24 ≤ h.length) : ∃ flags,
    (buildAadNonce h pn).2.bytes = flags :: (slice h 10 6 ++ be 6 pn) := by
  refine ⟨_, Octets.of_bytes_of_length ?_⟩
  rw [List.length_append, List.length_cons, slice_length, be_length]
  omega

theorem be_eq_iff {n v w : Nat} : be n v = be n w ↔ v % 256 ^ n = w % 256 ^ n := by
  constructor
  · intro same
    rw [← ofBe_be, same, ofBe_be]
  · intro same
    unfold be
    rw [← le_mod n v, same, le_mod]

end Header

section Complete

variable {h h' : Bytes}

theorem byteAt_of_slice {off n i : Nat} (same : slice h off n = slice h' off n)
    (from' : off ≤ i) (within : i < off + n) : byteAt h i = byteAt h' i := by
  have cut (b : Bytes) : byteAt (slice b off n) (i - off) = byteAt b i := by
    rw [byteAt_slice (by omega), Nat.add_sub_cancel' from']
  rw [← cut h, ← cut h', same]

/-- An octet is its low and its high half. -/
theorem octet_halves {x y : UInt8} (low : x.toNat % 16 = y.toNat % 16)
    (high : x.toNat / 16 = y.toNat / 16) : x = y := by
  apply UInt8.toNat_inj.1
  omega

theorem octet_bits {x y : UInt8}
    (bits : ∀ i < 8, x.toNat.testBit i = y.toNat.testBit i) : x = y := by
  apply UInt8.toNat_inj.1
  apply Nat.eq_of_testBit_eq
  intro i
  by_cases inside : i < 8
  · exact bits i inside
  · have small (x : UInt8) : x.toNat.testBit i = false :=
      Nat.testBit_lt_two_pow (Nat.lt_of_lt_of_le x.toNat_lt
        (Nat.pow_le_pow_right (by decide) (Nat.not_lt.1 inside)))
    rw [small, small]

theorem frameControl_complete (same : macHeader h = macHeader h') :
    byteAt h 0 = byteAt h' 0 ∧ byteAt h 1 = byteAt h' 1 := by
  constructor
  · have version : (byteAt h 0).toNat % 4 = (byteAt h' 0).toNat % 4 :=
      congrArg MacHeader.version same
    have type : (byteAt h 0).toNat / 4 % 4 = (byteAt h' 0).toNat / 4 % 4 :=
      congrArg MacHeader.type same
    exact octet_halves (by omega) (congrArg MacHeader.subtype same)
  · apply octet_bits
    intro i inside
    interval_cases i
    · exact congrArg MacHeader.toDs same
    · exact congrArg MacHeader.fromDs same
    · exact congrArg MacHeader.moreFrag same
    · exact congrArg MacHeader.retry same
    · exact congrArg MacHeader.pwrMgt same
    · exact congrArg MacHeader.moreData same
    · exact congrArg MacHeader.isProtected same
    · exact congrArg MacHeader.order same

theorem sequenceControl_complete (same : macHeader h = macHeader h') :
    byteAt h 22 = byteAt h' 22 ∧ byteAt h 23 = byteAt h' 23 := by
  have fragment : (byteAt h 22).toNat % 16 = (byteAt h' 22).toNat % 16 :=
    congrArg MacHeader.fragment same
  have sequence : (byteAt h 22).toNat / 16 + 16 * (byteAt h 23).toNat =
      (byteAt h' 22).toNat / 16 + 16 * (byteAt h' 23).toNat := congrArg MacHeader.sequence same
  have first : byteAt h 22 = byteAt h' 22 := by
    have below := (byteAt h 22).toNat_lt
    have below' := (byteAt h' 22).toNat_lt
    exact octet_halves fragment (by omega)
  refine ⟨first, ?_⟩
  apply UInt8.toNat_inj.1
  rw [first] at sequence
  omega

/-- The octets that every header has. -/
theorem macHeader_base (same : macHeader h = macHeader h') {i : Nat} (within : i < 24) :
    byteAt h i = byteAt h' i := by
  rcases Nat.lt_or_ge i 4 with first | _
  · rcases Nat.lt_or_ge i 2 with control | _
    · interval_cases i
      · exact (frameControl_complete same).1
      · exact (frameControl_complete same).2
    · exact byteAt_of_slice (congrArg MacHeader.duration same) ‹2 ≤ i› (by omega)
  · rcases Nat.lt_or_ge i 22 with addrs | _
    · have three := addresses_iff.2 ⟨congrArg MacHeader.addr1 same,
        congrArg MacHeader.addr2 same, congrArg MacHeader.addr3 same⟩
      exact byteAt_of_slice three ‹4 ≤ i› (by omega)
    · interval_cases i
      · exact (sequenceControl_complete same).1
      · exact (sequenceControl_complete same).2

theorem macHeader_shape (same : macHeader h = macHeader h') :
    ccmpFcHasA4 h = ccmpFcHasA4 h' ∧ ccmpFcIsQosData h = ccmpFcIsQosData h' ∧
      ccmpHdrSpan h = ccmpHdrSpan h' := by
  obtain ⟨fc0, fc1⟩ := frameControl_complete same
  have a4 : ccmpFcHasA4 h = ccmpFcHasA4 h' := by
    unfold ccmpFcHasA4
    rw [fc1]
  have qos : ccmpFcIsQosData h = ccmpFcIsQosData h' := by
    unfold ccmpFcIsQosData
    rw [fc0]
  refine ⟨a4, qos, ?_⟩
  unfold ccmpHdrSpan
  rw [a4, qos]

theorem qosControl_complete (same : macHeader h = macHeader h')
    (isQos : ccmpFcIsQosData h' = true) {at' : Nat}
    (place : at' = if ccmpFcHasA4 h' then 30 else 24) :
    byteAt h at' = byteAt h' at' ∧ byteAt h (at' + 1) = byteAt h' (at' + 1) := by
  obtain ⟨a4, qos, _⟩ := macHeader_shape same
  have tid := congrArg MacHeader.tid same
  have rest := congrArg MacHeader.qosRest same
  rw [macHeader_tid, macHeader_tid, a4, qos, if_pos isQos, if_pos isQos, ← place] at tid
  rw [macHeader_qosRest, macHeader_qosRest, a4, qos, if_pos isQos, if_pos isQos, ← place] at rest
  obtain ⟨high, second⟩ := Prod.mk.inj (Option.some.inj rest)
  exact ⟨octet_halves (Option.some.inj tid) high, second⟩

/-- Past the base header there is a fourth address, or QoS Control. -/
theorem ccmpHdrSpan_place {i : Nat} (base : 24 ≤ i) (within : i < ccmpHdrSpan h) :
    ccmpFcHasA4 h = true ∧ i < 30 ∨ ccmpFcIsQosData h = true ∧
      (i = (if ccmpFcHasA4 h then 30 else 24) ∨ i = (if ccmpFcHasA4 h then 30 else 24) + 1) := by
  unfold ccmpHdrSpan at within
  by_cases isQos : ccmpFcIsQosData h = true
  · rw [if_pos isQos] at within
    by_cases wds : ccmpFcHasA4 h = true
    · rw [if_pos wds] at within ⊢
      rcases Nat.lt_or_ge i 30 with inside | _
      · exact Or.inl ⟨wds, inside⟩
      · exact Or.inr ⟨isQos, by omega⟩
    · rw [if_neg wds] at within ⊢
      exact Or.inr ⟨isQos, by omega⟩
  · rw [if_neg isQos] at within
    by_cases wds : ccmpFcHasA4 h = true
    · rw [if_pos wds] at within
      exact Or.inl ⟨wds, by omega⟩
    · rw [if_neg wds] at within
      omega

/-- The fields are all there is to a header. -/
theorem macHeader_complete (long : ccmpHdrSpan h ≤ h.length) (long' : ccmpHdrSpan h' ≤ h'.length)
    (same : macHeader h = macHeader h') :
    h.take (ccmpHdrSpan h) = h'.take (ccmpHdrSpan h') := by
  obtain ⟨a4, _, span⟩ := macHeader_shape same
  have taken (b : Bytes) {n i : Nat} (within : i < n) : byteAt (b.take n) i = byteAt b i := by
    simp [byteAt, within]
  apply byteAt_ext
  · rw [List.length_take, List.length_take, span]
    omega
  intro i within
  rw [List.length_take] at within
  rw [taken h (by omega), taken h' (by omega)]
  rcases Nat.lt_or_ge i 24 with first | past
  · exact macHeader_base same first
  rcases ccmpHdrSpan_place past (by omega : i < ccmpHdrSpan h') with ⟨wds, inside⟩ | ⟨isQos, place⟩
  · have addr4 := congrArg MacHeader.addr4 same
    rw [macHeader_addr4, macHeader_addr4, a4, if_pos wds, if_pos wds] at addr4
    exact byteAt_of_slice (Option.some.inj addr4) past inside
  · have control := qosControl_complete same isQos rfl
    rcases place with rfl | rfl
    · exact control.1
    · exact control.2

end Complete

section Binding

variable {h h' : Bytes} {pn pn' : Nat}

theorem ccmpHdrSpan_base (h : Bytes) : 24 ≤ ccmpHdrSpan h := by
  unfold ccmpHdrSpan
  omega

theorem aad_binds (long : ccmpHdrSpan h ≤ h.length) (long' : ccmpHdrSpan h' ≤ h'.length)
    (same : (buildAadNonce h pn).1 = (buildAadNonce h' pn').1) :
    SameProtected (macHeader h) (macHeader h') := by
  have base := Nat.le_trans (ccmpHdrSpan_base h) long
  have base' := Nat.le_trans (ccmpHdrSpan_base h') long'
  rw [buildAadNonce_aad, buildAadNonce_aad, List.append_assoc, List.append_assoc] at same
  obtain ⟨front, back⟩ :=
    List.append_inj same ((aadBase_length base).trans (aadBase_length base').symm)
  obtain ⟨fc0, fc1, addrs, fragment⟩ := (aadBase_iff base base').1 front
  obtain ⟨version, type, quality, subtype⟩ := aadFc0_eq_iff.1 fc0
  obtain ⟨toDs, fromDs, moreFrag, isProtected, order⟩ := aadFc1_eq_iff.1 fc1
  obtain ⟨addr1, addr2, addr3⟩ := addresses_iff.1 addrs
  have a4 : ccmpFcHasA4 h = ccmpFcHasA4 h' := by
    rw [ccmpFcHasA4_eq, ccmpFcHasA4_eq]
    exact congrArg₂ (· && ·) toDs fromDs
  have qos : ccmpFcIsQosData h = ccmpFcIsQosData h' := by
    apply Bool.eq_iff_iff.2
    rw [ccmpFcIsQosData_iff, ccmpFcIsQosData_iff]
    change (byteAt h 0).toNat / 4 % 4 = 2 ∧ 8 ≤ (byteAt h 0).toNat / 16 ↔
      (byteAt h' 0).toNat / 4 % 4 = 2 ∧ 8 ≤ (byteAt h' 0).toNat / 16
    have below := (byteAt h 0).toNat_lt
    have below' := (byteAt h' 0).toNat_lt
    omega
  have far : (aadAddr4 h).length = (aadAddr4 h').length := by
    unfold aadAddr4
    unfold ccmpHdrSpan at long long'
    rw [a4] at long ⊢
    split
    · rename_i has
      rw [if_pos has] at long long'
      rw [slice_length, slice_length]
      omega
    · rfl
  obtain ⟨fourth, control⟩ := List.append_inj back far
  refine
    { version := version, type := type, quality := quality, subtype := subtype, toDs := toDs
      fromDs := fromDs, moreFrag := moreFrag, isProtected := isProtected, order := order
      addr1 := addr1, addr2 := addr2, addr3 := addr3, fragment := low_eq_iff.1 fragment
      addr4 := ?_, tid := ?_ }
  · rw [macHeader_addr4, macHeader_addr4]
    unfold aadAddr4 at fourth
    rw [a4] at fourth ⊢
    split
    · rename_i has
      rw [if_pos has, if_pos has] at fourth
      rw [fourth]
    · rfl
  · rw [macHeader_tid, macHeader_tid]
    unfold aadQos at control
    rw [qos] at control ⊢
    split
    · rename_i has
      rw [if_pos has, if_pos has] at control
      rw [low_eq_iff.1 (List.cons.inj control).1]
    · rfl

theorem aadNonce_of_same (same : SameProtected (macHeader h) (macHeader h'))
    (number : pn % 2 ^ 48 = pn' % 2 ^ 48) : buildAadNonce h pn = buildAadNonce h' pn' := by
  have fc0 : aadFc0 (byteAt h 0) = aadFc0 (byteAt h' 0) :=
    aadFc0_eq_iff.2 ⟨same.version, same.type, same.quality, same.subtype⟩
  have fc1 : byteAt h 1 &&& 0xc7 = byteAt h' 1 &&& 0xc7 :=
    aadFc1_eq_iff.2 ⟨same.toDs, same.fromDs, same.moreFrag, same.isProtected, same.order⟩
  have addrs : slice h 4 18 = slice h' 4 18 := addresses_iff.2 ⟨same.addr1, same.addr2, same.addr3⟩
  have fragment : byteAt h 22 &&& 0x0f = byteAt h' 22 &&& 0x0f := low_eq_iff.2 same.fragment
  have a4 : ccmpFcHasA4 h = ccmpFcHasA4 h' := by
    rw [ccmpFcHasA4_eq, ccmpFcHasA4_eq, same.toDs, same.fromDs]
  have qos : ccmpFcIsQosData h = ccmpFcIsQosData h' := by
    have type := same.type
    have quality := same.quality
    have below : (macHeader h).subtype < 16 := by
      have octet := (byteAt h 0).toNat_lt
      change (byteAt h 0).toNat / 16 < 16
      omega
    have below' : (macHeader h').subtype < 16 := by
      have octet := (byteAt h' 0).toNat_lt
      change (byteAt h' 0).toNat / 16 < 16
      omega
    apply Bool.eq_iff_iff.2
    rw [ccmpFcIsQosData_iff, ccmpFcIsQosData_iff]
    omega
  have mgmt : (byteAt h 0 &&& 0x0c = 0x00) ↔ (byteAt h' 0 &&& 0x0c = 0x00) := by
    have type : (byteAt h 0).toNat / 4 % 4 = (byteAt h' 0).toNat / 4 % 4 := same.type
    rw [isMgmt_iff, isMgmt_iff, type]
  have fourth := same.addr4
  have tid := same.tid
  rw [macHeader_addr4, macHeader_addr4, a4] at fourth
  rw [macHeader_tid, macHeader_tid, a4, qos] at tid
  have addr4 : ccmpFcHasA4 h' = true → slice h 24 6 = slice h' 24 6 := by
    intro has
    rw [if_pos has, if_pos has] at fourth
    exact Option.some.inj fourth
  have priority : ccmpFcIsQosData h' = true →
      byteAt h (if ccmpFcHasA4 h' then 30 else 24) &&& 0x0f =
        byteAt h' (if ccmpFcHasA4 h' then 30 else 24) &&& 0x0f := by
    intro has
    rw [if_pos has, if_pos has] at tid
    exact low_eq_iff.2 (Option.some.inj tid)
  have second : slice h 10 6 = slice h' 10 6 := same.addr2
  have counter : be 6 pn = be 6 pn' := be_eq_iff.2 number
  apply Prod.ext
  · rw [buildAadNonce_aad, buildAadNonce_aad]
    unfold aadBase aadAddr4 aadQos
    rw [fc0, fc1, addrs, fragment, a4, qos]
    congr 1
    · split
      · rename_i has
        rw [addr4 has]
      · rfl
    · split
      · rename_i has
        rw [priority has]
      · rfl
  · unfold buildAadNonce
    dsimp only
    rw [a4, qos, second, counter]
    split
    · rename_i has
      rw [priority has]
      simp only [mgmt]
    · simp only [mgmt]

end Binding

/-- AAD and nonce bind the fields a retransmission keeps and the packet number, and nothing
else; the AAD fits its buffer. -/
theorem buildAadNonce_binds (h h' : Bytes) (pn pn' : Nat) (long : ccmpHdrSpan h ≤ h.length)
    (long' : ccmpHdrSpan h' ≤ h'.length) :
    (buildAadNonce h pn = buildAadNonce h' pn' ↔
      SameProtected (macHeader h) (macHeader h') ∧ pn % 2 ^ 48 = pn' % 2 ^ 48) ∧
      (buildAadNonce h pn).1.length ≤ 30 := by
  have base := Nat.le_trans (ccmpHdrSpan_base h) long
  have base' := Nat.le_trans (ccmpHdrSpan_base h') long'
  refine ⟨⟨fun same => ⟨aad_binds long long' (congrArg Prod.fst same), ?_⟩, fun same =>
    aadNonce_of_same same.1 same.2⟩, ?_⟩
  · obtain ⟨flags, nonce⟩ := @nonce_bytes h pn base
    obtain ⟨flags', nonce'⟩ := @nonce_bytes h' pn' base'
    have tails := (List.cons.inj (nonce.symm.trans
      ((congrArg (fun r : Bytes × Octets 13 => r.2.bytes) same).trans nonce'))).2
    exact be_eq_iff.1 (List.append_inj' tails (by rw [be_length, be_length])).2
  · rw [buildAadNonce_aad, List.length_append, List.length_append, aadBase_length base]
    have fourth : (aadAddr4 h).length ≤ 6 := by
      unfold aadAddr4
      split
      · rw [slice_length]
        omega
      · exact Nat.zero_le 6
    have control : (aadQos h).length ≤ 2 := by
      unfold aadQos
      split
      · exact Nat.le_refl 2
      · exact Nat.zero_le 2
    omega

/-- A data frame and its retransmission. -/
theorem buildAadNonce_binds_demo :
    buildAadNonce ([0x88, 0x41] ++ List.replicate 24 0) 1 =
      buildAadNonce ([0x88, 0x49] ++ List.replicate 24 0) (2 ^ 48 + 1) :=
  (buildAadNonce_binds ([0x88, 0x41] ++ List.replicate 24 0) ([0x88, 0x49] ++ List.replicate 24 0)
    1 (2 ^ 48 + 1) (by decide) (by decide)).1.2
    ⟨{ version := rfl, type := rfl, quality := rfl, subtype := fun _ => rfl, toDs := rfl
       fromDs := rfl, moreFrag := rfl, isProtected := rfl, order := rfl, addr1 := rfl, addr2 := rfl
       addr3 := rfl, fragment := rfl, addr4 := rfl, tid := rfl }, by decide⟩

end Rf2a4m1
