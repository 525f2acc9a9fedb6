import Mathlib.Tactic.IntervalCases
import Rf2a4m1.Wire.Qos

/-!
# Traffic specifications on the air

A TSPEC element has a few bits for each field of its traffic information, so
what is read back is the specification with those fields cut to their bits.
-/

set_option autoImplicit false

namespace Rf2a4m1

open ByteString

section Bits

theorem eq_of_bits {a b : UInt8} (bits : ∀ k (inside : k < 8), a.toBitVec[k] = b.toBitVec[k]) :
    a = b :=
  UInt8.eq_of_toBitVec_eq (BitVec.eq_of_getElem_eq bits)

/-- A flag is read off the lowest bit. -/
theorem flag_of_bit {v : UInt32} {b : Bool} (bit : v.toBitVec[0] = b) :
    decide (v &&& 1 ≠ 0) = b := by
  have low : v &&& 1 = if b then 1 else 0 := by
    apply UInt32.eq_of_toBitVec_eq
    apply BitVec.eq_of_getElem_eq
    intro k inside
    rcases Nat.eq_zero_or_pos k with rfl | pos
    · cases b <;> simp [bit]
    · have other : (1#32)[k] = false := by
        simp only [BitVec.getElem_one, decide_eq_false_iff_not]
        omega
      cases b <;> simp [other]
  rw [low]
  cases b <;> rfl

theorem bitIf_bit (b : Bool) (n : UInt32) (k : Nat) (inside : k < 32) :
    (bitIf b n).toBitVec[k] = (b && (1 <<< n : UInt32).toBitVec[k]) := by
  cases b <;> simp [bitIf]

end Bits

attribute [ext] TsInfo Tspec

/-- The fields cut to the bits there are for them. -/
def TsInfo.onAir (i : TsInfo) : TsInfo :=
  { i with tsid := i.tsid &&& 0x0f, direction := i.direction &&& 0x03,
           accessPolicy := i.accessPolicy &&& 0x03, userPriority := i.userPriority &&& 0x07,
           ackPolicy := i.ackPolicy &&& 0x03 }

def Tspec.onAir (t : Tspec) : Tspec := { t with ts := t.ts.onAir }

theorem TsInfo.onAir_onAir (i : TsInfo) : i.onAir.onAir = i.onAir := by
  simp [TsInfo.onAir, UInt8.and_assoc]

theorem Tspec.onAir_onAir (t : Tspec) : t.onAir.onAir = t.onAir := by
  simp only [Tspec.onAir, TsInfo.onAir_onAir]

section Info

variable (i : TsInfo)

theorem tsInfoUnpack_tsid : (tsInfoUnpack (tsInfoPack i)).tsid = i.tsid &&& 0x0f := by
  apply eq_of_bits
  intro k inside
  interval_cases k <;> simp [tsInfoUnpack, tsInfoPack, bitIf_bit]

theorem tsInfoUnpack_direction :
    (tsInfoUnpack (tsInfoPack i)).direction = i.direction &&& 0x03 := by
  apply eq_of_bits
  intro k inside
  interval_cases k <;> simp [tsInfoUnpack, tsInfoPack, bitIf_bit]

theorem tsInfoUnpack_accessPolicy :
    (tsInfoUnpack (tsInfoPack i)).accessPolicy = i.accessPolicy &&& 0x03 := by
  apply eq_of_bits
  intro k inside
  interval_cases k <;> simp [tsInfoUnpack, tsInfoPack, bitIf_bit]

theorem tsInfoUnpack_userPriority :
    (tsInfoUnpack (tsInfoPack i)).userPriority = i.userPriority &&& 0x07 := by
  apply eq_of_bits
  intro k inside
  interval_cases k <;> simp [tsInfoUnpack, tsInfoPack, bitIf_bit]

theorem tsInfoUnpack_ackPolicy :
    (tsInfoUnpack (tsInfoPack i)).ackPolicy = i.ackPolicy &&& 0x03 := by
  apply eq_of_bits
  intro k inside
  interval_cases k <;> simp [tsInfoUnpack, tsInfoPack, bitIf_bit]

theorem tsInfoUnpack_trafficType :
    (tsInfoUnpack (tsInfoPack i)).trafficType = i.trafficType := by
  apply flag_of_bit
  simp [tsInfoPack, bitIf_bit]

theorem tsInfoUnpack_aggregation :
    (tsInfoUnpack (tsInfoPack i)).aggregation = i.aggregation := by
  apply flag_of_bit
  simp [tsInfoPack, bitIf_bit]

theorem tsInfoUnpack_apsd : (tsInfoUnpack (tsInfoPack i)).apsd = i.apsd := by
  apply flag_of_bit
  simp [tsInfoPack, bitIf_bit]

theorem tsInfoUnpack_schedule : (tsInfoUnpack (tsInfoPack i)).schedule = i.schedule := by
  apply flag_of_bit
  simp [tsInfoPack, bitIf_bit]

theorem tsInfoUnpack_pack : tsInfoUnpack (tsInfoPack i) = i.onAir := by
  apply TsInfo.ext
  · exact tsInfoUnpack_trafficType i
  · exact tsInfoUnpack_tsid i
  · exact tsInfoUnpack_direction i
  · exact tsInfoUnpack_accessPolicy i
  · exact tsInfoUnpack_aggregation i
  · exact tsInfoUnpack_apsd i
  · exact tsInfoUnpack_userPriority i
  · exact tsInfoUnpack_ackPolicy i
  · exact tsInfoUnpack_schedule i

/-- Three octets hold it. -/
theorem tsInfoPack_lt : (tsInfoPack i).toNat < 256 ^ 3 := by
  unfold tsInfoPack
  rw [UInt32.toNat_and]
  exact Nat.lt_of_le_of_lt Nat.and_le_right (by decide)

end Info

section Body

variable (t : Tspec)

@[simp] theorem tspecBodyPut_length : (tspecBodyPut t).length = 55 := by
  simp [tspecBodyPut]

theorem ofLe_put32 (v : UInt32) : UInt32.ofNat (ofLe (le 4 v.toNat)) = v := by
  have small : v.toNat % 256 ^ 4 = v.toNat := Nat.mod_eq_of_lt v.toNat_lt
  rw [ofLe_le, small, UInt32.ofNat_toNat]

theorem ofLe_put16 (v : UInt16) : UInt16.ofNat (ofLe (le 2 v.toNat)) = v := by
  have small : v.toNat % 256 ^ 2 = v.toNat := Nat.mod_eq_of_lt v.toNat_lt
  rw [ofLe_le, small, UInt16.ofNat_toNat]

/-- A field of four octets, behind `off` others. -/
theorem getLe32_field {b : Bytes} {off : Nat} {v : UInt32}
    (field : slice b off 4 = le 4 v.toNat) : getLe32 b off = v := by
  rw [getLe32, field, ofLe_put32]

theorem getLe16_field {b : Bytes} {off : Nat} {v : UInt16}
    (field : slice b off 2 = le 2 v.toNat) : getLe16 b off = v := by
  rw [getLe16, field, ofLe_put16]

/-- What is written is read back, the traffic information cut to its bits. -/
theorem tspecBody_roundtrip : tspecBodyGet (tspecBodyPut t) = t.onAir := by
  apply Tspec.ext
  · have octets : slice (tspecBodyPut t) 0 3 = le 3 (tsInfoPack t.ts).toNat := by
      simp [tspecBodyPut, slice, le]
    have packed : UInt32.ofNat (ofLe (slice (tspecBodyPut t) 0 3)) = tsInfoPack t.ts := by
      rw [octets, ofLe_le, Nat.mod_eq_of_lt (tsInfoPack_lt t.ts), UInt32.ofNat_toNat]
    exact (congrArg tsInfoUnpack packed).trans (tsInfoUnpack_pack t.ts)
  all_goals first
    | apply getLe16_field
      simp [tspecBodyPut, slice, le, putLe16, putLe32, Tspec.onAir]
    | apply getLe32_field
      simp [tspecBodyPut, slice, le, putLe16, putLe32, Tspec.onAir]

/-- The element that carries a specification. -/
theorem tspecBuild_eq {cap : Nat} (room : 57 ≤ cap) :
    tspecBuild cap t = some ([13, 55] ++ tspecBodyPut t) := by
  unfold tspecBuild tspecBodyLen
  exact if_neg (by omega)

theorem tspecParse_body : tspecParse (tspecBodyPut t) = some t.onAir := by
  unfold tspecParse tspecBodyLen
  rw [if_neg (by simp), tspecBody_roundtrip]

end Body

end Rf2a4m1
