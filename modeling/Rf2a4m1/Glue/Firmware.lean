import Mathlib.Algebra.Group.Int.Defs
import Rf2a4m1.Base

/-!
# Firmware upload

The image is a header of two lengths, the interrupt vector block, the code and
the data. Code and data go to the chip in chunks, the vector block last.
-/

set_option autoImplicit false

namespace Rf2a4m1

open ByteString

def mtMcuIvbSize : Nat := 0x40

def mtMcuDlmOffset : UInt32 := 0x80000

def mcuFwUrbMaxPayload : Nat := 0x3800

/-- Conversion of a `u32` to a signed `int`. -/
def asInt (v : UInt32) : Int := if v.toNat < 2 ^ 31 then v.toNat else v.toNat - 2 ^ 32

/-- What one transfer is given: a span of the image, and where it goes on the chip. -/
structure FwChunk where
  off : Nat
  len : Nat
  dst : UInt32
deriving DecidableEq

/-- Which transfers succeed, by their number, and which allocations. -/
structure FwHost where
  xfer : Nat → Bool
  dbuf : Bool
  ivbCopy : Bool

/-- Octets of the transfer buffer that a chunk takes with its framing: what is written to it, and
what is sent, which is padded to a multiple of four. -/
def FwChunk.framed (c : FwChunk) : Nat := max (4 + c.len + 8) (4 + (c.len + 3) / 4 * 4 + 4)

def fwDbufSize : Nat := mcuFwUrbMaxPayload + 12

/-- Chunks until the length is used up or a transfer fails: those handed over, and whether all
of them went through. The first one has number `k`. -/
def dmaFw (xfer : Nat → Bool) (k off : Nat) (len : Int) (dst : UInt32) : List FwChunk × Bool :=
  if len ≤ 0 then ([], true)
  else
    let n := min len.toNat mcuFwUrbMaxPayload
    let c : FwChunk := { off := off, len := n, dst := dst }
    if !xfer k then ([c], false)
    else
      let rest := dmaFw xfer (k + 1) (off + n) (len - n) (dst + UInt32.ofNat n)
      (c :: rest.1, rest.2)
termination_by len.toNat
decreasing_by
  unfold mcuFwUrbMaxPayload
  omega

structure FwHeader where
  ilmLenHdr : UInt32
  dlmLen : UInt32
deriving DecidableEq

def FwHeader.ilmLen (h : FwHeader) : UInt32 := h.ilmLenHdr - UInt32.ofNat mtMcuIvbSize

/-- The header, when its checks pass. The sum is one of 32 bits. -/
def fwHeader (fw : Bytes) : Option FwHeader :=
  if fw.length < 32 then none
  else
    let h : FwHeader := { ilmLenHdr := getLe32 fw 0, dlmLen := getLe32 fw 4 }
    if h.ilmLenHdr.toNat ≤ mtMcuIvbSize then none
    else if fw.length ≠ (32 + h.ilmLenHdr + h.dlmLen).toNat then none
    else some h

/-- What an upload handed over of each part, and whether it got to its end. -/
structure FwUpload where
  ilm : List FwChunk
  dlm : List FwChunk
  ivb : Option (Nat × Nat)
  done : Bool

def FwHeader.ilmOff : Nat := 32 + mtMcuIvbSize

def FwHeader.dlmOff (h : FwHeader) : Nat := FwHeader.ilmOff + h.ilmLen.toNat

/-- The upload of an image whose header was accepted. -/
def fwUpload (host : FwHost) (h : FwHeader) : FwUpload :=
  if !host.dbuf then { ilm := [], dlm := [], ivb := none, done := false }
  else
    let (ilm, ok) := dmaFw host.xfer 0 FwHeader.ilmOff (asInt h.ilmLen) (UInt32.ofNat mtMcuIvbSize)
    if !ok then { ilm := ilm, dlm := [], ivb := none, done := false }
    else
      let (dlm, ok) :=
        if h.dlmLen ≠ 0 then dmaFw host.xfer ilm.length h.dlmOff (asInt h.dlmLen) mtMcuDlmOffset
        else ([], true)
      if !ok ∨ !host.ivbCopy then { ilm := ilm, dlm := dlm, ivb := none, done := false }
      else
        -- the vector block starts the chip; its own transfer has the next number
        { ilm := ilm, dlm := dlm, ivb := some (32, mtMcuIvbSize),
          done := host.xfer (ilm.length + dlm.length) }

def usbLoadFirmware (host : FwHost) (fw : Bytes) : Option FwUpload :=
  (fwHeader fw).map (fwUpload host)

section Chunks

/-- Chunks follow one another from a place in the image to a place on the chip and cover so
many octets. -/
def Tiles (off : Nat) (dst : UInt32) : List FwChunk → Nat → Prop
  | [], covered => covered = 0
  | c :: rest, covered => c.off = off ∧ c.dst = dst ∧ c.len ≤ covered ∧
      Tiles (off + c.len) (dst + UInt32.ofNat c.len) rest (covered - c.len)

theorem Tiles.inside {off : Nat} {dst : UInt32} {chunks : List FwChunk} {covered : Nat}
    (tiles : Tiles off dst chunks covered) {c : FwChunk} (mem : c ∈ chunks) :
    c.off + c.len ≤ off + covered := by
  induction chunks generalizing off dst covered with
  | nil => exact absurd mem List.not_mem_nil
  | cons d rest ih =>
    obtain ⟨start, _, fits, others⟩ := tiles
    rcases List.mem_cons.1 mem with rfl | later
    · omega
    · have := ih others later
      omega

/-- A chunk of legal length fits the transfer buffer with its framing. -/
theorem framed_le {c : FwChunk} (small : c.len ≤ mcuFwUrbMaxPayload) : c.framed ≤ fwDbufSize := by
  unfold FwChunk.framed fwDbufSize
  unfold mcuFwUrbMaxPayload at small ⊢
  apply Nat.max_le.2
  constructor
  · omega
  · omega

theorem dmaFw_small (xfer : Nat → Bool) (k off : Nat) (len : Int) (dst : UInt32) :
    ∀ c ∈ (dmaFw xfer k off len dst).1, c.len ≤ mcuFwUrbMaxPayload := by
  induction k, off, len, dst using dmaFw.induct xfer with
  | case1 k off len dst empty =>
    rw [dmaFw, if_pos empty]
    intro c mem
    exact absurd mem List.not_mem_nil
  | case2 k off len dst more failed =>
    rw [dmaFw, if_neg more]
    dsimp only
    rw [if_pos failed]
    intro c mem
    rw [List.mem_singleton.1 mem]
    exact Nat.min_le_right _ _
  | case3 k off len dst more n passed ih =>
    rw [dmaFw, if_neg more]
    dsimp only
    rw [if_neg passed]
    intro c mem
    rcases List.mem_cons.1 mem with rfl | later
    · exact Nat.min_le_right _ _
    · exact ih c later

/-- The chunks tile as much of the region as was handed over, all of it unless a transfer failed. -/
theorem dmaFw_tiles (xfer : Nat → Bool) (k off : Nat) (len : Int) (dst : UInt32) :
    ∃ covered ≤ len.toNat, Tiles off dst (dmaFw xfer k off len dst).1 covered ∧
      ((dmaFw xfer k off len dst).2 = true → covered = len.toNat) := by
  induction k, off, len, dst using dmaFw.induct xfer with
  | case1 k off len dst empty =>
    rw [dmaFw, if_pos empty]
    refine ⟨0, Nat.zero_le _, rfl, fun _ => ?_⟩
    omega
  | case2 k off len dst more failed =>
    rw [dmaFw, if_neg more]
    dsimp only
    rw [if_pos failed]
    refine ⟨min len.toNat mcuFwUrbMaxPayload, Nat.min_le_left _ _,
      ⟨rfl, rfl, Nat.le_refl _, Nat.sub_self _⟩, fun no => ?_⟩
    cases no
  | case3 k off len dst more n passed ih =>
    obtain ⟨covered, within, tiles, complete⟩ := ih
    have taken : n ≤ len.toNat := Nat.min_le_left _ _
    have rest : (len - n).toNat = len.toNat - n := by omega
    rw [rest] at within complete
    rw [dmaFw, if_neg more]
    dsimp only
    rw [if_neg passed]
    refine ⟨n + covered, by omega, ⟨rfl, rfl, Nat.le_add_right _ _, ?_⟩, fun done => ?_⟩
    · rw [Nat.add_sub_cancel_left]
      exact tiles
    · rw [complete done]
      omega

theorem dmaFw_done {xfer : Nat → Bool} (all : ∀ k, xfer k = true) (k off : Nat) (len : Int)
    (dst : UInt32) : (dmaFw xfer k off len dst).2 = true := by
  induction k, off, len, dst using dmaFw.induct xfer with
  | case1 k off len dst empty => rw [dmaFw, if_pos empty]
  | case2 k off len dst more failed =>
    rw [all k] at failed
    cases failed
  | case3 k off len dst more n passed ih =>
    rw [dmaFw, if_neg more]
    dsimp only
    rw [if_neg passed]
    exact ih

end Chunks

section Safety

/-- The chunks handed over for a region of the image. -/
structure RegionSafe (fwLen off len : Nat) (dst : UInt32) (chunks : List FwChunk) : Prop where
  region : off + len ≤ fwLen
  inside : ∀ c ∈ chunks, c.off + c.len ≤ fwLen
  small : ∀ c ∈ chunks, c.len ≤ mcuFwUrbMaxPayload ∧ c.framed ≤ fwDbufSize
  tiles : ∃ covered ≤ len, Tiles off dst chunks covered

/-- What an upload reads lies in the image, and without a failure it hands over all of it. -/
structure FwSafe (fw : Bytes) (h : FwHeader) (host : FwHost) : Prop where
  ilm : RegionSafe fw.length FwHeader.ilmOff h.ilmLen.toNat (UInt32.ofNat mtMcuIvbSize)
    (fwUpload host h).ilm
  dlm : RegionSafe fw.length h.dlmOff h.dlmLen.toNat mtMcuDlmOffset (fwUpload host h).dlm
  ivb : 32 + mtMcuIvbSize ≤ fw.length
  covers : host.dbuf = true → (∀ k, host.xfer k = true) →
    Tiles FwHeader.ilmOff (UInt32.ofNat mtMcuIvbSize) (fwUpload host h).ilm h.ilmLen.toNat ∧
      Tiles h.dlmOff mtMcuDlmOffset (fwUpload host h).dlm h.dlmLen.toNat

/-- The lengths neither wrap when they are added nor turn negative. -/
structure FwHeader.Fits (h : FwHeader) : Prop where
  sum : 32 + h.ilmLenHdr.toNat + h.dlmLen.toNat < 2 ^ 32
  ilm : h.ilmLen.toNat < 2 ^ 31
  dlm : h.dlmLen.toNat < 2 ^ 31

variable {fw : Bytes} {h : FwHeader}

/-- What the header checks establish. -/
theorem fwHeader_checked (passes : fwHeader fw = some h) :
    fw.length = (32 + h.ilmLenHdr.toNat + h.dlmLen.toNat) % 2 ^ 32 ∧
      mtMcuIvbSize < h.ilmLenHdr.toNat ∧ h.ilmLen.toNat = h.ilmLenHdr.toNat - mtMcuIvbSize := by
  unfold fwHeader at passes
  split at passes
  · cases passes
  dsimp only at passes
  split at passes
  · cases passes
  rename_i long
  split at passes
  · cases passes
  rename_i sum
  cases passes
  have sum := not_not.1 sum
  have long := Nat.lt_of_not_le long
  refine ⟨?_, long, ?_⟩
  · rw [sum, UInt32.toNat_add, UInt32.toNat_add, Nat.mod_add_mod]
    rfl
  · unfold FwHeader.ilmLen
    have block : (UInt32.ofNat mtMcuIvbSize).toNat = mtMcuIvbSize := rfl
    have whole : UInt32.ofNat mtMcuIvbSize ≤ getLe32 fw 0 := by
      rw [UInt32.le_iff_toNat_le, block]
      exact Nat.le_of_lt long
    rw [UInt32.toNat_sub_of_le _ _ whole, block]

theorem asInt_toNat {v : UInt32} (small : v.toNat < 2 ^ 31) : (asInt v).toNat = v.toNat := by
  unfold asInt
  rw [if_pos small, Int.toNat_natCast]

/-- The parts of an upload are chunks of the two regions, or nothing. -/
theorem fwUpload_parts (host : FwHost) (h : FwHeader) :
    ((fwUpload host h).ilm = [] ∨ (fwUpload host h).ilm =
        (dmaFw host.xfer 0 FwHeader.ilmOff (asInt h.ilmLen) (UInt32.ofNat mtMcuIvbSize)).1) ∧
      ((fwUpload host h).dlm = [] ∨ ∃ k, (fwUpload host h).dlm =
        (dmaFw host.xfer k h.dlmOff (asInt h.dlmLen) mtMcuDlmOffset).1) := by
  unfold fwUpload
  split
  · exact ⟨Or.inl rfl, Or.inl rfl⟩
  dsimp only
  split
  · exact ⟨Or.inr rfl, Or.inl rfl⟩
  by_cases data : h.dlmLen ≠ 0
  · rw [if_pos data]
    split
    · exact ⟨Or.inr rfl, Or.inr ⟨_, rfl⟩⟩
    · exact ⟨Or.inr rfl, Or.inr ⟨_, rfl⟩⟩
  · rw [if_neg data]
    split
    · exact ⟨Or.inr rfl, Or.inl rfl⟩
    · exact ⟨Or.inr rfl, Or.inl rfl⟩

/-- Without a failure both regions are handed over by their loops. -/
theorem fwUpload_all {host : FwHost} (room : host.dbuf = true) (all : ∀ k, host.xfer k = true)
    (h : FwHeader) :
    (fwUpload host h).ilm =
        (dmaFw host.xfer 0 FwHeader.ilmOff (asInt h.ilmLen) (UInt32.ofNat mtMcuIvbSize)).1 ∧
      ((fwUpload host h).dlm = [] ∧ h.dlmLen = 0 ∨ ∃ k, (fwUpload host h).dlm =
        (dmaFw host.xfer k h.dlmOff (asInt h.dlmLen) mtMcuDlmOffset).1) := by
  have ok : (!host.dbuf) = false := by rw [room]; rfl
  have first := dmaFw_done all 0 FwHeader.ilmOff (asInt h.ilmLen) (UInt32.ofNat mtMcuIvbSize)
  unfold fwUpload
  rw [ok, if_neg Bool.false_ne_true]
  dsimp only
  rw [first, if_neg (by decide)]
  by_cases data : h.dlmLen ≠ 0
  · rw [if_pos data]
    split
    · exact ⟨rfl, Or.inr ⟨_, rfl⟩⟩
    · exact ⟨rfl, Or.inr ⟨_, rfl⟩⟩
  · rw [if_neg data]
    split
    · exact ⟨rfl, Or.inl ⟨rfl, not_not.1 data⟩⟩
    · exact ⟨rfl, Or.inl ⟨rfl, not_not.1 data⟩⟩

/-- A loop over a region inside the image is safe. -/
theorem dmaFw_safe {fwLen off len : Nat} {dst : UInt32} {chunks : List FwChunk}
    (region : off + len ≤ fwLen) {v : UInt32} (isLen : (asInt v).toNat = len) {xfer : Nat → Bool}
    (part : chunks = [] ∨ ∃ k, chunks = (dmaFw xfer k off (asInt v) dst).1) :
    RegionSafe fwLen off len dst chunks := by
  rcases part with none | ⟨k, some⟩
  · rw [none]
    exact ⟨region, fun _ no => absurd no List.not_mem_nil, fun _ no => absurd no List.not_mem_nil,
      0, Nat.zero_le _, rfl⟩
  · obtain ⟨covered, within, tiles, _⟩ := dmaFw_tiles xfer k off (asInt v) dst
    rw [isLen] at within
    rw [some]
    refine ⟨region, fun c mem => ?_, fun c mem => ?_, covered, within, tiles⟩
    · have := tiles.inside mem
      omega
    · have small := dmaFw_small xfer k off (asInt v) dst c mem
      exact ⟨small, framed_le small⟩

theorem dmaFw_covers {xfer : Nat → Bool} (all : ∀ k, xfer k = true) (k off : Nat) {v : UInt32}
    {len : Nat} (isLen : (asInt v).toNat = len) (dst : UInt32) :
    Tiles off dst (dmaFw xfer k off (asInt v) dst).1 len := by
  obtain ⟨covered, _, tiles, complete⟩ := dmaFw_tiles xfer k off (asInt v) dst
  rw [complete (dmaFw_done all k off (asInt v) dst), isLen] at tiles
  exact tiles

theorem fwSafe_of_fits (passes : fwHeader fw = some h) (fits : h.Fits) (host : FwHost) :
    FwSafe fw h host := by
  obtain ⟨length, long, ilmLen⟩ := fwHeader_checked passes
  rw [Nat.mod_eq_of_lt fits.sum] at length
  obtain ⟨ilm, dlm⟩ := fwUpload_parts host h
  have isIlm := asInt_toNat fits.ilm
  have isDlm := asInt_toNat fits.dlm
  have ilmEnd : FwHeader.ilmOff + h.ilmLen.toNat ≤ fw.length := by
    unfold FwHeader.ilmOff
    omega
  have dlmEnd : h.dlmOff + h.dlmLen.toNat ≤ fw.length := by
    unfold FwHeader.dlmOff FwHeader.ilmOff
    omega
  refine ⟨dmaFw_safe ilmEnd isIlm (ilm.imp_right fun part => ⟨0, part⟩),
    dmaFw_safe dlmEnd isDlm dlm, by omega, fun room all => ?_⟩
  obtain ⟨wholeIlm, wholeDlm⟩ := fwUpload_all room all h
  rw [wholeIlm]
  refine ⟨dmaFw_covers all 0 _ isIlm _, ?_⟩
  rcases wholeDlm with ⟨none, zero⟩ | ⟨k, some⟩
  · rw [none, zero]
    rfl
  · rw [some]
    exact dmaFw_covers all k _ isDlm _

/-- A length that turned negative stops its loop at once. -/
theorem dmaFw_negative {xfer : Nat → Bool} {k off : Nat} {v : UInt32} {dst : UInt32}
    (large : ¬v.toNat < 2 ^ 31) : (dmaFw xfer k off (asInt v) dst).1 = [] := by
  have negative : asInt v ≤ 0 := by
    have bound := v.toNat_lt
    unfold asInt
    rw [if_neg large]
    omega
  rw [dmaFw, if_pos negative]

theorem fits_of_fwSafe (passes : fwHeader fw = some h) (safe : ∀ host, FwSafe fw h host) :
    h.Fits := by
  obtain ⟨length, long, ilmLen⟩ := fwHeader_checked passes
  let host : FwHost := { xfer := fun _ => true, dbuf := true, ivbCopy := true }
  have all : ∀ k, host.xfer k = true := fun _ => rfl
  obtain ⟨ilm, dlm⟩ := @fwUpload_all host rfl all h
  obtain ⟨coversIlm, coversDlm⟩ := (safe host).covers rfl all
  have end' := (safe host).dlm.region
  have bound := Nat.mod_lt (32 + h.ilmLenHdr.toNat + h.dlmLen.toNat) (by decide : 0 < 2 ^ 32)
  refine ⟨?_, ?_, ?_⟩
  · unfold FwHeader.dlmOff FwHeader.ilmOff at end'
    omega
  · by_contra large
    rw [ilm, dmaFw_negative large] at coversIlm
    have zero : h.ilmLen.toNat = 0 := coversIlm
    omega
  · by_contra large
    have zero : h.dlmLen.toNat = 0 := by
      rcases dlm with ⟨_, none⟩ | ⟨k, some⟩
      · rw [none]
        rfl
      · rw [some, dmaFw_negative large] at coversDlm
        exact coversDlm
    omega

/-- An accepted image is uploaded safely exactly when its lengths fit. -/
theorem firmware_safe_iff (passes : fwHeader fw = some h) :
    (∀ host, FwSafe fw h host) ↔ h.Fits :=
  ⟨fits_of_fwSafe passes, fun fits host => fwSafe_of_fits passes fits host⟩

/-- An image with one octet of code. -/
def smallImage : Bytes := le 4 65 ++ le 4 0 ++ List.replicate 89 0

theorem firmware_safe_iff_demo :
    fwHeader smallImage = some { ilmLenHdr := 65, dlmLen := 0 } ∧
      ∀ host, FwSafe smallImage { ilmLenHdr := 65, dlmLen := 0 } host :=
  ⟨by decide, (firmware_safe_iff (by decide)).2 ⟨by decide, by decide, by decide⟩⟩

/-- A header alone, whose lengths add up to its own length modulo 2^32. -/
def wrappedImage : Bytes := le 4 0x1000 ++ le 4 0xfffff000 ++ List.replicate 24 0

theorem firmware_wrapped :
    ¬∀ (fw : Bytes) (h : FwHeader), fwHeader fw = some h → ∀ host, FwSafe fw h host := by
  intro all
  have passes : fwHeader wrappedImage = some { ilmLenHdr := 0x1000, dlmLen := 0xfffff000 } := by
    decide
  have fits := fits_of_fwSafe passes (all _ _ passes)
  exact absurd fits.sum (by decide)

end Safety

end Rf2a4m1
