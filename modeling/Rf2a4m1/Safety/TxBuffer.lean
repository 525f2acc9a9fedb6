import Rf2a4m1.Glue.TxDesc
import Rf2a4m1.Lib.Fields
import Rf2a4m1.Wire.Rsne

/-!
# What the chip is told about a frame

The chip finds the frame and its descriptor again in a transfer. What it finds
is what the caller asked for, for every frame that fits; a frame that does not
fit, or finds no memory, leaves nothing behind.
-/

set_option autoImplicit false

namespace Rf2a4m1

open ByteString Fields

/-- What a transfer tells the chip: the frame, and how it is to go out. -/
structure TxOrder where
  frame : Bytes
  encrypt : Bool
  queue : Nat
  wcid : UInt8
  pktid : Nat
  phy : Nat
  mcs : Nat
  bw40 : Bool
  shortGi : Bool
  stbc : Nat
  ackReq : Bool
  hwSeqno : Bool
  ampdu : Bool
  density : Nat
  baWindow : Nat
  iv : UInt32
  eiv : UInt32
deriving DecidableEq

/-- The chip's reading of a transfer. The word in front counts descriptor, frame and padding; the
descriptor has the length of the frame. -/
def chipReads (t : Bytes) : Option TxOrder :=
  let info := (getLe32 t 0).toNat
  let len := info % 2 ^ 16
  let flags := (getLe16 t 4).toNat
  let rate := (getLe16 t 6).toNat
  let ack := (byteAt t 8).toNat
  let lenCtl := (getLe16 t 10).toNat
  let mpdu := lenCtl % 2 ^ 12
  if info / 2 ^ 16 % 2 ^ 8 = 8 ∧ info / 2 ^ 27 = 0 ∧ t.length = 4 + len + 4 ∧ len % 4 = 0 ∧
      len < 20 + mpdu + 4 ∧ 20 + mpdu ≤ len ∧ (t.drop (24 + mpdu)).all (· = 0) then
    some
      { frame := slice t 24 mpdu, encrypt := info / 2 ^ 24 % 2 = 0, queue := info / 2 ^ 25 % 2 ^ 2
        wcid := byteAt t 9, pktid := lenCtl / 2 ^ 12
        phy := rate / 2 ^ 14, mcs := rate % 2 ^ 7, bw40 := rate / 2 ^ 7 % 2 = 1
        shortGi := rate / 2 ^ 8 % 2 = 1, stbc := rate / 2 ^ 9 % 2 ^ 2
        ackReq := ack % 2 = 1, hwSeqno := ack / 2 % 2 = 1, ampdu := flags / 2 ^ 4 % 2 = 1
        density := flags / 2 ^ 5 % 2 ^ 3, baWindow := ack / 2 ^ 2
        iv := getLe32 t 12, eiv := getLe32 t 16 }
  else none

/-- The number under which a frame is reported. -/
def TxParams.stamp (tp : TxParams) : UInt8 :=
  if tp.pktid = 0 then (if tp.keySlot = noSlot then pidCleartext else pidEncrypted) else tp.pktid

/-- What the caller of a transmission asks for. -/
def TxParams.order (tp : TxParams) (frame : Bytes) : TxOrder where
  frame := frame
  encrypt := tp.keySlot ≠ noSlot
  queue := 2
  wcid := tp.wcid
  pktid := tp.stamp.toNat % 16
  phy := if tp.phyMode = halPhyCck then 0 else if tp.phyMode = halPhyOfdm then 1 else 2
  mcs := tp.mcs.toNat % 128
  bw40 := tp.bwMhz ≥ 40
  shortGi := tp.shortGi
  stbc := tp.stbc.toNat
  ackReq := !tp.noAck
  hwSeqno := tp.hwSeqno
  ampdu := tp.ampdu
  density := if tp.ampdu then tp.ampduDensity.toNat % 8 else 0
  baWindow := if tp.ampdu then tp.baSize.toNat % 64 else 0
  iv := if tp.ivValid then tp.iv else 0
  eiv := if tp.ivValid then tp.eiv else 0

section Words

variable (tp : TxParams)

theorem mtPhyType_toNat : (mtPhyType tp.phyMode).toNat =
    if tp.phyMode = halPhyCck then 0 else if tp.phyMode = halPhyOfdm then 1 else 2 := by
  unfold mtPhyType
  split_ifs <;> rfl

theorem mtPhyType_lt : (mtPhyType tp.phyMode).toNat < 3 := by
  rw [mtPhyType_toNat]
  split_ifs <;> omega

/-- A flag is its bit moved to its place. -/
theorem flag16 {b : Bool} {w n : UInt16} (place : (1 : UInt16) <<< n = w) :
    (if b then w else 0) = (if b then (1 : UInt16) else 0) <<< n := by
  cases b with
  | false => simp
  | true => simp [place]

theorem bit16 (b : Bool) : (if b then (1 : UInt16) else 0).toNat = b.toNat := by
  cases b <;> rfl

theorem or_order (mcs phy bw sgi stbc : UInt16) :
    mcs ||| phy ||| bw ||| sgi ||| stbc = mcs ||| bw ||| sgi ||| stbc ||| phy := by
  ac_rfl

/-- The parts of a rate word do not overlap. -/
theorem rateWord_toNat : (rateWord tp).toNat =
    tp.mcs.toNat % 128 + (decide (tp.bwMhz ≥ 40)).toNat * 2 ^ 7 + tp.shortGi.toNat * 2 ^ 8 +
      tp.stbc.toNat * 2 ^ 9 + (mtPhyType tp.phyMode).toNat * 2 ^ 14 := by
  have mcs : (tp.mcs &&& mtRateMcsMask).toNat = tp.mcs.toNat % 128 :=
    (UInt16.toNat_and _ _).trans (Nat.and_two_pow_sub_one_eq_mod _ 7)
  have low := Nat.mod_lt tp.mcs.toNat (show 0 < 128 by decide)
  have phy := mtPhyType_lt tp
  have wide := Bool.toNat_le (decide (tp.bwMhz ≥ 40))
  have short := Bool.toNat_le tp.shortGi
  have coded := Bool.toNat_le tp.stbc
  have ordered : rateWord tp =
      (tp.mcs &&& mtRateMcsMask) ||| (if decide (tp.bwMhz ≥ 40) then (1 : UInt16) else 0) <<< 7 |||
        (if tp.shortGi then (1 : UInt16) else 0) <<< 8 |||
        (if tp.stbc then (1 : UInt16) else 0) <<< 9 ||| mtPhyType tp.phyMode <<< 14 := by
    unfold rateWord
    rw [or_order, ← @flag16 (decide (tp.bwMhz ≥ 40)) mtRateBw40 7 (by decide),
      ← @flag16 tp.shortGi mtRateSgi 8 (by decide), ← @flag16 tp.stbc ((1 : UInt16) <<< 9) 9 rfl]
    simp only [decide_eq_true_eq]
  rw [ordered]
  have a := or16 mcs (bit16 (decide (tp.bwMhz ≥ 40))) (n := 7) (s := 7) rfl (by decide) low
    (by omega)
  have b := or16 a (bit16 tp.shortGi) (n := 8) (s := 8) rfl (by decide) (by omega) (by omega)
  have c := or16 b (bit16 tp.stbc) (n := 9) (s := 9) rfl (by decide) (by omega) (by omega)
  exact or16 c rfl (n := 14) (s := 14) rfl (by decide) (by omega) (by omega)

theorem txwiFlags_toNat : (txwiFlags tp).toNat =
    if tp.ampdu then 2 ^ 4 + tp.ampduDensity.toNat % 8 * 2 ^ 5 else 0 := by
  unfold txwiFlags
  split
  · have density : (tp.ampduDensity &&& 0x7).toUInt16.toNat = tp.ampduDensity.toNat % 8 := by
      rw [UInt8.toNat_toUInt16, UInt8.toNat_and]
      exact Nat.and_two_pow_sub_one_eq_mod _ 3
    exact or16 (w := 0x0010) rfl density (n := 5) (s := 5) rfl (by decide) (by decide) (by omega)
  · rfl

theorem txwiAckCtl_toNat : (txwiAckCtl tp).toNat =
    (!tp.noAck).toNat + tp.hwSeqno.toNat * 2 +
      (if tp.ampdu then tp.baSize.toNat % 64 else 0) * 2 ^ 2 := by
  have window : (if tp.ampdu then tp.baSize &&& 0x3f else 0).toNat =
      if tp.ampdu then tp.baSize.toNat % 64 else 0 := by
    split
    · exact (UInt8.toNat_and _ _).trans (Nat.and_two_pow_sub_one_eq_mod _ 6)
    · rfl
  have small : (if tp.ampdu then tp.baSize.toNat % 64 else 0) < 64 := by split <;> omega
  have flags : ((if tp.noAck then (0 : UInt8) else 0x01) |||
      (if tp.hwSeqno then (0x02 : UInt8) else 0)).toNat =
        (!tp.noAck).toNat + tp.hwSeqno.toNat * 2 := by
    cases tp.noAck <;> cases tp.hwSeqno <;> rfl
  have asked := Bool.toNat_le (!tp.noAck)
  have numbered := Bool.toNat_le tp.hwSeqno
  have placed : (if tp.ampdu then (tp.baSize &&& 0x3f) <<< 2 else 0) =
      (if tp.ampdu then tp.baSize &&& 0x3f else 0) <<< 2 := by
    cases tp.ampdu <;> simp
  unfold txwiAckCtl
  rw [placed]
  exact or8 flags window (n := 2) (s := 2) rfl (by decide) (by omega) (by omega)

/-- The nibble of the number stands above the length. -/
theorem txwiLenCtl_toNat {len : Nat} (fits : len < 2 ^ 12) (pktid : UInt8) :
    (txwiLenCtl len pktid).toNat = len + pktid.toNat % 16 * 2 ^ 12 := by
  have low : (UInt16.ofNat len &&& (0x0fff : UInt16)).toNat = len := by
    rw [UInt16.toNat_and, UInt16.toNat_ofNat_of_lt' (Nat.lt_trans fits (by decide))]
    exact (Nat.and_two_pow_sub_one_eq_mod _ 12).trans (Nat.mod_eq_of_lt fits)
  have nibble : (pktid.toUInt16 <<< 12) &&& (0xf000 : UInt16) =
      UInt16.ofNat (pktid.toNat % 16) <<< 12 := by
    apply UInt16.toNat_inj.1
    have mask := and_field ((pktid.toUInt16 <<< 12).toNat) 4 12
    rw [UInt16.toNat_and, UInt16.toNat_shiftLeft (UInt16.ofNat _), UInt16.toNat_ofNat']
    refine mask.trans ?_
    rw [UInt16.toNat_shiftLeft, UInt8.toNat_toUInt16]
    change (pktid.toNat <<< 12 % 65536 / 4096 % 16) <<< 12 =
      (pktid.toNat % 16 % 65536) <<< 12 % 65536
    rw [Nat.shiftLeft_eq, Nat.shiftLeft_eq, Nat.shiftLeft_eq]
    omega
  unfold txwiLenCtl
  rw [nibble]
  refine or16 low (b := pktid.toNat % 16) ?_ (n := 12) (s := 12) rfl (by decide) fits (by omega)
  rw [UInt16.toNat_ofNat']
  omega

theorem info_order (kind len queue plain : UInt32) :
    kind ||| len ||| queue ||| plain = len ||| kind ||| plain ||| queue := by
  ac_rfl

theorem txdInfo_toNat {padded : Nat} (fits : padded < 2 ^ 16) (wiv : Bool) :
    (txdInfo padded mtQselEdca wiv).toNat =
      padded + 1 * 2 ^ 19 + wiv.toNat * 2 ^ 24 + 2 * 2 ^ 25 := by
  have low : (UInt32.ofNat padded &&& (0xffff : UInt32)).toNat = padded := by
    rw [UInt32.toNat_and, UInt32.toNat_ofNat_of_lt' (Nat.lt_trans fits (by decide))]
    exact (Nat.and_two_pow_sub_one_eq_mod _ 16).trans (Nat.mod_eq_of_lt fits)
  have plain := Bool.toNat_le wiv
  have bit : (if wiv then (1 : UInt32) else 0).toNat = wiv.toNat := by cases wiv <;> rfl
  have ordered : txdInfo padded mtQselEdca wiv =
      (UInt32.ofNat padded &&& (0xffff : UInt32)) ||| (1 : UInt32) <<< 19 |||
        (if wiv then (1 : UInt32) else 0) <<< 24 ||| (2 : UInt32) <<< 25 := by
    have queue : ((mtQselEdca &&& 0x3).toUInt32 <<< 25) = (2 : UInt32) <<< 25 := by decide
    have zeros : ((0 : UInt32) <<< 27) = 0 ∧ ((0 : UInt32) <<< 30) = 0 := by decide
    have unit : (0x00080000 : UInt32) = (1 : UInt32) <<< 19 := rfl
    have plainBit : (if wiv then (0x01000000 : UInt32) else 0) =
        (if wiv then (1 : UInt32) else 0) <<< 24 := by cases wiv <;> rfl
    unfold txdInfo
    rw [queue, zeros.1, zeros.2, plainBit, UInt32.or_zero, UInt32.or_zero, unit]
    exact info_order _ _ _ _
  have below : padded < 2 ^ 19 ∧ padded + 1 * 2 ^ 19 < 2 ^ 24 ∧ wiv.toNat * 2 ^ 24 < 2 ^ 32 ∧
      padded + 1 * 2 ^ 19 + wiv.toNat * 2 ^ 24 < 2 ^ 25 := by
    clear ordered bit low
    omega
  rw [ordered]
  have kind := or32 low (v := 1) rfl (n := 19) (s := 19) rfl (by decide) below.1 (by decide)
  have open_ := or32 kind bit (n := 24) (s := 24) rfl (by decide) below.2.1 below.2.2.1
  exact or32 open_ (v := 2) rfl (n := 25) (s := 25) rfl (by decide) below.2.2.2 (by decide)

end Words

section Skip

variable {a b : Bytes} {off : Nat}

theorem getLe16_skip (front : a.length ≤ off) :
    getLe16 (a ++ b) off = getLe16 b (off - a.length) := by
  rw [getLe16, getLe16, slice_append_right front]

theorem getLe32_skip (front : a.length ≤ off) :
    getLe32 (a ++ b) off = getLe32 b (off - a.length) := by
  rw [getLe32, getLe32, slice_append_right front]

theorem splice_middle {a b c d : Bytes} {n : Nat} (front : a.length = n) (same : b.length = d.length) :
    splice (a ++ b ++ c) n d = a ++ d ++ c := by
  subst front
  unfold splice
  rw [List.append_assoc a, List.take_left, List.drop_append, Nat.add_sub_cancel_left,
    List.drop_eq_nil_of_le (Nat.le_add_right _ _), List.nil_append, List.drop_left' same]

end Skip

section Descriptor

variable (tp : TxParams) (len : Nat)

theorem txwiOf_length : (txwiOf tp len).length = 20 := by
  simp [txwiOf]

theorem txwiOf_parts : txwiOf tp len =
    (putLe16 (txwiFlags tp) ++ putLe16 (rateWord tp) ++ [txwiAckCtl tp, tp.wcid]) ++
      putLe16 (txwiLenCtl len tp.pktid) ++ (putLe32 (if tp.ivValid then tp.iv else 0) ++
        putLe32 (if tp.ivValid then tp.eiv else 0) ++ List.replicate 4 0) := by
  simp only [txwiOf, List.append_assoc]

theorem txwiOf_lenCtl (rest : Bytes) :
    getLe16 (txwiOf tp len ++ rest) 6 = txwiLenCtl len tp.pktid := by
  rw [txwiOf_parts, List.append_assoc, List.append_assoc, getLe16_skip (by simp)]
  exact getLe16_put_append _ _

/-- A number that is stamped on the descriptor later is the number it was built for. -/
theorem txwiSetPktid_build (unset : tp.pktid = 0) (pid : UInt8) :
    txwiSetPktid (txwiOf tp len) pid = txwiOf { tp with pktid := pid } len := by
  have field : getLe16 (txwiOf tp len) 6 = txwiLenCtl len 0 := by
    rw [← List.append_nil (txwiOf tp len), txwiOf_lenCtl, unset]
  have kept : txwiLenCtl len 0 &&& ~~~(0xf000 : UInt16) = UInt16.ofNat len &&& 0x0fff := by
    have none : ((0 : UInt8).toUInt16 <<< 12) &&& (0xf000 : UInt16) = 0 := by decide
    have mask : (0x0fff : UInt16) &&& ~~~(0xf000 : UInt16) = 0x0fff := by decide
    unfold txwiLenCtl
    rw [none, UInt16.or_zero, UInt16.and_assoc, mask]
  unfold txwiSetPktid
  rw [field, kept, txwiOf_parts, splice_middle (by simp) (by simp), txwiOf_parts]
  rfl

/-- The descriptor with which a frame goes out. -/
theorem stamped_build :
    (if tp.pktid = 0 then
      txwiSetPktid (txwiOf tp len) (if tp.keySlot = noSlot then pidCleartext else pidEncrypted)
      else txwiOf tp len) = txwiOf { tp with pktid := tp.stamp } len := by
  unfold TxParams.stamp
  split
  · rename_i unset
    exact txwiSetPktid_build tp len unset _
  · rfl

end Descriptor

section Transfer

theorem flag_read {b : Bool} {n : Nat} (bit : n = b.toNat) :
    decide (n = 1) = b ∧ decide (n = 0) = !b := by
  subst bit
  cases b <;> exact ⟨rfl, rfl⟩

variable (tp : TxParams) (data : Bytes)

/-- What is handed over for a frame. -/
def txTransfer : Bytes :=
  putLe32 (txdInfo (roundUp4 (20 + data.length)) mtQselEdca (tp.keySlot = noSlot)) ++
    txwiOf { tp with pktid := tp.stamp } data.length ++ data ++
    List.replicate (roundUp4 (20 + data.length) - (20 + data.length) + mtDmaFceLen) 0

theorem roundUp4_bounds (x : Nat) :
    x ≤ roundUp4 x ∧ roundUp4 x < x + 4 ∧ roundUp4 x % 4 = 0 := by
  unfold roundUp4
  omega

theorem txTransfer_length : (txTransfer tp data).length = 8 + roundUp4 (20 + data.length) := by
  have bounds := roundUp4_bounds (20 + data.length)
  simp only [txTransfer, List.length_append, putLe32_length, txwiOf_length, List.length_replicate,
    mtDmaFceLen]
  omega

/-- The fields of a transfer, each at its place. -/
theorem txTransfer_fields :
    getLe32 (txTransfer tp data) 0 =
        txdInfo (roundUp4 (20 + data.length)) mtQselEdca (tp.keySlot = noSlot) ∧
      getLe16 (txTransfer tp data) 4 = txwiFlags tp ∧
      getLe16 (txTransfer tp data) 6 = rateWord tp ∧
      byteAt (txTransfer tp data) 8 = txwiAckCtl tp ∧
      byteAt (txTransfer tp data) 9 = tp.wcid ∧
      getLe16 (txTransfer tp data) 10 = txwiLenCtl data.length tp.stamp ∧
      getLe32 (txTransfer tp data) 12 = (if tp.ivValid then tp.iv else 0) ∧
      getLe32 (txTransfer tp data) 16 = (if tp.ivValid then tp.eiv else 0) := by
  simp (disch := simp) only [txTransfer, txwiOf, List.append_assoc, getLe32_put, getLe16_skip,
    getLe32_skip, byteAt_append_right, putLe32_length, putLe16_length, Nat.reduceSub,
    getLe16_put_append, List.length_cons, List.length_nil, Nat.reduceAdd]
  exact ⟨trivial, rfl, rfl, rfl, rfl, trivial, trivial, trivial⟩

theorem txTransfer_frame :
    slice (txTransfer tp data) 24 data.length = data ∧
      ((txTransfer tp data).drop (24 + data.length)).all (· = 0) = true := by
  have front : (putLe32 (txdInfo (roundUp4 (20 + data.length)) mtQselEdca (tp.keySlot = noSlot)) ++
      txwiOf { tp with pktid := tp.stamp } data.length).length = 24 := by
    rw [List.length_append, putLe32_length, txwiOf_length]
  constructor
  · unfold txTransfer
    rw [List.append_assoc, slice_append_right (Nat.le_of_eq front), front, Nat.sub_self,
      slice_append_left rfl]
  · unfold txTransfer
    rw [List.drop_left' (by rw [List.length_append, front])]
    simp

/-- The chip finds what was asked for. -/
theorem chipReads_transfer (fits : data.length ≤ 2020) :
    chipReads (txTransfer tp data) = some (tp.order data) := by
  have bounds := roundUp4_bounds (20 + data.length)
  have length := txTransfer_length tp data
  obtain ⟨info, flags, rate, ack, wcid, lenCtl, iv, eiv⟩ := txTransfer_fields tp data
  obtain ⟨frame, zeros⟩ := txTransfer_frame tp data
  have infoWord := @txdInfo_toNat (roundUp4 (20 + data.length)) (by omega)
    (decide (tp.keySlot = noSlot))
  have rateWord' := rateWord_toNat tp
  have phy := mtPhyType_lt tp
  have phyWord := mtPhyType_toNat tp
  have flagWord := txwiFlags_toNat tp
  have ackWord := txwiAckCtl_toNat tp
  have lenWord := @txwiLenCtl_toNat data.length (by omega) tp.stamp
  have plain := Bool.toNat_le (decide (tp.keySlot = noSlot))
  have mpdu : (data.length + tp.stamp.toNat % 16 * 2 ^ 12) % 2 ^ 12 = data.length := by omega
  unfold chipReads
  dsimp only
  rw [info, flags, rate, ack, wcid, lenCtl, iv, eiv, infoWord, rateWord', flagWord, ackWord, lenWord,
    mpdu, frame, if_pos ⟨by omega, by omega, by omega, by omega, by omega, by omega, zeros⟩]
  have baSize : (if tp.ampdu then tp.baSize.toNat % 64 else 0) < 64 := by split <;> omega
  have wide := Bool.toNat_le (decide (tp.bwMhz ≥ 40))
  have short := Bool.toNat_le tp.shortGi
  have coded := Bool.toNat_le tp.stbc
  have asked := Bool.toNat_le (!tp.noAck)
  have numbered := Bool.toNat_le tp.hwSeqno
  have low := Nat.mod_lt tp.mcs.toNat (show 0 < 128 by decide)
  rw [Option.some_inj, TxParams.order, TxOrder.mk.injEq]
  refine ⟨rfl, ?_, by omega, rfl, by omega, ?_, by omega, ?_, ?_, by omega, ?_, ?_, ?_, ?_, by omega,
    rfl, rfl⟩
  · refine (flag_read (b := decide (tp.keySlot = noSlot)) (by omega)).2.trans ?_
    rw [decide_not]
  · rw [← phyWord]
    omega
  · exact (flag_read (by omega)).1
  · exact (flag_read (by omega)).1
  · exact (flag_read (by omega)).1
  · exact (flag_read (by omega)).1
  · cases tp.ampdu with
    | false =>
      rw [if_neg Bool.false_ne_true]
      rfl
    | true =>
      rw [if_pos rfl]
      exact decide_eq_true (by omega)
  · cases tp.ampdu with
    | false => simp
    | true =>
      rw [if_pos rfl, if_pos rfl]
      omega

end Transfer

section Transmission

variable (luck : TxLuck) (p : TxPath) (tp : TxParams) (m : Mpdu)

/-- The host has what a transmission needs. -/
def TxLuck.Carries : Prop :=
  luck.buffer = true ∧ epOutData < p.nOut ∧ luck.urb = true ∧ luck.submit = none

instance : Decidable (luck.Carries p) := inferInstanceAs (Decidable (_ ∧ _))

theorem usbTxWrap_transfer (fits : m.data.length ≤ mtTxwiLenByteMask) :
    usbTxWrap GlueDev.txBufSz (txwiOf { tp with pktid := tp.stamp } m.data.length) m.data mtQselEdca
        (tp.keySlot = noSlot) =
      if m.data.length ≤ 2020 then some (txTransfer tp m.data) else none := by
  have bounds := roundUp4_bounds (20 + m.data.length)
  have small : m.data.length ≤ 4095 := fits
  unfold usbTxWrap
  dsimp only
  rw [txwiOf_length, if_neg (by unfold mtTxdInfoLenMask; omega)]
  have room : mtDmaHdrLen + roundUp4 (20 + m.data.length) + mtDmaFceLen > GlueDev.txBufSz ↔
      ¬m.data.length ≤ 2020 := by
    unfold mtDmaHdrLen mtDmaFceLen GlueDev.txBufSz
    omega
  by_cases held : m.data.length ≤ 2020
  · rw [if_neg (by rw [room, not_not]; exact held), if_pos held]
    rfl
  · rw [if_pos (room.2 held), if_neg held]

theorem bulkOutAsync_cases (q : TxPath) (frame : Bytes) :
    (epOutData < q.nOut ∧ luck.urb = true ∧ luck.submit = none ∧
      q.bulkOutAsync luck epOutData frame = ({ q with anchor := q.anchor ++ [frame] }, none)) ∨
    (¬(epOutData < q.nOut ∧ luck.urb = true ∧ luck.submit = none) ∧
      ∃ e, q.bulkOutAsync luck epOutData frame = (q, some e)) := by
  unfold TxPath.bulkOutAsync
  by_cases ep : epOutData ≥ q.nOut
  · exact .inr ⟨fun all => absurd all.1 (Nat.not_lt.2 ep), _, if_pos ep⟩
  rw [if_neg ep]
  by_cases urb : luck.urb = true
  · rw [if_neg (by simp [urb])]
    cases submit : luck.submit with
    | none => exact .inl ⟨Nat.lt_of_not_le ep, urb, rfl, rfl⟩
    | some e => exact .inr ⟨fun all => (nomatch all.2.2), _, rfl⟩
  · exact .inr ⟨fun all => absurd all.2.1 urb, _, if_pos (by simp [urb])⟩

/-- The device after a transmission that was tried. -/
def TxPath.tried (p : TxPath) (len : Nat) : TxPath :=
  { p with txCalls := p.txCalls + 1, txLastLen := if len ≠ 0 then len else p.txLastLen }

/-- A transmission hands its transfer over, or it leaves no buffer and no transfer behind. -/
theorem opTx_cases :
    (m.data.length ≤ 2020 ∧ luck.Carries p ∧
      p.opTx luck tp m =
        ({ p.tried m.data.length with
           held := p.held + 1, anchor := p.anchor ++ [txTransfer tp m.data] }, none)) ∨
    (¬(m.data.length ≤ 2020 ∧ luck.Carries p) ∧ ∃ e, p.opTx luck tp m =
      (if m.data.length ≤ mtTxwiLenByteMask then p.tried m.data.length else p, some e)) := by
  unfold TxPath.opTx buildTxwi
  dsimp only
  by_cases long : m.data.length > mtTxwiLenByteMask
  · have above : 4095 < m.data.length := long
    rw [if_pos long, if_neg (Nat.not_le.2 long)]
    refine .inr ⟨fun all => absurd all.1 (by omega), _, rfl⟩
  rw [if_neg long]
  have fits := Nat.le_of_not_lt long
  dsimp only
  rw [stamped_build, if_pos fits]
  cases buffer : luck.buffer with
  | false => exact .inr ⟨fun all => absurd (buffer.symm.trans all.2.1) Bool.false_ne_true, _, rfl⟩
  | true =>
    rw [if_neg (by simp), usbTxWrap_transfer tp m fits]
    by_cases held : m.data.length ≤ 2020
    · rw [if_pos held]
      dsimp only
      rcases bulkOutAsync_cases luck { p.tried m.data.length with held := p.held + 1 }
          (txTransfer tp m.data) with ⟨ep, urb, submit, eq⟩ | ⟨not, e, eq⟩
      · refine .inl ⟨held, ⟨buffer, ep, urb, submit⟩, ?_⟩
        unfold TxPath.tried at eq ⊢
        rw [eq]
      · refine .inr ⟨fun all => not ⟨all.2.2.1, all.2.2.2⟩, e, ?_⟩
        unfold TxPath.tried at eq ⊢
        rw [eq]
        rfl
    · rw [if_neg held]
      exact .inr ⟨fun all => held all.1, _, rfl⟩

/-- What is accepted is handed over as it was asked for, in a transfer of its own; what is not leaves
neither a buffer nor a transfer behind. Only the length and the host decide. -/
theorem opTx_told :
    ((p.opTx luck tp m).2 = none ↔ m.data.length ≤ 2020 ∧ luck.Carries p) ∧
      ((p.opTx luck tp m).2 = none → ∃ t, (p.opTx luck tp m).1.anchor = p.anchor ++ [t] ∧
        (p.opTx luck tp m).1.held = p.held + 1 ∧ chipReads t = some (tp.order m.data) ∧
        t.length ≤ GlueDev.txBufSz ∧ t.length % 4 = 0) ∧
      ((p.opTx luck tp m).2 ≠ none →
        (p.opTx luck tp m).1.anchor = p.anchor ∧ (p.opTx luck tp m).1.held = p.held) := by
  rcases opTx_cases luck p tp m with ⟨fits, carries, eq⟩ | ⟨not, e, eq⟩
  · have bounds := roundUp4_bounds (20 + m.data.length)
    have length := txTransfer_length tp m.data
    rw [eq]
    refine ⟨⟨fun _ => ⟨fits, carries⟩, fun _ => rfl⟩, fun _ => ⟨_, rfl, rfl,
      chipReads_transfer tp m.data fits, ?_, by omega⟩, fun failed => absurd rfl failed⟩
    unfold GlueDev.txBufSz
    omega
  · rw [eq]
    refine ⟨⟨fun none => (nomatch none), fun all => absurd all not⟩, fun none => (nomatch none),
      fun _ => ?_⟩
    split <;> exact ⟨rfl, rfl⟩

end Transmission

def demoLuck : TxLuck := { buffer := true, urb := true, submit := none }

def demoPath : TxPath := { nOut := 3, txCalls := 0, txLastLen := 0, held := 0, anchor := [] }

/-- An aggregated frame in a key slot, and a frame for which there is no transfer. -/
theorem opTx_told_demo :
    (∃ t, (demoPath.opTx demoLuck { wcid := 1, keySlot := 1, mcs := 135, ampdu := true, baSize := 70 }
        ⟨[8, 65, 7], by decide⟩).1.anchor = [t] ∧
      (chipReads t).map (fun o => (o.frame, o.encrypt, o.pktid, o.mcs, o.baWindow)) =
        some ([8, 65, 7], true, 2, 7, 6)) ∧
    (demoPath.opTx { demoLuck with urb := false } { keySlot := noSlot } ⟨[8], by decide⟩).1.held = 0 := by
  constructor
  · obtain ⟨iff, told, _⟩ := opTx_told demoLuck demoPath
      { wcid := 1, keySlot := 1, mcs := 135, ampdu := true, baSize := 70 } ⟨[8, 65, 7], by decide⟩
    obtain ⟨t, anchor, _, reads, _⟩ := told (iff.2 ⟨by decide, by decide⟩)
    refine ⟨t, anchor, ?_⟩
    rw [reads]
    decide
  · obtain ⟨iff, _, refused⟩ := opTx_told { demoLuck with urb := false } demoPath { keySlot := noSlot }
      ⟨[8], by decide⟩
    exact (refused fun none => absurd (iff.1 none).2 (by decide)).2

end Rf2a4m1
