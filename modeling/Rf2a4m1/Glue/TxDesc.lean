import Rf2a4m1.Glue.Hal

/-!
# Frames on their way to the chip

A frame goes out behind a descriptor with its rate, its key slot and its length,
in a transfer framed for the DMA engine. The chip reports on the frames whose
descriptor has a number, and the reports are counted by that number.
-/

set_option autoImplicit false

namespace Rf2a4m1

open ByteString

def halPhyCck : UInt8 := 0

def halPhyOfdm : UInt8 := 1

/-- Transmission parameters of a frame, as far as the descriptor has them. -/
structure TxParams where
  wcid : UInt8 := 0
  phyMode : UInt8 := 0
  mcs : UInt16 := 0
  bwMhz : UInt16 := 0
  shortGi : Bool := false
  stbc : Bool := false
  ampdu : Bool := false
  baSize : UInt8 := 0
  ampduDensity : UInt8 := 0
  hwSeqno : Bool := false
  noAck : Bool := false
  keySlot : UInt8 := 0
  iv : UInt32 := 0
  eiv : UInt32 := 0
  ivValid : Bool := false
  pktid : UInt8 := 0
deriving DecidableEq

/-- A frame and its length, a number of two octets. -/
structure Mpdu where
  data : Bytes
  short : data.length < 2 ^ 16

/-- What stands for no key: the frame goes out as it is. -/
def noSlot : UInt8 := 0xff

def pidCleartext : UInt8 := 1

def pidEncrypted : UInt8 := 2

def pidBogus : UInt8 := 3

section Rate

def mtRateMcsMask : UInt16 := 0x007f

def mtRateBw40 : UInt16 := 0x0080

def mtRateSgi : UInt16 := 0x0100

def mtRateStbcMask : UInt16 := 0x0600

def mtRatePhyMask : UInt16 := 0xc000

def mtPhyType (phyMode : UInt8) : UInt16 :=
  if phyMode = halPhyCck then 0 else if phyMode = halPhyOfdm then 1 else 2

def rateWord (tp : TxParams) : UInt16 :=
  (tp.mcs &&& mtRateMcsMask) ||| (mtPhyType tp.phyMode <<< (14 : UInt16)) |||
    (if tp.bwMhz ≥ 40 then mtRateBw40 else 0) ||| (if tp.shortGi then mtRateSgi else 0) |||
    (if tp.stbc then (1 : UInt16) <<< 9 else 0)

end Rate

def mtTxwiLenByteMask : Nat := 0x0fff

def txwiFlags (tp : TxParams) : UInt16 :=
  if tp.ampdu then (0x0010 : UInt16) ||| ((tp.ampduDensity &&& 0x7).toUInt16 <<< 5) else 0

def txwiAckCtl (tp : TxParams) : UInt8 :=
  (if tp.noAck then (0 : UInt8) else 0x01) ||| (if tp.hwSeqno then (0x02 : UInt8) else 0) |||
    (if tp.ampdu then (tp.baSize &&& 0x3f) <<< 2 else 0)

/-- The length of a frame, and the number under which the chip reports on it. -/
def txwiLenCtl (len : Nat) (pktid : UInt8) : UInt16 :=
  (UInt16.ofNat len &&& (0x0fff : UInt16)) ||| ((pktid.toUInt16 <<< 12) &&& (0xf000 : UInt16))

/-- The descriptor of a frame of this length. -/
def txwiOf (tp : TxParams) (len : Nat) : Bytes :=
  putLe16 (txwiFlags tp) ++ putLe16 (rateWord tp) ++ [txwiAckCtl tp, tp.wcid] ++
    putLe16 (txwiLenCtl len tp.pktid) ++ putLe32 (if tp.ivValid then tp.iv else 0) ++
    putLe32 (if tp.ivValid then tp.eiv else 0) ++ List.replicate 4 0

def buildTxwi (tp : TxParams) (m : Mpdu) : Option Bytes :=
  if m.data.length > mtTxwiLenByteMask then none else some (txwiOf tp m.data.length)

def mtTxdInfoLenMask : Nat := 0xffff

/-- The word in front of a transfer; port and type are zero. -/
def txdInfo (padded : Nat) (qsel : UInt8) (wiv : Bool) : UInt32 :=
  (0x00080000 : UInt32) ||| (UInt32.ofNat padded &&& (0xffff : UInt32)) |||
    ((qsel &&& 0x3).toUInt32 <<< 25) ||| ((0 : UInt32) <<< 27) ||| ((0 : UInt32) <<< 30) |||
    (if wiv then (0x01000000 : UInt32) else 0)

def usbTxWrap (cap : Nat) (txwi payload : Bytes) (qsel : UInt8) (wiv : Bool) : Option Bytes :=
  let body := txwi.length + payload.length
  let padded := roundUp4 body
  if padded > mtTxdInfoLenMask then none
  else if mtDmaHdrLen + padded + mtDmaFceLen > cap then none
  else
    some (putLe32 (txdInfo padded qsel wiv) ++ txwi ++ payload ++
      List.replicate (padded - body + mtDmaFceLen) 0)

def txwiSetPktid (txwi : Bytes) (pktid : UInt8) : Bytes :=
  splice txwi 6
    (putLe16 ((getLe16 txwi 6 &&& ~~~(0xf000 : UInt16)) |||
      ((pktid.toUInt16 <<< 12) &&& (0xf000 : UInt16))))

def mtQselEdca : UInt8 := 2

def epOutData : Nat := 2

/-- What the host has for one transmission. -/
structure TxLuck where
  buffer : Bool
  urb : Bool
  submit : Option Errno

/-- The part of the device that transmission reads and writes. -/
structure TxPath where
  nOut : Nat
  txCalls : Nat
  txLastLen : Nat
  /-- Buffers that are allocated and not yet freed. -/
  held : Nat
  /-- The transfers with the host controller, the oldest first. -/
  anchor : List Bytes

namespace TxPath

/-- A transfer that is accepted owns its buffer. -/
def bulkOutAsync (luck : TxLuck) (p : TxPath) (ep : Nat) (frame : Bytes) : TxPath × Option Errno :=
  if ep ≥ p.nOut then (p, some .inval)
  else if !luck.urb then (p, some .nomem)
  else
    match luck.submit with
    | some e => (p, some e)
    | none => ({ p with anchor := p.anchor ++ [frame] }, none)

def opTx (luck : TxLuck) (p : TxPath) (tp : TxParams) (m : Mpdu) : TxPath × Option Errno :=
  let wiv := tp.keySlot = noSlot
  match buildTxwi tp m with
  | none => (p, some .inval)
  | some txwi =>
    let txwi :=
      if tp.pktid = 0 then txwiSetPktid txwi (if wiv then pidCleartext else pidEncrypted) else txwi
    let p := { p with
      txCalls := p.txCalls + 1
      txLastLen := if m.data.length ≠ 0 then m.data.length else p.txLastLen }
    if !luck.buffer then (p, some .nomem)
    else
      let p := { p with held := p.held + 1 }
      match usbTxWrap GlueDev.txBufSz txwi m.data mtQselEdca wiv with
      | none => ({ p with held := p.held - 1 }, some .inval)
      | some frame =>
        match bulkOutAsync luck p epOutData frame with
        | (p, some e) => ({ p with held := p.held - 1 }, some e)
        | (p, none) => (p, none)

/-- The oldest transfer completes, whatever became of it. -/
def txComplete (p : TxPath) : TxPath := { p with held := p.held - 1, anchor := p.anchor.tail }

end TxPath

/-- The slot of the pairwise key. -/
def hwWcid : UInt8 := 1

/-- A frame of the SME, or a probe of a scan: it goes out as it is. -/
def smeTxParams : TxParams :=
  { wcid := noSlot, phyMode := halPhyOfdm, bwMhz := 20, keySlot := noSlot }

/-- A data frame that the chip encrypts, reported under a number. -/
def keyedTxParams (pktid : UInt8) : TxParams :=
  { wcid := hwWcid, phyMode := halPhyOfdm, bwMhz := 20, keySlot := hwWcid, pktid := pktid }

section Status

def mtTxsFifoValid : UInt32 := 0x00000001

def mtTxsFifoPidMask : UInt32 := 0x0000001e

def mtTxsFifoSuccess : UInt32 := 0x00000020

def mtTxsFifoAggr : UInt32 := 0x00000040

def mtTxsFifoAckreq : UInt32 := 0x00000080

def mtTxsFifoWcidMask : UInt32 := 0x0000ff00

def txsPid (fifo : UInt32) : UInt8 := ((fifo &&& mtTxsFifoPidMask) >>> 1).toUInt8

def txsWcid (fifo : UInt32) : UInt8 := ((fifo &&& mtTxsFifoWcidMask) >>> 8).toUInt8

def txsRate (fifo : UInt32) : UInt16 := (fifo >>> 16).toUInt16

/-- What the reports have shown so far, by the number of the frame. -/
structure TxStats where
  reports : Nat
  valid : UInt8 → Nat
  success : UInt8 → Nat
  ackreq : UInt8 → Nat
  peerTxRateWord : UInt16
  peerTxrateValid : Bool

def bump (count : UInt8 → Nat) (pid : UInt8) : UInt8 → Nat :=
  fun p => if p = pid then count p + 1 else count p

namespace TxStats

/-- One report is counted. -/
def count (s : TxStats) (fifo : UInt32) : TxStats :=
  let pid := txsPid fifo
  { reports := s.reports + 1
    valid := bump s.valid pid
    success := if fifo &&& mtTxsFifoSuccess ≠ 0 then bump s.success pid else s.success
    ackreq := if fifo &&& mtTxsFifoAckreq ≠ 0 then bump s.ackreq pid else s.ackreq
    peerTxRateWord := if pid = pidEncrypted then txsRate fifo else s.peerTxRateWord
    peerTxrateValid := if pid = pidEncrypted then true else s.peerTxrateValid }

end TxStats

/-- A read that failed, or nothing to report. -/
def txsStops (fifo : UInt32) : Prop := fifo = 0xffffffff ∨ fifo &&& mtTxsFifoValid = 0

instance (fifo : UInt32) : Decidable (txsStops fifo) := inferInstanceAs (Decidable (_ ∨ _))

section Drain

variable {σ : Type} (regRead : σ → σ × UInt32)

/-- So many reports are read at most, up to a read that shows none. -/
def drainFrom : Nat → σ → TxStats → σ × TxStats
  | 0, chip, s => (chip, s)
  | left + 1, chip, s =>
    let (chip, fifo) := regRead chip
    if txsStops fifo then (chip, s) else drainFrom left chip (s.count fifo)

def drainTxStatus (chip : σ) (s : TxStats) : σ × TxStats := drainFrom regRead 24 chip s

end Drain

end Status

end Rf2a4m1
