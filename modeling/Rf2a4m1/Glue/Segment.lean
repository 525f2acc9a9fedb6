import Rf2a4m1.Base

/-!
# Received DMA segments

A bulk-in transfer carries segments: a DMA header with the length of what
follows, the RXWI descriptor, the frame and padding to four octets. The true
length of the frame is in the descriptor.
-/

set_option autoImplicit false

namespace Rf2a4m1

open ByteString

def mt7601uRxwiSize : Nat := 28

def mtDmaHdrLen : Nat := 4

def mtDmaHdrs : Nat := 8

def mtDmaFceLen : Nat := 4

def mtRxinfoCrcerr : UInt32 := 0x00000100

def mtRxinfoIcverr : UInt32 := 0x00000200

def mtRxinfoMicerr : UInt32 := 0x00000400

def mtRxinfoL2pad : UInt32 := 0x00004000

def mtRxinfoAmpdu : UInt32 := 0x00008000

def mtRxinfoDecrypt : UInt32 := 0x00010000

inductive HalGen where
  | legacy
  | ht
deriving DecidableEq

inductive HalPhy where
  | cck
  | ofdm
  | ht
deriving DecidableEq

/-- Reception parameters of a frame. The frame is at an offset of the segment's buffer. -/
structure RxInfo where
  data : Nat
  len : Nat
  gen : HalGen
  phyMode : HalPhy
  mcs : UInt16
  bwMhz : Nat
  nSs : Nat
  shortGi : Bool
  stbc : Bool
  rssi : Int8
  snr : Int8
  freqOff : Int8
  antenna : UInt8
  fcsOk : Bool
  crcErr : Bool
  phyErr : Bool
  cryptoOk : Bool
  ampdu : Bool
  wcid : UInt8
  bssIdx : UInt8
  tid : UInt8
  keyIdx : UInt8
  linkId : Nat
deriving DecidableEq

/-- Offsets of descriptor and payload in a segment, and the padded length of the payload. -/
structure RxUnwrapped where
  rxwi : Nat
  payload : Nat
  payloadLen : Nat
deriving DecidableEq

def mtRxdInfoLenMask : Nat := 0x3fff

def mtRxdPktInfo80211 : Nat := 0x00080000

def roundUp4 (x : Nat) : Nat := (x + 3) / 4 * 4

/-- The segment the chip would deliver; its length word counts descriptor, payload and padding. -/
def usbRxWrap (cap : Nat) (rxwi payload : Bytes) : Option Bytes :=
  let dmaLen := roundUp4 (rxwi.length + payload.length)
  if dmaLen > mtRxdInfoLenMask then none
  else if mtDmaHdrs + dmaLen > cap then none
  else
    let rxd := UInt32.ofNat (mtRxdPktInfo80211 + dmaLen % (mtRxdInfoLenMask + 1))
    some (putLe32 rxd ++ rxwi ++ payload ++
      List.replicate (dmaLen - (rxwi.length + payload.length) + mtDmaFceLen) 0)

def usbRxUnwrap (seg : Bytes) : Option RxUnwrapped :=
  let minSeg := mtDmaHdrs + mt7601uRxwiSize + mtDmaFceLen
  if seg.length < minSeg then none
  else
    let dmaLen := (getLe16 seg 0).toNat
    if dmaLen = 0 ∨ dmaLen + mtDmaHdrs > seg.length ∨ dmaLen % 4 ≠ 0 ∨ dmaLen < minSeg then none
    else
      some { rxwi := mtDmaHdrLen, payload := mtDmaHdrLen + mt7601uRxwiSize
             payloadLen := dmaLen - mt7601uRxwiSize }

def rxwiRxinfo (seg : Bytes) (rxwi : Nat) : UInt32 := getLe32 seg rxwi

def rxwiCtl (seg : Bytes) (rxwi : Nat) : UInt32 := getLe32 seg (rxwi + 4)

/-- `MPDU_LEN`, the length of the frame without padding. -/
def rxwiMpduLen (seg : Bytes) (rxwi : Nat) : Nat :=
  ((rxwiCtl seg rxwi &&& 0x0fff0000) >>> 16).toNat

/-- Decrypted by the chip, with neither an ICV nor a MIC error. -/
def rxinfoHwDecrypted (rxinfo : UInt32) : Bool :=
  (rxinfo &&& mtRxinfoDecrypt ≠ 0) && (rxinfo &&& (mtRxinfoIcverr ||| mtRxinfoMicerr) = 0)

/-- The descriptor of a frame of `frameLen` octets at offset `frame`. -/
def parseRxwi (seg : Bytes) (rxwi frame frameLen : Nat) : Option RxInfo :=
  let rxinfo := rxwiRxinfo seg rxwi
  let ctl := rxwiCtl seg rxwi
  let rate := getLe16 seg (rxwi + 10)
  if rxwiMpduLen seg rxwi < 10 then none
  else
    let phy := (rate &&& 0xc000) >>> 14
    let gain := byteAt seg (rxwi + 18)
    some
      { data := frame, len := frameLen
        gen := if phy = 0 ∨ phy = 1 then .legacy else .ht
        phyMode := if phy = 0 then .cck else if phy = 1 then .ofdm else .ht
        mcs := rate &&& 0x007f, bwMhz := if rate &&& 0x0080 ≠ 0 then 40 else 20, nSs := 1
        shortGi := rate &&& 0x0100 ≠ 0, stbc := rate &&& 0x0600 ≠ 0
        rssi := -(gain &&& 0x3f).toInt8, snr := (byteAt seg (rxwi + 16)).toInt8
        freqOff := (byteAt seg (rxwi + 19)).toInt8, antenna := (gain >>> 6) &&& 0x3
        fcsOk := rxinfo &&& mtRxinfoCrcerr = 0, crcErr := rxinfo &&& mtRxinfoCrcerr ≠ 0
        phyErr := false, cryptoOk := rxinfoHwDecrypted rxinfo
        ampdu := rxinfo &&& mtRxinfoAmpdu ≠ 0
        wcid := (ctl &&& 0x000000ff).toUInt8, bssIdx := ((ctl &&& 0x00001c00) >>> 10).toUInt8
        tid := ((ctl &&& 0xf0000000) >>> 28).toUInt8
        keyIdx := ((ctl &&& 0x00000300) >>> 8).toUInt8, linkId := 0 }

/-- The core's own reception: what it delivers for a segment, cut to the frame's length. -/
def mt7601uHalRxBulkIn (seg : Bytes) : Option RxInfo :=
  (usbRxUnwrap seg).bind fun u =>
    parseRxwi seg u.rxwi u.payload (min (rxwiMpduLen seg u.rxwi) u.payloadLen)

theorem parseRxwi_span {seg : Bytes} {rxwi frame frameLen : Nat} {info : RxInfo}
    (parsed : parseRxwi seg rxwi frame frameLen = some info) :
    info.data = frame ∧ info.len = frameLen ∧
      ∀ len, ∃ other, parseRxwi seg rxwi frame len = some other ∧ other.data = frame ∧
        other.len = len := by
  unfold parseRxwi at parsed
  dsimp only at parsed
  split at parsed
  · cases parsed
  rename_i long
  cases parsed
  refine ⟨rfl, rfl, fun len => ⟨_, if_neg long, rfl, rfl⟩⟩

end Rf2a4m1
