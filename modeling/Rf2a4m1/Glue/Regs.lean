import Rf2a4m1.Glue.Hal
import Rf2a4m1.Lib.Halves

/-!
# Registers of the chip

Registers are read and written by control transfers that may fail, with or
without having reached the chip, and are then tried again. A register is
written in two halves.
-/

set_option autoImplicit false

namespace Rf2a4m1

open ByteString Halves

/-- How a control transfer ends: with all of its data or less, in a failure that may have reached the
chip, or with the device gone. -/
inductive Ctl where
  | done (whole : Bool)
  | failed (e : Errno) (reached : Bool)
  | gone

/-- The registers, and how many control transfers there have been. -/
structure ChipBus where
  cells : Memory
  turn : Nat

def mtVendReqMaxRetry : Nat := 10

namespace ChipBus

section Requests

variable (fate : Nat → Ctl) (alloc : Nat → Bool)

def next (b : ChipBus) : ChipBus := { b with turn := b.turn + 1 }

/-- A write request of sixteen bits, tried again so many times. -/
def writeRequest (off val : UInt16) : Nat → ChipBus → ChipBus × Option Errno
  | 0, b => (b, some .nodev)
  | left + 1, b =>
    match fate b.turn with
    | .done _ => ({ b.next with cells := write b.cells off val }, none)
    | .gone => (b.next, some .nodev)
    | .failed e reached =>
      let b := { b.next with cells := if reached then write b.cells off val else b.cells }
      if left = 0 then (b, some e) else writeRequest off val left b

/-- A read request of a register; a transfer may be short. -/
def readRequest (off : UInt16) : Nat → ChipBus → ChipBus × Option UInt32
  | 0, b => (b, none)
  | left + 1, b =>
    match fate b.turn with
    | .done whole => (b.next, if whole then some (get b.cells off) else none)
    | .gone => (b.next, none)
    | .failed _ _ => readRequest off left b.next

/-- All ones when the read fails. -/
def regRead (off : UInt16) (b : ChipBus) : ChipBus × UInt32 :=
  if !alloc b.turn then (b, 0xffffffff)
  else
    let (b, got) := readRequest fate off mtVendReqMaxRetry b
    (b, got.getD 0xffffffff)

def regWrite (off : UInt16) (val : UInt32) (b : ChipBus) : ChipBus × Option Errno :=
  match writeRequest fate off val.toUInt16 mtVendReqMaxRetry b with
  | (b, some e) => (b, some e)
  | (b, none) => writeRequest fate (off + 2) (val >>> 16).toUInt16 mtVendReqMaxRetry b

def regRmw (off : UInt16) (mask val : UInt32) (b : ChipBus) : ChipBus × UInt32 :=
  let (b, old) := regRead fate alloc off b
  let val := val ||| (old &&& ~~~mask)
  ((regWrite fate off val b).1, val)

/-- Writes one after another, whatever becomes of each. -/
def regWrites (l : List (UInt16 × UInt32)) (b : ChipBus) : ChipBus :=
  l.foldl (fun b w => (regWrite fate w.1 w.2 b).1) b

end Requests

end ChipBus

def mtWcidAddr (i : UInt16) : UInt16 := 0x1800 + i * 8

def mtWcidKey (i : UInt16) : UInt16 := 0x8000 + i * 32

def mtWcidIv (i : UInt16) : UInt16 := 0xa000 + i * 8

def mtWcidAttr (i : UInt16) : UInt16 := 0xa800 + i * 4

def mtWcidDrop (i : UInt16) : UInt16 := (0x106c : UInt16) + (i >>> 5) * 4

def mtWcidDropMask (i : UInt16) : UInt32 := 1 <<< (i % 32).toUInt32

def mtMacBssidDw0 : UInt16 := 0x1010

def mtSkey (idx : UInt16) : UInt16 := 0xac00 + idx * 32

def mtSkeyMode0 : UInt16 := 0xb000

def mtSkeyModeShift (idx : UInt16) : UInt32 := 4 * idx.toUInt32

def mtCipherAesCcmp : UInt32 := 4

/-- Pairwise, CCMP. -/
def wcidAttrCcmp : UInt32 := (1 : UInt32) ||| ((mtCipherAesCcmp &&& 7) <<< 1)

/-- The registers of an address. -/
def macWords (base : UInt16) (mac : MacAddr) : List (UInt16 × UInt32) :=
  [(base, getLe32 mac.bytes 0),
    (base + 4, (byteAt mac.bytes 4).toUInt32 ||| ((byteAt mac.bytes 5).toUInt32 <<< 8))]

/-- The registers of a key, the upper half zero. -/
def keyWords (base : UInt16) (key : Octets 16) : List (UInt16 × UInt32) :=
  (List.range 4).map (fun i => (base + UInt16.ofNat i * 4, getLe32 key.bytes (i * 4))) ++
    (List.range' 4 4).map fun i => (base + UInt16.ofNat i * 4, 0)

/-- The slot of the pairwise key. -/
def hwWcidIdx : UInt16 := 1

def pairwiseWords (peer : MacAddr) (key : Octets 16) : List (UInt16 × UInt32) :=
  macWords (mtWcidAddr hwWcidIdx) peer ++ keyWords (mtWcidKey hwWcidIdx) key ++
    [(mtWcidIv hwWcidIdx, 0x20000001), (mtWcidIv hwWcidIdx + 4, 0),
      (mtWcidAttr hwWcidIdx, wcidAttrCcmp)]

/-- The cipher of one group key slot put into the modes of all. -/
def skeyModeSet (idx : UInt16) (mode : UInt32) : UInt32 :=
  (mode &&& ~~~(0xf <<< mtSkeyModeShift idx)) ||| (mtCipherAesCcmp <<< mtSkeyModeShift idx)

namespace ChipBus

section Keys

variable (fate : Nat → Ctl) (alloc : Nat → Bool)

def installGroupKey (gtk : Octets 16) (b : ChipBus) (gid : UInt16) : ChipBus :=
  let (b, mode) := regRead fate alloc mtSkeyMode0 (regWrites fate (keyWords (mtSkey gid) gtk) b)
  (regWrite fate mtSkeyMode0 (skeyModeSet gid mode) b).1

/-- The key table, and the registers the log line shows. -/
def installKeys (peer : MacAddr) (key gtk : Octets 16) (b : ChipBus) : ChipBus :=
  let b := regWrites fate (pairwiseWords peer key) b
  let b := (regRmw fate alloc (mtWcidDrop hwWcidIdx) (mtWcidDropMask hwWcidIdx) 0 b).1
  let b := [1, 2].foldl (installGroupKey fate alloc gtk) b
  let b := regWrites fate (macWords mtMacBssidDw0 peer) b
  [mtWcidAttr hwWcidIdx, mtWcidKey hwWcidIdx, mtSkeyMode0].foldl
    (fun b off => (regRead fate alloc off b).1) b

end Keys

end ChipBus

/-- What the glue does to the chip and remembers when the keys of the SME are installed. -/
def GlueDev.usbInstallHwKeys (fate : Nat → Ctl) (alloc : Nat → Bool) (d : GlueDev) (b : ChipBus) :
    GlueDev × ChipBus × Option Errno :=
  if !d.hwInited then (d, b, some .nodev)
  else if !d.sme.ptkInstalled ∨ !d.sme.dataKeyValid then (d, b, some .inval)
  else
    ({ d with hwPeer := d.sme.peer, hwKeyInstalled := true },
      b.installKeys fate alloc d.sme.peer d.sme.installedTk d.sme.gtk, none)

end Rf2a4m1
