import Rf2a4m1.Glue.Hal

/-!
# Commands to the microcontroller of the chip

A command goes out on one bulk endpoint and its answer, if one is asked for,
comes in on another. Answers carry the number of their command, which repeats
after fifteen. The host controller and the chip are a parameter.
-/

set_option autoImplicit false

namespace Rf2a4m1

open ByteString

/-- Memory and bulk transfers, as the driver meets them one after another. -/
structure Usb (σ : Type) where
  kmalloc : σ → Nat → σ × Bool
  bulkOut : σ → Nat → Bytes → σ × Option Errno
  bulkIn : σ → Nat → Nat → σ × Except Errno Bytes

/-- The part of the device that commands read and write. -/
structure McuDev (σ : Type) where
  host : σ
  mcuSeq : UInt8
  nIn : Nat
  nOut : Nat
  rxRingArmed : Bool

def epOutCmd : Nat := 0

def epInRx : Nat := 0

def epInCmd : Nat := 1

def rxBufSz : Nat := 32768

def mcuRespTries : Nat := 10

def mcuCmdAttempts : Nat := 3

def mcuDrainMax : Nat := 8

def mtMcuInbandMaxLen : Nat := 192

def mtMcuMemmapWlan : UInt32 := 0x00410000

def mtCmdFunSetOp : UInt8 := 1

def mtCmdBurstWrite : UInt8 := 8

def mtCmdCalibrationOp : UInt8 := 31

def mtEvtCmdDone : UInt32 := 0

namespace McuDev

variable {σ : Type} (u : Usb σ)

def kmalloc (d : McuDev σ) (size : Nat) : McuDev σ × Bool :=
  let (host, ok) := u.kmalloc d.host size
  ({ d with host := host }, ok)

def bulkOut (d : McuDev σ) (ep : Nat) (frame : Bytes) : McuDev σ × Option Errno :=
  if ep ≥ d.nOut then (d, some .inval)
  else
    let (host, e) := u.bulkOut d.host ep frame
    ({ d with host := host }, e)

def bulkIn (d : McuDev σ) (ep size : Nat) : McuDev σ × Except Errno Bytes :=
  if ep ≥ d.nIn then (d, .error .inval)
  else
    let (host, got) := u.bulkIn d.host ep size
    ({ d with host := host }, got)

/-- What waits on an endpoint is thrown away, at most so many transfers of it. -/
def mcuDrain (ep : Nat) : Nat → McuDev σ → McuDev σ × Nat
  | 0, d => (d, 0)
  | left + 1, d =>
    match bulkIn u d ep rxBufSz with
    | (d, .error _) => (d, 0)
    | (d, .ok []) => (d, 0)
    | (d, .ok (_ :: _)) =>
      let (d, drained) := mcuDrain ep left d
      (d, drained + 1)

/-- Packet reception is drained as long as no ring of transfers does it. -/
def relieve (d : McuDev σ) : McuDev σ :=
  if d.rxRingArmed then d else (mcuDrain u epInRx mcuDrainMax d).1

end McuDev

/-- The word in front of a command: its length, its number, its type and its port. -/
def mcuInfo (seq cmd : UInt8) (len : Nat) : UInt32 :=
  (UInt32.ofNat len &&& (0xffff : UInt32)) ||| (seq.toUInt32 <<< 16) ||| (cmd.toUInt32 <<< 20) |||
    ((2 : UInt32) <<< 27) ||| ((1 : UInt32) <<< 30)

/-- A command as it goes out; number 0 asks for no answer. -/
def mcuFrame (seq cmd : UInt8) (payload : Bytes) : Bytes :=
  putLe32 (mcuInfo seq cmd payload.length) ++ payload ++ List.replicate 4 0

/-- The number of a command or an answer. -/
def mcuSeqOf (frame : Bytes) : UInt8 := ((getLe32 frame 0 >>> 16) &&& 0xf).toUInt8

/-- An answer says that a command is done. -/
def mcuEvtDone (resp : Bytes) : Bool :=
  resp.length ≥ 4 && (getLe32 resp 0 >>> 20) &&& 0xf = mtEvtCmdDone

inductive McuPoll where
  | answered
  | failed (e : Errno)
  | silent

namespace McuDev

variable {σ : Type} (u : Usb σ)

/-- The endpoint of the answers is read until the one of this number is there. -/
def mcuPoll (seq : UInt8) : Nat → McuDev σ → McuDev σ × McuPoll
  | 0, d => (d, .silent)
  | tries + 1, d =>
    match bulkIn u d epInCmd rxBufSz with
    | (d, .error .timedout) => mcuPoll seq tries (relieve u d)
    | (d, .error e) => (d, .failed e)
    | (d, .ok resp) =>
      if mcuEvtDone resp ∧ mcuSeqOf resp = seq then (d, .answered) else mcuPoll seq tries d

def nextSeq (d : McuDev σ) : UInt8 := d.mcuSeq % 15 + 1

/-- A command is sent under a new number until it is answered or a transfer fails. -/
def mcuAttempts (cmd : UInt8) (payload : Bytes) : Nat → McuDev σ → McuDev σ × Option Errno
  | 0, d => (d, some .timedout)
  | left + 1, d =>
    let d := relieve u (mcuDrain u epInCmd mcuDrainMax d).1
    let seq := d.nextSeq
    match bulkOut u { d with mcuSeq := seq } epOutCmd (mcuFrame seq cmd payload) with
    | (d, some .timedout) => mcuAttempts cmd payload left d
    | (d, some e) => (d, some e)
    | (d, none) =>
      match mcuPoll u seq mcuRespTries d with
      | (d, .answered) => (d, none)
      | (d, .failed e) => (d, some e)
      | (d, .silent) => mcuAttempts cmd payload left d

def mcuCmd (d : McuDev σ) (cmd : UInt8) (payload : Bytes) (waitResp : Bool) :
    McuDev σ × Option Errno :=
  if payload.length % 4 ≠ 0 ∨ payload.length > mtMcuInbandMaxLen then (d, some .inval)
  else
    match kmalloc u d (4 + payload.length + 4) with
    | (d, false) => (d, some .nomem)
    | (d, true) =>
      if !waitResp then bulkOut u d epOutCmd (mcuFrame 0 cmd payload)
      else
        match kmalloc u d rxBufSz with
        | (d, false) => (d, some .nomem)
        | (d, true) => mcuAttempts u cmd payload mcuCmdAttempts d

def mcuCalibrate (d : McuDev σ) (cal val : UInt32) : McuDev σ × Option Errno :=
  mcuCmd u d mtCmdCalibrationOp (putLe32 cal ++ putLe32 val) true

def mcuFunctionSelect (d : McuDev σ) (func val : UInt32) : McuDev σ × Option Errno :=
  mcuCmd u d mtCmdFunSetOp (putLe32 func ++ putLe32 val) (func = 5)

/-- Words written by one command. -/
def burstMax : Nat := mtMcuInbandMaxLen / 4 - 1

/-- The words from index `off` on are written; only the last command asks for an answer. -/
def mcuBurstFrom (offset : UInt32) (off : Nat) (vals : List UInt32) (d : McuDev σ) :
    McuDev σ × Option Errno :=
  if vals = [] then (d, none)
  else
    let now := vals.take burstMax
    let rest := vals.drop burstMax
    let addr := mtMcuMemmapWlan + offset + UInt32.ofNat off * 4
    match mcuCmd u d mtCmdBurstWrite (putLe32 addr ++ now.flatMap putLe32) (rest.isEmpty) with
    | (d, some e) => (d, some e)
    | (d, none) => mcuBurstFrom offset (off + now.length) rest d
termination_by vals.length
decreasing_by
  have := List.length_pos_of_ne_nil ‹¬vals = []›
  simp only [List.length_drop, burstMax, mtMcuInbandMaxLen]
  omega

def mcuBurstWrite (d : McuDev σ) (offset : UInt32) (vals : List UInt32) : McuDev σ × Option Errno :=
  mcuBurstFrom u offset 0 vals d

end McuDev

def mtWcidAddrBase : UInt32 := 0x1800

def mtSkeyModeBase0 : UInt32 := 0xb000

def mtWcidAttrBase : UInt32 := 0xa800

def nWcid : Nat := 128

/-- No address in the table of peers. -/
def wcidBlank : List UInt32 := (List.replicate nWcid [0xffffffff, 0x00ffffff]).flatten

namespace McuDev

variable {σ : Type} (u : Usb σ)

/-- The tables of peers, of group key modes and of peer attributes are blanked. -/
def initWcidMem (d : McuDev σ) : McuDev σ × Option Errno :=
  match kmalloc u d (nWcid * 2 * 4) with
  | (d, false) => (d, some .nomem)
  | (d, true) =>
    match mcuBurstWrite u d mtWcidAddrBase wcidBlank with
    | (d, some e) => (d, some e)
    | (d, none) =>
      match mcuBurstWrite u d mtSkeyModeBase0 (List.replicate 4 0) with
      | (d, some e) => (d, some e)
      | (d, none) => mcuBurstWrite u d mtWcidAttrBase (List.replicate (nWcid * 2) 1)

end McuDev

end Rf2a4m1
