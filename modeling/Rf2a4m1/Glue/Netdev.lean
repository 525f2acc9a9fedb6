import Rf2a4m1.Crypto.Ccmp
import Rf2a4m1.Glue.Segment
import Rf2a4m1.Sme.Rx

/-!
# From the bulk endpoint to the network stack

Data frames are turned into 802.3 frames and given to the stack, after
decryption where they are protected. Everything else goes to the SME.
-/

set_option autoImplicit false

namespace Rf2a4m1

open ByteString

/-- The kernel's helpers for an 802.11 header: its size as a type, tests and length by frame
control, destination and source address. -/
structure Ieee80211 where
  hdrSize : Nat
  isData : UInt16 → Bool
  hasProtected : UInt16 → Bool
  hdrlen : UInt16 → Nat
  da : Bytes → MacAddr
  sa : Bytes → MacAddr

/-- Whether the two allocations of a reception succeed. -/
structure RxAlloc where
  decbuf : Bool
  skb : Bool

structure NetStats where
  rxPackets : Nat
  rxBytes : Nat
  rxDropped : Nat
  rxErrors : Nat

/-- The device: its network interface, the SME and the frames given to the stack, newest first. -/
structure Dev where
  ndev : Bool
  sme : Sme
  stats : NetStats
  stack : List Bytes

inductive CcmpRx where
  | errCrypto
  | errReplay
  | ok (plain : Bytes)

/-- MIC first, then the packet number: only an authentic and new frame moves the context. -/
def ccmpDecryptRx (inp : Bytes) (hdrLen : Nat) (tk : Octets 16) (outCap : Nat) (rp : PnReplay) :
    CcmpRx × PnReplay :=
  match ccmpDecrypt inp hdrLen tk outCap with
  | none => (.errCrypto, rp)
  | some (plain, pn) =>
    if !pnReplayOk rp (pnReplayTid inp) pn then (.errReplay, rp)
    else (.ok plain, pnReplayCommit rp (pnReplayTid inp) pn)

/-- The first octets of an LLC/SNAP header at an offset. -/
def snapAt (body : Bytes) (off : Nat) : Bool :=
  byteAt body off = 0xaa && byteAt body (off + 1) = 0xaa && byteAt body (off + 2) = 0x03

/-- What the chip decrypted, found by its LLC/SNAP header: the chip may keep the CCMP header. -/
def hwPlain (body : Bytes) : Bytes :=
  if body.length ≥ 8 + 3 ∧ !snapAt body 0 ∧ snapAt body 8 then body.drop 8 else body

def Dev.dropFrame (dev : Dev) : Dev :=
  { dev with stats := { dev.stats with rxDropped := dev.stats.rxDropped + 1 } }

def Dev.rxError (dev : Dev) : Dev :=
  { dev with stats := { dev.stats with rxErrors := dev.stats.rxErrors + 1 } }

def Dev.setReplay (dev : Dev) (rp : PnReplay) : Dev :=
  { dev with sme := { dev.sme with dataRxReplay := rp } }

def Dev.netifRx (dev : Dev) (eth : Bytes) : Dev :=
  { dev with stack := eth :: dev.stack
             stats := { dev.stats with rxPackets := dev.stats.rxPackets + 1
                                       rxBytes := dev.stats.rxBytes + eth.length } }

/-- What a frame holds behind its header: left to the core, dropped, or a body in the clear. -/
inductive RxBody where
  | toCore
  | dropped
  | clear (body : Bytes)

/-- The body of a frame, decrypted where that is called for. -/
def rxNetdevBody (k : Ieee80211) (alloc : RxAlloc) (dev : Dev) (frame : Bytes) (hwDecrypted : Bool) :
    RxBody × Dev :=
  let fc := getLe16 frame 0
  let hdrlen := k.hdrlen fc
  if k.hasProtected fc then
    if hwDecrypted then (.clear (hwPlain (frame.drop hdrlen)), dev)
    else if !dev.sme.dataKeyValid then (.toCore, dev)
    else if !alloc.decbuf then (.dropped, dev.dropFrame)
    else
      match ccmpDecryptRx frame hdrlen dev.sme.installedTk frame.length dev.sme.dataRxReplay with
      | (.ok plain, rp) => (.clear plain, dev.setReplay rp)
      | (_, rp) => (.dropped, (dev.setReplay rp).dropFrame.rxError)
  else (.clear (frame.drop hdrlen), dev)

def ethPPae : Bytes := [0x88, 0x8e]

/-- A body that is bridged: LLC/SNAP with another ethertype than that of EAPOL. -/
def bridgeable (body : Bytes) : Bool :=
  decide (body.length ≥ 8) && snapAt body 0 && slice body 6 2 ≠ ethPPae

/-- The 802.3 frame of a body. -/
def ethFrame (k : Ieee80211) (frame body : Bytes) : Bytes :=
  (k.da frame).bytes ++ (k.sa frame).bytes ++ slice body 6 2 ++ body.drop 8

/-- Whether a data frame is consumed, and the device after. -/
def rxToNetdev (k : Ieee80211) (alloc : RxAlloc) (dev : Dev) (frame : Bytes) (hwDecrypted : Bool) :
    Bool × Dev :=
  if !dev.ndev ∨ frame.length < k.hdrSize then (false, dev)
  else if !k.isData (getLe16 frame 0) ∨ frame.length < k.hdrlen (getLe16 frame 0) then (false, dev)
  else
    match rxNetdevBody k alloc dev frame hwDecrypted with
    | (.toCore, dev) => (false, dev)
    | (.dropped, dev) => (true, dev)
    | (.clear body, dev) =>
      if !bridgeable body then (false, dev)
      else if !alloc.skb then (true, dev.dropFrame)
      else (true, dev.netifRx (ethFrame k frame body))

/-- A segment taken apart: its buffer, the frame's reception parameters and length, and whether
the chip decrypted it. -/
structure RxSegment where
  buf : Bytes
  info : RxInfo
  flen : Nat
  hwDecrypted : Bool

/-- The header moves up over the two octets of padding behind it. -/
def removeL2Pad (k : Ieee80211) (rxinfo : UInt32) (r : RxSegment) : RxSegment :=
  if rxinfo &&& mtRxinfoL2pad ≠ 0 ∧ r.flen ≥ 2 then
    let hl := k.hdrlen (getLe16 r.buf r.info.data)
    if r.flen > hl + 2 ∧ r.info.len > 2 then
      { r with buf := splice r.buf (r.info.data + 2) (slice r.buf r.info.data hl)
               info := { r.info with data := r.info.data + 2, len := r.info.len - 2 } }
    else r
  else r

/-- The frame of a segment. A frame that the chip did not decrypt still carries its FCS. -/
def rxSegment (k : Ieee80211) (seg : Bytes) : Option RxSegment :=
  (usbRxUnwrap seg).bind fun u =>
    let rxinfo := rxwiRxinfo seg u.rxwi
    (parseRxwi seg u.rxwi u.payload u.payloadLen).map fun info =>
      let flen := min (rxwiMpduLen seg u.rxwi) u.payloadLen
      let flen := if rxinfo &&& mtRxinfoDecrypt = 0 ∧ flen > 4 then flen - 4 else flen
      removeL2Pad k rxinfo
        { buf := seg, info := info, flen := flen, hwDecrypted := rxinfoHwDecrypted rxinfo }

def RxSegment.frame (r : RxSegment) : Bytes := slice r.buf r.info.data r.flen

/-- Bridge the frame of a segment, or hand it to the SME with the length of its span. -/
def rxProcessSeg (env : Env) (k : Ieee80211) (alloc : RxAlloc) (sib : Siblings) (dev : Dev)
    (seg : Bytes) : Dev × Siblings :=
  match rxSegment k seg with
  | none => (dev, sib)
  | some r =>
    match rxToNetdev k alloc dev r.frame r.hwDecrypted with
    | (true, dev) => (dev, sib)
    | (false, dev) =>
      let (sme, sib) := smeRx env sib dev.sme (slice r.buf r.info.data r.info.len)
      ({ dev with sme := sme }, sib)

/-- The reception parameters that are handed to the SME, if the frame is. -/
def rxHandedOn (k : Ieee80211) (alloc : RxAlloc) (dev : Dev) (seg : Bytes) : Option RxInfo :=
  (rxSegment k seg).bind fun r =>
    if (rxToNetdev k alloc dev r.frame r.hwDecrypted).1 then none else some r.info

/-- Where the body of a frame that goes to the stack comes from. -/
inductive BodySource (k : Ieee80211) (dev : Dev) (frame : Bytes) (hwDecrypted : Bool) :
    Bytes → Prop where
  | inClear (bit : k.hasProtected (getLe16 frame 0) = false) :
    BodySource k dev frame hwDecrypted (frame.drop (k.hdrlen (getLe16 frame 0)))
  | hardware (bit : k.hasProtected (getLe16 frame 0) = true) (hw : hwDecrypted = true) :
    BodySource k dev frame hwDecrypted (hwPlain (frame.drop (k.hdrlen (getLe16 frame 0))))
  | software (plain : Bytes) (bit : k.hasProtected (getLe16 frame 0) = true)
    (hw : hwDecrypted = false) (valid : dev.sme.dataKeyValid = true)
    (verified : (ccmpDecryptRx frame (k.hdrlen (getLe16 frame 0)) dev.sme.installedTk frame.length
      dev.sme.dataRxReplay).1 = .ok plain) :
    BodySource k dev frame hwDecrypted plain

section Spec

variable {k : Ieee80211} {alloc : RxAlloc} {dev : Dev} {frame : Bytes} {hwDecrypted : Bool}

/-- Decryption touches the replay context and the counters only. -/
theorem rxNetdevBody_dev :
    (∃ rp, (rxNetdevBody k alloc dev frame hwDecrypted).2.sme =
        { dev.sme with dataRxReplay := rp }) ∧
      (rxNetdevBody k alloc dev frame hwDecrypted).2.stack = dev.stack := by
  unfold rxNetdevBody
  dsimp only
  split
  · split
    · exact ⟨⟨dev.sme.dataRxReplay, rfl⟩, rfl⟩
    split
    · exact ⟨⟨dev.sme.dataRxReplay, rfl⟩, rfl⟩
    split
    · exact ⟨⟨dev.sme.dataRxReplay, rfl⟩, rfl⟩
    split
    · exact ⟨⟨_, rfl⟩, rfl⟩
    · exact ⟨⟨_, rfl⟩, rfl⟩
  · exact ⟨⟨dev.sme.dataRxReplay, rfl⟩, rfl⟩

theorem rxNetdevBody_source {body : Bytes}
    (clear : (rxNetdevBody k alloc dev frame hwDecrypted).1 = .clear body) :
    BodySource k dev frame hwDecrypted body := by
  unfold rxNetdevBody at clear
  dsimp only at clear
  split at clear
  · rename_i bit
    split at clear
    · rename_i hw
      cases clear
      exact .hardware bit hw
    rename_i hw
    split at clear
    · cases clear
    rename_i valid
    split at clear
    · cases clear
    split at clear
    · rename_i verified
      cases clear
      exact .software body bit (by simpa using hw) (by simpa using valid) (by rw [verified])
    · cases clear
  · rename_i bit
    cases clear
    exact .inClear (by simpa using bit)

/-- Either nothing goes to the stack, or the frame of a body that is bridged. -/
theorem rxToNetdev_cases :
    (∃ rp, (rxToNetdev k alloc dev frame hwDecrypted).2.sme =
        { dev.sme with dataRxReplay := rp }) ∧
      ((rxToNetdev k alloc dev frame hwDecrypted).2.stack = dev.stack ∨
        ∃ body, (rxToNetdev k alloc dev frame hwDecrypted).1 = true ∧
          (rxToNetdev k alloc dev frame hwDecrypted).2.stack = ethFrame k frame body :: dev.stack ∧
          BodySource k dev frame hwDecrypted body ∧ bridgeable body = true) := by
  obtain ⟨sme, stack⟩ := @rxNetdevBody_dev k alloc dev frame hwDecrypted
  unfold rxToNetdev
  split
  · exact ⟨⟨dev.sme.dataRxReplay, rfl⟩, Or.inl rfl⟩
  split
  · exact ⟨⟨dev.sme.dataRxReplay, rfl⟩, Or.inl rfl⟩
  split
  · rename_i found
    rw [found] at sme stack
    exact ⟨sme, Or.inl stack⟩
  · rename_i found
    rw [found] at sme stack
    exact ⟨sme, Or.inl stack⟩
  · rename_i body dev' found
    have source := rxNetdevBody_source (congrArg Prod.fst found)
    rw [found] at sme stack
    split
    · exact ⟨sme, Or.inl stack⟩
    rename_i bridged
    split
    · exact ⟨sme, Or.inl stack⟩
    · refine ⟨sme, Or.inr ⟨body, rfl, ?_, source, by simpa using bridged⟩⟩
      exact congrArg (ethFrame k frame body :: ·) stack

end Spec

end Rf2a4m1
