import Rf2a4m1.Crypto.Aes

/-!
# AES-CCM, CCMP and BIP-CMAC-128

CCMP protects unicast data and management frames, BIP protects group management
frames with a trailing Management MIC element.
-/

set_option autoImplicit false

namespace Rf2a4m1

open ByteString

/-- CBC-MAC block with the number of octets already mixed into it. -/
structure CbcState where
  block : Octets 16
  blen : Nat

def cbcAbsorb (rk : List UInt32) (s : CbcState) (x : UInt8) : CbcState :=
  let s := if s.blen = 16 then { block := aes128EncryptBlock rk s.block, blen := 0 } else s
  { block := Octets.of 16 (s.block.bytes.modify s.blen (· ^^^ x)), blen := s.blen + 1 }

def cbcFlush (rk : List UInt32) (s : CbcState) : CbcState :=
  if s.blen = 0 then s else { block := aes128EncryptBlock rk s.block, blen := 0 }

/-- Counter block `A_n`: flags `L - 1`, nonce, 16-bit counter. -/
def ctrBlock (nonce : Octets 13) (n : Nat) : Octets 16 :=
  Octets.of 16 (1 :: nonce.bytes ++ be 2 n)

structure CcmState where
  cbc : CbcState
  ctr : Nat
  ctrpad : Octets 16
  ctrlen : Nat
  out : Bytes

/-- One payload octet: refill the key stream when used up, cipher, MAC the plaintext octet. -/
def ccmByte (rk : List UInt32) (nonce : Octets 13) (encrypt : Bool) (s : CcmState) (x : UInt8) :
    CcmState :=
  let s := if s.ctrlen = 16 then
      { s with ctr := s.ctr + 1, ctrlen := 0,
               ctrpad := aes128EncryptBlock rk (ctrBlock nonce (s.ctr + 1)) }
    else s
  let y := x ^^^ byteAt s.ctrpad.bytes s.ctrlen
  let pbyte := if encrypt then x else y
  { s with cbc := cbcAbsorb rk s.cbc pbyte, ctrlen := s.ctrlen + 1, out := s.out ++ [y] }

/-- CCM with an 8-octet tag and a 2-octet length: the ciphered payload and the tag. -/
def aesCcm (key : Octets 16) (nonce : Octets 13) (adata mdata : Bytes) (encrypt : Bool) :
    Bytes × Octets 8 :=
  let rk := aes128Init key
  let flags : UInt8 := if adata.length = 0 then 0x19 else 0x59
  let b0 := Octets.of 16 (flags :: nonce.bytes ++ be 2 mdata.length)
  let cbc : CbcState := { block := aes128EncryptBlock rk b0, blen := 0 }
  let cbc := if adata.length = 0 then cbc
    else cbcFlush rk ((be 2 adata.length ++ adata).foldl (cbcAbsorb rk) cbc)
  let init : CcmState :=
    { cbc := cbc, ctr := 0, ctrpad := Octets.zero 16, ctrlen := 16, out := [] }
  let s := mdata.foldl (ccmByte rk nonce encrypt) init
  let block := (cbcFlush rk s.cbc).block
  (s.out, Octets.of 8 (xorBytes block.bytes (aes128EncryptBlock rk (ctrBlock nonce 0)).bytes))

def ccmpFcIsQosData (hdr : Bytes) : Bool :=
  (byteAt hdr 0 &&& 0x0c = 0x08) && (byteAt hdr 0 &&& 0x80 ≠ 0)

def ccmpFcHasA4 (hdr : Bytes) : Bool := byteAt hdr 1 &&& 0x03 = 0x03

/-- Additional authenticated data and nonce of a protected header. -/
def buildAadNonce (hdr : Bytes) (pn : Nat) : Bytes × Octets 13 :=
  let qos := ccmpFcIsQosData hdr
  let a4 := ccmpFcHasA4 hdr
  let mgmt := byteAt hdr 0 &&& 0x0c = 0x00
  let tid := byteAt hdr (if a4 then 30 else 24) &&& 0x0f
  let prio : UInt8 := if qos then tid else 0
  let nonce := (prio ||| (if mgmt then 0x10 else 0)) :: slice hdr 10 6 ++ be 6 pn
  let aad := [if mgmt then byteAt hdr 0 else byteAt hdr 0 &&& 0x8f, byteAt hdr 1 &&& 0xc7] ++
    slice hdr 4 18 ++ [byteAt hdr 22 &&& 0x0f, 0x00] ++
    (if a4 then slice hdr 24 6 else []) ++ (if qos then [tid, 0x00] else [])
  (aad, Octets.of 13 nonce)

def ccmpHeader (keyId : UInt8) (pn : Nat) : Bytes :=
  let extIv : UInt8 := (keyId &&& 0x3) <<< 6
  le 2 pn ++ [0x00, 0x20 ||| extIv] ++ le 4 (pn / 65536)

def ccmpEncrypt (outCap : Nat) (hdr payload : Bytes) (tk : Octets 16) (keyId : UInt8) (pn : Nat) :
    Option Bytes :=
  if hdr.length + 8 + payload.length + 8 > outCap ∨ hdr.length < 24 then none
  else
    -- the AAD is read from the output buffer, where the CCMP header already follows
    let out := hdr.modify 1 (· ||| 0x40) ++ ccmpHeader keyId pn
    let (aad, nonce) := buildAadNonce out pn
    let (body, mic) := aesCcm tk nonce aad payload true
    some (out ++ body ++ mic.bytes)

/-- The packet number carried by the CCMP header at offset `hdrLen`. -/
def ccmpPn (inp : Bytes) (hdrLen : Nat) : Nat :=
  ofLe (slice inp hdrLen 2 ++ slice inp (hdrLen + 4) 4)

/-- The plaintext and the packet number, or nothing for a malformed or unauthentic frame. -/
def ccmpDecrypt (inp : Bytes) (hdrLen : Nat) (tk : Octets 16) (outCap : Nat) :
    Option (Bytes × Nat) :=
  if hdrLen < 24 ∨ inp.length < hdrLen + 8 + 8 then none
  else if byteAt inp (hdrLen + 3) &&& 0x20 = 0 then none
  else
    let pn := ccmpPn inp hdrLen
    let bodyLen := inp.length - hdrLen - 8 - 8
    if bodyLen > outCap then none
    else
      let (aad, nonce) := buildAadNonce inp pn
      let (out, mic) := aesCcm tk nonce aad (slice inp (hdrLen + 8) bodyLen) false
      if mic.bytes = slice inp (hdrLen + 8 + bodyLen) 8 then some (out, pn) else none

/-- `ccmpDecrypt` with the caller's buffer: the body length it returns and the buffer after. -/
def ccmpDecryptInto (inp : Bytes) (hdrLen : Nat) (tk : Octets 16) (buf : Bytes) :
    Option Nat × Bytes :=
  if hdrLen < 24 ∨ inp.length < hdrLen + 8 + 8 then (none, buf)
  else if byteAt inp (hdrLen + 3) &&& 0x20 = 0 then (none, buf)
  else
    let pn := ccmpPn inp hdrLen
    let bodyLen := inp.length - hdrLen - 8 - 8
    if bodyLen > buf.length then (none, buf)
    else
      let (aad, nonce) := buildAadNonce inp pn
      let (out, mic) := aesCcm tk nonce aad (slice inp (hdrLen + 8) bodyLen) false
      if mic.bytes = slice inp (hdrLen + 8 + bodyLen) 8 then (some bodyLen, splice buf 0 out)
      else (none, splice buf 0 (List.replicate bodyLen 0))

inductive BipStatus where
  | ok
  | errMic
  | errReplay
  | errMalformed
deriving DecidableEq

def bipAad (hdr : Bytes) : Bytes :=
  [byteAt hdr 0, byteAt hdr 1 &&& 0xc7] ++ slice hdr 4 18

/-- Truncated CMAC over the AAD, the body and the MMIE with its MIC field zeroed. -/
def bipComputeMic (hdr body mmie : Bytes) (igtk : Octets 16) : Option (Octets 8) :=
  if body.length > 512 then none
  else
    let msg := bipAad hdr ++ body ++ slice mmie 0 10 ++ List.replicate 8 0
    some (Octets.of 8 (aes128Cmac igtk msg).bytes)

/-- The MMIE of a key id and IPN with a given MIC. -/
def mmieBytes (keyId : UInt16) (ipn : Octets 6) (mic : Octets 8) : Bytes :=
  [76, 16] ++ le 2 keyId.toNat ++ ipn.bytes ++ mic.bytes

def bipMmieProtect (outCap : Nat) (hdr body : Bytes) (igtk : Octets 16) (ipn : Octets 6)
    (keyId : UInt16) : Option Bytes :=
  if body.length > 512 ∨ 24 + body.length + 18 > outCap then none
  else
    (bipComputeMic hdr body (mmieBytes keyId ipn (Octets.zero 8)) igtk).map fun mic =>
      slice hdr 0 24 ++ body ++ mmieBytes keyId ipn mic

/-- The IPN field of the MMIE that ends a frame, as a number. -/
def mmieIpn (frame : Bytes) : Nat := ofBe (slice frame (frame.length - 14) 6)

/-- Authenticity first, then replay: the status and the counter afterwards. -/
def bipMmieVerify (frame : Bytes) (igtk : Octets 16) (replayCtr : Nat) : BipStatus × Nat :=
  if frame.length < 24 + 18 then (.errMalformed, replayCtr)
  else
    let bodyLen := frame.length - 24 - 18
    let mmie := frame.drop (24 + bodyLen)
    if byteAt mmie 0 ≠ 76 ∨ byteAt mmie 1 ≠ 16 then (.errMalformed, replayCtr)
    else
      match bipComputeMic frame (slice frame 24 bodyLen) mmie igtk with
      | none => (.errMalformed, replayCtr)
      | some mic =>
        if mic.bytes ≠ slice mmie 10 8 then (.errMic, replayCtr)
        else if mmieIpn frame ≤ replayCtr then (.errReplay, replayCtr)
        else (.ok, mmieIpn frame)

end Rf2a4m1
