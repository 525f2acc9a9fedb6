import Rf2a4m1.Crypto.Ccmp

/-!
# CCMP and BIP as codecs

Deciphering runs the same key stream over the same plaintext MAC, so AES-CCM in
one direction undoes AES-CCM in the other, tag included. With the packet number
read back from the CCMP header, this makes CCMP an exact codec.
-/

set_option autoImplicit false

namespace Rf2a4m1

open ByteString

section Ccm

variable (rk : List UInt32) (nonce : Octets 13)

/-- The octet that comes out of one step is turned back into the one that went in. -/
theorem ccmByte_inverse (encrypt : Bool) (s : CcmState) (x : UInt8) (o : Bytes) :
    ∃ y, (ccmByte rk nonce encrypt s x).out = s.out ++ [y] ∧
      ccmByte rk nonce (!encrypt) { s with out := o } y =
        { ccmByte rk nonce encrypt s x with out := o ++ [x] } := by
  have cancel (a b : UInt8) : a ^^^ b ^^^ b = a := by
    rw [UInt8.xor_assoc, UInt8.xor_self, UInt8.xor_zero]
  by_cases used : s.ctrlen = 16
  · refine ⟨x ^^^ byteAt (aes128EncryptBlock rk (ctrBlock nonce (s.ctr + 1))).bytes 0,
      by simp [ccmByte, used], ?_⟩
    cases encrypt <;> simp [ccmByte, used, cancel]
  · refine ⟨x ^^^ byteAt s.ctrpad.bytes s.ctrlen, by simp [ccmByte, used], ?_⟩
    cases encrypt <;> simp [ccmByte, used, cancel]

/-- Over a whole payload: the output has its length, and running the other direction over
it ends with the same MAC and counter and with the payload. -/
theorem ccmBytes_inverse (encrypt : Bool) (p : Bytes) (s : CcmState) (o : Bytes) :
    ∃ c, (p.foldl (ccmByte rk nonce encrypt) s).out = s.out ++ c ∧ c.length = p.length ∧
      c.foldl (ccmByte rk nonce (!encrypt)) { s with out := o } =
        { p.foldl (ccmByte rk nonce encrypt) s with out := o ++ p } := by
  induction p generalizing s o with
  | nil => exact ⟨[], by simp⟩
  | cons x rest ih =>
    obtain ⟨y, out, back⟩ := ccmByte_inverse rk nonce encrypt s x o
    obtain ⟨c, outs, length, backs⟩ := ih (ccmByte rk nonce encrypt s x) (o ++ [x])
    refine ⟨y :: c, ?_, by simp [length], ?_⟩
    · rw [List.foldl_cons, outs, out, List.append_assoc, List.singleton_append]
    · rw [List.foldl_cons, back, backs, List.foldl_cons, List.append_assoc,
        List.singleton_append]

/-- AES-CCM undoes itself: same tag, and the payload comes back. -/
theorem aesCcm_inverse (key : Octets 16) (nonce : Octets 13) (adata p : Bytes)
    (encrypt : Bool) :
    (aesCcm key nonce adata p encrypt).1.length = p.length ∧
      aesCcm key nonce adata (aesCcm key nonce adata p encrypt).1 (!encrypt) =
        (p, (aesCcm key nonce adata p encrypt).2) := by
  have fold (s : CcmState) (fresh : s.out = []) :
      (p.foldl (ccmByte (aes128Init key) nonce encrypt) s).out.length = p.length ∧
      (p.foldl (ccmByte (aes128Init key) nonce encrypt) s).out.foldl
          (ccmByte (aes128Init key) nonce (!encrypt)) s =
        { p.foldl (ccmByte (aes128Init key) nonce encrypt) s with out := p } := by
    obtain ⟨c, out, length, back⟩ := ccmBytes_inverse (aes128Init key) nonce encrypt p s []
    have same : { s with out := [] } = s := by rw [← fresh]
    rw [fresh, List.nil_append] at out
    rw [same, List.nil_append] at back
    rw [out]
    exact ⟨length, back⟩
  constructor
  · exact (fold _ rfl).1
  · unfold aesCcm
    simp only
    rw [(fold _ rfl).1, (fold _ rfl).2]

end Ccm

section Header

/-- The MAC header that a frame control announces, Address 4 and QoS Control included. -/
def ccmpHdrSpan (hdr : Bytes) : Nat :=
  24 + (if ccmpFcHasA4 hdr then 6 else 0) + (if ccmpFcIsQosData hdr then 2 else 0)

theorem ccmpHdrSpan_le (hdr : Bytes) : ccmpHdrSpan hdr ≤ 32 := by
  unfold ccmpHdrSpan
  split <;> split <;> omega

/-- AAD and nonce depend on the announced header only. -/
theorem buildAadNonce_congr {a b : Bytes} {n pn : Nat} (agree : a.take n = b.take n)
    (span : ccmpHdrSpan a ≤ n) : buildAadNonce a pn = buildAadNonce b pn := by
  have base : 24 ≤ n := by
    unfold ccmpHdrSpan at span
    omega
  have fc0 : byteAt a 0 = byteAt b 0 := byteAt_congr agree (by omega)
  have fc1 : byteAt a 1 = byteAt b 1 := byteAt_congr agree (by omega)
  have qos : ccmpFcIsQosData a = ccmpFcIsQosData b := by simp only [ccmpFcIsQosData, fc0]
  have a4 : ccmpFcHasA4 a = ccmpFcHasA4 b := by simp only [ccmpFcHasA4, fc1]
  have ta : slice a 10 6 = slice b 10 6 := slice_congr agree (by omega)
  have addrs : slice a 4 18 = slice b 4 18 := slice_congr agree (by omega)
  have sc : byteAt a 22 = byteAt b 22 := byteAt_congr agree (by omega)
  have addr4 : ccmpFcHasA4 b = true → slice a 24 6 = slice b 24 6 := by
    intro has
    simp only [ccmpHdrSpan, a4, has, if_true] at span
    exact slice_congr agree (by omega)
  have tid : ccmpFcIsQosData b = true →
      byteAt a (if ccmpFcHasA4 b then 30 else 24) =
        byteAt b (if ccmpFcHasA4 b then 30 else 24) := by
    intro has
    simp only [ccmpHdrSpan, a4, qos, has, if_true] at span
    refine byteAt_congr agree ?_
    split at span <;> simp_all <;> omega
  unfold buildAadNonce
  simp only [fc0, fc1, qos, a4, ta, addrs, sc]
  cases isQos : ccmpFcIsQosData b <;> cases has4 : ccmpFcHasA4 b <;>
    simp_all

theorem ccmpHeader_length (keyId : UInt8) (pn : Nat) : (ccmpHeader keyId pn).length = 8 := by
  simp [ccmpHeader]

/-- The scattered octets of the packet number are put together again. -/
theorem ccmpPn_header {hdr rest : Bytes} {keyId : UInt8} {pn : Nat} (fits : pn < 2 ^ 48) :
    ccmpPn (hdr ++ ccmpHeader keyId pn ++ rest) hdr.length = pn := by
  have low : slice (hdr ++ ccmpHeader keyId pn ++ rest) hdr.length 2 = le 2 pn := by
    rw [List.append_assoc, slice_append_right (Nat.le_refl _)]
    simp [ccmpHeader, slice, le]
  have high : slice (hdr ++ ccmpHeader keyId pn ++ rest) (hdr.length + 4) 4 =
      le 4 (pn / 65536) := by
    rw [List.append_assoc, slice_append_right (by omega)]
    simp [ccmpHeader, slice, le]
  rw [ccmpPn, low, high, ofLe_append, ofLe_le, ofLe_le, le_length]
  omega

/-- Writing the packet number that was read gives the octets it was read from. -/
theorem ccmpHeader_pn {frame : Bytes} {hdrLen : Nat} {keyId : UInt8}
    (long : hdrLen + 8 ≤ frame.length) :
    ccmpHeader keyId (ccmpPn frame hdrLen) =
      slice frame hdrLen 2 ++ ([0x00, (0x20 : UInt8) ||| ((keyId &&& 0x3) <<< 6)] : Bytes) ++
        slice frame (hdrLen + 4) 4 := by
  have lowLength : (slice frame hdrLen 2).length = 2 := by
    rw [slice_length]
    omega
  have highLength : (slice frame (hdrLen + 4) 4).length = 4 := by
    rw [slice_length]
    omega
  have octets := le_ofLe (slice frame hdrLen 2 ++ slice frame (hdrLen + 4) 4)
  rw [List.length_append, lowLength, highLength, le_append 2 4] at octets
  obtain ⟨low, high⟩ := List.append_inj octets (by rw [le_length, lowLength])
  unfold ccmpHeader ccmpPn
  have shift : (65536 : Nat) = 256 ^ 2 := rfl
  simp only [shift, low, high]

theorem ccmpHeader_extIv {hdr rest : Bytes} {keyId : UInt8} {pn : Nat} :
    byteAt (hdr ++ ccmpHeader keyId pn ++ rest) (hdr.length + 3) =
      (0x20 : UInt8) ||| ((keyId &&& 0x3) <<< 6) := by
  rw [List.append_assoc, byteAt_append_right (by omega)]
  simp [ccmpHeader, byteAt, le]

end Header

section Bits

theorem extIv_set (keyId : UInt8) :
    ((0x20 : UInt8) ||| ((keyId &&& 0x3) <<< 6)) &&& 0x20 ≠ 0 := by
  have all : ∀ k : Fin 256,
      ((0x20 : UInt8) ||| ((UInt8.ofNat k.val &&& 0x3) <<< 6)) &&& 0x20 ≠ 0 := by
    decide +kernel
  simpa using all ⟨keyId.toNat, keyId.toNat_lt⟩

/-- Only the reserved bits of the key id octet are lost when it is written again. -/
theorem keyId_octet {b : UInt8} (extIv : b &&& 0x20 ≠ 0) :
    (0x20 : UInt8) ||| (((b >>> 6) &&& 0x3) <<< 6) = b &&& 0xe0 := by
  have all : ∀ k : Fin 256, UInt8.ofNat k.val &&& 0x20 ≠ 0 →
      (0x20 : UInt8) ||| (((UInt8.ofNat k.val >>> 6) &&& 0x3) <<< 6) = UInt8.ofNat k.val &&& 0xe0 := by
    decide +kernel
  simpa using all ⟨b.toNat, b.toNat_lt⟩ (by simpa using extIv)

theorem protected_octet {b : UInt8} (isProtected : b &&& 0x40 ≠ 0) : b ||| 0x40 = b := by
  have all : ∀ k : Fin 256, UInt8.ofNat k.val &&& 0x40 ≠ 0 →
      UInt8.ofNat k.val ||| 0x40 = UInt8.ofNat k.val := by
    decide +kernel
  simpa using all ⟨b.toNat, b.toNat_lt⟩ (by simpa using isProtected)

end Bits

section Ccmp

variable {tk : Octets 16} {keyId : UInt8} {pn : Nat}

/-- A frame that decryption refuses for its MIC only. -/
def CcmpShaped (inp : Bytes) (hdrLen cap : Nat) : Prop :=
  24 ≤ hdrLen ∧ hdrLen + 16 ≤ inp.length ∧ byteAt inp (hdrLen + 3) &&& 0x20 ≠ 0 ∧
    inp.length - hdrLen - 8 - 8 ≤ cap

/-- What an accepted frame satisfies. -/
theorem ccmpDecrypt_some {inp payload : Bytes} {hdrLen cap : Nat}
    (plain : ccmpDecrypt inp hdrLen tk cap = some (payload, pn)) :
    CcmpShaped inp hdrLen cap ∧ ccmpPn inp hdrLen = pn ∧
      ∃ tag : Octets 8,
        aesCcm tk (buildAadNonce inp (ccmpPn inp hdrLen)).2
            (buildAadNonce inp (ccmpPn inp hdrLen)).1
            (slice inp (hdrLen + 8) (inp.length - hdrLen - 8 - 8)) false = (payload, tag) ∧
        tag.bytes = slice inp (hdrLen + 8 + (inp.length - hdrLen - 8 - 8)) 8 := by
  unfold ccmpDecrypt at plain
  split at plain
  · cases plain
  · rename_i long
    split at plain
    · cases plain
    · rename_i extIv
      dsimp only at plain
      split at plain
      · cases plain
      · rename_i fits
        split at plain
        · rename_i mic
          simp only [Option.some.injEq, Prod.mk.injEq] at plain
          obtain ⟨rfl, rfl⟩ := plain
          exact ⟨⟨by omega, by omega, extIv, by omega⟩, rfl, _, rfl, mic⟩
        · cases plain

/-- A frame is opened when its body is opened under the AAD and the nonce of its headers. -/
theorem ccmpDecrypt_built {cap : Nat} {front body plain : Bytes} {mic : Octets 8}
    (base : 24 ≤ front.length) (fits : pn < 2 ^ 48) (room : body.length ≤ cap)
    (opened : aesCcm tk (buildAadNonce (front ++ ccmpHeader keyId pn) pn).2
      (buildAadNonce (front ++ ccmpHeader keyId pn) pn).1 body false = (plain, mic)) :
    ccmpDecrypt (front ++ ccmpHeader keyId pn ++ body ++ mic.bytes) front.length tk cap =
      some (plain, pn) := by
  generalize outEq : front ++ ccmpHeader keyId pn = out at opened ⊢
  have outLength : out.length = front.length + 8 := by
    rw [← outEq, List.length_append, ccmpHeader_length]
  have length : (out ++ body ++ mic.bytes).length = front.length + 8 + body.length + 8 := by
    rw [List.length_append, List.length_append, outLength, mic.length_bytes]
  have pnEq : ccmpPn (out ++ body ++ mic.bytes) front.length = pn := by
    rw [← outEq, List.append_assoc _ body, ccmpPn_header fits]
  have extIv : byteAt (out ++ body ++ mic.bytes) (front.length + 3) &&& 0x20 ≠ 0 := by
    rw [← outEq, List.append_assoc _ body, ccmpHeader_extIv]
    exact extIv_set keyId
  -- the receiver reads the same packet number, AAD and nonce
  have aadSame : buildAadNonce (out ++ body ++ mic.bytes) pn = buildAadNonce out pn := by
    refine (buildAadNonce_congr (n := out.length) ?_ ?_).symm
    · rw [List.append_assoc, List.take_length, List.take_left]
    · have := ccmpHdrSpan_le out
      omega
  have bodySlice : slice (out ++ body ++ mic.bytes) (front.length + 8) body.length = body := by
    rw [List.append_assoc, ← outLength, slice_append_right (Nat.le_refl _), Nat.sub_self,
      slice_append_left rfl]
  have micSlice : slice (out ++ body ++ mic.bytes) (front.length + 8 + body.length) 8 =
      mic.bytes := by
    rw [slice_append_right (by simp [outLength])]
    simp [slice, outLength, List.take_of_length_le]
  have bodyLen : (out ++ body ++ mic.bytes).length - front.length - 8 - 8 = body.length := by omega
  rw [ccmpDecrypt, if_neg (by omega), if_neg extIv]
  simp only [pnEq, bodyLen, aadSame, bodySlice, micSlice]
  rw [if_neg (by omega), opened]
  exact if_pos rfl

/-- Everything that is encrypted comes back, together with its packet number. -/
theorem ccmp_roundtrip {outCap cap : Nat} {hdr payload : Bytes}
    (base : 24 ≤ hdr.length) (total : hdr.length + 8 + payload.length + 8 ≤ outCap)
    (fits : pn < 2 ^ 48) (room : payload.length ≤ cap) :
    ∃ frame, ccmpEncrypt outCap hdr payload tk keyId pn = some frame ∧
      frame.length = hdr.length + 8 + payload.length + 8 ∧
      frame.take hdr.length = hdr.modify 1 (· ||| 0x40) ∧
      ccmpDecrypt frame hdr.length tk cap = some (payload, pn) := by
  have hdrLength : (hdr.modify 1 (· ||| 0x40)).length = hdr.length := List.length_modify ..
  rw [← hdrLength] at base total ⊢
  rw [ccmpEncrypt, if_neg (by omega)]
  generalize hdr.modify 1 (· ||| 0x40) = front at base total ⊢
  dsimp only
  obtain ⟨bodyLength, back⟩ := aesCcm_inverse tk (buildAadNonce (front ++ ccmpHeader keyId pn) pn).2
    (buildAadNonce (front ++ ccmpHeader keyId pn) pn).1 payload true
  refine ⟨_, rfl, ?_, ?_, ccmpDecrypt_built base fits (bodyLength ▸ room) back⟩
  · rw [List.length_append, List.length_append, List.length_append, ccmpHeader_length, bodyLength,
      Octets.length_bytes]
  · rw [List.append_assoc, List.append_assoc]
    exact List.take_left' rfl

/-- A frame with the bits of the CCMP header that a receiver ignores cleared. -/
def clearIgnored (frame : Bytes) (hdrLen : Nat) : Bytes :=
  frame.take (hdrLen + 2) ++ [0, byteAt frame (hdrLen + 3) &&& 0xe0] ++ frame.drop (hdrLen + 4)

/-- What decryption accepted is what encryption produces, up to the ignored bits. -/
theorem ccmp_reencrypt {frame payload : Bytes} {hdrLen cap outCap : Nat}
    (isProtected : byteAt frame 1 &&& 0x40 ≠ 0) (span : ccmpHdrSpan frame ≤ hdrLen)
    (plain : ccmpDecrypt frame hdrLen tk cap = some (payload, pn))
    (room : frame.length ≤ outCap) :
    ccmpEncrypt outCap (frame.take hdrLen) payload tk (byteAt frame (hdrLen + 3) >>> 6) pn =
      some (clearIgnored frame hdrLen) := by
  obtain ⟨⟨base, long, extIv, -⟩, rfl, tag, opened, mic⟩ := ccmpDecrypt_some plain
  obtain ⟨bodyLen, bodyLenEq⟩ : ∃ n, n = frame.length - hdrLen - 8 - 8 := ⟨_, rfl⟩
  rw [← bodyLenEq] at opened mic
  have bodyLength : (slice frame (hdrLen + 8) bodyLen).length = bodyLen := by
    rw [slice_length]
    omega
  obtain ⟨payloadLength, sealed⟩ := aesCcm_inverse tk
    (buildAadNonce frame (ccmpPn frame hdrLen)).2 (buildAadNonce frame (ccmpPn frame hdrLen)).1
    (slice frame (hdrLen + 8) bodyLen) false
  rw [opened] at payloadLength sealed
  simp only [bodyLength] at payloadLength
  have takeLength : (frame.take hdrLen).length = hdrLen := by
    rw [List.length_take]
    omega
  have hdrSame : (frame.take hdrLen).modify 1 (· ||| 0x40) = frame.take hdrLen := by
    apply modify_eq_self
    rw [byteAt_congr (b := frame) (n := hdrLen) (by rw [List.take_take, Nat.min_self]) (by omega)]
    exact protected_octet isProtected
  have aadSame (rest : Bytes) : buildAadNonce (frame.take hdrLen ++ rest) (ccmpPn frame hdrLen) =
      buildAadNonce frame (ccmpPn frame hdrLen) := by
    refine (buildAadNonce_congr (n := hdrLen) ?_ span).symm
    rw [List.take_append_of_le_length (by omega), List.take_take, Nat.min_self]
  rw [ccmpEncrypt, if_neg (by omega), hdrSame]
  simp only [aadSame]
  have sealedEq : aesCcm tk (buildAadNonce frame (ccmpPn frame hdrLen)).2
      (buildAadNonce frame (ccmpPn frame hdrLen)).1 payload true =
        (slice frame (hdrLen + 8) bodyLen, tag) := sealed
  rw [sealedEq]
  simp only
  rw [mic, ccmpHeader_pn (by omega), keyId_octet extIv, clearIgnored]
  have last : slice frame (hdrLen + 8 + bodyLen) 8 = frame.drop (hdrLen + 8 + bodyLen) := by
    rw [slice, List.take_of_length_le]
    rw [List.length_drop]
    omega
  rw [last, ← take_append_slice, ← slice_append_drop frame (hdrLen + 4) 4,
    ← slice_append_drop frame (hdrLen + 4 + 4) bodyLen]
  simp only [List.append_assoc]

/-- The buffer holds the plaintext of an accepted frame and zeros for a refused MIC. -/
theorem ccmpDecryptInto_eq {inp buf : Bytes} {hdrLen : Nat}
    (shaped : CcmpShaped inp hdrLen buf.length) :
    ccmpDecryptInto inp hdrLen tk buf =
      match ccmpDecrypt inp hdrLen tk buf.length with
      | some (payload, _) => (some payload.length, payload ++ buf.drop payload.length)
      | none => (none, List.replicate (inp.length - hdrLen - 8 - 8) 0 ++
          buf.drop (inp.length - hdrLen - 8 - 8)) := by
  obtain ⟨base, long, extIv, fits⟩ := shaped
  have bodyLength : (slice inp (hdrLen + 8) (inp.length - hdrLen - 8 - 8)).length =
      inp.length - hdrLen - 8 - 8 := by
    rw [slice_length]
    omega
  have shape : ¬(hdrLen < 24 ∨ inp.length < hdrLen + 8 + 8) := by omega
  have room : ¬inp.length - hdrLen - 8 - 8 > buf.length := by omega
  have plainLength := (aesCcm_inverse tk (buildAadNonce inp (ccmpPn inp hdrLen)).2
    (buildAadNonce inp (ccmpPn inp hdrLen)).1
    (slice inp (hdrLen + 8) (inp.length - hdrLen - 8 - 8)) false).1
  simp only [ccmpDecryptInto, ccmpDecrypt, if_neg shape, if_neg extIv, if_neg room]
  generalize aesCcm tk (buildAadNonce inp (ccmpPn inp hdrLen)).2
    (buildAadNonce inp (ccmpPn inp hdrLen)).1
    (slice inp (hdrLen + 8) (inp.length - hdrLen - 8 - 8)) false = opened at plainLength ⊢
  by_cases mic : opened.2.bytes = slice inp (hdrLen + 8 + (inp.length - hdrLen - 8 - 8)) 8
  · simp [mic, splice, plainLength, bodyLength]
  · simp [mic, splice]

/-- CCMP is an exact codec: a round trip for every header and payload, its converse up to the
ignored bits of the CCMP header, and the buffer that decryption leaves behind. -/
theorem ccmp_codec (tk : Octets 16) :
    (∀ (hdr payload : Bytes) (keyId : UInt8) (pn outCap cap : Nat),
      ccmpHdrSpan hdr ≤ hdr.length → pn < 2 ^ 48 →
      hdr.length + 8 + payload.length + 8 ≤ outCap → payload.length ≤ cap →
      ∃ frame, ccmpEncrypt outCap hdr payload tk keyId pn = some frame ∧
        ccmpDecrypt frame hdr.length tk cap = some (payload, pn)) ∧
    (∀ (frame payload : Bytes) (hdrLen pn outCap cap : Nat),
      byteAt frame 1 &&& 0x40 ≠ 0 → ccmpHdrSpan frame ≤ hdrLen →
      ccmpDecrypt frame hdrLen tk cap = some (payload, pn) → frame.length ≤ outCap →
      ccmpEncrypt outCap (frame.take hdrLen) payload tk (byteAt frame (hdrLen + 3) >>> 6) pn =
        some (clearIgnored frame hdrLen)) ∧
    (∀ (frame buf : Bytes) (hdrLen : Nat), CcmpShaped frame hdrLen buf.length →
      ccmpDecryptInto frame hdrLen tk buf =
        match ccmpDecrypt frame hdrLen tk buf.length with
        | some (payload, _) => (some payload.length, payload ++ buf.drop payload.length)
        | none => (none, List.replicate (frame.length - hdrLen - 8 - 8) 0 ++
            buf.drop (frame.length - hdrLen - 8 - 8))) := by
  refine ⟨?_, ?_, fun _ _ _ shaped => ccmpDecryptInto_eq shaped⟩
  · intro hdr payload keyId pn outCap cap span fits total room
    have base : 24 ≤ hdr.length := by
      unfold ccmpHdrSpan at span
      omega
    obtain ⟨frame, sealed, -, -, opened⟩ := ccmp_roundtrip base total fits room
    exact ⟨frame, sealed, opened⟩
  · intro frame payload hdrLen pn outCap cap isProtected span plain room
    exact ccmp_reencrypt isProtected span plain room

/-- A three-octet payload behind a header of a data frame, sent with packet number 5. -/
theorem ccmp_codec_demo :
    ∃ frame, ccmpEncrypt 64 (8 :: List.replicate 23 0) [1, 2, 3] (Octets.zero 16) 1 5 =
        some frame ∧
      ccmpDecrypt frame 24 (Octets.zero 16) 4 = some ([1, 2, 3], 5) ∧
      ccmpEncrypt 64 (frame.take 24) [1, 2, 3] (Octets.zero 16) (byteAt frame 27 >>> 6) 5 =
        some (clearIgnored frame 24) ∧
      ccmpDecryptInto frame 24 (Octets.zero 16) [9, 9, 9, 9] = (some 3, [1, 2, 3, 9]) := by
  obtain ⟨encode, reencode, buffer⟩ := ccmp_codec (Octets.zero 16)
  obtain ⟨frame, sealed, opened⟩ := encode (8 :: List.replicate 23 0) [1, 2, 3] 1 5 64 4
    (by decide) (by decide) (by decide) (by decide)
  obtain ⟨_, sealed', length, header, -⟩ := @ccmp_roundtrip (Octets.zero 16) 1 5 64 4
    (8 :: List.replicate 23 0) [1, 2, 3] (by decide) (by decide) (by decide) (by decide)
  obtain rfl := Option.some.inj (sealed.symm.trans sealed')
  have fc0 : byteAt frame 0 = 8 := byteAt_congr (n := 24) (b := 8 :: 0x40 :: List.replicate 22 0)
    header (by decide)
  have fc1 : byteAt frame 1 = 0x40 := byteAt_congr (n := 24)
    (b := 8 :: 0x40 :: List.replicate 22 0) header (by decide)
  have span : ccmpHdrSpan frame = 24 := by
    simp only [ccmpHdrSpan, ccmpFcHasA4, ccmpFcIsQosData, fc0, fc1]
    decide
  refine ⟨frame, sealed, opened, ?_, ?_⟩
  · exact reencode frame [1, 2, 3] 24 5 64 4 (by simp [fc1]) (by omega) opened (by simp [length])
  · rw [buffer frame [9, 9, 9, 9] 24 (ccmpDecrypt_some opened).1]
    simp only [List.length_cons, List.length_nil, Nat.reduceAdd]
    rw [show ccmpDecrypt frame 24 (Octets.zero 16) 4 = some ([1, 2, 3], 5) from opened]
    rfl

end Ccmp

section Bip

/-- The IPN field of the MMIE that ends a frame. -/
def mmieIpnOctets (frame : Bytes) : Octets 6 := Octets.of 6 (slice frame (frame.length - 14) 6)

/-- The key id field of the MMIE that ends a frame. -/
def mmieKeyId (frame : Bytes) : UInt16 :=
  UInt16.ofNat (ofLe (slice frame (frame.length - 16) 2))

/-- A frame is what BIP makes of its own header, IPN and key id and of some body. -/
def BipProduced (frame : Bytes) (igtk : Octets 16) : Prop :=
  ∃ body, body.length ≤ 512 ∧
    bipMmieProtect frame.length (slice frame 0 24) body igtk (mmieIpnOctets frame)
      (mmieKeyId frame) = some frame

theorem mmieBytes_length (keyId : UInt16) (ipn : Octets 6) (mic : Octets 8) :
    (mmieBytes keyId ipn mic).length = 18 := by
  simp [mmieBytes]

/-- The authenticated part of a MIC element does not hold the MIC. -/
theorem mmieBytes_head (keyId : UInt16) (ipn : Octets 6) (mic mic' : Octets 8) :
    slice (mmieBytes keyId ipn mic) 0 10 = slice (mmieBytes keyId ipn mic') 0 10 := by
  have head (m : Octets 8) :
      slice (mmieBytes keyId ipn m) 0 10 = [76, 16] ++ le 2 keyId.toNat ++ ipn.bytes :=
    slice_append_left (by simp)
  rw [head, head]

theorem mmieBytes_mic (keyId : UInt16) (ipn : Octets 6) (mic : Octets 8) :
    slice (mmieBytes keyId ipn mic) 10 8 = mic.bytes := by
  rw [mmieBytes, slice_append_right (by simp)]
  simp [slice, List.take_of_length_le]

/-- An element with the tag and length of a MIC element is built from its own fields. -/
theorem mmieBytes_fields {e : Bytes} (length : e.length = 18) (tag : byteAt e 0 = 76)
    (len : byteAt e 1 = 16) :
    e = mmieBytes (UInt16.ofNat (ofLe (slice e 2 2))) (Octets.of 6 (slice e 4 6))
      (Octets.of 8 (slice e 10 8)) := by
  have keyLength : (slice e 2 2).length = 2 := by rw [slice_length]; omega
  have key : le 2 (UInt16.ofNat (ofLe (slice e 2 2))).toNat = slice e 2 2 := by
    have small := ofLe_lt (slice e 2 2)
    have octets := le_ofLe (slice e 2 2)
    rw [keyLength] at small octets
    rw [UInt16.toNat_ofNat_of_lt' small, octets]
  have ipn : (Octets.of 6 (slice e 4 6)).bytes = slice e 4 6 :=
    Octets.of_bytes_of_length (by rw [slice_length]; omega)
  have mic : (Octets.of 8 (slice e 10 8)).bytes = slice e 10 8 :=
    Octets.of_bytes_of_length (by rw [slice_length]; omega)
  have head : e.take 2 = [76, 16] := by
    match e, length with
    | x :: y :: _, _ =>
      simp only [byteAt, List.getD_cons_zero, List.getD_cons_succ] at tag len
      simp [tag, len]
  have last : slice e 10 8 = e.drop 10 := by
    rw [slice, List.take_of_length_le]
    rw [List.length_drop]
    omega
  rw [mmieBytes, key, ipn, mic, ← head, take_append_slice, take_append_slice, last,
    List.take_append_drop]

theorem bipComputeMic_congr {hdr hdr' body e e' : Bytes} {igtk : Octets 16}
    (agree : hdr.take 24 = hdr'.take 24) (head : slice e 0 10 = slice e' 0 10) :
    bipComputeMic hdr body e igtk = bipComputeMic hdr' body e' igtk := by
  have aad : bipAad hdr = bipAad hdr' := by
    rw [bipAad, bipAad, byteAt_congr agree (by omega), byteAt_congr (i := 1) agree (by omega),
      slice_congr agree (by omega)]
  rw [bipComputeMic, bipComputeMic, aad, head]

section Parts

variable {h body e : Bytes} {igtk : Octets 16} (hdrLength : h.length = 24)
  (elementLength : e.length = 18)
include hdrLength elementLength

/-- A header, a body and a MIC element verify when the element is tagged as one, the MIC is
that of the three and the IPN is new. -/
theorem bipMmieVerify_parts (ctr : Nat) :
    bipMmieVerify (h ++ body ++ e) igtk ctr =
      if byteAt e 0 ≠ 76 ∨ byteAt e 1 ≠ 16 then (.errMalformed, ctr)
      else match bipComputeMic h body e igtk with
        | none => (.errMalformed, ctr)
        | some mic =>
          if mic.bytes ≠ slice e 10 8 then (.errMic, ctr)
          else if mmieIpn (h ++ body ++ e) ≤ ctr then (.errReplay, ctr)
          else (.ok, mmieIpn (h ++ body ++ e)) := by
  have bodyLen : (h ++ body ++ e).length - 24 - 18 = body.length := by
    simp only [List.length_append]
    omega
  have element : (h ++ body ++ e).drop (24 + body.length) = e :=
    List.drop_left' (by rw [List.length_append, hdrLength])
  have middle : slice (h ++ body ++ e) 24 body.length = body := by
    rw [List.append_assoc, slice_append_right (by omega), hdrLength, Nat.sub_self,
      slice_append_left rfl]
  have long : ¬(h ++ body ++ e).length < 24 + 18 := by
    simp only [List.length_append]
    omega
  have same : bipComputeMic (h ++ body ++ e) body e igtk = bipComputeMic h body e igtk :=
    bipComputeMic_congr
      (by rw [List.append_assoc, List.take_append_of_le_length (by omega)]) rfl
  rw [bipMmieVerify, if_neg long]
  cases made : bipComputeMic h body e igtk with
  | none => simp only [bodyLen, element, middle, same, made]
  | some mic => simp only [bodyLen, element, middle, same, made]

theorem bipProduced_parts :
    BipProduced (h ++ body ++ e) igtk ↔
      byteAt e 0 = 76 ∧ byteAt e 1 = 16 ∧
        ∃ mic, bipComputeMic h body e igtk = some mic ∧ mic.bytes = slice e 10 8 := by
  have header : slice (h ++ body ++ e) 0 24 = h := by
    rw [List.append_assoc, slice_append_left hdrLength]
  have length : (h ++ body ++ e).length = 42 + body.length := by
    simp only [List.length_append]
    omega
  have field (k n : Nat) : slice (h ++ body ++ e) (24 + body.length + k) n = slice e k n := by
    rw [slice_append_right (by rw [List.length_append]; omega), List.length_append, hdrLength]
    congr 1
    omega
  have ipn : mmieIpnOctets (h ++ body ++ e) = Octets.of 6 (slice e 4 6) := by
    rw [mmieIpnOctets, length, ← field 4 6]
    congr 3
    omega
  have key : mmieKeyId (h ++ body ++ e) = UInt16.ofNat (ofLe (slice e 2 2)) := by
    rw [mmieKeyId, length, ← field 2 2]
    congr 3
    omega
  unfold BipProduced
  rw [header, ipn, key, length]
  constructor
  · rintro ⟨body', short, produced⟩
    unfold bipMmieProtect at produced
    split at produced
    · cases produced
    · obtain ⟨mic, computed, out⟩ := Option.map_eq_some_iff.mp produced
      have whole : slice h 0 24 = h := by
        rw [slice, List.drop_zero, List.take_of_length_le (by omega)]
      rw [whole] at out
      generalize UInt16.ofNat (ofLe (slice e 2 2)) = keyId at computed out
      generalize Octets.of 6 (slice e 4 6) = ipnField at computed out
      obtain ⟨front, rfl⟩ := List.append_inj' out (by rw [mmieBytes_length, elementLength])
      obtain rfl := List.append_cancel_left front
      refine ⟨rfl, rfl, mic, ?_, (mmieBytes_mic ..).symm⟩
      rw [← computed]
      exact bipComputeMic_congr rfl (mmieBytes_head ..)
  · rintro ⟨tag, len, mic, computed, carried⟩
    have fields := mmieBytes_fields elementLength tag len
    have short : body.length ≤ 512 := by
      by_contra long
      rw [bipComputeMic, if_pos (by omega)] at computed
      cases computed
    refine ⟨body, short, ?_⟩
    have again : bipComputeMic h body (mmieBytes (UInt16.ofNat (ofLe (slice e 2 2)))
        (Octets.of 6 (slice e 4 6)) (Octets.zero 8)) igtk = some mic := by
      rw [← computed]
      refine bipComputeMic_congr rfl ?_
      conv => rhs; rw [fields]
      exact mmieBytes_head ..
    have micEq : mic = Octets.of 8 (slice e 10 8) := by
      rw [← carried, Octets.of_bytes]
    rw [bipMmieProtect, if_neg (by omega), again, Option.map_some, micEq, ← fields]
    rw [slice, List.drop_zero, List.take_of_length_le (by omega)]

end Parts

/-- What BIP produces is refused for its number only. -/
theorem bipMmieVerify_produced {frame : Bytes} {igtk : Octets 16}
    (produced : BipProduced frame igtk) (ctr : Nat) :
    bipMmieVerify frame igtk ctr =
      if mmieIpn frame ≤ ctr then (.errReplay, ctr) else (.ok, mmieIpn frame) := by
  obtain ⟨body, -, made⟩ := id produced
  unfold bipMmieProtect at made
  split at made
  · cases made
  rename_i fits
  obtain ⟨mic, -, whole⟩ := Option.map_eq_some_iff.mp made
  set h := slice (slice frame 0 24) 0 24
  set e := mmieBytes (mmieKeyId frame) (mmieIpnOctets frame) mic
  have elementLength : e.length = 18 := mmieBytes_length _ _ _
  have total := congrArg List.length whole
  simp only [List.length_append] at total
  have cut : h.length ≤ 24 := List.length_take_le _ _
  have hdrLength : h.length = 24 := by omega
  rw [← whole, bipProduced_parts hdrLength elementLength] at produced
  obtain ⟨tag, len, _, computed, carried⟩ := produced
  rw [← whole, bipMmieVerify_parts hdrLength elementLength, if_neg (by simp [tag, len]), computed]
  dsimp only
  rw [if_neg (not_not.2 carried)]

/-- BIP accepts what BIP produces and is fresh, and moves the counter for nothing else. -/
theorem bip_codec (frame : Bytes) (igtk : Octets 16) (ctr : Nat) :
    ((bipMmieVerify frame igtk ctr).1 = .ok ↔ BipProduced frame igtk ∧ ctr < mmieIpn frame) ∧
    (bipMmieVerify frame igtk ctr).2 =
      if (bipMmieVerify frame igtk ctr).1 = .ok then mmieIpn frame else ctr := by
  by_cases long : frame.length < 24 + 18
  · have refused : bipMmieVerify frame igtk ctr = (.errMalformed, ctr) := by
      rw [bipMmieVerify, if_pos long]
    rw [refused]
    refine ⟨⟨fun ok => (nomatch ok), ?_⟩, rfl⟩
    rintro ⟨⟨body, -, produced⟩, -⟩
    rw [bipMmieProtect, if_pos (by omega)] at produced
    cases produced
  · obtain ⟨h, body, e, rfl, hdrLength, elementLength⟩ :
        ∃ h body e, frame = h ++ body ++ e ∧ h.length = 24 ∧ e.length = 18 := by
      refine ⟨frame.take 24, slice frame 24 (frame.length - 42), frame.drop (frame.length - 18),
        ?_, by rw [List.length_take]; omega, by rw [List.length_drop]; omega⟩
      rw [take_append_slice, show 24 + (frame.length - 42) = frame.length - 18 by omega,
        List.take_append_drop]
    rw [bipMmieVerify_parts hdrLength elementLength, bipProduced_parts hdrLength elementLength]
    generalize mmieIpn (h ++ body ++ e) = ipn
    by_cases tagged : byteAt e 0 = 76 ∧ byteAt e 1 = 16
    · rw [if_neg (by simp [tagged])]
      cases bipComputeMic h body e igtk with
      | none => simp
      | some mic =>
        by_cases carried : mic.bytes = slice e 10 8
        · by_cases old : ipn ≤ ctr
          · simp [tagged, carried, old]
          · simp [tagged, carried, old, Nat.lt_of_not_le old]
        · simp [carried]
    · rw [if_pos (by grind)]
      simp
      grind

end Bip

end Rf2a4m1
