import Rf2a4m1.Lib.Octets

/-!
# SHA-256, HMAC-SHA256, HKDF and the 802.11 KDF

The streaming context keeps the chaining words, the bit count and the partly
filled block, exactly as `rf_2a4m1_sha256_ctx` does.
-/

set_option autoImplicit false

namespace Rf2a4m1

open ByteString

def k256 : List UInt32 := [
  0x428a2f98, 0x71374491, 0xb5c0fbcf, 0xe9b5dba5, 0x3956c25b, 0x59f111f1,
  0x923f82a4, 0xab1c5ed5, 0xd807aa98, 0x12835b01, 0x243185be, 0x550c7dc3,
  0x72be5d74, 0x80deb1fe, 0x9bdc06a7, 0xc19bf174, 0xe49b69c1, 0xefbe4786,
  0x0fc19dc6, 0x240ca1cc, 0x2de92c6f, 0x4a7484aa, 0x5cb0a9dc, 0x76f988da,
  0x983e5152, 0xa831c66d, 0xb00327c8, 0xbf597fc7, 0xc6e00bf3, 0xd5a79147,
  0x06ca6351, 0x14292967, 0x27b70a85, 0x2e1b2138, 0x4d2c6dfc, 0x53380d13,
  0x650a7354, 0x766a0abb, 0x81c2c92e, 0x92722c85, 0xa2bfe8a1, 0xa81a664b,
  0xc24b8b70, 0xc76c51a3, 0xd192e819, 0xd6990624, 0xf40e3585, 0x106aa070,
  0x19a4c116, 0x1e376c08, 0x2748774c, 0x34b0bcb5, 0x391c0cb3, 0x4ed8aa4a,
  0x5b9cca4f, 0x682e6ff3, 0x748f82ee, 0x78a5636f, 0x84c87814, 0x8cc70208,
  0x90befffa, 0xa4506ceb, 0xbef9a3f7, 0xc67178f2]

def ror32 (x : UInt32) (n : UInt32) : UInt32 := (x >>> n) ||| (x <<< (32 - n))

/-- The eight chaining words, also used as the working variables `a` .. `h`. -/
structure ShaWords where
  a : UInt32
  b : UInt32
  c : UInt32
  d : UInt32
  e : UInt32
  f : UInt32
  g : UInt32
  h : UInt32
deriving DecidableEq

structure Sha256Ctx where
  h : ShaWords
  nbits : UInt64
  buf : Bytes

def wordBe (p : Bytes) (i : Nat) : UInt32 := UInt32.ofNat (ofBe (slice p (4 * i) 4))

/-- Message schedule, newest word first: `extendSchedule n` appends `n` words. -/
def extendSchedule : Nat → List UInt32 → List UInt32
  | 0, w => w
  | n + 1, w =>
    let w15 := w.getD 14 0
    let w2 := w.getD 1 0
    let s0 := ror32 w15 7 ^^^ ror32 w15 18 ^^^ (w15 >>> 3)
    let s1 := ror32 w2 17 ^^^ ror32 w2 19 ^^^ (w2 >>> 10)
    extendSchedule n ((w.getD 15 0 + s0 + w.getD 6 0 + s1) :: w)

def sha256Round (v : ShaWords) (k w : UInt32) : ShaWords :=
  let s1 := ror32 v.e 6 ^^^ ror32 v.e 11 ^^^ ror32 v.e 25
  let ch := (v.e &&& v.f) ^^^ (~~~v.e &&& v.g)
  let t1 := v.h + s1 + ch + k + w
  let s0 := ror32 v.a 2 ^^^ ror32 v.a 13 ^^^ ror32 v.a 22
  let maj := (v.a &&& v.b) ^^^ (v.a &&& v.c) ^^^ (v.b &&& v.c)
  let t2 := s0 + maj
  { a := t1 + t2, b := v.a, c := v.b, d := v.c, e := v.d + t1, f := v.e, g := v.f, h := v.g }

def sha256Block (v : ShaWords) (p : Bytes) : ShaWords :=
  let w := extendSchedule 48 ((List.range 16).map (wordBe p)).reverse
  let r := (k256.zip w.reverse).foldl (fun s kw => sha256Round s kw.1 kw.2) v
  { a := v.a + r.a, b := v.b + r.b, c := v.c + r.c, d := v.d + r.d,
    e := v.e + r.e, f := v.f + r.f, g := v.g + r.g, h := v.h + r.h }

def sha256Init : Sha256Ctx :=
  { h := { a := 0x6a09e667, b := 0xbb67ae85, c := 0x3c6ef372, d := 0xa54ff53a,
           e := 0x510e527f, f := 0x9b05688c, g := 0x1f83d9ab, h := 0x5be0cd19 }
    nbits := 0
    buf := [] }

/-- The absorb loop: every turn takes as much as the open block still holds. -/
def sha256Absorb : Nat → Sha256Ctx → Bytes → Sha256Ctx
  | 0, c, _ => c
  | fuel + 1, c, data =>
    if data.length = 0 then c
    else
      let take := min (64 - c.buf.length) data.length
      let buf := c.buf ++ data.take take
      let c' :=
        if buf.length = 64 then { c with h := sha256Block c.h buf, buf := [] }
        else { c with buf := buf }
      sha256Absorb fuel c' (data.drop take)

def sha256Update (c : Sha256Ctx) (data : Bytes) : Sha256Ctx :=
  sha256Absorb data.length { c with nbits := c.nbits + UInt64.ofNat data.length * 8 } data

/-- Zero padding up to the length field; at most one block of zeros is needed. -/
def sha256Pad : Nat → Sha256Ctx → Sha256Ctx
  | 0, c => c
  | fuel + 1, c => if c.buf.length = 56 then c else sha256Pad fuel (sha256Update c [0])

def wordsBytes (v : ShaWords) : Bytes :=
  [v.a, v.b, v.c, v.d, v.e, v.f, v.g, v.h].flatMap fun x => be 4 x.toNat

def sha256Final (c : Sha256Ctx) : Octets 32 :=
  let p := sha256Pad 64 (sha256Update c [0x80])
  Octets.of 32 (wordsBytes (sha256Block p.h (p.buf ++ be 8 c.nbits.toNat)))

def sha256 (data : Bytes) : Octets 32 := sha256Final (sha256Update sha256Init data)

/-- The key block of HMAC: longer keys are hashed first. -/
def hmacKey (key : Bytes) : Bytes :=
  fit 64 (if key.length > 64 then (sha256 key).bytes else key)

/-- HMAC over a message fed in several pieces. -/
def hmacSha256Pieces (key : Bytes) (pieces : List Bytes) : Octets 32 :=
  let k := hmacKey key
  let ipad := k.map fun x => x ^^^ 0x36
  let opad := k.map fun x => x ^^^ 0x5c
  let inner := sha256Final (pieces.foldl sha256Update (sha256Update sha256Init ipad))
  sha256Final (sha256Update (sha256Update sha256Init opad) inner.bytes)

def hmacSha256 (key msg : Bytes) : Octets 32 := hmacSha256Pieces key [msg]

def hkdfSha256Extract (salt ikm : Bytes) : Octets 32 :=
  hmacSha256 (if salt.length = 0 then (Octets.zero 32).bytes else salt) ikm

/-- Expand loop: `t` is the previous block (empty before the first). -/
def hkdfExpandLoop (prk info : Bytes) : Nat → Bytes → UInt8 → Nat → Bytes
  | 0, _, _, _ => []
  | fuel + 1, t, counter, need =>
    if need = 0 then []
    else
      let t' := (hmacSha256Pieces prk
        ((if t.length = 0 then [] else [t]) ++ [info, [counter]])).bytes
      t'.take need ++ hkdfExpandLoop prk info fuel t' (counter + 1) (need - 32)

def hkdfSha256Expand (prk info : Bytes) (outLen : Nat) : Bytes :=
  hkdfExpandLoop prk info outLen [] 1 outLen

def kdfLengthLoop (key label ctx lenLe : Bytes) : Nat → UInt16 → Nat → Bytes
  | 0, _, _ => []
  | fuel + 1, i, need =>
    if need = 0 then []
    else
      let blk := (hmacSha256Pieces key [le 2 i.toNat, label, ctx, lenLe]).bytes
      blk.take need ++ kdfLengthLoop key label ctx lenLe fuel (i + 1) (need - 32)

/-- Clear the `8 - rem` low bits of the last octet when the output is not whole octets. -/
def maskTail (out : Bytes) (outBits : Nat) : Bytes :=
  if outBits % 8 = 0 then out
  else
    let last := byteAt out (out.length - 1)
    out.dropLast ++ [last &&& (0xff <<< UInt8.ofNat (8 - outBits % 8))]

def ieee80211KdfLength (key label ctx : Bytes) (outBits : Nat) : Bytes :=
  let outLen := (outBits + 7) / 8
  maskTail (kdfLengthLoop key label ctx (le 2 outBits) outLen 1 outLen) outBits

/-- ASCII label of a key-derivation call. -/
def ascii (s : String) : Bytes := s.toList.map fun c => UInt8.ofNat c.toNat

end Rf2a4m1
