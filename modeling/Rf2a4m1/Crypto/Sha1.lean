import Rf2a4m1.Lib.BlockHash

/-!
# SHA-1, HMAC-SHA1, PBKDF2 and the 802.11 PRF

The streaming context is that of `rf_2a4m1_sha1_ctx`. The final block goes
through the update as well, the length field included.
-/

set_option autoImplicit false

namespace Rf2a4m1

open ByteString BlockHash

def rol32 (v : UInt32) (n : UInt32) : UInt32 := (v <<< n) ||| (v >>> (32 - n))

/-- The five chaining words, also used as the working variables `a`, `b`, `d`, `e`, `f`. -/
structure Sha1Words where
  a : UInt32
  b : UInt32
  d : UInt32
  e : UInt32
  f : UInt32
deriving DecidableEq

abbrev Sha1Ctx := Ctx Sha1Words

def sha1Word (p : Bytes) (i : Nat) : UInt32 := UInt32.ofNat (ofBe (slice p (4 * i) 4))

/-- Message schedule, newest word first: `sha1Schedule n` appends `n` words. -/
def sha1Schedule : Nat → List UInt32 → List UInt32
  | 0, w => w
  | n + 1, w =>
    sha1Schedule n
      (rol32 (w.getD 2 0 ^^^ w.getD 7 0 ^^^ w.getD 13 0 ^^^ w.getD 15 0) 1 :: w)

def sha1Round (v : Sha1Words) (i : Nat) (w : UInt32) : Sha1Words :=
  let t :=
    if i < 20 then (v.b &&& v.d) ||| (~~~v.b &&& v.e)
    else if i < 40 then v.b ^^^ v.d ^^^ v.e
    else if i < 60 then (v.b &&& v.d) ||| (v.b &&& v.e) ||| (v.d &&& v.e)
    else v.b ^^^ v.d ^^^ v.e
  let k :=
    if i < 20 then 0x5a827999
    else if i < 40 then 0x6ed9eba1
    else if i < 60 then 0x8f1bbcdc
    else 0xca62c1d6
  { a := rol32 v.a 5 + t + v.f + k + w, b := v.a, d := rol32 v.b 30, e := v.d, f := v.e }

def sha1Block (v : Sha1Words) (p : Bytes) : Sha1Words :=
  let w := sha1Schedule 64 ((List.range 16).map (sha1Word p)).reverse
  let r := ((List.range 80).zip w.reverse).foldl (fun s iw => sha1Round s iw.1 iw.2) v
  { a := v.a + r.a, b := v.b + r.b, d := v.d + r.d, e := v.e + r.e, f := v.f + r.f }

def sha1Init : Sha1Ctx :=
  { h := { a := 0x67452301, b := 0xefcdab89, d := 0x98badcfe, e := 0x10325476, f := 0xc3d2e1f0 }
    nbits := 0
    buf := [] }

def sha1Update (c : Sha1Ctx) (data : Bytes) : Sha1Ctx := BlockHash.update 64 sha1Block c data

def sha1Bytes (v : Sha1Words) : Bytes := [v.a, v.b, v.d, v.e, v.f].flatMap fun x => be 4 x.toNat

/-- At most one block of zeros is needed; the count of bits is read before them. -/
def sha1Final (c : Sha1Ctx) : Octets 20 :=
  let p := BlockHash.pad 64 sha1Block 56 64 (sha1Update c [0x80])
  Octets.of 20 (sha1Bytes (sha1Update p (be 8 c.nbits.toNat)).h)

def sha1 (data : Bytes) : Octets 20 := sha1Final (sha1Update sha1Init data)

/-- HMAC-SHA1; keys longer than a block are hashed first. -/
def hmacSha1 (key msg : Bytes) : Octets 20 :=
  let k := fit 64 (if key.length > 64 then (sha1 key).bytes else key)
  let ipad := k.map fun x => x ^^^ 0x36
  let opad := k.map fun x => x ^^^ 0x5c
  let inner := sha1Final (sha1Update (sha1Update sha1Init ipad) msg)
  sha1Final (sha1Update (sha1Update sha1Init opad) inner.bytes)

/-- The iterations behind the first: `u` is the last value, `t` their sum. -/
def pbkdf2Iterate (pw : Bytes) : Nat → Bytes → Bytes → Bytes
  | 0, _, t => t
  | n + 1, u, t =>
    let u' := (hmacSha1 pw u).bytes
    pbkdf2Iterate pw n u' (t.zipWith (· ^^^ ·) u')

/-- One block of the derived key; a salt longer than a block is clamped. -/
def pbkdf2Block (pw salt : Bytes) (iter counter : UInt32) : Bytes :=
  let u := (hmacSha1 pw (salt.take 64 ++ be 4 counter.toNat)).bytes
  pbkdf2Iterate pw (iter.toNat - 1) u u

def pbkdf2Loop (pw salt : Bytes) (iter : UInt32) : Nat → UInt32 → Nat → Bytes
  | 0, _, _ => []
  | fuel + 1, counter, need =>
    if need = 0 then []
    else
      (pbkdf2Block pw salt iter counter).take need ++
        pbkdf2Loop pw salt iter fuel (counter + 1) (need - 20)

def pbkdf2HmacSha1 (pw salt : Bytes) (iter : UInt32) (dkLen : Nat) : Bytes :=
  pbkdf2Loop pw salt iter dkLen 1 dkLen

def prfLoop (key base : Bytes) : Nat → UInt8 → Nat → Bytes
  | 0, _, _ => []
  | fuel + 1, i, need =>
    if need = 0 then []
    else (hmacSha1 key (base ++ [i])).bytes.take need ++ prfLoop key base fuel (i + 1) (need - 20)

/-- The PRF; its input is put together in 128 octets, and nothing is defined where it does not fit. -/
def ieee80211Prf (key label data : Bytes) (outLen : Nat) : Option Bytes :=
  if label.length + 1 + data.length + 1 > 128 then none
  else some (prfLoop key (label ++ [0] ++ data) outLen 0 outLen)

end Rf2a4m1
