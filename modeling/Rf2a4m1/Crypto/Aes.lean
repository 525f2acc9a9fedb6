import Rf2a4m1.Lib.Octets

/-!
# AES-128 and AES-128-CMAC

The S-box is computed from the field inverse, as the source does, and the round
functions work on the sixteen octets of the state in column order.
-/

set_option autoImplicit false

namespace Rf2a4m1

open ByteString

/-- One shift-and-add turn of the field multiplication. -/
def gfMulLoop : Nat → UInt8 → UInt8 → UInt8 → UInt8
  | 0, r, _, _ => r
  | n + 1, r, a, b =>
    let r' := r ^^^ (a &&& ((0 : UInt8) - (b &&& 1)))
    let hi := (0 : UInt8) - (a >>> 7)
    gfMulLoop n r' ((a <<< 1) ^^^ (hi &&& 0x1b)) (b >>> 1)

def gfMul (a b : UInt8) : UInt8 := gfMulLoop 8 0 a b

def gfInvLoop : Nat → UInt8 → UInt8 → UInt8
  | 0, r, _ => r
  | n + 1, r, b =>
    let b' := gfMul b b
    gfInvLoop n (gfMul r b') b'

def gfInv (x : UInt8) : UInt8 := gfInvLoop 7 1 x

def rotl8 (x n : UInt8) : UInt8 := (x <<< n) ||| (x >>> (8 - n))

def sbox (x : UInt8) : UInt8 :=
  let s := gfInv x
  s ^^^ rotl8 s 1 ^^^ rotl8 s 2 ^^^ rotl8 s 3 ^^^ rotl8 s 4 ^^^ 0x63

def invSbox (y : UInt8) : UInt8 :=
  gfInv (rotl8 y 1 ^^^ rotl8 y 3 ^^^ rotl8 y 6 ^^^ 0x05)

def rcon : List UInt8 := [0x01, 0x02, 0x04, 0x08, 0x10, 0x20, 0x40, 0x80, 0x1b, 0x36]

/-- `SubWord (RotWord t)`. -/
def subRotWord (t : UInt32) : UInt32 :=
  let t := (t <<< 8) ||| (t >>> 24)
  ((sbox (t >>> 24).toUInt8).toUInt32 <<< 24) |||
  ((sbox (t >>> 16).toUInt8).toUInt32 <<< 16) |||
  ((sbox (t >>> 8).toUInt8).toUInt32 <<< 8) |||
  (sbox t.toUInt8).toUInt32

/-- Key expansion, newest word first. -/
def expandKey : Nat → Nat → List UInt32 → List UInt32
  | 0, _, w => w
  | n + 1, i, w =>
    let t := w.getD 0 0
    let t := if i % 4 = 0 then
        subRotWord t ^^^ ((rcon.getD (i / 4 - 1) 0).toUInt32 <<< 24)
      else t
    expandKey n (i + 1) ((w.getD 3 0 ^^^ t) :: w)

/-- The forty-four round-key words. -/
def aes128Init (key : Octets 16) : List UInt32 :=
  let w := (List.range 4).map fun i => UInt32.ofNat (ofBe (slice key.bytes (4 * i) 4))
  (expandKey 40 4 w.reverse).reverse

def xtime (x : UInt8) : UInt8 := (x <<< 1) ^^^ ((x >>> 7) * 0x1b)

def xorBytes (a b : Bytes) : Bytes := a.zipWith (· ^^^ ·) b

/-- The sixteen octets of round key `round`. -/
def roundKey (rk : List UInt32) (round : Nat) : Bytes :=
  ((rk.drop (4 * round)).take 4).flatMap fun w => be 4 w.toNat

def addRoundKey (s : Bytes) (rk : List UInt32) (round : Nat) : Bytes :=
  xorBytes s (roundKey rk round)

/-- Row `r` moves left by `r` columns: new `4c+r` is old `4((c+r) mod 4)+r`. -/
def shiftRows (s : Bytes) : Bytes :=
  (List.range 16).map fun i => byteAt s (4 * ((i / 4 + i % 4) % 4) + i % 4)

def invShiftRows (s : Bytes) : Bytes :=
  (List.range 16).map fun i => byteAt s (4 * ((i / 4 + 4 - i % 4) % 4) + i % 4)

def mixColumn (p : Bytes) : Bytes :=
  let a0 := byteAt p 0
  let a1 := byteAt p 1
  let a2 := byteAt p 2
  let a3 := byteAt p 3
  [xtime a0 ^^^ (xtime a1 ^^^ a1) ^^^ a2 ^^^ a3,
   a0 ^^^ xtime a1 ^^^ (xtime a2 ^^^ a2) ^^^ a3,
   a0 ^^^ a1 ^^^ xtime a2 ^^^ (xtime a3 ^^^ a3),
   (xtime a0 ^^^ a0) ^^^ a1 ^^^ a2 ^^^ xtime a3]

def invMixColumn (p : Bytes) : Bytes :=
  let a0 := byteAt p 0
  let a1 := byteAt p 1
  let a2 := byteAt p 2
  let a3 := byteAt p 3
  [gfMul a0 14 ^^^ gfMul a1 11 ^^^ gfMul a2 13 ^^^ gfMul a3 9,
   gfMul a0 9 ^^^ gfMul a1 14 ^^^ gfMul a2 11 ^^^ gfMul a3 13,
   gfMul a0 13 ^^^ gfMul a1 9 ^^^ gfMul a2 14 ^^^ gfMul a3 11,
   gfMul a0 11 ^^^ gfMul a1 13 ^^^ gfMul a2 9 ^^^ gfMul a3 14]

def onColumns (f : Bytes → Bytes) (s : Bytes) : Bytes :=
  (List.range 4).flatMap fun c => f (slice s (4 * c) 4)

def encryptRound (rk : List UInt32) (s : Bytes) (round : Nat) : Bytes :=
  let s := shiftRows (s.map sbox)
  let s := if round = 10 then s else onColumns mixColumn s
  addRoundKey s rk round

def decryptRound (rk : List UInt32) (s : Bytes) (round : Nat) : Bytes :=
  let s := addRoundKey ((invShiftRows s).map invSbox) rk round
  if round = 0 then s else onColumns invMixColumn s

def aes128EncryptBlock (rk : List UInt32) (block : Octets 16) : Octets 16 :=
  Octets.of 16 ((List.range' 1 10).foldl (encryptRound rk) (addRoundKey block.bytes rk 0))

def aes128DecryptBlock (rk : List UInt32) (block : Octets 16) : Octets 16 :=
  Octets.of 16 ((List.range 10).reverse.foldl (decryptRound rk) (addRoundKey block.bytes rk 10))

/-- Left shift by one bit of a 16-octet string: each octet takes the carry of the next. -/
def lshift1 (b : Octets 16) : Octets 16 :=
  Octets.of 16 ((List.range 16).map fun i =>
    (byteAt b.bytes i <<< 1) ||| (byteAt b.bytes (i + 1) >>> 7))

/-- Doubling in GF(2^128), the CMAC subkey step. -/
def cmacSubkey (b : Octets 16) : Octets 16 :=
  let k := lshift1 b
  if byteAt b.bytes 0 &&& 0x80 = 0 then k
  else Octets.of 16 (k.bytes.dropLast ++ [byteAt k.bytes 15 ^^^ 0x87])

/-- The last CMAC block: complete blocks take `k1`, padded ones take `k2`. -/
def cmacLast (msg : Bytes) (k1 k2 : Octets 16) : Bytes :=
  let n := (msg.length + 15) / 16
  if n ≠ 0 ∧ msg.length % 16 = 0 then
    xorBytes (slice msg ((n - 1) * 16) 16) k1.bytes
  else
    xorBytes (fit 16 (msg.drop ((n - 1) * 16) ++ [0x80])) k2.bytes

def cmacBlocks (rk : List UInt32) (msg : Bytes) : Nat → Octets 16
  | 0 => Octets.zero 16
  | i + 1 =>
    aes128EncryptBlock rk
      (Octets.of 16 (xorBytes (cmacBlocks rk msg i).bytes (slice msg (i * 16) 16)))

def aes128Cmac (key : Octets 16) (msg : Bytes) : Octets 16 :=
  let rk := aes128Init key
  let l := aes128EncryptBlock rk (Octets.zero 16)
  let k1 := cmacSubkey l
  let k2 := cmacSubkey k1
  let n := max 1 ((msg.length + 15) / 16)
  let x := cmacBlocks rk msg (n - 1)
  aes128EncryptBlock rk (Octets.of 16 (xorBytes x.bytes (cmacLast msg k1 k2)))

end Rf2a4m1
