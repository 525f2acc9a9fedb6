import Rf2a4m1.Lib.Octets

/-!
# P-256 arithmetic

Field elements are eight 32-bit limbs, least significant first, in Montgomery
form unless said otherwise. Points are Jacobian triples, `Z = 0` at infinity.
-/

set_option autoImplicit false

namespace Rf2a4m1

open ByteString

abbrev Fe := List UInt32

def p256P : Fe := [0xffffffff, 0xffffffff, 0xffffffff, 0, 0, 0, 1, 0xffffffff]

def p256N : Fe :=
  [0xfc632551, 0xf3b9cac2, 0xa7179e84, 0xbce6faad, 0xffffffff, 0xffffffff, 0, 0xffffffff]

def montOne : Fe := [1, 0, 0, 0xffffffff, 0xffffffff, 0xffffffff, 0xfffffffe, 0]

def montR2 : Fe := [3, 0, 0xffffffff, 0xfffffffb, 0xfffffffe, 0xffffffff, 0xfffffffd, 4]

def montB : Fe :=
  [0x29c4bddf, 0xd89cdf62, 0x78843090, 0xacf005cd, 0xf7212ed6, 0xe5a220ab, 0x04874834, 0xdc30061d]

def feZero : Fe := List.replicate 8 0

/-- One when every limb is zero, else zero. -/
def feIsZero (a : Fe) : UInt32 := if a.foldl (· ||| ·) 0 = 0 then 1 else 0

def feEq (a b : Fe) : UInt32 := feIsZero (a.zipWith (· ^^^ ·) b)

/-- Limbwise `a - b - br` with the outgoing borrow. -/
def subBorrowLoop : Fe → Fe → UInt64 → Fe × UInt64
  | a :: as, b :: bs, br =>
    let d := a.toUInt64 - b.toUInt64 - br
    let (r, br') := subBorrowLoop as bs ((d >>> 63) &&& 1)
    (d.toUInt32 :: r, br')
  | _, _, br => ([], br)

def u256SubBorrow (a b : Fe) : Fe × UInt32 :=
  let (r, br) := subBorrowLoop a b 0
  (r, br.toUInt32)

def u256Cmp (a b : Fe) : Int :=
  let lt := (u256SubBorrow a b).2
  let gt := (u256SubBorrow b a).2
  (gt.toNat : Int) - lt.toNat

/-- `a` where the flag's low bit is set, else `r`. -/
def selectLimbs (flag : UInt32) (a r : Fe) : Fe :=
  let mask := (0 : UInt32) - (flag &&& 1)
  a.zipWith (fun x y => (x &&& mask) ||| (y &&& ~~~mask)) r

def feCmov (r a : Fe) (flag : UInt32) : Fe := selectLimbs flag a r

def feCondSubMod (t : Fe) (extraCarry : UInt32) (m : Fe) : Fe :=
  let (s, br) := u256SubBorrow t m
  selectLimbs ((extraCarry &&& 1) ||| (br ^^^ 1)) s t

/-- Limbwise `a + b + c` with the outgoing carry. -/
def addCarryLoop : Fe → Fe → UInt64 → Fe × UInt64
  | a :: as, b :: bs, c =>
    let s := c + (a.toUInt64 + b.toUInt64)
    let (r, c') := addCarryLoop as bs (s >>> 32)
    (s.toUInt32 :: r, c')
  | _, _, c => ([], c)

def feAdd (a b : Fe) : Fe :=
  let (t, c) := addCarryLoop a b 0
  feCondSubMod t c.toUInt32 p256P

def feSub (a b : Fe) : Fe :=
  let (t, borrow) := u256SubBorrow a b
  selectLimbs borrow (addCarryLoop t p256P 0).1 t

/-- Limbwise `t + a * x + c` with the outgoing carry. -/
def mulAddLoop (x : UInt64) : Fe → Fe → UInt64 → Fe × UInt64
  | t :: ts, a :: as, c =>
    let s := t.toUInt64 + a.toUInt64 * x + c
    let (r, c') := mulAddLoop x ts as (s >>> 32)
    (s.toUInt32 :: r, c')
  | _, _, c => ([], c)

/-- One turn of the Montgomery loop: add `a * b_i`, then cancel the low limb and shift. -/
def montStep (a : Fe) (acc : Fe × UInt32) (bi : UInt32) : Fe × UInt32 :=
  let (t, c) := mulAddLoop bi.toUInt64 acc.1 a 0
  let s8 := acc.2.toUInt64 + c
  let t9 := (s8 >>> 32).toUInt32
  let m := (t.headD 0).toUInt64
  let s0 := (t.headD 0).toUInt64 + m * 0xffffffff
  let (r, c) := mulAddLoop m t.tail p256P.tail (s0 >>> 32)
  let se := s8.toUInt32.toUInt64 + c
  (r ++ [se.toUInt32], t9 + (se >>> 32).toUInt32)

def feMul (a b : Fe) : Fe :=
  let (t, t8) := b.foldl (montStep a) (feZero, 0)
  feCondSubMod t t8 p256P

def feSqr (a : Fe) : Fe := feMul a a

def feToMont (a : Fe) : Fe := feMul a montR2

def feFromMont (a : Fe) : Fe := feMul a (1 :: List.replicate 7 0)

/-- Square-and-multiply over the bits below `n`, most significant first. -/
def fePowLoop (a exp : Fe) : Nat → Fe → Fe
  | 0, acc => acc
  | i + 1, acc =>
    let acc := feSqr acc
    let bit := (exp.getD (i / 32) 0 >>> UInt32.ofNat (i % 32)) &&& 1
    fePowLoop a exp i (if bit = 0 then acc else feMul acc a)

def fePow (a exp : Fe) : Fe := fePowLoop a exp 256 montOne

def feInv (a : Fe) : Fe := fePow a [0xfffffffd, 0xffffffff, 0xffffffff, 0, 0, 0, 1, 0xffffffff]

structure Jac where
  x : Fe
  y : Fe
  z : Fe
deriving DecidableEq

def jacInf : Jac := { x := feZero, y := feZero, z := feZero }

def jacCmov (r a : Jac) (flag : UInt32) : Jac :=
  { x := feCmov r.x a.x flag, y := feCmov r.y a.y flag, z := feCmov r.z a.z flag }

def jacDouble (p : Jac) : Jac :=
  let delta := feSqr p.z
  let gamma := feSqr p.y
  let beta := feMul p.x gamma
  let tmp := feMul (feSub p.x delta) (feAdd p.x delta)
  let alpha := feAdd (feAdd tmp tmp) tmp
  let twobeta := feAdd beta beta
  let fourbeta := feAdd twobeta twobeta
  let x3 := feSub (feSqr alpha) (feAdd fourbeta fourbeta)
  let z3 := feSub (feSub (feSqr (feAdd p.y p.z)) gamma) delta
  let g2 := feSqr gamma
  let g2 := feAdd g2 g2
  let g2 := feAdd g2 g2
  let g2 := feAdd g2 g2
  let y3 := feSub (feMul alpha (feSub fourbeta x3)) g2
  { x := x3, y := y3, z := z3 }

def jacAdd (a b : Jac) : Jac :=
  let z1z1 := feSqr a.z
  let z2z2 := feSqr b.z
  let u1 := feMul a.x z2z2
  let u2 := feMul b.x z1z1
  let s1 := feMul (feMul a.y b.z) z2z2
  let s2 := feMul (feMul b.y a.z) z1z1
  let h := feSub u2 u1
  let i := feSqr (feAdd h h)
  let j := feMul h i
  let d := feSub s2 s1
  let r := feAdd d d
  let v := feMul u1 i
  let xg := feSub (feSub (feSqr r) j) (feAdd v v)
  let s1j := feMul s1 j
  let yg := feSub (feMul r (feSub v xg)) (feAdd s1j s1j)
  let zg := feMul (feSub (feSub (feSqr (feAdd a.z b.z)) z1z1) z2z2) h
  let ia := feIsZero a.z
  let ib := feIsZero b.z
  let fin := (1 - ia) &&& (1 - ib)
  let xeq := feEq u1 u2
  let yeq := feEq s1 s2
  let res : Jac := { x := xg, y := yg, z := zg }
  let res := jacCmov res (jacDouble a) (fin &&& xeq &&& yeq)
  let res := jacCmov res jacInf (fin &&& xeq &&& (1 - yeq))
  let res := jacCmov res a ib
  jacCmov res b ia

/-- Bit `i` of a 32-octet big-endian scalar, bit 0 the most significant. -/
def scalarBit (k : Octets 32) (i : Nat) : UInt32 :=
  ((byteAt k.bytes (i / 8) >>> UInt8.ofNat (7 - i % 8)) &&& 1).toUInt32

def jacMulStep (k : Octets 32) (p acc : Jac) (i : Nat) : Jac :=
  let acc := jacDouble acc
  jacCmov acc (jacAdd acc p) (scalarBit k i)

def jacMul (k : Octets 32) (p : Jac) : Jac := (List.range 256).foldl (jacMulStep k p) jacInf

def jacToAffine (p : Jac) : Option (Fe × Fe) :=
  if feIsZero p.z ≠ 0 then none
  else
    let zinv := feInv p.z
    let zinv2 := feSqr zinv
    let zinv3 := feMul zinv2 zinv
    some (feMul p.x zinv2, feMul p.y zinv3)

/-- Eight limbs from 32 big-endian octets starting at `off`. -/
def beToFe (b : Bytes) (off : Nat) : Fe :=
  (List.range 8).map fun i => UInt32.ofNat (ofBe (slice b (off + (7 - i) * 4) 4))

def feToBe (a : Fe) : Bytes := a.reverse.flatMap fun x => be 4 x.toNat

def scalarInRange (k : Octets 32) : Bool :=
  let s := beToFe k.bytes 0
  if feIsZero s ≠ 0 then false else u256Cmp s p256N < 0

def pointOnCurve (xm ym : Fe) : Bool :=
  let x3 := feMul (feSqr xm) xm
  let threeX := feAdd (feAdd xm xm) xm
  feEq (feSqr ym) (feAdd (feSub x3 threeX) montB) ≠ 0

def coordsCanonical (x y : Fe) : Bool := u256Cmp x p256P < 0 && u256Cmp y p256P < 0

def p256PointValid (pt : Octets 64) : Bool :=
  let x := beToFe pt.bytes 0
  let y := beToFe pt.bytes 32
  if !coordsCanonical x y then false
  else if feIsZero x ≠ 0 ∧ feIsZero y ≠ 0 then false
  else pointOnCurve (feToMont x) (feToMont y)

/-- The shared x-coordinate, refused for a bad scalar, a bad point or infinity. -/
def p256Ecdh (priv : Octets 32) (peerPub : Octets 64) : Option (Octets 32) :=
  if !scalarInRange priv then none
  else if !p256PointValid peerPub then none
  else
    let q : Jac :=
      { x := feToMont (beToFe peerPub.bytes 0), y := feToMont (beToFe peerPub.bytes 32),
        z := montOne }
    (jacToAffine (jacMul priv q)).map fun xy => Octets.of 32 (feToBe (feFromMont xy.1))

def feIsSquare (a : Fe) : Bool :=
  if feIsZero a ≠ 0 then true
  else
    let half : Fe := [0xffffffff, 0xffffffff, 0x7fffffff, 0, 0, 0x80000000, 0x80000000, 0x7fffffff]
    feEq (fePow a half) montOne ≠ 0

def feSqrt (a : Fe) : Fe :=
  fePow a [0, 0, 0x40000000, 0, 0, 0x40000000, 0xc0000000, 0x3fffffff]

def feSgn0 (a : Fe) : UInt32 := (feFromMont a).headD 0 &&& 1

def loadPoint (pt : Octets 64) : Option Jac :=
  let x := beToFe pt.bytes 0
  let y := beToFe pt.bytes 32
  if !coordsCanonical x y then none
  else some { x := feToMont x, y := feToMont y, z := montOne }

def storePoint (p : Jac) : Option (Octets 64) :=
  (jacToAffine p).map fun xy =>
    Octets.of 64 (feToBe (feFromMont xy.1) ++ feToBe (feFromMont xy.2))

def p256ScalarValid (s : Octets 32) : Bool := scalarInRange s

def p256PointNegate (pt : Octets 64) : Octets 64 :=
  Octets.of 64 (slice pt.bytes 0 32 ++ feToBe (feSub feZero (beToFe pt.bytes 32)))

def p256PointMul (scalar : Octets 32) (pt : Octets 64) : Option (Octets 64) :=
  if !p256PointValid pt then none
  else (loadPoint pt).bind fun p => storePoint (jacMul scalar p)

def p256PointAdd (a b : Octets 64) : Option (Octets 64) :=
  if !p256PointValid a || !p256PointValid b then none
  else (loadPoint a).bind fun p => (loadPoint b).bind fun q => storePoint (jacAdd p q)

def p256ScalarReduceModNm1Plus1 (s : Octets 32) : Octets 32 :=
  let nMinus1 : Fe :=
    [0xfc632550, 0xf3b9cac2, 0xa7179e84, 0xbce6faad, 0xffffffff, 0xffffffff, 0, 0xffffffff]
  let v := feCondSubMod (beToFe s.bytes 0) 0 nMinus1
  Octets.of 32 (feToBe (addCarryLoop v feZero 1).1)

def p256ScalarAddN (a b : Octets 32) : Octets 32 :=
  let (t, c) := addCarryLoop (beToFe a.bytes 0) (beToFe b.bytes 0) 0
  Octets.of 32 (feToBe (feCondSubMod t c.toUInt32 p256N))

/-- `x^3 + a x + b` with the curve's `a` given in Montgomery form. -/
def curveRhs (a x : Fe) : Fe := feAdd (feAdd (feMul (feSqr x) x) (feMul a x)) montB

/-- The simplified SWU map with `Z = -10`. -/
def p256Sswu (uBe : Octets 32) : Option (Octets 64) :=
  let u := beToFe uBe.bytes 0
  if u256Cmp u p256P ≥ 0 then none
  else
    let um := feToMont u
    let three := feAdd (feAdd montOne montOne) montOne
    let a := feSub feZero three
    let ten := feAdd (feAdd (feAdd three three) three) montOne
    let z := feSub feZero ten
    let u2 := feSqr um
    let u4 := feSqr u2
    let zu2 := feMul z u2
    let z2u4 := feMul (feMul z z) u4
    let tv1 := feInv (feAdd z2u4 zu2)
    let x1 :=
      if feIsZero tv1 ≠ 0 then feMul montB (feInv (feMul z a))
      else feMul (feMul (feSub feZero montB) (feInv a)) (feAdd montOne tv1)
    let gx1 := curveRhs a x1
    let x2 := feMul zu2 x1
    let gx2 := curveRhs a x2
    let sq := feIsSquare gx1
    let x := if sq then x1 else x2
    let y := if sq then feSqrt gx1 else feSqrt gx2
    let y := if u.headD 0 &&& 1 ≠ feSgn0 y then feSub feZero y else y
    some (Octets.of 64 (feToBe (feFromMont x) ++ feToBe (feFromMont y)))

/-- Decompression: the point with the given x-coordinate and an even y. -/
def p256PointFromX (xBe : Octets 32) : Option (Octets 64) :=
  let x := beToFe xBe.bytes 0
  if u256Cmp x p256P ≥ 0 then none
  else
    let xm := feToMont x
    let x3 := feMul (feSqr xm) xm
    let threeX := feAdd (feAdd xm xm) xm
    let rhs := feAdd (feSub x3 threeX) montB
    if !feIsSquare rhs then none
    else
      let y := feSqrt rhs
      let y := if feSgn0 y ≠ 0 then feSub feZero y else y
      some (Octets.of 64 (feToBe (feFromMont xm) ++ feToBe (feFromMont y)))

def feReduceOnce (a : Fe) : Fe := feCondSubMod a 0 p256P

/-- Right-align a short big-endian string in 32 octets. -/
def padLeft (b : Bytes) : Bytes := List.replicate (32 - b.length) 0 ++ b

def p256ReduceModP (inp : Bytes) : Option (Octets 32) :=
  if inp.length = 0 ∨ inp.length > 48 then none
  else if inp.length ≤ 32 then
    some (Octets.of 32 (feToBe (feReduceOnce (beToFe (padLeft inp) 0))))
  else
    let hlen := inp.length - 32
    let hi := beToFe (padLeft (inp.take hlen)) 0
    let lo := beToFe (inp.drop hlen) 0
    some (Octets.of 32 (feToBe (feAdd (feToMont hi) (feReduceOnce lo))))

end Rf2a4m1
