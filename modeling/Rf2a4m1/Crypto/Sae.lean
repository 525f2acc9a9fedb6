import Rf2a4m1.Base
import Rf2a4m1.Crypto.P256
import Rf2a4m1.Crypto.Sha256

/-!
# SAE (group 19, hash-to-element) and OWE key derivation

The commit functions write the context step by step and may fail half way, so
they return the context they leave behind together with the success flag.
-/

set_option autoImplicit false

namespace Rf2a4m1

open ByteString

/-- Client and AP public keys only enter through their X coordinates. -/
def oweDerive (priv : Octets 32) (ownPub peerPub : Octets 64) (ownIsClient : Bool) :
    Option (Octets 32 × Octets 16) :=
  (p256Ecdh priv peerPub).map fun z =>
    let c := slice (if ownIsClient then ownPub else peerPub).bytes 0 32
    let a := slice (if ownIsClient then peerPub else ownPub).bytes 0 32
    let prk := hkdfSha256Extract (c ++ a ++ [19, 0]) z.bytes
    let pmk := hkdfSha256Expand prk.bytes (ascii "OWE Key Generation") 32
    (Octets.of 32 pmk, Octets.of 16 (sha256 (c ++ a)).bytes)

structure Sae where
  pwe : Octets 64
  rnd : Octets 32
  commitScalar : Octets 32
  commitElement : Octets 64
  peerScalar : Octets 32
  peerElement : Octets 64
  kck : Octets 32
  pmk : Octets 32
  pmkid : Octets 16
  haveKeys : Bool
deriving DecidableEq, Inhabited

/-- Password point `P_j = SSWU(HKDF-Expand(pwd-seed, label) mod p)`. -/
def h2ePoint (pwdSeed : Octets 32) (label : Bytes) : Option (Octets 64) :=
  (p256ReduceModP (hkdfSha256Expand pwdSeed.bytes label 48)).bind p256Sswu

def saeDerivePtH2e (ssid password identifier : Bytes) : Option (Octets 64) :=
  if password.length > 256 ∨ identifier.length > 256 - password.length then none
  else
    let pwdSeed := hkdfSha256Extract ssid (password ++ identifier)
    (h2ePoint pwdSeed (ascii "SAE Hash to Element u1 P1")).bind fun p1 =>
      (h2ePoint pwdSeed (ascii "SAE Hash to Element u2 P2")).bind fun p2 => p256PointAdd p1 p2

/-- Strict lexicographic order of two octet strings of one length. -/
def bytesLt : Bytes → Bytes → Bool
  | a :: as, b :: bs => if a < b then true else if b < a then false else bytesLt as bs
  | _, _ => false

def saeDerivePweFromPt (pt : Octets 64) (macA macB : MacAddr) : Option (Octets 64) :=
  if !p256PointValid pt then none
  else
    let hi := if bytesLt macA.bytes macB.bytes then macB else macA
    let lo := if bytesLt macA.bytes macB.bytes then macA else macB
    let val := hmacSha256 (Octets.zero 32).bytes (hi.bytes ++ lo.bytes)
    p256PointMul (p256ScalarReduceModNm1Plus1 val) pt

def saeCommitPwe (s : Sae) (pwe : Octets 64) (rnd mask : Octets 32) : Sae × Bool :=
  if !p256PointValid pwe || !p256ScalarValid rnd || !p256ScalarValid mask then (s, false)
  else
    let s := { s with pwe := pwe, rnd := rnd, commitScalar := p256ScalarAddN rnd mask }
    if !p256ScalarValid s.commitScalar then (s, false)
    else if s.commitScalar.bytes = List.replicate 31 0 ++ [1] then (s, false)
    else
      match p256PointMul mask pwe with
      | none => (s, false)
      | some me => ({ s with commitElement := p256PointNegate me, haveKeys := false }, true)

def saeCommit (s : Sae) (pt : Octets 64) (macA macB : MacAddr) (rnd mask : Octets 32) :
    Sae × Bool :=
  match saeDerivePweFromPt pt macA macB with
  | none => (s, false)
  | some pwe => saeCommitPwe s pwe rnd mask

/-- `K = rnd * (peer-scalar * PWE + peer-element)`. -/
def saeShared (s : Sae) (peerScalar : Octets 32) (peerElement : Octets 64) : Option (Octets 64) :=
  (p256PointMul peerScalar s.pwe).bind fun t =>
    (p256PointAdd t peerElement).bind fun t2 => p256PointMul s.rnd t2

def saeProcessCommit (s : Sae) (peerScalar : Octets 32) (peerElement : Octets 64) : Option Sae :=
  if !p256ScalarValid peerScalar || !p256PointValid peerElement then none
  else if peerScalar = s.commitScalar ∧ peerElement = s.commitElement then none
  else
    (saeShared s peerScalar peerElement).map fun k =>
      let keyseed := hmacSha256 (Octets.zero 32).bytes (slice k.bytes 0 32)
      let ctx := p256ScalarAddN s.commitScalar peerScalar
      let kckPmk := ieee80211KdfLength keyseed.bytes (ascii "SAE KCK and PMK") ctx.bytes 512
      { s with
        kck := Octets.of 32 kckPmk
        pmk := Octets.of 32 (kckPmk.drop 32)
        pmkid := Octets.of 16 ctx.bytes
        peerScalar := peerScalar
        peerElement := peerElement
        haveKeys := true }

def saeCn (kck : Octets 32) (sendConfirm : UInt16) (sc1 : Octets 32) (el1 : Octets 64)
    (sc2 : Octets 32) (el2 : Octets 64) : Octets 32 :=
  hmacSha256 kck.bytes
    (le 2 sendConfirm.toNat ++ sc1.bytes ++ el1.bytes ++ sc2.bytes ++ el2.bytes)

def saeConfirm (s : Sae) (sendConfirm : UInt16) : Octets 32 :=
  saeCn s.kck sendConfirm s.commitScalar s.commitElement s.peerScalar s.peerElement

/-- A confirm is only checked once a peer commit has derived the keys. -/
def saeVerifyConfirm (s : Sae) (sendConfirm : UInt16) (peerConfirm : Octets 32) : Bool :=
  if !s.haveKeys then false
  else
    saeCn s.kck sendConfirm s.peerScalar s.peerElement s.commitScalar s.commitElement =
      peerConfirm

end Rf2a4m1
