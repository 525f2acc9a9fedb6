import Rf2a4m1.Base
import Rf2a4m1.Crypto.Aes
import Rf2a4m1.Crypto.Sha256

/-!
# Direct link setup

Elements and frames of the direct link handshake, the TPK, and the state
machine of one end of the link.
-/

set_option autoImplicit false

namespace Rf2a4m1

open ByteString

structure TdlsLinkId where
  bssid : MacAddr
  initAddr : MacAddr
  respAddr : MacAddr
deriving DecidableEq

def TdlsLinkId.empty : TdlsLinkId :=
  { bssid := Octets.zero 6, initAddr := Octets.zero 6, respAddr := Octets.zero 6 }

def tdlsLinkIdBuild (cap : Nat) (l : TdlsLinkId) : Option Bytes :=
  if cap < 2 + 18 then none
  else some ([101, 18] ++ l.bssid.bytes ++ l.initAddr.bytes ++ l.respAddr.bytes)

def tdlsLinkIdParse (ie : Bytes) : Option TdlsLinkId :=
  let (eid, r) := rdU8 (rdInit ie)
  let (elen, r) := rdU8 r
  let (bssid, r) := rdBytes r 6
  let (ia, r) := rdBytes r 6
  let (ra, r) := rdBytes r 6
  if !rdOk r then none
  else if eid ≠ 101 ∨ elen ≠ 18 then none
  else
    some { bssid := Octets.of 6 (bssid.getD []), initAddr := Octets.of 6 (ia.getD []),
           respAddr := Octets.of 6 (ra.getD []) }

def tdlsTieBuild (cap : Nat) (keyLifetime : UInt32) : Option Bytes :=
  if cap < 2 + 5 then none else some ([56, 5, 2] ++ putLe32 keyLifetime)

def tdlsTieParse (ie : Bytes) : Option UInt32 :=
  let (eid, r) := rdU8 (rdInit ie)
  let (elen, r) := rdU8 r
  let (type, r) := rdU8 r
  let (value, r) := rdLe32 r
  if !rdOk r then none
  else if eid ≠ 56 ∨ elen ≠ 5 then none
  else if type ≠ 2 then none
  else some value

structure TdlsFtie where
  mic : Octets 16
  anonce : Octets 32
  snonce : Octets 32
deriving DecidableEq

def tdlsFtieBuild (cap : Nat) (f : TdlsFtie) : Option Bytes :=
  if cap < 2 + 82 then none
  else some ([55, 82, 0, 0] ++ f.mic.bytes ++ f.anonce.bytes ++ f.snonce.bytes)

def tdlsFtieParse (ie : Bytes) : Option TdlsFtie :=
  let (eid, r) := rdU8 (rdInit ie)
  let (elen, r) := rdU8 r
  if !rdOk r then none
  else if eid ≠ 55 ∨ elen < 82 then none
  else
    (rdBytes r elen.toNat).1.map fun b =>
      { mic := Octets.of 16 (slice b 2 16), anonce := Octets.of 32 (slice b 18 32),
        snonce := Octets.of 32 (slice b 50 32) }

def tdlsBytesLt : Bytes → Bytes → Bool
  | x :: xs, y :: ys => if x ≠ y then x < y else tdlsBytesLt xs ys
  | _, _ => false

/-- The smaller of two byte strings followed by the larger. -/
def tdlsSorted (a b : Bytes) : Bytes := if tdlsBytesLt a b then a ++ b else b ++ a

def tdlsDeriveTpk (snonce anonce : Octets 32) (macI macR bssid : MacAddr) : Octets 32 :=
  let keyInput := sha256 (tdlsSorted snonce.bytes anonce.bytes)
  let ctx := tdlsSorted macI.bytes macR.bytes ++ bssid.bytes
  Octets.of 32 (ieee80211KdfLength keyInput.bytes (ascii "TDLS PMK") ctx (32 * 8))

/-- MIC over the elements with the MIC field cleared; nothing is written for parts out of scope. -/
def tdlsFtieMic (kck : Octets 16) (init resp : MacAddr) (transSeq : UInt8) (lid tie ftie : Bytes) :
    Option (Octets 16) :=
  if lid.length > 2 + 18 ∨ tie.length > 2 + 5 ∨ ftie.length > 2 + 255 ∨
      lid.length + tie.length + ftie.length > 111 then none
  else
    let ftie0 := if ftie.length ≥ 2 + 2 + 16 then splice ftie 4 (List.replicate 16 0) else ftie
    some (aes128Cmac kck (init.bytes ++ resp.bytes ++ [transSeq] ++ lid ++ tie ++ ftie0))

/-- Encapsulation header of a direct link action. -/
def tdlsEncHdr (action : UInt8) : Bytes := [0x02, 12, action]

structure TdlsSetupReq where
  dialogToken : UInt8
  capInfo : UInt16
  ftie : TdlsFtie
  keyLifetime : UInt32
  lid : TdlsLinkId
deriving DecidableEq

/-- FTIE, timeout interval and link identifier, each found right after the one before it. -/
def tdlsElements (b : Bytes) : Option (TdlsFtie × UInt32 × TdlsLinkId) :=
  (tdlsFtieParse b).bind fun ftie =>
    let b := b.drop (2 + (byteAt b 1).toNat)
    (tdlsTieParse b).bind fun keyLifetime =>
      (tdlsLinkIdParse (b.drop 7)).map fun lid => (ftie, keyLifetime, lid)

def tdlsSetupReqParse (inp : Bytes) : Option TdlsSetupReq :=
  let (pt, r) := rdU8 (rdInit inp)
  let (cat, r) := rdU8 r
  let (act, r) := rdU8 r
  let (tok, r) := rdU8 r
  let (cap, r) := rdLe16 r
  if !rdOk r then none
  else if pt ≠ 0x02 ∨ cat ≠ 12 ∨ act ≠ 0 then none
  else
    (tdlsElements r.rest).map fun (ftie, keyLifetime, lid) =>
      { dialogToken := tok, capInfo := cap, ftie := ftie, keyLifetime := keyLifetime, lid := lid }

structure TdlsSetupResp where
  status : UInt16
  dialogToken : UInt8
  capInfo : UInt16
  ftie : TdlsFtie
  keyLifetime : UInt32
  lid : TdlsLinkId
deriving DecidableEq

def tdlsAppend (cap : Nat) (w : Bytes) (build : Nat → Option Bytes) : Option Bytes :=
  (build (cap - w.length)).map fun e => w ++ e

def tdlsElementsBuild (cap : Nat) (w : Bytes) (ftie : TdlsFtie) (keyLifetime : UInt32)
    (lid : TdlsLinkId) : Option Bytes :=
  (tdlsAppend cap w fun c => tdlsFtieBuild c ftie).bind fun w =>
    (tdlsAppend cap w fun c => tdlsTieBuild c keyLifetime).bind fun w =>
      tdlsAppend cap w fun c => tdlsLinkIdBuild c lid

def tdlsSetupRespBuild (cap : Nat) (r : TdlsSetupResp) : Option Bytes :=
  if cap < 3 + 5 then none
  else
    tdlsElementsBuild cap
      (tdlsEncHdr 1 ++ putLe16 r.status ++ [r.dialogToken] ++ putLe16 r.capInfo)
      r.ftie r.keyLifetime r.lid

def tdlsSetupRespParse (inp : Bytes) : Option TdlsSetupResp :=
  let (pt, r) := rdU8 (rdInit inp)
  let (cat, r) := rdU8 r
  let (act, r) := rdU8 r
  let (st, r) := rdLe16 r
  let (tok, r) := rdU8 r
  let (cap, r) := rdLe16 r
  if !rdOk r then none
  else if pt ≠ 0x02 ∨ cat ≠ 12 ∨ act ≠ 1 then none
  else
    (tdlsElements r.rest).map fun (ftie, keyLifetime, lid) =>
      { status := st, dialogToken := tok, capInfo := cap, ftie := ftie,
        keyLifetime := keyLifetime, lid := lid }

structure TdlsSetupConfirm where
  status : UInt16
  dialogToken : UInt8
  ftie : TdlsFtie
  keyLifetime : UInt32
  lid : TdlsLinkId
deriving DecidableEq

def tdlsSetupConfirmBuild (cap : Nat) (r : TdlsSetupConfirm) : Option Bytes :=
  if cap < 3 + 3 then none
  else
    tdlsElementsBuild cap (tdlsEncHdr 2 ++ putLe16 r.status ++ [r.dialogToken])
      r.ftie r.keyLifetime r.lid

def tdlsSetupConfirmParse (inp : Bytes) : Option TdlsSetupConfirm :=
  let (pt, r) := rdU8 (rdInit inp)
  let (cat, r) := rdU8 r
  let (act, r) := rdU8 r
  let (st, r) := rdLe16 r
  let (tok, r) := rdU8 r
  if !rdOk r then none
  else if pt ≠ 0x02 ∨ cat ≠ 12 ∨ act ≠ 2 then none
  else
    (tdlsElements r.rest).map fun (ftie, keyLifetime, lid) =>
      { status := st, dialogToken := tok, ftie := ftie, keyLifetime := keyLifetime, lid := lid }

structure TdlsTeardown where
  reason : UInt16
  ftie : Option TdlsFtie
  lid : TdlsLinkId
deriving DecidableEq

/-- The FTIE is optional; the link identifier after it is not. -/
def tdlsTeardownParse (inp : Bytes) : Option TdlsTeardown :=
  let (pt, r) := rdU8 (rdInit inp)
  let (cat, r) := rdU8 r
  let (act, r) := rdU8 r
  let (rsn, r) := rdLe16 r
  if !rdOk r then none
  else if pt ≠ 0x02 ∨ cat ≠ 12 ∨ act ≠ 3 then none
  else
    let b := r.rest
    if b.length ≥ 1 ∧ byteAt b 0 = 55 then
      (tdlsFtieParse b).bind fun ftie =>
        (tdlsLinkIdParse (b.drop (2 + (byteAt b 1).toNat))).map fun lid =>
          { reason := rsn, ftie := some ftie, lid := lid }
    else
      (tdlsLinkIdParse b).map fun lid => { reason := rsn, ftie := none, lid := lid }

inductive TdlsState where
  | idle
  | reqSent
  | setup
  | established
  | teardown
deriving DecidableEq

structure TdlsPeer where
  state : TdlsState
  isInitiator : Bool
  self : MacAddr
  peer : MacAddr
  bssid : MacAddr
  lid : TdlsLinkId
  snonce : Octets 32
  anonce : Octets 32
  tpk : Octets 32
  haveTpk : Bool
  dialogToken : UInt8
  keyLifetime : UInt32
deriving DecidableEq

def TdlsPeer.empty : TdlsPeer :=
  { state := .idle, isInitiator := false, self := Octets.zero 6, peer := Octets.zero 6,
    bssid := Octets.zero 6, lid := TdlsLinkId.empty, snonce := Octets.zero 32,
    anonce := Octets.zero 32, tpk := Octets.zero 32, haveTpk := false, dialogToken := 0,
    keyLifetime := 0 }

/-- MIC of a frame under the first half of a TPK; the element lengths are always in scope. -/
def tdlsFrameMic (tpk : Octets 32) (p : TdlsPeer) (f : TdlsFtie) (lid : TdlsLinkId)
    (keyLifetime : UInt32) (transSeq : UInt8) : Octets 16 :=
  let lidb := (tdlsLinkIdBuild 20 lid).getD []
  let tieb := (tdlsTieBuild 7 keyLifetime).getD []
  let ftieb := (tdlsFtieBuild 84 f).getD []
  (tdlsFtieMic (Octets.of 16 (slice tpk.bytes 0 16)) p.lid.initAddr p.lid.respAddr transSeq
    lidb tieb ftieb).getD (Octets.zero 16)

def tdlsPeerInit (self peer bssid : MacAddr) (isInitiator : Bool) (dialogToken : UInt8)
    (keyLifetime : UInt32) : TdlsPeer :=
  { TdlsPeer.empty with
    isInitiator := isInitiator, self := self, peer := peer, bssid := bssid
    lid := { bssid := bssid, initAddr := if isInitiator then self else peer,
             respAddr := if isInitiator then peer else self }
    dialogToken := dialogToken, keyLifetime := keyLifetime }

/-- The FTIE of an answer: the nonces of the link under a fresh MIC. -/
def tdlsMicFtie (p : TdlsPeer) (transSeq : UInt8) : TdlsFtie :=
  let blank : TdlsFtie := { mic := Octets.zero 16, anonce := p.anonce, snonce := p.snonce }
  { blank with mic := tdlsFrameMic p.tpk p blank p.lid p.keyLifetime transSeq }

/-- Keys are taken over before the answer is known to fit. -/
def tdlsOnSetupReq (p : TdlsPeer) (inp : Bytes) (anonce : Octets 32) (cap : Nat) :
    TdlsPeer × Option Bytes :=
  if p.state ≠ .idle ∨ p.isInitiator then (p, none)
  else
    match tdlsSetupReqParse inp with
    | none => (p, none)
    | some req =>
      if req.lid ≠ p.lid then (p, none)
      else
        let tpk := tdlsDeriveTpk req.ftie.snonce anonce p.lid.initAddr p.lid.respAddr p.bssid
        let p1 := { p with snonce := req.ftie.snonce, anonce := anonce, tpk := tpk,
                           haveTpk := true, dialogToken := req.dialogToken }
        let resp : TdlsSetupResp :=
          { status := 0, dialogToken := p1.dialogToken, capInfo := 0, ftie := tdlsMicFtie p1 2,
            keyLifetime := p1.keyLifetime, lid := p1.lid }
        match tdlsSetupRespBuild cap resp with
        | none => (p1, none)
        | some f => ({ p1 with state := .setup }, some f)

def tdlsOnSetupResp (p : TdlsPeer) (inp : Bytes) (cap : Nat) : TdlsPeer × Option Bytes :=
  if p.state ≠ .reqSent then (p, none)
  else
    match tdlsSetupRespParse inp with
    | none => (p, none)
    | some resp =>
      if resp.status ≠ 0 ∨ resp.dialogToken ≠ p.dialogToken then (p, none)
      else if resp.lid ≠ p.lid then (p, none)
      else if resp.ftie.snonce ≠ p.snonce then (p, none)
      else
        let tpk := tdlsDeriveTpk p.snonce resp.ftie.anonce p.lid.initAddr p.lid.respAddr p.bssid
        if tdlsFrameMic tpk p resp.ftie resp.lid resp.keyLifetime 2 ≠ resp.ftie.mic then (p, none)
        else
          let p1 := { p with anonce := resp.ftie.anonce, tpk := tpk, haveTpk := true }
          let conf : TdlsSetupConfirm :=
            { status := 0, dialogToken := p1.dialogToken, ftie := tdlsMicFtie p1 3,
              keyLifetime := p1.keyLifetime, lid := p1.lid }
          match tdlsSetupConfirmBuild cap conf with
          | none => (p1, none)
          | some f => ({ p1 with state := .established }, some f)

def tdlsOnSetupConfirm (p : TdlsPeer) (inp : Bytes) : TdlsPeer × Bool :=
  if p.state ≠ .setup ∨ !p.haveTpk then (p, false)
  else
    match tdlsSetupConfirmParse inp with
    | none => (p, false)
    | some conf =>
      if conf.status ≠ 0 ∨ conf.dialogToken ≠ p.dialogToken then (p, false)
      else if conf.lid ≠ p.lid then (p, false)
      else if tdlsFrameMic p.tpk p conf.ftie conf.lid conf.keyLifetime 3 ≠ conf.ftie.mic then
        (p, false)
      else ({ p with state := .established }, true)

/-- A keyed link is only torn down by a frame with a valid MIC. -/
def tdlsTeardownMicOk (p : TdlsPeer) (td : TdlsTeardown) : Bool :=
  if !p.haveTpk then true
  else
    match td.ftie with
    | none => false
    | some f => tdlsFrameMic p.tpk p f td.lid p.keyLifetime 4 = f.mic

def tdlsOnTeardown (p : TdlsPeer) (inp : Bytes) : TdlsPeer × Bool :=
  match tdlsTeardownParse inp with
  | none => (p, false)
  | some td =>
    if td.lid ≠ p.lid then (p, false)
    else if !tdlsTeardownMicOk p td then (p, false)
    else ({ p with state := .teardown }, true)

end Rf2a4m1
