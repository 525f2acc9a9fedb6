import Rf2a4m1.Crypto.Aes
import Rf2a4m1.Crypto.Sha256
import Rf2a4m1.Wire.Qos

/-!
# Fast transition elements

The FT key hierarchy, the mobility domain and fast transition elements, the FT
action frames and the resource information container.
-/

set_option autoImplicit false

namespace Rf2a4m1

open ByteString

section Keys

def ftNameSha256 (msg : Bytes) : Octets 16 := Octets.of 16 (sha256 msg).bytes

/-- PMK-R0 and its name. -/
def ftDerivePmkR0 (xxkey ssid : Bytes) (mdid : UInt16) (r0khId : Bytes) (s0khId : MacAddr) :
    Option (Octets 32 × Octets 16) :=
  if ssid.length > 32 ∨ r0khId.length > 48 then none
  else
    let ctx := [UInt8.ofNat ssid.length] ++ ssid ++ putLe16 mdid ++
      [UInt8.ofNat r0khId.length] ++ r0khId ++ s0khId.bytes
    let keyData := ieee80211KdfLength xxkey (ascii "FT-R0") ctx (48 * 8)
    some (Octets.of 32 (slice keyData 0 32),
      ftNameSha256 (ascii "FT-R0N" ++ slice keyData 32 16))

/-- PMK-R1 and its name. -/
def ftDerivePmkR1 (pmkR0 : Octets 32) (pmkR0Name : Octets 16) (r1khId s1khId : MacAddr) :
    Octets 32 × Octets 16 :=
  let ends := r1khId.bytes ++ s1khId.bytes
  (Octets.of 32 (ieee80211KdfLength pmkR0.bytes (ascii "FT-R1") ends (32 * 8)),
    ftNameSha256 (ascii "FT-R1N" ++ pmkR0Name.bytes ++ ends))

def ftDerivePtk (pmkR1 : Octets 32) (snonce anonce : Octets 32) (bssid sta : MacAddr) :
    Octets 48 :=
  let ctx := snonce.bytes ++ anonce.bytes ++ bssid.bytes ++ sta.bytes
  Octets.of 48 (ieee80211KdfLength pmkR1.bytes (ascii "FT-PTK") ctx (48 * 8))

end Keys

section Elements

def ftMdeBuild (cap : Nat) (mdid : UInt16) (ftCapPolicy : UInt8) : Option Bytes :=
  if cap < 2 + 3 then none else some ([54, 3] ++ putLe16 mdid ++ [ftCapPolicy])

def ftMdeParse (ie : Bytes) : Option (UInt16 × UInt8) :=
  let (eid, r) := rdU8 (rdInit ie)
  let (elen, r) := rdU8 r
  let (md, r) := rdLe16 r
  let (cap, r) := rdU8 r
  if !rdOk r then none
  else if eid ≠ 54 ∨ elen ≠ 3 then none
  else some (md, cap)

structure FtFte where
  elementCount : UInt8
  mic : Octets 16
  anonce : Octets 32
  snonce : Octets 32
  r1khId : Option MacAddr
  r0khId : Option Bytes
deriving DecidableEq

def FtFte.empty : FtFte :=
  { elementCount := 0, mic := Octets.zero 16, anonce := Octets.zero 32, snonce := Octets.zero 32,
    r1khId := none, r0khId := none }

def fteSubelements (f : FtFte) : Bytes :=
  (match f.r1khId with
    | none => []
    | some m => [1, 6] ++ m.bytes) ++
  (match f.r0khId with
    | none => []
    | some id => [3, UInt8.ofNat id.length] ++ id)

def fteR0khOk (f : FtFte) : Bool :=
  match f.r0khId with
  | none => true
  | some id => decide (id.length ≠ 0 ∧ id.length ≤ 48)

def ftFteBuild (cap : Nat) (f : FtFte) : Option Bytes :=
  if !fteR0khOk f then none
  else
    let body := [0, f.elementCount] ++ f.mic.bytes ++ f.anonce.bytes ++ f.snonce.bytes ++
      fteSubelements f
    if body.length > 255 ∨ cap < 2 + body.length then none
    else some ([55, UInt8.ofNat body.length] ++ body)

def fteSubelement (f : FtFte) (sid : UInt8) (sdata : Bytes) : FtFte :=
  if sid = 1 ∧ sdata.length = 6 then { f with r1khId := some (Octets.of 6 sdata) }
  else if sid = 3 ∧ sdata.length ≥ 1 ∧ sdata.length ≤ 48 then { f with r0khId := some sdata }
  else f

def fteSubelemLoop : Nat → FtFte → Rd → Option FtFte
  | 0, f, _ => some f
  | fuel + 1, f, e =>
    if rdRemaining e < 2 then some f
    else
      let (sid, e) := rdU8 e
      let (slen, e) := rdU8 e
      let (sdata, e) := rdBytes e slen.toNat
      match sdata with
      | none => none
      | some sdata => fteSubelemLoop fuel (fteSubelement f sid sdata) e

def ftFteParse (ie : Bytes) : Option FtFte :=
  let (eid, r) := rdU8 (rdInit ie)
  let (elen, r) := rdU8 r
  if !rdOk r then none
  else if eid ≠ 55 then none
  else if elen < 82 then none
  else
    match (rdBytes r elen.toNat).1 with
    | none => none
    | some b =>
      fteSubelemLoop b.length
        { elementCount := byteAt b 1, mic := Octets.of 16 (slice b 2 16),
          anonce := Octets.of 32 (slice b 18 32), snonce := Octets.of 32 (slice b 50 32),
          r1khId := none, r0khId := none }
        (rdSkip (rdInit b) 82)

/-- The FTE with its MIC field cleared, when it is long enough to hold one. -/
def fteZeroMic (fte : Bytes) : Bytes :=
  if fte.length ≥ 2 + 2 + 16 then splice fte 4 (List.replicate 16 0) else fte

/-- MIC over the fast transition elements; nothing is written for parts out of scope. -/
def ftFteMic (kck : Octets 16) (sta ap : MacAddr) (seq : UInt8) (mde fte : Bytes)
    (keyName : Octets 16) (extra : Bytes) : Option (Octets 16) :=
  if mde.length > 16 ∨ fte.length > 255 ∨ extra.length > 160 then none
  else
    some (aes128Cmac kck (sta.bytes ++ ap.bytes ++ [seq] ++ mde ++ fteZeroMic fte ++
      keyName.bytes ++ extra))

end Elements

section Action

structure FtActionReq where
  staAddr : MacAddr
  targetAddr : MacAddr
  elems : Bytes
deriving DecidableEq

def ftActionReqBuild (cap : Nat) (sta target : MacAddr) (elems : Bytes) : Option Bytes :=
  if elems.length > 255 ∨ cap < 14 + elems.length then none
  else some ([6, 1] ++ sta.bytes ++ target.bytes ++ elems)

def ftActionReqParse (inp : Bytes) : Option FtActionReq :=
  let (cat, r) := rdU8 (rdInit inp)
  let (act, r) := rdU8 r
  let (sta, r) := rdBytes r 6
  let (tgt, r) := rdBytes r 6
  if !rdOk r then none
  else if cat ≠ 6 ∨ act ≠ 1 then none
  else
    some { staAddr := Octets.of 6 (sta.getD []), targetAddr := Octets.of 6 (tgt.getD []),
           elems := r.rest }

structure FtActionResp where
  staAddr : MacAddr
  targetAddr : MacAddr
  status : UInt16
  elems : Bytes
deriving DecidableEq

def ftActionRespBuild (cap : Nat) (sta target : MacAddr) (status : UInt16) (elems : Bytes) :
    Option Bytes :=
  if elems.length > 255 ∨ cap < 16 + elems.length then none
  else some ([6, 2] ++ sta.bytes ++ target.bytes ++ putLe16 status ++ elems)

def ftActionRespParse (inp : Bytes) : Option FtActionResp :=
  let (cat, r) := rdU8 (rdInit inp)
  let (act, r) := rdU8 r
  let (sta, r) := rdBytes r 6
  let (tgt, r) := rdBytes r 6
  let (status, r) := rdLe16 r
  if !rdOk r then none
  else if cat ≠ 6 ∨ act ≠ 2 then none
  else
    some { staAddr := Octets.of 6 (sta.getD []), targetAddr := Octets.of 6 (tgt.getD []),
           status := status, elems := r.rest }

end Action

section Ric

def ricMaxResources : Nat := 4

def ricStatusSuccess : UInt16 := 0

def ricStatusDenied : UInt16 := 1

structure RicRde where
  rdieId : UInt8
  descCount : UInt8
  status : UInt16
deriving DecidableEq

def ricRdeBuild (cap : Nat) (r : RicRde) : Option Bytes :=
  if cap < 2 + 4 then none else some ([57, 4, r.rdieId, r.descCount] ++ putLe16 r.status)

def ricRdeParse (ie : Bytes) : Option RicRde :=
  let (eid, r) := rdU8 (rdInit ie)
  let (elen, r) := rdU8 r
  let (rdie, r) := rdU8 r
  let (count, r) := rdU8 r
  let (status, r) := rdLe16 r
  if !rdOk r then none
  else if eid ≠ 57 ∨ elen ≠ 4 then none
  else some { rdieId := rdie, descCount := count, status := status }

/-- Append the TSPEC elements of `list` to `w`. -/
def ricRequestLoop (cap : Nat) : Bytes → List Tspec → Option Bytes
  | w, [] => some w
  | w, t :: ts => (tspecBuild (cap - w.length) t).bind fun e => ricRequestLoop cap (w ++ e) ts

def ricRequestBuild (cap : Nat) (rdieId : UInt8) (list : List Tspec) : Option Bytes :=
  if list.length > ricMaxResources then none
  else
    (ricRdeBuild cap { rdieId := rdieId, descCount := UInt8.ofNat list.length,
                       status := ricStatusSuccess }).bind fun w => ricRequestLoop cap w list

structure RicRequest where
  rdieId : UInt8
  tspecs : List Tspec
deriving DecidableEq

/-- One TSPEC element off the cursor. -/
def ricTspec (r : Rd) : Option (Tspec × Rd) :=
  if rdRemaining r < 2 then none
  else
    let (eid, r) := rdU8 r
    let (dlen, r) := rdU8 r
    if eid ≠ 13 then none
    else
      let (tsp, r) := rdBytes r dlen.toNat
      (tsp.bind tspecParse).map fun t => (t, r)

def ricRequestTspecs : Nat → Rd → Option (List Tspec)
  | 0, _ => some []
  | n + 1, r => (ricTspec r).bind fun (t, r) => (ricRequestTspecs n r).map fun ts => t :: ts

def ricRequestParse (inp : Bytes) : Option RicRequest :=
  match ricRdeParse inp with
  | none => none
  | some rde =>
    if rde.descCount.toNat > ricMaxResources then none
    else
      (ricRequestTspecs rde.descCount.toNat (rdSkip (rdInit inp) 6)).map fun ts =>
        { rdieId := rde.rdieId, tspecs := ts }

/-- Append status and, when granted, TSPEC of every resource to `w`. -/
def ricResponseLoop (cap : Nat) : Bytes → List (Tspec × UInt16) → Option Bytes
  | w, [] => some w
  | w, (t, status) :: rest =>
    if w.length + 2 > cap then none
    else
      let w := w ++ putLe16 status
      if status = ricStatusSuccess then
        (tspecBuild (cap - w.length) t).bind fun e => ricResponseLoop cap (w ++ e) rest
      else ricResponseLoop cap w rest

/-- One refused resource makes the overall status a refusal. -/
def ricResponseBuild (cap : Nat) (rdieId : UInt8) (list : List (Tspec × UInt16)) :
    Option Bytes :=
  if list.length > ricMaxResources then none
  else
    let overall :=
      if list.any fun x => x.2 ≠ ricStatusSuccess then ricStatusDenied else ricStatusSuccess
    (ricRdeBuild cap { rdieId := rdieId, descCount := UInt8.ofNat list.length,
                       status := overall }).bind fun w => ricResponseLoop cap w list

/-- Per resource its status, and the granted TSPEC. -/
structure RicResponse where
  rdieId : UInt8
  resources : List (UInt16 × Option Tspec)
deriving DecidableEq

def ricResponseResources : Nat → Rd → Option (List (UInt16 × Option Tspec) × Rd)
  | 0, r => some ([], r)
  | n + 1, r =>
    if rdRemaining r < 2 then none
    else
      let (status, r) := rdLe16 r
      if status = ricStatusSuccess then
        (ricTspec r).bind fun (t, r) =>
          (ricResponseResources n r).map fun (rest, r) => ((status, some t) :: rest, r)
      else (ricResponseResources n r).map fun (rest, r) => ((status, none) :: rest, r)

/-- The response and the octets after it. -/
def ricResponseParse (inp : Bytes) : Option (RicResponse × Bytes) :=
  match ricRdeParse inp with
  | none => none
  | some rde =>
    if rde.descCount.toNat > ricMaxResources then none
    else
      (ricResponseResources rde.descCount.toNat (rdSkip (rdInit inp) 6)).map fun (rs, r) =>
        ({ rdieId := rde.rdieId, resources := rs }, r.rest)

end Ric

end Rf2a4m1
