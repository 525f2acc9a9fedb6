import Rf2a4m1.Crypto.Ccmp
import Rf2a4m1.Wire.Mgmt

/-!
# Protected management frames

Capability negotiation, the RSN element, robust frames, the group key with its
packet numbers, SA Query, and the key data elements of the handshake.
-/

set_option autoImplicit false

namespace Rf2a4m1

open ByteString

inductive PmfMode where
  | disabled
  | optional
  | required
deriving DecidableEq

def pmfRsnCapMfpr : UInt16 := 0x0040

def pmfRsnCapMfpc : UInt16 := 0x0080

def pmfStatusSuccess : UInt16 := 0

def pmfStatusMfpViolation : UInt16 := 31

def pmfModeCaps : PmfMode → UInt16
  | .required => pmfRsnCapMfpc ||| pmfRsnCapMfpr
  | .optional => pmfRsnCapMfpc
  | .disabled => 0

def pmfCapsMfpc (caps : UInt16) : Bool := caps &&& pmfRsnCapMfpc ≠ 0

def pmfCapsMfpr (caps : UInt16) : Bool := caps &&& pmfRsnCapMfpr ≠ 0

/-- The status of the association and whether protection is active on it. -/
def pmfNegotiate (loc : PmfMode) (peerRsnCaps : UInt16) : UInt16 × Bool :=
  let localC := pmfCapsMfpc (pmfModeCaps loc)
  let localR := pmfCapsMfpr (pmfModeCaps loc)
  let peerC := pmfCapsMfpc peerRsnCaps
  let peerR := pmfCapsMfpr peerRsnCaps
  if (localR && !peerC) || (peerR && !localC) then (pmfStatusMfpViolation, false)
  else (pmfStatusSuccess, localC && peerC)

theorem pmfNegotiate_required {caps : UInt16}
    (h : (pmfNegotiate .required caps).1 = pmfStatusSuccess) :
    (pmfNegotiate .required caps).2 = true := by
  have localC : pmfCapsMfpc (pmfModeCaps .required) = true := by decide
  have localR : pmfCapsMfpr (pmfModeCaps .required) = true := by decide
  simp only [pmfNegotiate, localC, localR, Bool.true_and, Bool.not_true, Bool.and_false,
    Bool.or_false] at h ⊢
  cases peerC : pmfCapsMfpc caps with
  | true => rfl
  | false =>
    rw [peerC] at h
    exact absurd h (by decide)

def rsnOui : Bytes := [0x00, 0x0f, 0xac]

/-- The RSN element advertising `rsnCaps`, with the group management cipher when MFPC is set. -/
def pmfRsneBuild (cap : Nat) (rsnCaps : UInt16) (akm : UInt8) : Option Bytes :=
  let mfp := pmfCapsMfpc rsnCaps
  let body := putLe16 1 ++ rsnOui ++ [4] ++ putLe16 1 ++ rsnOui ++ [4] ++ putLe16 1 ++ rsnOui ++
    [akm] ++ putLe16 rsnCaps ++ (if mfp then putLe16 0 ++ rsnOui ++ [6] else [])
  if cap < 2 + body.length then none
  else some ([48, UInt8.ofNat body.length] ++ body)

/-- Capabilities and group management marker of an RSN element. -/
structure RsneInfo where
  rsnCaps : UInt16
  hasGroupMgmt : Bool
deriving DecidableEq

/-- A count, and what follows the list of that many suites of `width` octets. -/
def rsneSkipList (width : Nat) (b : Bytes) : Option Bytes :=
  let count := (getLe16 b 0).toNat
  if count * width > b.length - 2 then none else some (b.drop (2 + count * width))

def rsneParseTail (rsnCaps : UInt16) (b : Bytes) : Option RsneInfo :=
  if b.length < 2 then some { rsnCaps := rsnCaps, hasGroupMgmt := false }
  else
    (rsneSkipList 16 b).map fun rest =>
      { rsnCaps := rsnCaps, hasGroupMgmt := decide (rest.length ≥ 4) }

/-- Everything after the version is optional; a declared list may not overrun. -/
def rsneParseBody (b : Bytes) : Option RsneInfo :=
  let plain : RsneInfo := { rsnCaps := 0, hasGroupMgmt := false }
  if b.length < 2 then none
  else
    let b := b.drop 2
    if b.length < 4 then some plain
    else
      let b := b.drop 4
      if b.length < 2 then some plain
      else
        match rsneSkipList 4 b with
        | none => none
        | some b =>
          if b.length < 2 then some plain
          else
            match rsneSkipList 4 b with
            | none => none
            | some b =>
              if b.length < 2 then some plain
              else rsneParseTail (getLe16 b 0) (b.drop 2)

def pmfRsneParse (ie : Bytes) : Option RsneInfo :=
  if ie.length < 2 ∨ byteAt ie 0 ≠ 48 then none
  else
    let dlen := (byteAt ie 1).toNat
    if 2 + dlen > ie.length then none else rsneParseBody (slice ie 2 dlen)

/-- The Timeout Interval element that asks an associating station to come back. -/
def pmfComebackIeBuild (cap : Nat) (comebackTu : UInt32) : Option Bytes :=
  if cap < 7 then none else some ([56, 5, 3] ++ putLe32 comebackTu)

def pmfActionIsRobust (category : UInt8) : Bool :=
  category ∉ [4, 7, 11, 15, 20, 21, 23, 127]

def pmfIsRobustMgmt (fc : UInt16) (body : Bytes) : Bool :=
  if fcType fc ≠ 0 then false
  else if fcSubtype fc = 12 ∨ fcSubtype fc = 10 then true
  else if fcSubtype fc = 13 ∨ fcSubtype fc = 14 then
    decide (body.length ≥ 1) && pmfActionIsRobust (byteAt body 0)
  else false

def pmfRxUnprotectedOk (fc : UInt16) (body : Bytes) (mfpActive : Bool) : Bool :=
  !(mfpActive && pmfIsRobustMgmt fc body)

/-- A group management key with its transmit and receive packet numbers. -/
structure PmfIgtk where
  key : Octets 16
  keyId : UInt16
  ipnTx : Nat
  ipnRx : Nat
  installed : Bool
deriving DecidableEq

def PmfIgtk.empty : PmfIgtk :=
  { key := Octets.zero 16, keyId := 0, ipnTx := 0, ipnRx := 0, installed := false }

def pmfIgtkInstall (igtk : Octets 16) (keyId : UInt16) (ipnStart : Nat) : PmfIgtk :=
  { key := igtk, keyId := keyId, ipnTx := ipnStart, ipnRx := ipnStart, installed := true }

/-- The packet number is only consumed when the frame was built. -/
def pmfGroupProtect (k : PmfIgtk) (cap : Nat) (hdr body : Bytes) : Option (Bytes × PmfIgtk) :=
  if !k.installed then none
  else
    let next := k.ipnTx + 1
    (bipMmieProtect cap hdr body k.key (Octets.of 6 (be 6 next)) k.keyId).map fun f =>
      (f, { k with ipnTx := next })

def pmfGroupVerify (k : PmfIgtk) (frame : Bytes) : BipStatus × PmfIgtk :=
  if !k.installed then (.errMalformed, k)
  else
    let (r, ipn) := bipMmieVerify frame k.key k.ipnRx
    (r, { k with ipnRx := ipn })

def pmfBuildProtectedMgmt (k : PmfIgtk) (cap : Nat) (subtype : UInt8) (da sa bssid : MacAddr)
    (body : Bytes) (seqCtrl : UInt16) : Option (Bytes × PmfIgtk) :=
  if !k.installed then none
  else
    let fc : UInt16 := (subtype &&& 0xf).toUInt16 <<< 4
    pmfGroupProtect k cap
      (putLe16 fc ++ [0, 0] ++ da.bytes ++ sa.bytes ++ bssid.bytes ++ putLe16 seqCtrl) body

def pmfSaQueryRequest : UInt8 := 0

def pmfSaQueryResponse : UInt8 := 1

def pmfSaQueryBuild (cap : Nat) (action : UInt8) (transId : UInt16) : Option Bytes :=
  if cap < 4 then none else some ([8, action] ++ putLe16 transId)

/-- Action and transaction identifier of an SA Query body. -/
def pmfSaQueryParse (inp : Bytes) : Option (UInt8 × UInt16) :=
  if inp.length < 4 ∨ byteAt inp 0 ≠ 8 then none
  else if byteAt inp 1 ≠ pmfSaQueryRequest ∧ byteAt inp 1 ≠ pmfSaQueryResponse then none
  else some (byteAt inp 1, getLe16 inp 2)

inductive PmfSaQueryState where
  | idle
  | pending
  | answered
  | timeout
deriving DecidableEq

structure PmfSaQuery where
  state : PmfSaQueryState
  transId : UInt16
  nextTid : UInt16
  retries : Nat
  maxRetries : Nat
  timeoutTicks : Nat
  elapsed : Nat
deriving DecidableEq

def PmfSaQuery.empty : PmfSaQuery :=
  { state := .idle, transId := 0, nextTid := 0, retries := 0, maxRetries := 0, timeoutTicks := 0,
    elapsed := 0 }

def pmfSaQueryInit (maxRetries timeoutTicks : Nat) : PmfSaQuery :=
  { state := .idle, transId := 0, nextTid := 1, retries := 0,
    maxRetries := if maxRetries ≠ 0 then maxRetries else 1,
    timeoutTicks := if timeoutTicks ≠ 0 then timeoutTicks else 1, elapsed := 0 }

/-- The next transaction identifier skips zero. -/
def pmfSaQueryStart (q : PmfSaQuery) (cap : Nat) : PmfSaQuery × Option Bytes :=
  let next := q.nextTid + 1
  let q' := { q with transId := q.nextTid, nextTid := if next = 0 then 1 else next,
                     state := .pending, retries := 1, elapsed := 0 }
  (q', pmfSaQueryBuild cap pmfSaQueryRequest q'.transId)

def pmfSaQueryTick (q : PmfSaQuery) (cap : Nat) : PmfSaQuery × Option Bytes :=
  if q.state ≠ .pending then (q, none)
  else if q.elapsed + 1 < q.timeoutTicks then ({ q with elapsed := q.elapsed + 1 }, none)
  else if q.retries ≥ q.maxRetries then ({ q with elapsed := 0, state := .timeout }, none)
  else
    ({ q with elapsed := 0, retries := q.retries + 1 },
      pmfSaQueryBuild cap pmfSaQueryRequest q.transId)

def pmfSaQueryOnResponse (q : PmfSaQuery) (inp : Bytes) : PmfSaQuery × Bool :=
  if q.state ≠ .pending then (q, false)
  else
    match pmfSaQueryParse inp with
    | none => (q, false)
    | some (act, tid) =>
      if act ≠ pmfSaQueryResponse ∨ tid ≠ q.transId then (q, false)
      else ({ q with state := .answered }, true)

def pmfSaQueryRespond (inp : Bytes) (cap : Nat) : Option Bytes :=
  match pmfSaQueryParse inp with
  | none => none
  | some (act, tid) =>
    if act ≠ pmfSaQueryRequest then none else pmfSaQueryBuild cap pmfSaQueryResponse tid

section KeyData

/-- The payload of the first key data element with this OUI, data type and minimal length. -/
def kdeFindLoop : Nat → Bytes → Bytes → UInt8 → Nat → Option Bytes
  | 0, _, _, _, _ => none
  | fuel + 1, kd, oui, dt, minBody =>
    if kd.length < 2 then none
    else
      let t := byteAt kd 0
      let l := (byteAt kd 1).toNat
      if t = 0x00 ∨ (t = 0xdd ∧ l = 0) then none
      else if 2 + l > kd.length then none
      else if t = 0xdd ∧ l ≥ minBody ∧ slice kd 2 3 = oui ∧ byteAt kd 5 = dt then
        some (slice kd 6 (l - 4))
      else kdeFindLoop fuel (kd.drop (2 + l)) oui dt minBody

def kdeFind (kd oui : Bytes) (dt : UInt8) (minBody : Nat) : Option Bytes :=
  kdeFindLoop kd.length kd oui dt minBody

def pmfBigtkKdeBuild (cap : Nat) (bigtk : Octets 16) (keyId : UInt16) (bipn : Nat) :
    Option Bytes :=
  if cap < 30 then none
  else some ([0xdd, 28] ++ rsnOui ++ [10] ++ putLe16 keyId ++ le 6 bipn ++ bigtk.bytes)

/-- Key, key identifier and packet number. -/
def pmfBigtkKdeFind (kd : Bytes) : Option (Octets 16 × UInt16 × Nat) :=
  match kdeFind kd rsnOui 10 24 with
  | none => none
  | some p =>
    if p.length ≠ 24 then none
    else some (Octets.of 16 (slice p 8 16), getLe16 p 0, ofLe (slice p 2 6))

/-- Operating channel information. -/
structure PmfOci where
  opClass : UInt8
  primChan : UInt8
  seg1Freq : UInt8
deriving DecidableEq

def PmfOci.empty : PmfOci := { opClass := 0, primChan := 0, seg1Freq := 0 }

def PmfOci.bytes (oci : PmfOci) : Bytes := [oci.opClass, oci.primChan, oci.seg1Freq]

def PmfOci.ofBytes (b : Bytes) : PmfOci :=
  { opClass := byteAt b 0, primChan := byteAt b 1, seg1Freq := byteAt b 2 }

def pmfOciElementBuild (cap : Nat) (oci : PmfOci) : Option Bytes :=
  if cap < 6 then none else some ([255, 4, 54] ++ oci.bytes)

def pmfOciElementParse (ie : Bytes) : Option PmfOci :=
  if ie.length < 6 ∨ byteAt ie 0 ≠ 255 ∨ byteAt ie 1 ≠ 4 then none
  else if byteAt ie 2 ≠ 54 then none
  else some (PmfOci.ofBytes (ie.drop 3))

def pmfOciKdeBuild (cap : Nat) (oci : PmfOci) : Option Bytes :=
  if cap < 9 then none else some ([0xdd, 7] ++ rsnOui ++ [13] ++ oci.bytes)

def pmfOciKdeFind (kd : Bytes) : Option PmfOci :=
  match kdeFind kd rsnOui 13 7 with
  | none => none
  | some p => if p.length < 3 then none else some (PmfOci.ofBytes p)

/-- The second segment only has to match when either side uses one. -/
def pmfOcvVerify (peer loc : PmfOci) : Bool :=
  if peer.opClass ≠ loc.opClass then false
  else if peer.primChan ≠ loc.primChan then false
  else if (peer.seg1Freq ≠ 0 ∨ loc.seg1Freq ≠ 0) ∧ peer.seg1Freq ≠ loc.seg1Freq then false
  else true

def wfaOui : Bytes := [0x50, 0x6f, 0x9a]

def pmfTdKdeBuild (cap : Nat) (bitmap : UInt8) : Option Bytes :=
  if cap < 7 then none else some ([0xdd, 5] ++ wfaOui ++ [8, bitmap])

def pmfTdKdeFind (kd : Bytes) : Option UInt8 :=
  match kdeFind kd wfaOui 8 5 with
  | none => none
  | some p => if p.length < 1 then none else some (byteAt p 0)

end KeyData

end Rf2a4m1
