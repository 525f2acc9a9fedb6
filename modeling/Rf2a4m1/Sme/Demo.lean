import Rf2a4m1.Sme.Dispatch

/-!
# A plug-in to compute with

Cryptography that is cheap to evaluate, two entities that share a PMK, and the
exchange in which they connect. Each frame of the exchange is the one the other
end sent.
-/

set_option autoImplicit false

namespace Rf2a4m1

open ByteString Runs

/-- Sums in place of hashes; a nonce is the number drawn so far and the address. -/
def demoEnv : Env where
  genNonce n _ self _ := Octets.of 32 (be 8 (n + 1) ++ self.bytes)
  kdf pmk anonce snonce self peer :=
    let k := be 16 (ofBe pmk.bytes + 3 * ofBe anonce.bytes + 5 * ofBe snonce.bytes +
      ofBe self.bytes + ofBe peer.bytes)
    Octets.of 48 (k ++ k ++ k)
  mic k m := Octets.of 16 (be 16 (ofBe k.bytes + 7 * ofBe m))
  keyWrap cap _ kd := if kd.length ≤ cap then kd else []
  keyUnwrap cap _ kd := if kd.length ≤ cap then kd else []
  stackMic _ := Octets.zero 16

/-- Both ends derive the same key. -/
theorem demoEnv_kdf_symm (pmk anonce snonce : Octets 32) (self peer : MacAddr) :
    demoEnv.kdf pmk anonce snonce self peer = demoEnv.kdf pmk anonce snonce peer self := by
  have sum : ofBe pmk.bytes + 3 * ofBe anonce.bytes + 5 * ofBe snonce.bytes + ofBe self.bytes +
      ofBe peer.bytes = ofBe pmk.bytes + 3 * ofBe anonce.bytes + 5 * ofBe snonce.bytes +
      ofBe peer.bytes + ofBe self.bytes := by omega
  simp only [demoEnv, sum]

def demoApMac : MacAddr := Octets.of 6 [2, 0, 0, 0, 0, 1]

def demoStaMac : MacAddr := Octets.of 6 [2, 0, 0, 0, 0, 2]

def demoPmk : Octets 32 := Octets.of 32 [1, 2, 3]

def noSiblings : Siblings := { ftDsTarget := none, tdlsRelay := none }

/-- Reception of a frame in internal form. -/
def rxInt (type : FrameType) (src : MacAddr) (body : Bytes) : SmeOp :=
  .rx noSiblings (smePfx type src ++ body)

@[irreducible] def runOps (s : Sme) (ops : List SmeOp) : Sme := ops.foldl (smeStep demoEnv) s

theorem runOps_reach (s : Sme) (ops : List SmeOp) : Reach (smeStep demoEnv) s (runOps s ops) := by
  unfold runOps
  exact Run.reach ops

theorem runOps_run {ok : Sme → SmeOp → Prop} {s : Sme} {ops : List SmeOp}
    (check : Sme → SmeOp → Bool) (sound : ∀ s op, check s op = true → ok s op)
    (h : allAlong (smeStep demoEnv) check s ops = true) :
    Run (smeStep demoEnv) ok s (runOps s ops) := by
  unfold runOps
  exact Run.of_allAlong sound h

/-- The frame sent last. -/
def lastSent (s : Sme) : Bytes := (s.sent.head?.map TxFrame.data).getD []

def rxSent (other : Sme) : SmeOp := .rx noSiblings (lastSent other)

/-- What a frame that is handled as one of a type is handled with. -/
def RxKind.body (type : FrameType) : RxKind → Option Bytes
  | .handle _ read inp => if read = type then some inp else none
  | _ => none

theorem RxKind.of_body {kind : RxKind} {type : FrameType} {inp : Bytes}
    (h : kind.body type = some inp) : ∃ aid, kind = .handle aid type inp := by
  cases kind with
  | handle aid read inp' =>
    obtain ⟨rfl, eq⟩ := Option.ite_none_right_eq_some.1 h
    cases eq
    exact ⟨aid, rfl⟩
  | _ => cases h

def demoApInit : Sme := smeConfigure (smeInit .ap demoApMac demoPmk 7) .plain

def demoStaInit : Sme := smeConfigure (smeInit .sta demoStaMac demoPmk 9) .plain

/-- Authentication and association with elements `ies`, up to the first message. -/
def demoApStart (mode : PmfMode) (ies : Bytes) : List SmeOp :=
  [.set .bindHal, .set (.pmf mode), rxInt .authReq demoStaMac [], rxInt .assocReq demoStaMac ies]

def demoStaStart (mode : PmfMode) (ies : Bytes) : List SmeOp :=
  [.set .bindHal, .set (.pmf mode), .set (.peer demoApMac), .connectStart,
    rxInt .authResp demoApMac [], rxInt .assocResp demoApMac ies]

section Exchange

variable (mode : PmfMode) (ies : Bytes)

def demoM1 : SmeOp := rxSent (runOps demoApInit (demoApStart mode ies))

def demoM2 : SmeOp := rxSent (runOps demoStaInit (demoStaStart mode ies ++ [demoM1 mode ies]))

def demoM3 : SmeOp := rxSent (runOps demoApInit (demoApStart mode ies ++ [demoM2 mode ies]))

/-- The station up to the third message, with which it is connected. -/
def demoStaOps : List SmeOp := demoStaStart mode ies ++ [demoM1 mode ies, demoM3 mode ies]

def demoM4 : SmeOp := rxSent (runOps demoStaInit (demoStaOps mode ies))

/-- The AP up to the fourth message, with which it is connected. -/
def demoApOps : List SmeOp := demoApStart mode ies ++ [demoM2 mode ies, demoM4 mode ies]

end Exchange

/-- An RSN element with the MFP-capable bit. -/
def demoRsne : Bytes := (pmfRsneBuild 64 pmfRsnCapMfpc 2).getD []

/-- An open-system Authentication with a transaction number and a status. -/
def demoAuthFrame (da sa : MacAddr) (txn status : UInt16) : Bytes :=
  putHdr .auth da sa da 0 ++ authBody 0 txn status

example : (runOps demoStaInit (demoStaOps .optional demoRsne)).state = .connected ∧
    (runOps demoApInit (demoApOps .optional demoRsne)).state = .connected := by
  decide +kernel

end Rf2a4m1
