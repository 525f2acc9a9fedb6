import Rf2a4m1.Base

/-!
# Block-Ack agreements
-/

set_option autoImplicit false

namespace Rf2a4m1

open ByteString

structure AddbaReq where
  dialogToken : UInt8
  tid : UInt8
  amsdu : Bool
  immediate : Bool
  bufSize : UInt16
  timeout : UInt16
  ssn : UInt16
deriving DecidableEq

structure AddbaRsp where
  dialogToken : UInt8
  status : UInt16
  tid : UInt8
  amsdu : Bool
  immediate : Bool
  bufSize : UInt16
  timeout : UInt16
deriving DecidableEq

/-- The Block-Ack parameter set field. -/
def baParam (tid : UInt8) (amsdu immediate : Bool) (bufSize : UInt16) : UInt16 :=
  let amsduBit : UInt16 := if amsdu then 0x0001 else 0
  let policyBit : UInt16 := if immediate then 0x0002 else 0
  let tidBits : UInt16 := tid.toUInt16 <<< 2
  let sizeBits : UInt16 := bufSize <<< 6
  amsduBit ||| policyBit ||| (tidBits &&& 0x003c) ||| (sizeBits &&& 0xffc0)

def baParamTid (param : UInt16) : UInt8 := ((param &&& 0x003c) >>> 2).toUInt8

def baParamBufSize (param : UInt16) : UInt16 := (param &&& 0xffc0) >>> 6

def baBuildAddbaReq (cap : Nat) (r : AddbaReq) : Option Bytes :=
  if cap < 9 then none
  else
    some ([3, 0, r.dialogToken] ++ putLe16 (baParam r.tid r.amsdu r.immediate r.bufSize) ++
      putLe16 r.timeout ++ putLe16 ((r.ssn &&& 0x0fff) <<< 4))

def baParseAddbaReq (body : Bytes) : Option AddbaReq :=
  if body.length < 9 ∨ byteAt body 0 ≠ 3 ∨ byteAt body 1 ≠ 0 then none
  else
    let param := getLe16 body 3
    some { dialogToken := byteAt body 2, tid := baParamTid param, amsdu := param &&& 0x0001 ≠ 0,
           immediate := param &&& 0x0002 ≠ 0, bufSize := baParamBufSize param,
           timeout := getLe16 body 5, ssn := (getLe16 body 7 >>> 4) &&& 0x0fff }

def baBuildAddbaRsp (cap : Nat) (r : AddbaRsp) : Option Bytes :=
  if cap < 9 then none
  else
    some ([3, 1, r.dialogToken] ++ putLe16 r.status ++
      putLe16 (baParam r.tid r.amsdu r.immediate r.bufSize) ++ putLe16 r.timeout)

def baParseAddbaRsp (body : Bytes) : Option AddbaRsp :=
  if body.length < 9 ∨ byteAt body 0 ≠ 3 ∨ byteAt body 1 ≠ 1 then none
  else
    let param := getLe16 body 5
    some { dialogToken := byteAt body 2, status := getLe16 body 3, tid := baParamTid param,
           amsdu := param &&& 0x0001 ≠ 0, immediate := param &&& 0x0002 ≠ 0,
           bufSize := baParamBufSize param, timeout := getLe16 body 7 }

inductive BaState where
  | idle
  | pending
  | established
deriving DecidableEq

structure BaAgreement where
  state : BaState
  tid : UInt8
  dialogToken : UInt8
  amsdu : Bool
  immediate : Bool
  bufSize : UInt16
  timeout : UInt16
  ssn : UInt16
deriving DecidableEq

def BaAgreement.empty : BaAgreement :=
  { state := .idle, tid := 0, dialogToken := 0, amsdu := false, immediate := false, bufSize := 0,
    timeout := 0, ssn := 0 }

def baOriginatorAddba (cap : Nat) (r : AddbaReq) : Option (BaAgreement × Bytes) :=
  (baBuildAddbaReq cap r).map fun f =>
    ({ state := .pending, tid := r.tid, dialogToken := r.dialogToken, amsdu := r.amsdu,
       immediate := r.immediate, bufSize := r.bufSize, timeout := r.timeout,
       ssn := r.ssn &&& 0x0fff }, f)

inductive BaRspStatus where
  | ok
  | errInval
  | errState
  | errRejected
deriving DecidableEq

/-- The responder may shrink the window but not to nothing. -/
def baOriginatorOnAddbaRsp (a : BaAgreement) (body : Bytes) : BaAgreement × BaRspStatus :=
  match baParseAddbaRsp body with
  | none => (a, .errInval)
  | some r =>
    if a.state ≠ .pending ∨ r.dialogToken ≠ a.dialogToken ∨ r.tid ≠ a.tid then (a, .errState)
    else if r.status ≠ 0 then ({ a with state := .idle }, .errRejected)
    else
      ({ a with amsdu := r.amsdu, immediate := r.immediate,
                bufSize := if r.bufSize ≠ 0 then r.bufSize else a.bufSize,
                timeout := r.timeout, state := .established }, .ok)

end Rf2a4m1
