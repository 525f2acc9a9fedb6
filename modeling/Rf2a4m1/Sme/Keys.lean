import Rf2a4m1.Sme.Tx

/-!
# Keys of the handshake

The EAPOL-Key PDU and its MIC, the pairwise key, and the key data elements
that carry the group keys.
-/

set_option autoImplicit false

namespace Rf2a4m1

open ByteString

section Pdu

def smeKiM1 : UInt16 := 0x008a

def smeKiM3 : UInt16 := 0x13ca

def smeKiM2 (s : Sme) : UInt16 := if smeAkmWpa3 s then 0x0108 else 0x010a

def smeKiM4 (s : Sme) : UInt16 := if smeAkmWpa3 s then 0x0308 else 0x030a

def smeKiMic : UInt16 := 0x0100

def smeKiAck : UInt16 := 0x0080

def smeKiSecure : UInt16 := 0x0200

def eapolFixedLen : Nat := 99

/-- Offset of the MIC field of an EAPOL-Key PDU. -/
def eoMic : Nat := 81

/-- The fields before the MIC. -/
def eapolHead (keyInfo keyLen : UInt16) (replay : Nat) (nonce : Octets 32) (keyDataLen : Nat) :
    Bytes :=
  [2, 3] ++ be 2 (95 + keyDataLen) ++ [2] ++ putBe16 keyInfo ++ putBe16 keyLen ++
    putBe64 replay ++ nonce.bytes ++ List.replicate 32 0

/-- An EAPOL-Key PDU whose MIC field is still zero. -/
def smeEapolKeyEncode (cap : Nat) (keyInfo keyLen : UInt16) (replay : Nat) (nonce : Octets 32)
    (keyData : Bytes) : Option Bytes :=
  if cap < eapolFixedLen + keyData.length then none
  else
    some (eapolHead keyInfo keyLen replay nonce keyData.length ++ List.replicate 16 0 ++
      be 2 keyData.length ++ keyData)

structure EapolKey where
  keyInfo : UInt16
  replay : Nat
  nonce : Octets 32
  keyData : Bytes
deriving DecidableEq

/-- The fields of a well-formed PDU, whatever the length of its key data. -/
def eapolKeyFields (inp : Bytes) : Option EapolKey :=
  if inp.length < eapolFixedLen then none
  else if (byteAt inp 0 ≠ 1 ∧ byteAt inp 0 ≠ 2) ∨ byteAt inp 1 ≠ 3 then none
  else if byteAt inp 4 ≠ 2 then none
  else
    let kdl := (getBe16 inp 97).toNat
    if eapolFixedLen + kdl > inp.length then none
    else
      some { keyInfo := getBe16 inp 5, replay := getBe64 inp 9,
             nonce := Octets.of 32 (slice inp 17 32), keyData := slice inp 99 kdl }

def smeKdeMax : Nat := 128

/-- Key data that does not fit the receiver's buffer is refused. -/
def smeEapolKeyDecode (inp : Bytes) : Option EapolKey :=
  (eapolKeyFields inp).filter fun k => k.keyData.length ≤ smeKdeMax

/-- The counter as read before the key data was checked, zero when nothing was read. -/
def eapolReplay (inp : Bytes) : Nat := ((eapolKeyFields inp).map EapolKey.replay).getD 0

end Pdu

section Mic

variable (env : Env)

/-- The MIC algorithm follows the AKM. -/
def eapolComputeMic (s : Sme) (pdu : Bytes) : Octets 16 :=
  match s.akm with
  | .sae => aes128Cmac (kck s.ptk) pdu
  | .owe => Octets.of 16 (hmacSha256 (kck s.ptk).bytes pdu).bytes
  | .psk => env.mic (kck s.ptk) pdu

def eapolSetMic (s : Sme) (pdu : Bytes) : Bytes := splice pdu eoMic (eapolComputeMic env s pdu).bytes

def eapolMicOk (s : Sme) (pdu : Bytes) : Bool :=
  if pdu.length > 320 then false
  else
    (eapolComputeMic env s (splice pdu eoMic (List.replicate 16 0))).bytes = slice pdu eoMic 16

/-- Addresses and nonces enter in order, so both ends derive the same key. -/
def ptkContext (s : Sme) : Bytes :=
  let swapA := bytesLt s.peer.bytes s.self.bytes
  let swapN := bytesLt s.snonce.bytes s.anonce.bytes
  (if swapA then s.peer else s.self).bytes ++ (if swapA then s.self else s.peer).bytes ++
    (if swapN then s.snonce else s.anonce).bytes ++ (if swapN then s.anonce else s.snonce).bytes

def smePtk (s : Sme) : Octets 48 :=
  if smeAkmWpa3 s then
    Octets.of 48 (ieee80211KdfLength s.pmk.bytes (ascii "Pairwise key expansion") (ptkContext s)
      384)
  else env.kdf s.pmk s.anonce s.snonce s.self s.peer

def smeDerivePtk (s : Sme) : Sme := { s with ptk := smePtk env s }

end Mic

section Send

def eapolSnapHdr : Bytes := [0xaa, 0xaa, 0x03, 0x00, 0x00, 0x00, 0x88, 0x8e]

/-- Header of a data frame to the peer. -/
def putDataHdr (s : Sme) (sc : UInt16) : Bytes :=
  let ap := s.role = .ap
  [0x08, if ap then 0x02 else 0x01, 0x00, 0x00] ++ s.peer.bytes ++ s.self.bytes ++
    (if ap then s.self else s.peer).bytes ++ putLe16 sc

def eapolTx (env : Env) (s : Sme) (keyInfo keyLen : UInt16) (replay : Nat) (nonce : Octets 32)
    (keyData : Bytes) : SmeTx :=
  let (sc, l) := s.toSmeTx.nextSeq
  let pdu := (smeEapolKeyEncode 288 keyInfo keyLen replay nonce keyData).map fun pdu =>
    if keyInfo &&& smeKiMic ≠ 0 then eapolSetMic env s pdu else pdu
  l.rawOpt (pdu.map fun pdu => putDataHdr s sc ++ eapolSnapHdr ++ pdu)

def txEapol (env : Env) (s : Sme) (keyInfo keyLen : UInt16) (replay : Nat) (nonce : Octets 32)
    (keyData : Bytes) : Sme :=
  { s with toSmeTx := eapolTx env s keyInfo keyLen replay nonce keyData }

end Send

section GroupKeys

def gtkKdeBuild (gtk : Octets 16) (keyId : UInt8) : Bytes :=
  [0xdd, 22] ++ rsnOui ++ [1, keyId &&& 0x03, 0x00] ++ gtk.bytes

def gtkKdeParse (inp : Bytes) : Option (Octets 16) :=
  if inp.length < 24 ∨ byteAt inp 0 ≠ 0xdd ∨ byteAt inp 1 ≠ 22 then none
  else if slice inp 2 3 ≠ rsnOui ∨ byteAt inp 5 ≠ 1 then none
  else some (Octets.of 16 (slice inp 8 16))

def gtkKdeFindLoop : Nat → Bytes → Option (Octets 16)
  | 0, _ => none
  | fuel + 1, kd =>
    if kd.length < 2 then none
    else
      let klen := 2 + (byteAt kd 1).toNat
      if byteAt kd 0 = 0x00 then none
      else if klen > kd.length then none
      else
        match if byteAt kd 0 = 0xdd then gtkKdeParse (kd.take klen) else none with
        | some gtk => some gtk
        | none => gtkKdeFindLoop fuel (kd.drop klen)

def gtkKdeFind (kd : Bytes) : Option (Octets 16) := gtkKdeFindLoop kd.length kd

def igtkKdeBuild (igtk : Octets 16) (keyId : UInt16) (ipn : Nat) : Bytes :=
  [0xdd, 28] ++ rsnOui ++ [9] ++ putLe16 keyId ++ le 6 ipn ++ igtk.bytes

/-- Key, key identifier and packet number of an IGTK element at the head of `kd`. -/
def igtkKdeParse (kd : Bytes) : Option (Octets 16 × UInt16 × Nat) :=
  if byteAt kd 0 = 0xdd ∧ byteAt kd 1 = 28 ∧ slice kd 2 3 = rsnOui ∧ byteAt kd 5 = 9 then
    some (Octets.of 16 (slice kd 14 16), getLe16 kd 6, ofLe (slice kd 8 6))
  else none

def igtkKdeFindLoop : Nat → Bytes → Option (Octets 16 × UInt16 × Nat)
  | 0, _ => none
  | fuel + 1, kd =>
    if kd.length < 2 then none
    else
      let klen := 2 + (byteAt kd 1).toNat
      if byteAt kd 0 = 0x00 then none
      else if klen > kd.length then none
      else
        match igtkKdeParse kd with
        | some r => some r
        | none => igtkKdeFindLoop fuel (kd.drop klen)

def igtkKdeFind (kd : Bytes) : Option (Octets 16 × UInt16 × Nat) := igtkKdeFindLoop kd.length kd

end GroupKeys

/-- Both keys count as installed, and the pairwise one protects data from now on. -/
def smeInstallKeys (s : Sme) : Sme :=
  smeInstallDataKey { s with ptkInstalled := true, gtkInstalled := true }

end Rf2a4m1
