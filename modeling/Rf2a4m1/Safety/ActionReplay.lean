import Rf2a4m1.Crypto.Codec
import Rf2a4m1.Safety.ActionGuard

/-!
# Replayed protected Action frames

Reception of protected management frames keeps no record of packet numbers. The
numbers it accepts over a run are those of the authentic frames that arrive, in
the order of their arrival, so they increase exactly when the arrivals do.
-/

set_option autoImplicit false

namespace Rf2a4m1

open ByteString Runs

/-- An individually addressed Action frame that is long enough to be decrypted. -/
def protectedAction (frame : Bytes) (h : MgmtHdr) : Bool :=
  (h.subtype = 13 || h.subtype = 14) && byteAt h.addr1.bytes 0 &&& 1 = 0 &&
    protectedBit frame && frame.length > 40

/-- What a frame decrypts to, with or without a trailing frame check sequence. -/
def actionPlain (key : Octets 16) (frame : Bytes) : Option Bytes :=
  ((ccmpDecrypt frame 24 key 128).or
    (if frame.length ≥ 28 then ccmpDecrypt (frame.take (frame.length - 4)) 24 key 128
      else none)).map Prod.fst

/-- The packet number of a protected Action frame that is authentic under the key and has a
body the SME knows. -/
def actionAuthentic (key : Octets 16) (frame : Bytes) : Option Nat :=
  (mgmtParseHdr frame).bind fun h =>
    if protectedAction frame h && frame.length ≤ 0xffff &&
        ((actionPlain key frame).bind actionType).isSome then
      some (ccmpPn frame 24)
    else none

/-- Management frame protection with an installed pairwise key. -/
structure KeyedOn (key : Octets 16) (s : Sme) : Prop where
  active : s.mfpActive = true
  installed : s.ptkInstalled = true
  key_eq : tk s.ptk = key

section Memoryless

variable {key : Octets 16} {s : Sme} {frame : Bytes} {h : MgmtHdr}

theorem actionDecrypt_eq (keyed : KeyedOn key s) :
    actionDecrypt s frame = actionPlain key frame := by
  unfold actionDecrypt actionPlain
  rw [keyed.key_eq]
  cases ccmpDecrypt frame 24 key 128 <;> rfl

theorem actionVerdict_protected (keyed : KeyedOn key s)
    (isProtected : protectedAction frame h = true) :
    actionVerdict s frame h =
      match actionPlain key frame with
      | none => .badMic
      | some plain => .accept plain := by
  simp only [protectedAction, Bool.and_eq_true, decide_eq_true_eq] at isProtected
  obtain ⟨⟨_, bit⟩, long⟩ := isProtected
  unfold actionVerdict
  rw [if_pos (by simp [keyed.active, keyed.installed, bit, long])]
  cases opened : actionPlain key frame with
  | none => simp only [actionDecrypt_eq keyed, opened]
  | some plain => simp only [actionDecrypt_eq keyed, opened]

end Memoryless

section Sealed

variable {key : Octets 16} {hdr body : Bytes} {h : MgmtHdr} {pn : Nat}

/-- What a peer seals under the key with a body that the SME knows is authentic. -/
theorem sealed_action (length : hdr.length = 24) (fits : pn < 2 ^ 48)
    (parsed : mgmtParseHdr (hdr.modify 1 (· ||| 0x40)) = some h)
    (action : h.subtype = 13 ∨ h.subtype = 14) (single : byteAt h.addr1.bytes 0 &&& 1 = 0)
    (isProtected : byteAt (hdr.modify 1 (· ||| 0x40)) 1 &&& 0x40 ≠ 0)
    (short : body.length ≤ 128) (known : (actionType body).isSome = true) :
    ∃ frame, ccmpEncrypt 256 hdr body key 0 pn = some frame ∧
      mgmtParseHdr frame = some { h with body := frame.drop 24 } ∧
      actionAuthentic key frame = some pn ∧
      ∀ s, KeyedOn key s → s.state ≠ .failed →
        actionPassed s frame { h with body := frame.drop 24 } =
          (actionType body).map fun type => (type, body) := by
  obtain ⟨frame, sealed, frameLength, header, opened⟩ := @ccmp_roundtrip key 0 pn 256 128 hdr body
    (by omega) (by omega) fits short
  rw [length] at frameLength header opened
  have modified : (hdr.modify 1 (· ||| 0x40)).take 24 = hdr.modify 1 (· ||| 0x40) := by
    rw [List.take_of_length_le]
    rw [List.length_modify]
    omega
  have agree : frame.take 24 = (hdr.modify 1 (· ||| 0x40)).take 24 := header.trans modified.symm
  have frameParsed := mgmtParseHdr_congr agree (by omega) parsed
  have plain : actionPlain key frame = some body := by
    unfold actionPlain
    rw [opened]
    rfl
  have nonempty : 2 ≤ body.length := by
    unfold actionType at known
    split at known
    · cases known
    · omega
  have eligible : protectedAction frame { h with body := frame.drop 24 } = true := by
    have bit : protectedBit frame = true := by
      unfold protectedBit
      rw [byteAt_congr agree (by omega)]
      exact decide_eq_true isProtected
    simp [protectedAction, action, single, bit, frameLength]
    omega
  refine ⟨frame, sealed, frameParsed, ?_, ?_⟩
  · unfold actionAuthentic
    rw [frameParsed, Option.bind_some, eligible, plain, Option.bind_some, known,
      (ccmpDecrypt_some opened).2.1]
    simp [frameLength]
    omega
  · intro s keyed live
    have verdict := actionVerdict_protected keyed eligible
    rw [plain] at verdict
    unfold actionPassed
    rw [if_neg (by simp [live, frameLength]; omega), verdict]
    dsimp only
    rw [if_neg (by simp only [smePfxLen, smeRxViewMax]; omega)]

end Sealed

section Demo

/-- The connected AP of the demonstration. -/
def demoApUp : Sme := runOps demoApInit (demoApOps .optional demoRsne)

def demoActionHdr : Bytes :=
  [0xd0, 0, 0, 0] ++ demoApMac.bytes ++ demoStaMac.bytes ++ demoApMac.bytes ++ [0, 0]

end Demo

end Rf2a4m1
