import Rf2a4m1.Safety.ActionReplay
import Rf2a4m1.Safety.RxSpan

/-!
# What the network stack is given

A protected data frame goes to the stack only when the chip or the SME's key
verified it. A frame in the clear goes there as it stands, whatever the state
of the keys.
-/

set_option autoImplicit false

namespace Rf2a4m1

open ByteString Runs

section Plain

theorem snapAt_length {body : Bytes} (snap : snapAt body 0 = true) : 3 ≤ body.length := by
  by_contra short
  have past : byteAt body 2 = 0 := by
    have none : body[2]? = none := List.getElem?_eq_none (by omega)
    simp [byteAt, none]
  simp [snapAt, past] at snap

theorem hwPlain_stripped {plain : Bytes} (snap : snapAt plain 0 = true) :
    hwPlain plain = plain := by
  unfold hwPlain
  rw [if_neg (by simp [snap])]

/-- A CCMP header that does not look like LLC/SNAP is skipped. -/
theorem hwPlain_retained {ccmpHdr plain : Bytes} (length : ccmpHdr.length = 8)
    (other : snapAt ccmpHdr 0 = false) (snap : snapAt plain 0 = true) :
    hwPlain (ccmpHdr ++ plain) = plain := by
  have first : snapAt (ccmpHdr ++ plain) 0 = false := by
    rw [← other]
    unfold snapAt
    rw [byteAt_append_left (by omega), byteAt_append_left (by omega),
      byteAt_append_left (by omega)]
  have second : snapAt (ccmpHdr ++ plain) 8 = true := by
    rw [← snap]
    unfold snapAt
    rw [byteAt_append_right (by omega), byteAt_append_right (by omega),
      byteAt_append_right (by omega), length]
  have long := snapAt_length snap
  unfold hwPlain
  rw [if_pos ⟨by rw [List.length_append]; omega, by simp [first], second⟩]
  exact List.drop_left' length

end Plain

/-- The chip's plaintext behind the MAC header, with or without a CCMP header in front. -/
def HwDelivers (behind plain : Bytes) : Prop :=
  snapAt plain 0 = true ∧
    ∃ ccmpHdr : Bytes, behind = ccmpHdr ++ plain ∧
      (ccmpHdr = [] ∨ ccmpHdr.length = 8 ∧ snapAt ccmpHdr 0 = false)

theorem HwDelivers.hwPlain_eq {behind plain : Bytes} (delivers : HwDelivers behind plain) :
    hwPlain behind = plain := by
  obtain ⟨snap, ccmpHdr, rfl, none | ⟨length, other⟩⟩ := delivers
  · rw [none]
    exact hwPlain_stripped snap
  · exact hwPlain_retained length other snap

/--
The stack is given the 802.3 frame of a body in the clear, of a protected frame
that the chip decrypted, or of one that the SME's key verified; its payload is
what follows the LLC/SNAP header of that body.
-/
theorem netdev_delivers (k : Ieee80211) (alloc : RxAlloc) (dev : Dev) (frame : Bytes)
    (hwDecrypted : Bool) :
    (rxToNetdev k alloc dev frame hwDecrypted).2.stack = dev.stack ∨
      ∃ body, bridgeable body = true ∧
        (rxToNetdev k alloc dev frame hwDecrypted).2.stack =
          ((k.da frame).bytes ++ (k.sa frame).bytes ++ slice body 6 2 ++ body.drop 8) :: dev.stack ∧
        ((k.hasProtected (getLe16 frame 0) = false ∧
            body = frame.drop (k.hdrlen (getLe16 frame 0))) ∨
          (k.hasProtected (getLe16 frame 0) = true ∧ hwDecrypted = true ∧
            body = hwPlain (frame.drop (k.hdrlen (getLe16 frame 0))) ∧
            ∀ plain, HwDelivers (frame.drop (k.hdrlen (getLe16 frame 0))) plain → body = plain) ∨
          (k.hasProtected (getLe16 frame 0) = true ∧ hwDecrypted = false ∧
            dev.sme.dataKeyValid = true ∧
            (ccmpDecryptRx frame (k.hdrlen (getLe16 frame 0)) dev.sme.installedTk frame.length
              dev.sme.dataRxReplay).1 = .ok body)) := by
  obtain ⟨_, same | ⟨body, _, stack, source, bridged⟩⟩ :=
    @rxToNetdev_cases k alloc dev frame hwDecrypted
  · exact Or.inl same
  · refine Or.inr ⟨body, bridged, stack, ?_⟩
    cases source with
    | inClear bit => exact Or.inl ⟨bit, rfl⟩
    | hardware bit hw =>
      exact Or.inr (Or.inl ⟨bit, hw, rfl, fun plain delivers => delivers.hwPlain_eq⟩)
    | software _ bit hw valid verified => exact Or.inr (Or.inr ⟨bit, hw, valid, verified⟩)

/-- A data frame in the clear with an IPv4 ethertype. -/
def clearData : Bytes :=
  [0x08, 0x02, 0, 0] ++ demoStaMac.bytes ++ demoApMac.bytes ++ demoApMac.bytes ++ [0, 0] ++
    [0xaa, 0xaa, 0x03, 0, 0, 0, 0x08, 0x00, 1, 2, 3]

/-- It goes to the stack although the 4-way handshake has installed a key. -/
theorem clear_delivered :
    ¬∀ (role : SmeRole) (self : MacAddr) (pmk : Octets 32) (salt : UInt64) (config : SmeConfig)
        (s : Sme) (frame : Bytes) (hwDecrypted : Bool),
      Reach (smeStep demoEnv) (smeConfigure (smeInit role self pmk salt) config) s →
      s.dataKeyValid = true →
      (rxToNetdev demoKernel demoAlloc (demoDev s) frame hwDecrypted).2.stack ≠ [] →
      demoKernel.hasProtected (getLe16 frame 0) = true := by
  intro all
  have valid : demoApUp.dataKeyValid = true := by
    decide +kernel
  have delivered :
      (rxToNetdev demoKernel demoAlloc (demoDev demoApUp) clearData false).2.stack.length = 1 := by
    decide +kernel
  have isProtected := all .ap demoApMac demoPmk 7 .plain demoApUp clearData false (runOps_reach _ _)
    valid (fun none => by rw [none] at delivered; cases delivered)
  have clear : demoKernel.hasProtected (getLe16 clearData 0) = false := by
    decide +kernel
  rw [clear] at isProtected
  cases isProtected

end Rf2a4m1
