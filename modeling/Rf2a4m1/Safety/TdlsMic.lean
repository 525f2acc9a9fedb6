import Rf2a4m1.Crypto.Cmac
import Rf2a4m1.Safety.TdlsLink

/-!
# What the MIC of a direct link frame covers

A receiver computes the MIC over an FTIE that it builds again from the fields
it has read. That is the FTIE that came in exactly when it has no octets behind
its fields and no bit set in its control octets.
-/

set_option autoImplicit false

namespace Rf2a4m1

open ByteString

/-- The messages that come under a MIC. -/
inductive TdlsMsg where
  | setupResp
  | setupConfirm
  | teardown

def TdlsMsg.transSeq : TdlsMsg → UInt8
  | setupResp => 2
  | setupConfirm => 3
  | teardown => 4

/-- The octets before the elements. -/
def TdlsMsg.fixed : TdlsMsg → Nat
  | setupResp => 8
  | setupConfirm => 6
  | teardown => 5

/-- A message and the end it came in at. -/
structure TdlsFrame where
  msg : TdlsMsg
  peer : TdlsPeer
  inp : Bytes

namespace TdlsFrame

variable (x : TdlsFrame)

def elements : Bytes := x.inp.drop x.msg.fixed

/-- The FTIE as it came in. -/
def ftie : Bytes := x.elements.take (2 + (byteAt x.elements 1).toNat)

def behind : Bytes := x.elements.drop (2 + (byteAt x.elements 1).toNat)

/-- A teardown brings no timeout interval; its receiver takes its own. -/
def tie : Bytes :=
  match x.msg with
  | .teardown => tdlsTieOf x.peer.keyLifetime
  | _ => x.behind.take 7

def lid : Bytes :=
  match x.msg with
  | .teardown => x.behind.take 20
  | _ => slice x.behind 7 20

def mic : Bytes := slice x.ftie 4 16

def besideMic : Bytes := x.ftie.take 4 ++ x.ftie.drop 20

def micInput (ftie : Bytes) : Bytes :=
  (x.peer.lid.initAddr.bytes ++ x.peer.lid.respAddr.bytes ++ [x.msg.transSeq] ++ x.lid ++ x.tie) ++
    ftie

/-- The FTIE that came in, with its MIC cleared. -/
def received : Bytes := x.micInput (splice x.ftie 4 (List.replicate 16 0))

/-- The FTIE of the nonces that came in, with its MIC cleared. -/
def rebuilt : Bytes :=
  x.micInput ([55, 82, 0, 0] ++ (List.replicate 16 0 ++ slice x.ftie 20 64))

/-- The message was taken, and the TPK is the one it was checked under. -/
def Accepted (tpk : Octets 32) : Prop :=
  match x.msg with
  | .setupResp => ∃ cap, (tdlsOnSetupResp x.peer x.inp cap).2.isSome = true ∧
      (tdlsOnSetupResp x.peer x.inp cap).1.tpk = tpk
  | .setupConfirm => (tdlsOnSetupConfirm x.peer x.inp).2 = true ∧ x.peer.tpk = tpk
  | .teardown => (tdlsOnTeardown x.peer x.inp).2 = true ∧ x.peer.haveTpk = true ∧ x.peer.tpk = tpk

/-- The MIC that came in is the one over the FTIE that came in. -/
def Covered (tpk : Octets 32) : Prop := x.mic = (aes128Cmac (tpkKck tpk) x.received).bytes

/-- An FTIE of 82 octets without a control bit set. -/
def Plain : Prop := x.ftie.take 4 = [55, 82, 0, 0]

/-- What is known of a message that was taken. -/
structure Verified (tpk : Octets 32) : Prop where
  raw : ∃ n body, x.ftie = 55 :: n :: body ∧ body.length = n.toNat ∧ 82 ≤ body.length
  lid : x.lid.length = 20
  tie : x.tie.length = 7
  mic : x.mic = (aes128Cmac (tpkKck tpk) x.rebuilt).bytes

variable {x} {y : TdlsFrame} {tpk : Octets 32}

theorem ftie_of_raw {f : TdlsFtie} {n : UInt8} {body behind : Bytes}
    (raw : TdlsFtieRaw x.elements f n body behind) : x.ftie = 55 :: n :: body := by
  have length : byteAt x.elements 1 = n := by
    rw [raw.octets]
    rfl
  have octets : x.elements = (55 :: n :: body) ++ behind := raw.octets
  unfold ftie
  rw [length, octets]
  apply List.take_left'
  rw [List.length_cons, List.length_cons, raw.size]
  omega

theorem verified_of_raw {f : TdlsFtie} {n : UInt8} {body behind : Bytes} {l : TdlsLinkId}
    {keyLifetime : UInt32} (raw : TdlsFtieRaw x.elements f n body behind)
    (lid : x.lid = tdlsLinkIdOf l) (tie : x.tie = tdlsTieOf keyLifetime)
    (checked : tdlsFrameMic tpk x.peer f l keyLifetime x.msg.transSeq = f.mic) :
    x.Verified tpk := by
  have ftie := ftie_of_raw raw
  have fixed := raw.fixed
  have cut (off k : Nat) (inside : off + k ≤ 82) :
      (Octets.of k (slice body off k)).bytes = slice body off k := by
    apply Octets.of_bytes_of_length
    rw [slice_length]
    omega
  refine ⟨⟨n, body, ftie, raw.size, fixed⟩, ?_, ?_, ?_⟩
  · rw [lid, tdlsLinkIdOf_length]
  · rw [tie, tdlsTieOf_length]
  · have nonces : slice x.ftie 20 64 = f.anonce.bytes ++ f.snonce.bytes := by
      rw [raw.fields, tdlsFtieCut, cut 18 32 (by decide), cut 50 32 (by decide), ftie]
      exact slice_add body 18 32 32
    have mic : x.mic = f.mic.bytes := by
      rw [raw.fields, tdlsFtieCut, cut 2 16 (by decide), TdlsFrame.mic, ftie]
      rfl
    have input : x.rebuilt = tdlsMicInput x.peer f l keyLifetime x.msg.transSeq := by
      unfold rebuilt micInput tdlsMicInput tdlsFtieOf
      rw [nonces, lid, tie]
      rfl
    rw [mic, ← checked, tdlsFrameMic_eq, input]

/-- A message of the handshake has the other two elements right behind its FTIE. -/
theorem verified_of_handshake {f : TdlsFtie} {n : UInt8} {body rest : Bytes} {l : TdlsLinkId}
    {keyLifetime : UInt32}
    (raw : TdlsFtieRaw x.elements f n body (tdlsTieOf keyLifetime ++ (tdlsLinkIdOf l ++ rest)))
    (tie : x.tie = x.behind.take 7) (lid : x.lid = slice x.behind 7 20)
    (checked : tdlsFrameMic tpk x.peer f l keyLifetime x.msg.transSeq = f.mic) :
    x.Verified tpk := by
  have behind : x.behind = tdlsTieOf keyLifetime ++ (tdlsLinkIdOf l ++ rest) := raw.past
  have named : x.lid = tdlsLinkIdOf l := by
    rw [lid, behind, slice_append_right (Nat.le_of_eq (tdlsTieOf_length _)), tdlsTieOf_length]
    exact slice_append_left (tdlsLinkIdOf_length l)
  have timed : x.tie = tdlsTieOf keyLifetime := by
    rw [tie, behind]
    exact List.take_left' (tdlsTieOf_length keyLifetime)
  exact verified_of_raw raw named timed checked

/-- A message was taken after its MIC was found to be the one over the FTIE built again. -/
theorem verified (accepted : x.Accepted tpk) : x.Verified tpk := by
  obtain ⟨msg, p, inp⟩ := x
  cases msg with
  | setupResp =>
    obtain ⟨cap, taken, key⟩ := accepted
    dsimp only at taken key
    by_cases passes : ∃ resp, SetupRespPasses p inp resp
    · obtain ⟨resp, passes⟩ := passes
      have derived : p.key p.snonce resp.ftie.anonce = tpk := by
        rw [← key, tdlsOnSetupResp_passes passes cap]
        split
        · rfl
        · rfl
      have elements := tdlsSetupRespParse_elements passes.parsed
      obtain ⟨n, body, rest, raw⟩ := tdlsElements_found elements
      rw [← derived]
      exact verified_of_handshake raw rfl rfl passes.mic
    · rw [tdlsOnSetupResp_refused passes] at taken
      cases taken
  | setupConfirm =>
    obtain ⟨taken, key⟩ := accepted
    dsimp only at taken key
    by_cases passes : ∃ conf, SetupConfirmPasses p inp conf
    · obtain ⟨conf, passes⟩ := passes
      have elements := tdlsSetupConfirmParse_elements passes.parsed
      obtain ⟨n, body, rest, raw⟩ := tdlsElements_found elements
      rw [← key]
      exact verified_of_handshake raw rfl rfl passes.mic
    · rw [tdlsOnSetupConfirm_refused passes] at taken
      cases taken
  | teardown =>
    obtain ⟨taken, keyed, key⟩ := accepted
    dsimp only at taken keyed key
    by_cases passes : ∃ td, TeardownPasses p inp td
    · obtain ⟨td, passes⟩ := passes
      obtain ⟨f, bears, mic⟩ := passes.bears keyed
      obtain ⟨n, body, rest, raw⟩ := tdlsTeardownParse_elements passes.parsed bears
      have behind : (TdlsFrame.mk .teardown p inp).behind = tdlsLinkIdOf td.lid ++ rest := raw.past
      have lid : (TdlsFrame.mk .teardown p inp).lid = tdlsLinkIdOf td.lid := by
        unfold TdlsFrame.lid
        dsimp only
        rw [behind]
        exact List.take_left' (tdlsLinkIdOf_length td.lid)
      rw [← key]
      exact verified_of_raw raw lid rfl mic
    · rw [tdlsOnTeardown_refused passes] at taken
      cases taken

theorem Verified.head (verified : x.Verified tpk) : (x.ftie.take 4).length = 4 := by
  obtain ⟨n, body, ftie, size, fixed⟩ := verified.raw
  rw [List.length_take, ftie, List.length_cons, List.length_cons]
  omega

theorem received_eq (x : TdlsFrame) :
    x.received = x.micInput (x.ftie.take 4 ++ (List.replicate 16 0 ++ x.ftie.drop 20)) := by
  rw [received, splice, List.length_replicate, List.append_assoc]

theorem received_eq_rebuilt (verified : x.Verified tpk) : x.received = x.rebuilt ↔ x.Plain := by
  obtain ⟨n, body, ftie, size, fixed⟩ := verified.raw
  rw [received_eq]
  unfold rebuilt micInput
  constructor
  · intro same
    have elements := List.append_cancel_left same
    exact (List.append_inj elements (by rw [verified.head]; rfl)).1
  · intro plain
    have length : n = 82 := by
      have second := congrArg (byteAt · 1) plain
      rw [ftie] at second
      exact second
    have whole : (x.ftie.drop 20).length = 64 := by
      rw [List.length_drop, ftie, List.length_cons, List.length_cons, size, length]
      rfl
    rw [plain, slice, List.take_of_length_le (Nat.le_of_eq whole)]

/-- What is put under a MIC tells the FTIE in it. -/
theorem besideMic_eq (left : x.Verified tpk) (right : y.Verified tpk)
    (same : x.received = y.received) : x.besideMic = y.besideMic := by
  rw [received_eq, received_eq] at same
  have before : (x.peer.lid.initAddr.bytes ++ x.peer.lid.respAddr.bytes ++ [x.msg.transSeq] ++
      x.lid ++ x.tie).length = (y.peer.lid.initAddr.bytes ++ y.peer.lid.respAddr.bytes ++
        [y.msg.transSeq] ++ y.lid ++ y.tie).length := by
    simp only [List.length_append, Octets.length_bytes, left.lid, left.tie, right.lid, right.tie]
    rfl
  obtain ⟨_, elements⟩ := List.append_inj same before
  obtain ⟨front, tail⟩ := List.append_inj elements (by rw [left.head, right.head])
  unfold besideMic
  rw [front, List.append_cancel_left tail]

end TdlsFrame

open TdlsFrame in
/-- Two messages taken under one TPK, of which the MICs are told apart: what came in is covered, and
one MIC goes with one FTIE, exactly when both FTIEs are plain. -/
theorem tdls_mic_covers_iff (tpk : Octets 32) (x y : TdlsFrame) (left : x.Accepted tpk)
    (right : y.Accepted tpk)
    (apart : Set.InjOn (aes128Cmac (tpkKck tpk)) {x.received, x.rebuilt, y.received, y.rebuilt}) :
    (x.Covered tpk ∧ y.Covered tpk ∧ (x.mic = y.mic → x.besideMic = y.besideMic)) ↔
      x.Plain ∧ y.Plain := by
  have left := verified left
  have right := verified right
  constructor
  · rintro ⟨coveredX, coveredY, -⟩
    constructor
    · apply (received_eq_rebuilt left).1
      apply apart (by simp) (by simp)
      exact Octets.ext (coveredX.symm.trans left.mic)
    · apply (received_eq_rebuilt right).1
      apply apart (by simp) (by simp)
      exact Octets.ext (coveredY.symm.trans right.mic)
  · rintro ⟨plainX, plainY⟩
    have coveredX : x.Covered tpk := by
      rw [Covered, (received_eq_rebuilt left).2 plainX]
      exact left.mic
    have coveredY : y.Covered tpk := by
      rw [Covered, (received_eq_rebuilt right).2 plainY]
      exact right.mic
    refine ⟨coveredX, coveredY, ?_⟩
    intro same
    apply besideMic_eq left right
    apply apart (by simp) (by simp)
    exact Octets.ext (coveredX.symm.trans (same.trans coveredY))

section Control

variable {p : TdlsPeer}

/-- The confirmation of a keyed initiator, with two octets in the control field of its FTIE. -/
def TdlsPeer.confirmWith (p : TdlsPeer) (c d : UInt8) : Bytes :=
  tdlsEncHdr 2 ++ putLe16 0 ++ [p.dialogToken] ++
    (55 :: 82 :: (([c, d] ++ (p.confirm.ftie.mic.bytes ++ (p.anonce.bytes ++ p.snonce.bytes))) ++
      (tdlsTieOf p.keyLifetime ++ (tdlsLinkIdOf p.lid ++ []))))

/-- The control field is not read. -/
theorem tdlsSetupConfirmParse_confirmWith (c d : UInt8) :
    tdlsSetupConfirmParse (p.confirmWith c d) = some p.confirm := by
  have size := tdlsFtieFields_length c d p.confirm.ftie
  have elements := @tdlsElements_raw [] _ 82 size (Nat.le_of_eq size.symm)
    p.keyLifetime p.lid
  rw [tdlsFtieCut_fields] at elements
  exact tdlsSetupConfirmParse_of p.confirm elements

/-- A responder that can be confirmed, and the confirmation with an octet in the control field. -/
def demoResponder : TdlsPeer := { TdlsPeer.empty with state := .setup, haveTpk := true }

def demoConfirm (d : UInt8) : TdlsFrame :=
  { msg := .setupConfirm, peer := demoResponder, inp := demoResponder.confirmWith 0 d }

theorem demoConfirm_accepted (d : UInt8) : (demoConfirm d).Accepted (Octets.zero 32) := by
  have parsed := tdlsSetupConfirmParse_confirmWith (p := demoResponder) 0 d
  have passes := confirm_passes (q := demoResponder) rfl rfl rfl rfl rfl parsed
  exact ⟨congrArg Prod.snd (tdlsOnSetupConfirm_passes passes), rfl⟩

theorem demoConfirm_raw (d : UInt8) :
    TdlsFtieRaw (demoConfirm d).elements demoResponder.confirm.ftie 82
      ([0, d] ++ (demoResponder.confirm.ftie.mic.bytes ++
        (demoResponder.anonce.bytes ++ demoResponder.snonce.bytes)))
      (tdlsTieOf 0 ++ (tdlsLinkIdOf TdlsLinkId.empty ++ [])) where
  octets := rfl
  size := tdlsFtieFields_length 0 d demoResponder.confirm.ftie
  fixed := Nat.le_of_eq (tdlsFtieFields_length 0 d demoResponder.confirm.ftie).symm
  fields := (tdlsFtieCut_fields 0 d demoResponder.confirm.ftie).symm

theorem demoConfirm_ftie (d : UInt8) :
    (demoConfirm d).ftie =
      [55, 82, 0, d] ++ (demoResponder.confirm.ftie.mic.bytes ++
        (demoResponder.anonce.bytes ++ demoResponder.snonce.bytes)) :=
  TdlsFrame.ftie_of_raw (demoConfirm_raw d)

/-- What the MIC of the confirmation would be over, were it over the FTIE that came in. -/
def demoInput (d : UInt8) : Bytes :=
  List.replicate 12 0 ++ [3] ++ tdlsLinkIdOf TdlsLinkId.empty ++ tdlsTieOf 0 ++
    ([55, 82, 0, d] ++ (List.replicate 16 0 ++
      (demoResponder.anonce.bytes ++ demoResponder.snonce.bytes)))

theorem demoConfirm_micInput (d : UInt8) (ftie : Bytes) :
    (demoConfirm d).micInput ftie = List.replicate 12 0 ++ [3] ++ tdlsLinkIdOf TdlsLinkId.empty ++
      tdlsTieOf 0 ++ ftie := by
  have behind : (demoConfirm d).behind = tdlsTieOf 0 ++ (tdlsLinkIdOf TdlsLinkId.empty ++ []) :=
    (demoConfirm_raw d).past
  have lid : (demoConfirm d).lid = slice (demoConfirm d).behind 7 20 := rfl
  have tie : (demoConfirm d).tie = (demoConfirm d).behind.take 7 := rfl
  unfold TdlsFrame.micInput
  rw [lid, tie, behind]
  rfl

theorem demoConfirm_nonces (d : UInt8) :
    (demoConfirm d).ftie.drop 20 = demoResponder.anonce.bytes ++ demoResponder.snonce.bytes := by
  have front : ([55, 82, 0, d] : Bytes).length = 4 := rfl
  rw [demoConfirm_ftie]
  calc _ = (([55, 82, 0, d] ++ (demoResponder.confirm.ftie.mic.bytes ++
        (demoResponder.anonce.bytes ++ demoResponder.snonce.bytes))).drop 4).drop 16 := by
        rw [List.drop_drop]
    _ = _ := by
        rw [List.drop_left' front, List.drop_left' demoResponder.confirm.ftie.mic.length_bytes]

theorem demoConfirm_received (d : UInt8) : (demoConfirm d).received = demoInput d := by
  rw [TdlsFrame.received_eq, demoConfirm_nonces, demoConfirm_ftie, demoConfirm_micInput]
  rfl

theorem demoConfirm_rebuilt (d : UInt8) : (demoConfirm d).rebuilt = demoInput 0 := by
  have nonces : slice (demoConfirm d).ftie 20 64 =
      demoResponder.anonce.bytes ++ demoResponder.snonce.bytes := by
    rw [slice, demoConfirm_nonces]
    rfl
  rw [TdlsFrame.rebuilt, nonces, demoConfirm_micInput]
  rfl

theorem aes128_injective (key : Octets 16) :
    Function.Injective (aes128EncryptBlock (aes128Init key)) := by
  intro b c same
  have undone := congrArg (aes128DecryptBlock (aes128Init key)) same
  rwa [aes128Decrypt_encrypt (aes128Init_length key), aes128Decrypt_encrypt (aes128Init_length key)]
    at undone

/-- A bit in the control field is in one block of the input only. -/
theorem demoInput_apart (key : Octets 16) :
    aes128Cmac key (demoInput 0) ≠ aes128Cmac key (demoInput 1) := by
  intro same
  rw [aes128Cmac_mac, aes128Cmac_mac] at same
  have split (d : UInt8) : demoInput d = (demoInput 0).take 32 ++
      ((Octets.of 16 (slice (demoInput d) 32 16)).bytes ++ (demoInput 0).drop 48) := rfl
  rw [split 0, split 1] at same
  have met := Cmac.mac_block (aes128_injective key) (by decide) (by decide) same
  exact absurd met (by decide)

theorem demoConfirm_apart : Set.InjOn (aes128Cmac (tpkKck (Octets.zero 32)))
    {(demoConfirm 0).received, (demoConfirm 0).rebuilt, (demoConfirm 1).received,
      (demoConfirm 1).rebuilt} := by
  have apart := demoInput_apart (tpkKck (Octets.zero 32))
  rw [demoConfirm_received, demoConfirm_received, demoConfirm_rebuilt, demoConfirm_rebuilt]
  simp only [Set.mem_insert_iff, Set.mem_singleton_iff, Set.insert_eq_of_mem, or_true]
  rw [Set.injOn_pair]
  intro same
  exact absurd same.symm apart

/-- A confirmation with and without a bit in the control field. -/
theorem tdls_mic_covers_iff_confirm :
    ((demoConfirm 0).Covered (Octets.zero 32) ∧ (demoConfirm 1).Covered (Octets.zero 32) ∧
      ((demoConfirm 0).mic = (demoConfirm 1).mic →
        (demoConfirm 0).besideMic = (demoConfirm 1).besideMic)) ↔
      (demoConfirm 0).Plain ∧ (demoConfirm 1).Plain :=
  tdls_mic_covers_iff _ _ _ (demoConfirm_accepted 0) (demoConfirm_accepted 1) demoConfirm_apart

theorem demoConfirm_mic (d : UInt8) :
    (demoConfirm d).mic = demoResponder.confirm.ftie.mic.bytes := by
  have front : ([55, 82, 0, d] : Bytes).length = 4 := rfl
  rw [TdlsFrame.mic, demoConfirm_ftie, slice_append_right (Nat.le_of_eq front), front]
  exact slice_append_left (Octets.length_bytes _)

theorem demoConfirm_besideMic (d : UInt8) : byteAt (demoConfirm d).besideMic 3 = d := by
  rw [TdlsFrame.besideMic, demoConfirm_ftie]
  rfl

/-- One MIC goes with both of them, though no two of the inputs meet in one code. -/
theorem tdls_mic_uncovered :
    ¬∀ (tpk : Octets 32) (x y : TdlsFrame), x.Accepted tpk → y.Accepted tpk →
      Set.InjOn (aes128Cmac (tpkKck tpk)) {x.received, x.rebuilt, y.received, y.rebuilt} →
        x.Covered tpk ∧ y.Covered tpk ∧ (x.mic = y.mic → x.besideMic = y.besideMic) := by
  intro covers
  obtain ⟨-, -, one⟩ := covers _ _ _ (demoConfirm_accepted 0) (demoConfirm_accepted 1)
    demoConfirm_apart
  have same := one (by rw [demoConfirm_mic, demoConfirm_mic])
  have octet := congrArg (fun beside => byteAt beside 3) same
  rw [demoConfirm_besideMic, demoConfirm_besideMic] at octet
  cases octet

end Control

end Rf2a4m1
