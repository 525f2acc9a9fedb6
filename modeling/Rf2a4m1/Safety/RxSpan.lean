import Rf2a4m1.Glue.Demo

/-!
# The span of a frame on the two reception paths

The core cuts a segment to the length in its descriptor before it delivers the
frame. The kernel glue keeps that length for the network stack only: what it
hands to the SME is as long as the padded segment.
-/

set_option autoImplicit false

namespace Rf2a4m1

open ByteString

section Glue

variable {env : Env} {k : Ieee80211} {alloc : RxAlloc} {sib : Siblings} {dev : Dev} {seg : Bytes}

/-- What the glue hands on is what the SME receives, and otherwise the SME receives nothing. -/
theorem rxProcessSeg_handedOn {r : RxSegment} (segment : rxSegment k seg = some r) :
    ∃ rp,
      (rxHandedOn k alloc dev seg = none ∧
        (rxProcessSeg env k alloc sib dev seg).1.sme = { dev.sme with dataRxReplay := rp }) ∨
      (rxHandedOn k alloc dev seg = some r.info ∧
        (rxProcessSeg env k alloc sib dev seg).1.sme =
          (smeRx env sib { dev.sme with dataRxReplay := rp }
            (slice r.buf r.info.data r.info.len)).1) := by
  obtain ⟨⟨rp, sme⟩, _⟩ := @rxToNetdev_cases k alloc dev r.frame r.hwDecrypted
  refine ⟨rp, ?_⟩
  unfold rxHandedOn rxProcessSeg
  rw [segment, Option.bind_some]
  dsimp only
  cases outcome : rxToNetdev k alloc dev r.frame r.hwDecrypted with
  | mk consumed dev' =>
    rw [outcome] at sme
    cases consumed with
    | true => exact Or.inl ⟨rfl, sme⟩
    | false =>
      dsimp only at sme ⊢
      rw [← sme]
      exact Or.inr ⟨rfl, rfl⟩

end Glue

/-- The glue hands on what the core would deliver, up to the frame check sequence. -/
def SpanAgrees (k : Ieee80211) (alloc : RxAlloc) (dev : Dev) (seg : Bytes) (u : RxUnwrapped) : Prop :=
  ∀ info, rxHandedOn k alloc dev seg = some info →
    info.data = u.payload ∧ ∃ core, mt7601uHalRxBulkIn seg = some core ∧ core.data = u.payload ∧
      core.len = min (rxwiMpduLen seg u.rxwi) u.payloadLen ∧
      (info.len = core.len ∨ info.len + 4 = core.len)

section Span

variable {k : Ieee80211} {alloc : RxAlloc} {dev : Dev} {seg : Bytes} {u : RxUnwrapped} {info : RxInfo}

theorem removeL2Pad_none {rxinfo : UInt32} (noPad : rxinfo &&& mtRxinfoL2pad = 0)
    (r : RxSegment) : removeL2Pad k rxinfo r = r := by
  unfold removeL2Pad
  rw [if_neg (by simp [noPad])]

/-- Without padding inside the frame the glue hands on the whole padded payload. -/
theorem rxHandedOn_span (unwrapped : usbRxUnwrap seg = some u)
    (parsed : parseRxwi seg u.rxwi u.payload u.payloadLen = some info)
    (noPad : rxwiRxinfo seg u.rxwi &&& mtRxinfoL2pad = 0) {handed : RxInfo}
    (on : rxHandedOn k alloc dev seg = some handed) : handed = info := by
  unfold rxHandedOn rxSegment at on
  rw [unwrapped, Option.bind_some] at on
  dsimp only at on
  rw [parsed, Option.map_some, Option.bind_some] at on
  rw [removeL2Pad_none noPad] at on
  have passed (r : RxSegment) (on : (if (rxToNetdev k alloc dev r.frame r.hwDecrypted).1 then none
      else some r.info) = some handed) : handed = r.info := by
    split at on
    · cases on
    · exact (Option.some.inj on).symm
  exact passed _ on

/-- Both paths agree exactly on frames that the stack takes and on segments without padding. -/
theorem spanAgrees_iff (unwrapped : usbRxUnwrap seg = some u)
    (parsed : parseRxwi seg u.rxwi u.payload u.payloadLen = some info)
    (noPad : rxwiRxinfo seg u.rxwi &&& mtRxinfoL2pad = 0) :
    SpanAgrees k alloc dev seg u ↔
      rxHandedOn k alloc dev seg = none ∨ u.payloadLen ≤ rxwiMpduLen seg u.rxwi := by
  obtain ⟨data, len, others⟩ := parseRxwi_span parsed
  obtain ⟨core, delivers, coreData, coreLen⟩ := others (min (rxwiMpduLen seg u.rxwi) u.payloadLen)
  have bulk : mt7601uHalRxBulkIn seg = some core := by
    unfold mt7601uHalRxBulkIn
    rw [unwrapped, Option.bind_some, delivers]
  cases on : rxHandedOn k alloc dev seg with
  | none => exact ⟨fun _ => Or.inl rfl, fun _ handed left => by rw [on] at left; cases left⟩
  | some handed =>
    obtain rfl := rxHandedOn_span unwrapped parsed noPad on
    constructor
    · intro agrees
      obtain ⟨_, core', delivers', _, coreLen', lens⟩ := agrees handed on
      right
      omega
    · rintro (none | short)
      · cases none
      · intro handed' on'
        obtain rfl := Option.some.inj (on.symm.trans on')
        exact ⟨data, core, bulk, coreData, coreLen, Or.inl (by omega)⟩

end Span

section Demo

/-- A frame that fills its payload is handed on as the core delivers it. -/
theorem spanAgrees_iff_demo :
    SpanAgrees demoKernel demoAlloc (demoDev demoStaInit) (demoSegment 36)
      { rxwi := 4, payload := 32, payloadLen := 36 } := by
  obtain ⟨info, parsed⟩ : ∃ info, parseRxwi (demoSegment 36) 4 32 36 = some info := ⟨_, rfl⟩
  exact (@spanAgrees_iff demoKernel demoAlloc (demoDev demoStaInit) (demoSegment 36)
    { rxwi := 4, payload := 32, payloadLen := 36 } info (by decide) parsed (by decide)).2
    (Or.inr (by decide))

/-- A shorter one is handed on with six octets of padding, of which four are the FCS's. -/
theorem padding_handed_on :
    ¬∀ (k : Ieee80211) (alloc : RxAlloc) (dev : Dev) (seg : Bytes) (u : RxUnwrapped) (info : RxInfo),
      usbRxUnwrap seg = some u → parseRxwi seg u.rxwi u.payload u.payloadLen = some info →
      rxwiRxinfo seg u.rxwi &&& mtRxinfoL2pad = 0 →
      rxwiRxinfo seg u.rxwi &&& mtRxinfoDecrypt = 0 → SpanAgrees k alloc dev seg u := by
  intro all
  obtain ⟨info, parsed⟩ : ∃ info, parseRxwi (demoSegment 30) 4 32 36 = some info := ⟨_, rfl⟩
  have agrees := all demoKernel demoAlloc (demoDev demoStaInit) (demoSegment 30)
    { rxwi := 4, payload := 32, payloadLen := 36 } info (by decide) parsed (by decide) (by decide)
  have handed : (rxHandedOn demoKernel demoAlloc (demoDev demoStaInit) (demoSegment 30)).map
      RxInfo.len = some 36 := by
    decide +kernel
  obtain ⟨on, handedOn, len⟩ := Option.map_eq_some_iff.1 handed
  obtain ⟨_, core, delivers, _, coreLen, lens⟩ := agrees on handedOn
  have thirty : rxwiMpduLen (demoSegment 30) 4 = 30 := by decide
  dsimp only at coreLen
  omega

end Demo

end Rf2a4m1
