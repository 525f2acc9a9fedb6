import Rf2a4m1.Glue.Demo

/-!
# Aggregated receive transfers

The chip packs segments into one bulk-in transfer. Completion of the transfer
walks them by their length words, and the worker unwraps each on its own.
-/

set_option autoImplicit false

namespace Rf2a4m1

open ByteString

section Walk

/-- Offset and length of each segment that the walk over the first `actual` octets queues. -/
def rxSpans (buf : Bytes) (actual off : Nat) : List (Nat × Nat) :=
  if off + mtDmaHdrs ≤ actual then
    let dlen := (getLe16 buf off).toNat
    let slen := mtDmaHdrs + dlen
    if dlen = 0 ∨ dlen % 4 ≠ 0 ∨ off + slen > actual then []
    else (off, slen) :: rxSpans buf actual (off + slen)
  else []
termination_by actual - off
decreasing_by simp only [mtDmaHdrs] at *; omega

/-- Spans one after the other, without overlap, from `off` to at most `actual`. -/
structure Laid (actual off : Nat) (spans : List (Nat × Nat)) : Prop where
  ordered : spans.Pairwise fun a b => a.1 + a.2 ≤ b.1
  inside : ∀ a ∈ spans, off ≤ a.1 ∧ mtDmaHdrs < a.2 ∧ a.1 + a.2 ≤ actual

variable {buf data : Bytes} {actual off fuel : Nat}

theorem rxSpans_laid (buf : Bytes) (actual off : Nat) :
    Laid actual off (rxSpans buf actual off) := by
  induction off using rxSpans.induct buf actual with
  | case1 off room dlen slen stop =>
    rw [rxSpans, if_pos room, if_pos stop]
    exact ⟨List.Pairwise.nil, fun _ mem => by cases mem⟩
  | case2 off room dlen slen goes ih =>
    rw [rxSpans, if_pos room, if_neg goes]
    have positive : mtDmaHdrs < slen := by
      have : dlen ≠ 0 := fun zero => goes (Or.inl zero)
      omega
    have fits : off + slen ≤ actual := by omega
    constructor
    · rw [List.pairwise_cons]
      exact ⟨fun b mem => (ih.inside b mem).1, ih.ordered⟩
    · intro a mem
      rcases List.mem_cons.1 mem with rfl | later
      · exact ⟨Nat.le_refl _, positive, fits⟩
      · obtain ⟨after, long, ends⟩ := ih.inside a later
        exact ⟨by omega, long, ends⟩
  | case3 off noRoom =>
    rw [rxSpans, if_neg noRoom]
    exact ⟨List.Pairwise.nil, fun _ mem => by cases mem⟩

theorem getLe16_take (room : off + 2 ≤ actual) :
    getLe16 ((buf.take actual).drop off) 0 = getLe16 buf off := by
  unfold getLe16 slice
  rw [List.drop_zero, List.drop_take, List.take_take]
  congr 3
  omega

theorem slice_take {len : Nat} (room : off + len ≤ actual) :
    ((buf.take actual).drop off).take len = slice buf off len := by
  unfold slice
  rw [List.drop_take, List.take_take, Nat.min_eq_left (by omega)]

/-- With as much fuel as there are octets the walk goes to its own end. -/
theorem rxSegments_spans (held : actual ≤ buf.length) :
    ∀ fuel off, actual - off ≤ fuel →
      rxSegments fuel ((buf.take actual).drop off) =
        (rxSpans buf actual off).map fun a => slice buf a.1 a.2 := by
  intro fuel
  induction fuel with
  | zero =>
    intro off short
    rw [rxSpans, if_neg (by simp only [mtDmaHdrs]; omega)]
    rfl
  | succ fuel ih =>
    intro off short
    have length : ((buf.take actual).drop off).length = actual - off := by
      rw [List.length_drop, List.length_take, Nat.min_eq_left held]
    unfold rxSegments
    rw [rxSpans, length]
    by_cases room : off + mtDmaHdrs ≤ actual
    · rw [if_pos room, if_neg (by omega)]
      dsimp only
      rw [getLe16_take (by simp only [mtDmaHdrs] at room; omega)]
      by_cases stop : (getLe16 buf off).toNat = 0 ∨ (getLe16 buf off).toNat % 4 ≠ 0 ∨
          off + (mtDmaHdrs + (getLe16 buf off).toNat) > actual
      · rw [if_pos stop, if_pos (by omega)]
        rfl
      · rw [if_neg stop, if_neg (by omega), List.map_cons, slice_take (by omega), List.drop_drop]
        rw [ih _ (by simp only [mtDmaHdrs]; omega)]
    · rw [if_neg room, if_pos (by simp only [mtDmaHdrs] at room ⊢; omega)]
      rfl

end Walk

section Wrap

variable {cap : Nat} {rxwi payload seg rest : Bytes}

theorem roundUp4_spec (x : Nat) : x ≤ roundUp4 x ∧ roundUp4 x < x + 4 ∧ roundUp4 x % 4 = 0 := by
  unfold roundUp4
  omega

/-- The low half of the segment's first word is its length, whatever follows the segment. -/
theorem getLe16_rxd {d : Nat} (fits : d ≤ mtRxdInfoLenMask) (rest : Bytes) :
    (getLe16 (putLe32 (UInt32.ofNat (mtRxdPktInfo80211 + d % (mtRxdInfoLenMask + 1))) ++ rest)
      0).toNat = d := by
  unfold mtRxdInfoLenMask at fits ⊢
  rw [Nat.mod_eq_of_lt (by omega)]
  have word : (UInt32.ofNat (mtRxdPktInfo80211 + d)).toNat = mtRxdPktInfo80211 + d := by
    rw [UInt32.toNat_ofNat']
    exact Nat.mod_eq_of_lt (by unfold mtRxdPktInfo80211; omega)
  have low : slice (putLe32 (UInt32.ofNat (mtRxdPktInfo80211 + d)) ++ rest) 0 2 =
      le 2 (mtRxdPktInfo80211 + d) := by
    rw [putLe32, word, le_append 2 2, List.append_assoc]
    exact slice_append_left (le_length 2 _)
  rw [getLe16, low, ofLe_le, UInt16.toNat_ofNat']
  simp only [mtRxdPktInfo80211, Nat.reducePow]
  omega

/-- What a successful wrap says about the segment. -/
theorem usbRxWrap_some (built : usbRxWrap cap rxwi payload = some seg) :
    ∃ d, d = roundUp4 (rxwi.length + payload.length) ∧ d ≤ mtRxdInfoLenMask ∧
      seg.length = mtDmaHdrs + d ∧ (∀ rest, (getLe16 (seg ++ rest) 0).toNat = d) ∧
      seg.drop mtDmaHdrLen = rxwi ++ (payload ++
        List.replicate (d - (rxwi.length + payload.length) + mtDmaFceLen) 0) := by
  unfold usbRxWrap at built
  dsimp only at built
  split at built
  · cases built
  rename_i fits
  split at built
  · cases built
  obtain rfl := Option.some.inj built
  obtain ⟨le, _, _⟩ := roundUp4_spec (rxwi.length + payload.length)
  refine ⟨_, rfl, Nat.le_of_not_lt fits, ?_, ?_, ?_⟩
  · simp only [List.length_append, putLe32_length, List.length_replicate, mtDmaHdrs, mtDmaFceLen]
    omega
  · intro rest
    simp only [List.append_assoc]
    exact getLe16_rxd (Nat.le_of_not_lt fits) _
  · simp only [List.append_assoc]
    exact List.drop_left' (putLe32_length _)

/-- A wrapped segment unwraps to its descriptor and its payload, padded to four octets. -/
theorem usbRxUnwrap_wrap (descriptor : rxwi.length = mt7601uRxwiSize) (long : 10 ≤ payload.length)
    (built : usbRxWrap cap rxwi payload = some seg) :
    ∃ u pad, usbRxUnwrap seg = some u ∧ slice seg u.rxwi mt7601uRxwiSize = rxwi ∧ pad < 4 ∧
      slice seg u.payload u.payloadLen = payload ++ List.replicate pad 0 := by
  obtain ⟨d, rounded, _, length, word, fields⟩ := usbRxWrap_some built
  obtain ⟨le, lt, aligned⟩ := roundUp4_spec (rxwi.length + payload.length)
  rw [← rounded] at le lt aligned
  have floor : 40 ≤ d := by
    unfold mt7601uRxwiSize at descriptor
    omega
  refine ⟨{ rxwi := mtDmaHdrLen, payload := mtDmaHdrLen + mt7601uRxwiSize,
            payloadLen := d - mt7601uRxwiSize }, d - (rxwi.length + payload.length), ?_, ?_,
    by omega, ?_⟩
  · have dmaLen : (getLe16 seg 0).toNat = d := by
      simpa using word []
    unfold usbRxUnwrap
    dsimp only
    rw [if_neg (by rw [length]; simp only [mtDmaHdrs, mt7601uRxwiSize, mtDmaFceLen]; omega), dmaLen,
      if_neg (by rw [length]; simp only [mtDmaHdrs, mt7601uRxwiSize, mtDmaFceLen]; omega)]
  · unfold slice
    dsimp only
    rw [fields]
    exact List.take_left' descriptor
  · unfold slice
    dsimp only
    rw [← List.drop_drop, fields, List.drop_left' descriptor, Nat.add_comm _ mtDmaFceLen,
      Nat.add_comm mtDmaFceLen, List.replicate_add, ← List.append_assoc]
    apply List.take_left'
    rw [List.length_append, List.length_replicate]
    omega

end Wrap

/-- A segment as the wrapper builds it from a descriptor and a frame. -/
structure RxBuilt where
  cap : Nat
  rxwi : Octets mt7601uRxwiSize
  payload : Bytes
  seg : Bytes
  long : 10 ≤ payload.length
  built : usbRxWrap cap rxwi.bytes payload = some seg

/-- The transfer in which the segments follow each other. -/
def rxAggregate (parts : List RxBuilt) : Bytes := (parts.map RxBuilt.seg).flatten

section Aggregate

variable {parts : List RxBuilt}

theorem RxBuilt.seg_length (p : RxBuilt) : 48 ≤ p.seg.length := by
  obtain ⟨d, rounded, _, length, _⟩ := usbRxWrap_some p.built
  obtain ⟨le, _, aligned⟩ := roundUp4_spec (p.rxwi.bytes.length + p.payload.length)
  have long := p.long
  rw [← rounded] at le aligned
  rw [Octets.length_bytes] at le
  simp only [mtDmaHdrs, mt7601uRxwiSize] at length le
  omega

/-- The walk takes one wrapped segment off the front of what is left of the transfer. -/
theorem rxSegments_built (p : RxBuilt) (fuel : Nat) (rest : Bytes) :
    rxSegments (fuel + 1) (p.seg ++ rest) = p.seg :: rxSegments fuel rest := by
  obtain ⟨d, rounded, _, length, word, _⟩ := usbRxWrap_some p.built
  obtain ⟨le, _, aligned⟩ := roundUp4_spec (p.rxwi.bytes.length + p.payload.length)
  have whole : mtDmaHdrs + d = p.seg.length := length.symm
  have long := p.long
  rw [rxSegments, if_neg (by rw [List.length_append]; omega)]
  dsimp only
  rw [word rest, whole, List.take_left, List.drop_left, if_neg]
  rw [List.length_append]
  omega

theorem rxSegments_aggregate (parts : List RxBuilt) :
    ∀ fuel, parts.length < fuel → rxSegments fuel (rxAggregate parts) = parts.map RxBuilt.seg := by
  induction parts with
  | nil =>
    intro fuel enough
    obtain ⟨fuel, rfl⟩ := Nat.exists_eq_succ_of_ne_zero (Nat.ne_of_gt enough)
    rfl
  | cons p parts ih =>
    intro fuel enough
    obtain ⟨fuel, rfl⟩ := Nat.exists_eq_succ_of_ne_zero (Nat.ne_of_gt (Nat.zero_lt_of_lt enough))
    have step : rxAggregate (p :: parts) = p.seg ++ rxAggregate parts := List.flatten_cons
    rw [step, rxSegments_built, ih fuel (Nat.lt_of_succ_lt_succ enough), List.map_cons]

theorem rxAggregate_length (parts : List RxBuilt) :
    48 * parts.length ≤ (rxAggregate parts).length := by
  induction parts with
  | nil => exact Nat.le_refl 0
  | cons p parts ih =>
    have step : rxAggregate (p :: parts) = p.seg ++ rxAggregate parts := List.flatten_cons
    have long := p.seg_length
    rw [step, List.length_append, List.length_cons]
    omega

variable {d : GlueDev} {mem : Bytes → Bool} {again : Bool} {i : Nat}

@[simp] theorem rxResubmit_rxQueue (d : GlueDev) : (d.rxResubmit again i).rxQueue = d.rxQueue := by
  unfold GlueDev.rxResubmit
  split <;> rfl

/-- What a transfer adds to the queue is what the walk over its octets finds. -/
theorem rxComplete_queue {buf : Bytes} {actual : Nat} (held : actual ≤ buf.length) :
    (d.rxComplete mem again i (.ok (buf.take actual))).rxQueue =
      d.rxQueue ++ if actual < 40 then [] else
        ((rxSpans buf actual 0).map fun a => slice buf a.1 a.2).filter mem := by
  have length : (buf.take actual).length = actual := by
    rw [List.length_take, Nat.min_eq_left held]
  unfold GlueDev.rxComplete GlueDev.rxQueueSegments
  dsimp only
  rw [rxResubmit_rxQueue, length]
  by_cases short : actual < 40
  · rw [if_pos short, if_pos short, List.append_nil]
  · have walk := rxSegments_spans held actual 0 (Nat.le_refl _)
    rw [List.drop_zero] at walk
    rw [if_neg short, if_neg short]
    dsimp only
    rw [walk]

/-- A transfer of wrapped segments queues exactly them, in order, and each unwraps to what it
was built from. On any octets the walk ends, and what it queues is laid out one span after the
other inside the transfer. -/
theorem aggregate_walk :
    (∀ (d : GlueDev) (again : Bool) (i : Nat) (parts : List RxBuilt),
      (d.rxComplete (fun _ => true) again i (.ok (rxAggregate parts))).rxQueue =
        d.rxQueue ++ parts.map RxBuilt.seg ∧
      ∀ p ∈ parts, ∃ u pad, usbRxUnwrap p.seg = some u ∧
        slice p.seg u.rxwi mt7601uRxwiSize = p.rxwi.bytes ∧ pad < 4 ∧
        slice p.seg u.payload u.payloadLen = p.payload ++ List.replicate pad 0) ∧
    ∀ (d : GlueDev) (mem : Bytes → Bool) (again : Bool) (i : Nat) (buf : Bytes)
      (actual : Fin (buf.length + 1)), ∃ spans,
        (d.rxComplete mem again i (.ok (buf.take actual))).rxQueue =
          d.rxQueue ++ (spans.map fun a => slice buf a.1 a.2).filter mem ∧
        Laid actual 0 spans ∧
        spans = if actual.1 < 40 then [] else rxSpans buf actual 0 := by
  refine ⟨fun d again i parts => ⟨?_, ?_⟩, ?_⟩
  · unfold GlueDev.rxComplete GlueDev.rxQueueSegments
    dsimp only
    rw [rxResubmit_rxQueue]
    have long := rxAggregate_length parts
    by_cases short : (rxAggregate parts).length < 40
    · have none : parts = [] := List.eq_nil_of_length_eq_zero (by omega)
      rw [if_pos short, none, List.map_nil, List.append_nil]
    · rw [if_neg short]
      dsimp only
      rw [rxSegments_aggregate parts _ (by omega), List.filter_true]
  · intro p _
    exact usbRxUnwrap_wrap p.rxwi.length_bytes p.long p.built
  · intro d mem again i buf actual
    refine ⟨_, ?_, ?_, rfl⟩
    · rw [rxComplete_queue (Nat.le_of_lt_succ actual.2)]
      split <;> rfl
    · split
      · exact ⟨List.Pairwise.nil, fun _ mem => by cases mem⟩
      · exact rxSpans_laid buf actual 0

end Aggregate

section Demo

/-- A frame of eleven octets, so with one octet of padding. -/
def demoBuilt : RxBuilt where
  cap := 64
  rxwi := Octets.zero mt7601uRxwiSize
  payload := List.replicate 11 0x55
  seg := [40, 0, 8, 0] ++ List.replicate 28 0 ++ List.replicate 11 0x55 ++ List.replicate 5 0
  long := by decide
  built := rfl

theorem aggregate_walk_demo :
    (demoGlue.rxComplete (fun _ => true) true 0 (.ok (rxAggregate [demoBuilt, demoBuilt]))).rxQueue =
        demoGlue.rxQueue ++ [demoBuilt.seg, demoBuilt.seg] ∧
      ∃ u pad, usbRxUnwrap demoBuilt.seg = some u ∧ pad < 4 ∧
        slice demoBuilt.seg u.payload u.payloadLen =
          demoBuilt.payload ++ List.replicate pad 0 := by
  obtain ⟨queued, unwraps⟩ := aggregate_walk.1 demoGlue true 0 [demoBuilt, demoBuilt]
  obtain ⟨u, pad, unwrapped, _, short, payload⟩ := unwraps demoBuilt List.mem_cons_self
  exact ⟨queued, u, pad, unwrapped, short, payload⟩

end Demo

end Rf2a4m1
