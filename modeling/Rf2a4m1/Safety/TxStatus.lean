import Mathlib.Data.List.Forall2
import Rf2a4m1.Glue.Demo
import Rf2a4m1.Safety.TxBuffer

/-!
# What the reports of the chip measure

Frames are transmitted in three classes, the chip reports on them in its own
time and reports are lost or read. A class is never credited with more frames,
or more acknowledged frames, than were radiated in it.
-/

set_option autoImplicit false

namespace Rf2a4m1

open ByteString Fields

/-- A frame that went out: what the chip was told, whether an acknowledgement came back, and the rate
it was sent at. -/
structure Radiation where
  order : TxOrder
  acked : Bool
  aggr : Bool
  rate : UInt16

/-- The chip's report on a frame. -/
def Radiation.report (r : Radiation) : UInt32 :=
  UInt32.ofNat (1 + r.order.pktid * 2 ^ 1 + r.acked.toNat * 2 ^ 5 + r.aggr.toNat * 2 ^ 6 +
    r.order.ackReq.toNat * 2 ^ 7 + r.order.wcid.toNat * 2 ^ 8 + r.rate.toNat * 2 ^ 16)

section Report

variable {r : Radiation}

theorem Radiation.report_toNat (nibble : r.order.pktid < 16) : r.report.toNat =
    1 + r.order.pktid * 2 ^ 1 + r.acked.toNat * 2 ^ 5 + r.aggr.toNat * 2 ^ 6 +
      r.order.ackReq.toNat * 2 ^ 7 + r.order.wcid.toNat * 2 ^ 8 + r.rate.toNat * 2 ^ 16 := by
  have acked := Bool.toNat_le r.acked
  have aggr := Bool.toNat_le r.aggr
  have asked := Bool.toNat_le r.order.ackReq
  have wcid := r.order.wcid.toNat_lt
  have rate := r.rate.toNat_lt
  exact UInt32.toNat_ofNat_of_lt' (show _ < 2 ^ 32 by omega)

/-- The driver reads a report as it was meant. -/
theorem Radiation.report_read (class_ : r.order.pktid < 8) :
    ¬txsStops r.report ∧ (txsPid r.report).toNat = r.order.pktid ∧ txsRate r.report = r.rate ∧
      (r.report &&& mtTxsFifoSuccess ≠ 0 ↔ r.acked = true) ∧
      (r.report &&& mtTxsFifoAckreq ≠ 0 ↔ r.order.ackReq = true) := by
  have word := r.report_toNat (by omega)
  have acked := Bool.toNat_le r.acked
  have aggr := Bool.toNat_le r.aggr
  have asked := Bool.toNat_le r.order.ackReq
  have wcid := r.order.wcid.toNat_lt
  have rate := r.rate.toNat_lt
  have valid := @clear32 1 0 r.report mtTxsFifoValid rfl
  have success := @clear32 1 5 r.report mtTxsFifoSuccess rfl
  have ackreq := @clear32 1 7 r.report mtTxsFifoAckreq rfl
  have pid := @field32 4 1 r.report mtTxsFifoPidMask 1 rfl rfl (by decide)
  refine ⟨?_, ?_, ?_, ?_, ?_⟩
  · rintro (ones | clear)
    · have all : r.report.toNat = 0xffffffff := congrArg UInt32.toNat ones
      omega
    · have zero := valid.1 clear
      omega
  · unfold txsPid
    rw [UInt32.toNat_toUInt8, pid]
    omega
  · unfold txsRate
    apply UInt16.toNat_inj.1
    rw [UInt32.toNat_toUInt16, UInt32.toNat_shiftRight, Nat.shiftRight_eq_div_pow]
    change r.report.toNat / 2 ^ 16 % 2 ^ 16 = _
    omega
  · rw [ne_eq, success, ← Bool.toNat_eq_one]
    omega
  · rw [ne_eq, ackreq, ← Bool.toNat_eq_one]
    omega

end Report

/-- What the counters hold after these reports. -/
def TxStats.after (s : TxStats) (seen : List Radiation) : TxStats :=
  seen.foldl (fun s r => s.count r.report) s

/-- The frames of a class, and those of them that were acknowledged. -/
def inClass (pid : UInt8) (r : Radiation) : Bool := r.order.pktid = pid.toNat

def ackedIn (pid : UInt8) (r : Radiation) : Bool := inClass pid r && r.acked

def askedIn (pid : UInt8) (r : Radiation) : Bool := inClass pid r && r.order.ackReq

section Counters

theorem bump_eq (count : UInt8 → Nat) (q p : UInt8) :
    bump count q p = count p + if p = q then 1 else 0 := by
  unfold bump
  split <;> rfl

theorem count_class {r : Radiation} (class_ : r.order.pktid < 8) (s : TxStats) (p : UInt8) :
    (s.count r.report).valid p = s.valid p + (inClass p r).toNat ∧
      (s.count r.report).success p = s.success p + (ackedIn p r).toNat ∧
      (s.count r.report).ackreq p = s.ackreq p + (askedIn p r).toNat := by
  obtain ⟨_, pid, _, success, ackreq⟩ := r.report_read class_
  have same : p = txsPid r.report ↔ inClass p r = true := by
    rw [inClass, decide_eq_true_iff, ← UInt8.toNat_inj, pid]
    exact eq_comm
  have one : (if p = txsPid r.report then 1 else 0) = (inClass p r).toNat := by
    simp only [same]
    cases inClass p r <;> rfl
  unfold TxStats.count ackedIn askedIn
  refine ⟨?_, ?_, ?_⟩
  · dsimp only
    rw [bump_eq, one]
  · dsimp only
    simp only [success]
    cases r.acked with
    | false => rw [if_neg Bool.false_ne_true, Bool.and_false]; rfl
    | true => rw [if_pos rfl, bump_eq, one, Bool.and_true]
  · dsimp only
    simp only [ackreq]
    cases r.order.ackReq with
    | false => rw [if_neg Bool.false_ne_true, Bool.and_false]; rfl
    | true => rw [if_pos rfl, bump_eq, one, Bool.and_true]

theorem after_class (seen : List Radiation) (classes : ∀ r ∈ seen, r.order.pktid < 8)
    (s : TxStats) (p : UInt8) :
    (s.after seen).valid p = s.valid p + seen.countP (inClass p) ∧
      (s.after seen).success p = s.success p + seen.countP (ackedIn p) ∧
      (s.after seen).ackreq p = s.ackreq p + seen.countP (askedIn p) := by
  induction seen generalizing s with
  | nil => exact ⟨rfl, rfl, rfl⟩
  | cons r rest ih =>
    obtain ⟨valid, success, ackreq⟩ := ih (fun r mem => classes r (List.mem_cons_of_mem _ mem))
      (s.count r.report)
    obtain ⟨valid', success', ackreq'⟩ := count_class (classes r List.mem_cons_self) s p
    have sum (b : Bool) : b.toNat = if b = true then 1 else 0 := by cases b <;> rfl
    refine ⟨valid.trans ?_, success.trans ?_, ackreq.trans ?_⟩
    · rw [valid', sum, List.countP_cons]
      omega
    · rw [success', sum, List.countP_cons]
      omega
    · rw [ackreq', sum, List.countP_cons]
      omega

theorem after_reports (seen : List Radiation) (s : TxStats) :
    (s.after seen).reports = s.reports + seen.length := by
  induction seen generalizing s with
  | nil => rfl
  | cons r rest ih =>
    have one : (s.count r.report).reports = s.reports + 1 := rfl
    refine (ih (s.count r.report)).trans ?_
    rw [one, List.length_cons]
    omega

/-- The rate on record is the rate of a frame of the encrypted class. -/
theorem after_rate (seen : List Radiation) (classes : ∀ r ∈ seen, r.order.pktid < 8) (s : TxStats) :
    ((s.after seen).peerTxrateValid = s.peerTxrateValid ∧
        (s.after seen).peerTxRateWord = s.peerTxRateWord) ∨
      ((s.after seen).peerTxrateValid = true ∧ ∃ r ∈ seen, inClass pidEncrypted r = true ∧
        (s.after seen).peerTxRateWord = r.rate) := by
  induction seen generalizing s with
  | nil => exact .inl ⟨rfl, rfl⟩
  | cons r rest ih =>
    obtain ⟨_, pid, rate, _, _⟩ := r.report_read (classes r List.mem_cons_self)
    rcases ih (fun r mem => classes r (List.mem_cons_of_mem _ mem)) (s.count r.report) with
      ⟨valid, word⟩ | ⟨valid, r', mem, class_, word⟩
    · by_cases data : txsPid r.report = pidEncrypted
      · refine .inr ⟨valid.trans (if_pos data), r, List.mem_cons_self, ?_, ?_⟩
        · rw [inClass, decide_eq_true_iff, ← pid, data]
        · exact word.trans ((if_pos data).trans rate)
      · exact .inl ⟨valid.trans (if_neg data), word.trans (if_neg data)⟩
    · exact .inr ⟨valid, r', List.mem_cons_of_mem _ mem, class_, word⟩

end Counters

/-- A frame someone transmits: one of the SME or of a scan, one of the network stack, or one of those
to the address nobody owns. -/
inductive TxCall where
  | plain (m : Mpdu)
  | data (d : GlueDev) (eth : Bytes)
  | bogus (d : GlueDev)

def Mpdu.of (data : Bytes) : Option Mpdu :=
  if short : data.length < 2 ^ 16 then some ⟨data, short⟩ else none

namespace TxCall

def mpdu : TxCall → Option Mpdu
  | .plain m => some m
  | .data d eth => (d.hwDataTx eth).bind Mpdu.of
  | .bogus d => Mpdu.of (d.hwDataFrame GlueDev.bogusBssid GlueDev.bogusBssid [0x08, 0x00])

def params : TxCall → TxParams
  | .plain _ => smeTxParams
  | .data _ _ => keyedTxParams pidEncrypted
  | .bogus _ => keyedTxParams pidBogus

/-- What is asked of the chip. -/
def order (c : TxCall) : Option TxOrder := c.mpdu.map fun m => c.params.order m.data

end TxCall

/-- A read of the report register: reports that fall out before it, and whether it succeeds. -/
structure ReadFate where
  skipped : Nat
  ok : Bool

def ReadFate.Clean (f : ReadFate) : Prop := f.skipped = 0 ∧ f.ok = true

/-- The oldest report, all ones for a read that fails. -/
def readReport (s : List UInt32 × List ReadFate) : (List UInt32 × List ReadFate) × UInt32 :=
  match s.2 with
  | [] => ((s.1.tail, []), s.1.headD 0)
  | f :: fates =>
    if f.ok then (((s.1.drop f.skipped).tail, fates), (s.1.drop f.skipped).headD 0)
    else ((s.1.drop f.skipped, fates), 0xffffffff)

/-- The path of transmission and the chip behind it. -/
structure TxAir where
  path : TxPath
  chip : List Bytes
  fifo : List UInt32
  stats : TxStats
  radiated : List Radiation

inductive TxEvent where
  | call (luck : TxLuck) (c : TxCall)
  /-- The oldest transfer completes, with its frame in the chip or lost. -/
  | completed (reached : Bool)
  /-- The chip sends its oldest frame and reports on it, if there is room for a report. -/
  | radiated (acked aggr room : Bool) (rate : UInt16)
  | drained (fates : List ReadFate)

namespace TxAir

def idle (nOut : Nat) : TxAir where
  path := { nOut := nOut, txCalls := 0, txLastLen := 0, held := 0, anchor := [] }
  chip := []
  fifo := []
  stats := { reports := 0, valid := fun _ => 0, success := fun _ => 0, ackreq := fun _ => 0
             peerTxRateWord := 0, peerTxrateValid := false }
  radiated := []

def radiate (a : TxAir) (acked aggr room : Bool) (rate : UInt16) : TxAir :=
  match a.chip with
  | [] => a
  | t :: rest =>
    match chipReads t with
    | none => { a with chip := rest }
    | some o =>
      let r : Radiation := { order := o, acked := acked, aggr := aggr, rate := rate }
      { a with
        chip := rest, radiated := a.radiated ++ [r]
        fifo := if room ∧ o.pktid ≠ 0 then a.fifo ++ [r.report] else a.fifo }

def step (a : TxAir) : TxEvent → TxAir
  | .call luck c =>
    match c.mpdu with
    | none => a
    | some m => { a with path := (a.path.opTx luck c.params m).1 }
  | .completed reached =>
    { a with
      path := a.path.txComplete
      chip := if reached then a.chip ++ a.path.anchor.head?.toList else a.chip }
  | .radiated acked aggr room rate => a.radiate acked aggr room rate
  | .drained fates =>
    let ((fifo, _), stats) := drainTxStatus readReport (a.fifo, fates) a.stats
    { a with fifo := fifo, stats := stats }

end TxAir

section Classes

theorem Mpdu.of_some {data : Bytes} {m : Mpdu} (is : Mpdu.of data = some m) : m.data = data := by
  unfold Mpdu.of at is
  split at is
  · cases is
    rfl
  · cases is

variable {c : TxCall} {o : TxOrder}

theorem hwDataFrame_ra (d : GlueDev) {ra da body : Bytes} (size : ra.length = 6) :
    slice (d.hwDataFrame ra da body) 4 6 = ra := by
  unfold GlueDev.hwDataFrame
  rw [List.append_assoc, List.append_assoc, List.append_assoc, List.append_assoc, List.append_assoc,
    slice_append_right (by decide)]
  exact slice_append_left size

/-- A frame of the network stack is a data frame to the peer of the installed key. -/
theorem hwDataTx_ra {d : GlueDev} {eth frame : Bytes} (sent : d.hwDataTx eth = some frame) :
    slice frame 4 6 = d.hwPeer.bytes := by
  unfold GlueDev.hwDataTx at sent
  split_ifs at sent
  cases sent
  exact hwDataFrame_ra d d.hwPeer.length_eq

/-- The number of a frame tells who transmitted it and under which key. -/
theorem TxCall.order_class (is : c.order = some o) :
    o.ackReq = true ∧
      ((o.pktid = 1 ∧ o.encrypt = false ∧ ∃ m, c = .plain m ∧ o.frame = m.data) ∨
        (o.pktid = 2 ∧ o.encrypt = true ∧ o.wcid = hwWcid ∧
          ∃ d eth, c = .data d eth ∧ d.hwDataTx eth = some o.frame ∧
            slice o.frame 4 6 = d.hwPeer.bytes) ∨
        (o.pktid = 3 ∧ o.encrypt = true ∧ o.wcid = hwWcid ∧
          slice o.frame 4 6 = GlueDev.bogusBssid ∧ ∃ d, c = .bogus d)) := by
  obtain ⟨m, mpdu, rfl⟩ := Option.map_eq_some_iff.1 is
  cases c with
  | plain m' =>
    cases mpdu
    exact ⟨rfl, .inl ⟨rfl, rfl, _, rfl, rfl⟩⟩
  | data d eth =>
    obtain ⟨frame, sent, of⟩ := Option.bind_eq_some_iff.1 mpdu
    have data := Mpdu.of_some of
    refine ⟨rfl, .inr (.inl ⟨rfl, rfl, rfl, d, eth, rfl, ?_, ?_⟩)⟩
    · exact sent.trans (congrArg some data.symm)
    · exact (congrArg (slice · 4 6) data).trans (hwDataTx_ra sent)
  | bogus d =>
    have data := Mpdu.of_some mpdu
    refine ⟨rfl, .inr (.inr ⟨rfl, rfl, rfl, ?_, d, rfl⟩)⟩
    exact (congrArg (slice · 4 6) data).trans (hwDataFrame_ra d rfl)

end Classes

section Drain

variable {pend : List Radiation} {fates : List ReadFate}

theorem readReport_cases (pend : List Radiation) (fates : List ReadFate) :
    ∃ k fates', ((∀ f ∈ fates, f.Clean) → k = 0 ∧ ∀ f ∈ fates', f.Clean) ∧
      ((readReport (pend.map Radiation.report, fates) =
          (((pend.drop k).map Radiation.report, fates'), 0xffffffff) ∧
          ¬∀ f ∈ fates, f.Clean) ∨
        (pend.drop k = [] ∧ readReport (pend.map Radiation.report, fates) = (([], fates'), 0)) ∨
        ∃ r rest, pend.drop k = r :: rest ∧ readReport (pend.map Radiation.report, fates) =
          ((rest.map Radiation.report, fates'), r.report)) := by
  cases fates with
  | nil =>
    refine ⟨0, [], fun clean => ⟨rfl, clean⟩, .inr ?_⟩
    cases pend with
    | nil => exact .inl ⟨rfl, rfl⟩
    | cons r rest => exact .inr ⟨r, rest, rfl, rfl⟩
  | cons f fates =>
    refine ⟨f.skipped, fates, fun clean => ⟨(clean f List.mem_cons_self).1,
      fun f mem => clean f (List.mem_cons_of_mem _ mem)⟩, ?_⟩
    unfold readReport
    dsimp only
    rw [← List.map_drop]
    by_cases ok : f.ok = true
    · rw [if_pos ok]
      right
      cases pend.drop f.skipped with
      | nil => exact .inl ⟨rfl, rfl⟩
      | cons r rest => exact .inr ⟨r, rest, rfl, rfl⟩
    · rw [if_neg ok]
      exact .inl ⟨rfl, fun clean => ok (clean f List.mem_cons_self).2⟩

/-- A drain counts some of the reports that wait, each once, and leaves others waiting. -/
theorem drainFrom_counts (left : Nat) (classes : ∀ r ∈ pend, r.order.pktid < 8) (s : TxStats) :
    ∃ seen pend' fates',
      drainFrom readReport left (pend.map Radiation.report, fates) s =
        ((pend'.map Radiation.report, fates'), s.after seen) ∧
      (seen ++ pend').Sublist pend ∧ ((∀ f ∈ fates, f.Clean) → seen ++ pend' = pend) := by
  induction left generalizing pend fates s with
  | zero => exact ⟨[], pend, fates, rfl, List.Sublist.refl _, fun _ => rfl⟩
  | succ left ih =>
    obtain ⟨k, fates', clean, read⟩ := readReport_cases pend fates
    unfold drainFrom
    rcases read with ⟨read, faulty⟩ | ⟨none, read⟩ | ⟨r, rest, some, read⟩
    · rw [read]
      exact ⟨[], pend.drop k, fates', if_pos (.inl rfl), List.drop_sublist _ _,
        fun all => absurd all faulty⟩
    · rw [read]
      refine ⟨[], [], fates', if_pos (.inr (by decide)), List.nil_sublist _, fun all => ?_⟩
      rw [(clean all).1] at none
      exact none.symm
    · have inside : (r :: rest).Sublist pend := some ▸ List.drop_sublist k pend
      have class_ := classes r (inside.subset List.mem_cons_self)
      rw [read]
      dsimp only
      rw [if_neg (r.report_read class_).1]
      obtain ⟨seen, pend', fates'', eq, sub, kept⟩ := @ih rest fates'
        (fun r mem => classes r (inside.subset (List.mem_cons_of_mem _ mem))) (s.count r.report)
      refine ⟨r :: seen, pend', fates'', eq, (sub.cons_cons r).trans inside, fun all => ?_⟩
      have front : r :: rest = pend := by
        rw [← some, (clean all).1]
        rfl
      rw [List.cons_append, kept (clean all).2, front]

end Drain

section Run

/-- The transfer of an accepted frame. -/
def TxCall.Transferred (c : TxCall) (t : Bytes) : Prop :=
  ∃ m, c.mpdu = some m ∧ m.data.length ≤ 2020 ∧ t = txTransfer c.params m.data

theorem TxCall.Transferred.order {c : TxCall} {t : Bytes} (sent : c.Transferred t) :
    ∃ o, c.order = some o ∧ chipReads t = some o := by
  obtain ⟨m, mpdu, fits, rfl⟩ := sent
  refine ⟨c.params.order m.data, ?_, chipReads_transfer _ _ fits⟩
  rw [TxCall.order, mpdu]
  rfl

/-- The frames that are accepted. -/
def TxEvent.accepted (nOut : Nat) : TxEvent → List TxCall
  | .call luck c =>
    match c.mpdu with
    | none => []
    | some m =>
      if m.data.length ≤ 2020 ∧ luck.buffer ∧ epOutData < nOut ∧ luck.urb ∧ luck.submit = none then
        [c]
      else []
  | .completed _ => []
  | .radiated _ _ _ _ => []
  | .drained _ => []

/-- No report is lost, for want of room or by a read. -/
def TxEvent.Reports : TxEvent → Prop
  | .radiated _ _ room _ => room = true
  | .drained fates => ∀ f ∈ fates, f.Clean
  | _ => True

/-- Frames wait at the host and in the chip, some were radiated, and some of the reports on these are
counted or wait. -/
structure TxAirInv (nOut : Nat) (reports : Prop) (a : TxAir) (calls : List TxCall) : Prop where
  endpoints : a.path.nOut = nOut
  held : a.path.held = a.path.anchor.length
  frames : ∃ went inChip anchored, (went ++ inChip ++ anchored).Sublist calls ∧
    List.Forall₂ TxCall.Transferred anchored a.path.anchor ∧
    List.Forall₂ TxCall.Transferred inChip a.chip ∧
    List.Forall₂ (fun c r => TxCall.order c = some r.order) went a.radiated
  counted : ∃ seen pending, (seen ++ pending).Sublist a.radiated ∧
    (reports → seen ++ pending = a.radiated) ∧ a.fifo = pending.map Radiation.report ∧
    a.stats = (TxAir.idle nOut).stats.after seen

namespace TxAirInv

variable {nOut : Nat} {reports : Prop} {a : TxAir} {calls : List TxCall}

theorem idle (nOut : Nat) (reports : Prop) : TxAirInv nOut reports (TxAir.idle nOut) [] where
  endpoints := rfl
  held := rfl
  frames := ⟨[], [], [], List.Sublist.refl _, .nil, .nil, .nil⟩
  counted := ⟨[], [], List.Sublist.refl _, fun _ => rfl, rfl, rfl⟩

/-- Every frame that went out was transmitted by one of the callers. -/
theorem classes (inv : TxAirInv nOut reports a calls) {r : Radiation} (mem : r ∈ a.radiated) :
    ∃ c ∈ calls, c.order = some r.order := by
  obtain ⟨went, inChip, anchored, sub, _, _, out⟩ := inv.frames
  obtain ⟨c, is, order⟩ : ∃ c ∈ went, c.order = some r.order := by
    clear sub
    generalize a.radiated = rs at mem out
    induction out with
    | nil => exact absurd mem List.not_mem_nil
    | cons order _ ih =>
      rcases List.mem_cons.1 mem with rfl | mem
      · exact ⟨_, List.mem_cons_self, order⟩
      · obtain ⟨c, is, order⟩ := ih mem
        exact ⟨c, List.mem_cons_of_mem _ is, order⟩
  exact ⟨c, sub.subset (List.mem_append_left _ (List.mem_append_left _ is)), order⟩

theorem class_lt (inv : TxAirInv nOut reports a calls) {r : Radiation} (mem : r ∈ a.radiated) :
    0 < r.order.pktid ∧ r.order.pktid < 4 ∧ r.order.ackReq = true := by
  obtain ⟨c, _, order⟩ := inv.classes mem
  obtain ⟨asked, ⟨pid, _⟩ | ⟨pid, _⟩ | ⟨pid, _⟩⟩ := c.order_class order <;>
    exact ⟨by omega, by omega, asked⟩

theorem call (inv : TxAirInv nOut reports a calls) (luck : TxLuck) (c : TxCall) :
    TxAirInv nOut reports (a.step (.call luck c)) (calls ++ TxEvent.accepted nOut (.call luck c)) := by
  unfold TxAir.step TxEvent.accepted
  cases mpdu : c.mpdu with
  | none =>
    dsimp only
    rw [mpdu, List.append_nil]
    exact inv
  | some m =>
    dsimp only
    rw [mpdu]
    dsimp only
    have carries : (luck.buffer = true ∧ epOutData < nOut ∧ luck.urb = true ∧ luck.submit = none) ↔
        luck.Carries a.path := by
      rw [TxLuck.Carries, inv.endpoints]
    rcases opTx_cases luck a.path c.params m with ⟨fits, able, eq⟩ | ⟨not, e, eq⟩
    · rw [if_pos ⟨fits, carries.2 able⟩, eq]
      obtain ⟨went, inChip, anchored, sub, here, there, out⟩ := inv.frames
      refine ⟨inv.endpoints, ?_, ⟨went, inChip, anchored ++ [c], ?_, ?_, there, out⟩, inv.counted⟩
      · rw [List.length_append, List.length_singleton, ← inv.held]
      · rw [← List.append_assoc]
        exact sub.append_right [c]
      · exact List.rel_append here (.cons ⟨m, mpdu, fits, rfl⟩ .nil)
    · rw [if_neg fun all => not ⟨all.1, carries.1 all.2⟩, List.append_nil, eq]
      have same : ∀ q : TxPath, q.nOut = a.path.nOut ∧ q.held = a.path.held ∧
          q.anchor = a.path.anchor → TxAirInv nOut reports { a with path := q } calls := by
        rintro q ⟨nOut, held, anchor⟩
        refine ⟨nOut.trans inv.endpoints, ?_, ?_, inv.counted⟩
        · dsimp only
          rw [held, anchor, inv.held]
        · dsimp only
          rw [anchor]
          exact inv.frames
      apply same
      dsimp only
      split <;> exact ⟨rfl, rfl, rfl⟩

theorem completed (inv : TxAirInv nOut reports a calls) (reached : Bool) :
    TxAirInv nOut reports (a.step (.completed reached)) calls := by
  obtain ⟨went, inChip, anchored, sub, here, there, out⟩ := inv.frames
  unfold TxAir.step TxPath.txComplete
  refine ⟨inv.endpoints, ?_, ?_, inv.counted⟩
  · dsimp only
    rw [List.length_tail, inv.held]
  · dsimp only
    generalize a.path.anchor = waiting at here ⊢
    cases here with
    | nil =>
      refine ⟨went, inChip, [], sub, .nil, ?_, out⟩
      cases reached
      · exact there
      · simpa using there
    | @cons c t anchored ts sent rest =>
      cases reached
      · refine ⟨went, inChip, anchored, ?_, rest, there, out⟩
        exact ((List.sublist_cons_self c anchored).append_left _).trans sub
      · refine ⟨went, inChip ++ [c], anchored, ?_, rest, ?_, out⟩
        · simpa using sub
        · exact List.rel_append there (.cons sent .nil)

theorem radiated (inv : TxAirInv nOut reports a calls) (acked aggr room : Bool) (rate : UInt16)
    (kept : reports → room = true) :
    TxAirInv nOut reports (a.step (.radiated acked aggr room rate)) calls := by
  obtain ⟨went, inChip, anchored, sub, here, there, out⟩ := inv.frames
  obtain ⟨seen, pending, part, all, fifo, stats⟩ := inv.counted
  unfold TxAir.step TxAir.radiate
  dsimp only
  cases chip : a.chip with
  | nil => exact inv
  | cons t ts =>
    rw [chip] at there
    cases there with
    | @cons c _ inChip _ sent rest =>
      obtain ⟨o, order, reads⟩ := sent.order
      have number : o.pktid ≠ 0 := by
        obtain ⟨_, ⟨pid, _⟩ | ⟨pid, _⟩ | ⟨pid, _⟩⟩ := c.order_class order <;> omega
      dsimp only
      rw [reads]
      dsimp only
      refine ⟨inv.endpoints, inv.held, ⟨went ++ [c], inChip, anchored, ?_, here, rest,
        List.rel_append out (.cons order .nil)⟩, ?_⟩
      · simpa using sub
      · cases room with
        | false =>
          have full : ¬(false = true ∧ o.pktid ≠ 0) := fun both => Bool.false_ne_true both.1
          refine ⟨seen, pending, part.trans (List.sublist_append_left _ _),
            fun reports => absurd (kept reports) Bool.false_ne_true, ?_, stats⟩
          dsimp only
          rw [if_neg full, fifo]
        | true =>
          refine ⟨seen, pending ++ [⟨o, acked, aggr, rate⟩], ?_, fun reports => ?_, ?_, stats⟩
          · rw [← List.append_assoc]
            exact part.append_right _
          · rw [← List.append_assoc, all reports]
          · dsimp only
            rw [if_pos ⟨rfl, number⟩, fifo, List.map_append]
            rfl

theorem drained (inv : TxAirInv nOut reports a calls) (fates : List ReadFate)
    (kept : reports → ∀ f ∈ fates, f.Clean) :
    TxAirInv nOut reports (a.step (.drained fates)) calls := by
  obtain ⟨seen, pending, part, all, fifo, stats⟩ := inv.counted
  have small : ∀ r ∈ pending, r.order.pktid < 8 := fun r mem => by
    have bounds := inv.class_lt (part.subset (List.mem_append_right _ mem))
    omega
  obtain ⟨more, pending', fates', eq, sub, same⟩ :=
    @drainFrom_counts pending fates 24 small a.stats
  unfold TxAir.step drainTxStatus
  dsimp only
  rw [fifo, eq]
  refine ⟨inv.endpoints, inv.held, inv.frames, seen ++ more, pending', ?_, fun reports => ?_, rfl, ?_⟩
  · rw [List.append_assoc]
    exact (sub.append_left seen).trans part
  · rw [List.append_assoc, same (kept reports), all reports]
  · dsimp only
    rw [stats, TxStats.after, TxStats.after, TxStats.after, List.foldl_append]

theorem step (inv : TxAirInv nOut reports a calls) (ev : TxEvent) (kept : reports → ev.Reports) :
    TxAirInv nOut reports (a.step ev) (calls ++ ev.accepted nOut) := by
  cases ev with
  | call luck c => exact inv.call luck c
  | completed reached =>
    rw [TxEvent.accepted, List.append_nil]
    exact inv.completed reached
  | radiated acked aggr room rate =>
    rw [TxEvent.accepted, List.append_nil]
    exact inv.radiated acked aggr room rate kept
  | drained fates =>
    rw [TxEvent.accepted, List.append_nil]
    exact inv.drained fates kept

theorem run (inv : TxAirInv nOut reports a calls) (evs : List TxEvent)
    (kept : reports → ∀ ev ∈ evs, ev.Reports) :
    TxAirInv nOut reports (evs.foldl TxAir.step a) (calls ++ evs.flatMap (TxEvent.accepted nOut)) := by
  induction evs generalizing a calls with
  | nil =>
    rw [List.flatMap_nil, List.append_nil]
    exact inv
  | cons ev evs ih =>
    rw [List.flatMap_cons, ← List.append_assoc]
    exact ih (inv.step ev fun reports => kept reports ev List.mem_cons_self)
      fun reports ev mem => kept reports ev (List.mem_cons_of_mem _ mem)

end TxAirInv

end Run

section Measure

/-- Who transmitted a frame of a class, and to whom. -/
structure Attributed (calls : List TxCall) (r : Radiation) : Prop where
  cleartext : inClass pidCleartext r = true → r.order.encrypt = false ∧
    ∃ m, .plain m ∈ calls ∧ r.order.frame = m.data
  encrypted : inClass pidEncrypted r = true → r.order.encrypt = true ∧ r.order.wcid = hwWcid ∧
    ∃ d eth, .data d eth ∈ calls ∧ d.hwDataTx eth = some r.order.frame ∧
      slice r.order.frame 4 6 = d.hwPeer.bytes
  bogus : inClass pidBogus r = true → r.order.encrypt = true ∧
    slice r.order.frame 4 6 = GlueDev.bogusBssid

theorem inClass_eq {pid : UInt8} {r : Radiation} (in_ : inClass pid r = true) :
    r.order.pktid = pid.toNat :=
  of_decide_eq_true in_

theorem TxAirInv.attributed {nOut : Nat} {reports : Prop} {a : TxAir} {calls : List TxCall}
    (inv : TxAirInv nOut reports a calls) {r : Radiation} (mem : r ∈ a.radiated) :
    Attributed calls r := by
  obtain ⟨c, called, order⟩ := inv.classes mem
  obtain ⟨_, plain | data | bogus⟩ := c.order_class order
  · obtain ⟨pid, open_, m, rfl, frame⟩ := plain
    exact ⟨fun _ => ⟨open_, m, called, frame⟩,
      fun in_ => absurd (pid.symm.trans (inClass_eq in_)) (by decide),
      fun in_ => absurd (pid.symm.trans (inClass_eq in_)) (by decide)⟩
  · obtain ⟨pid, closed, wcid, d, eth, rfl, sent, ra⟩ := data
    exact ⟨fun in_ => absurd (pid.symm.trans (inClass_eq in_)) (by decide),
      fun _ => ⟨closed, wcid, d, eth, called, sent, ra⟩,
      fun in_ => absurd (pid.symm.trans (inClass_eq in_)) (by decide)⟩
  · obtain ⟨pid, closed, _, ra, _⟩ := bogus
    exact ⟨fun in_ => absurd (pid.symm.trans (inClass_eq in_)) (by decide),
      fun in_ => absurd (pid.symm.trans (inClass_eq in_)) (by decide), fun _ => ⟨closed, ra⟩⟩

theorem class_total {rs : List Radiation}
    (classes : ∀ r ∈ rs, 0 < r.order.pktid ∧ r.order.pktid < 4) :
    rs.length = rs.countP (inClass pidCleartext) + rs.countP (inClass pidEncrypted) +
      rs.countP (inClass pidBogus) := by
  induction rs with
  | nil => rfl
  | cons r rest ih =>
    obtain ⟨pos, small⟩ := classes r List.mem_cons_self
    have one : (if inClass pidCleartext r then 1 else 0) + (if inClass pidEncrypted r then 1 else 0) +
        (if inClass pidBogus r then 1 else 0) = 1 := by
      simp only [inClass, decide_eq_true_eq]
      change (if r.order.pktid = 1 then 1 else 0) + (if r.order.pktid = 2 then 1 else 0) +
        (if r.order.pktid = 3 then 1 else 0) = 1
      split_ifs <;> omega
    have rest' := ih fun r mem => classes r (List.mem_cons_of_mem _ mem)
    rw [List.length_cons, List.countP_cons, List.countP_cons, List.countP_cons]
    omega

/-- Frames go out at most once, in the order in which they were accepted, and the class under which
one is reported tells who sent it. No class is credited with more than went out in it, and where no
report is lost and none waits, a class is credited with all of it. -/
theorem reports_measured (nOut : Nat) (evs : List TxEvent) :
    ∃ a calls, a = evs.foldl TxAir.step (TxAir.idle nOut) ∧
      calls = evs.flatMap (TxEvent.accepted nOut) ∧
      a.path.held = a.path.anchor.length ∧
      (∃ went, went.Sublist calls ∧
        List.Forall₂ (fun c r => TxCall.order c = some r.order) went a.radiated) ∧
      (∀ r ∈ a.radiated, Attributed calls r) ∧
      (∀ pid, a.stats.valid pid ≤ a.radiated.countP (inClass pid) ∧
        a.stats.success pid ≤ a.radiated.countP (ackedIn pid) ∧
        a.stats.ackreq pid = a.stats.valid pid) ∧
      a.stats.reports = a.stats.valid pidCleartext + a.stats.valid pidEncrypted +
        a.stats.valid pidBogus ∧
      (a.stats.peerTxrateValid = true → ∃ r ∈ a.radiated, inClass pidEncrypted r = true ∧
        a.stats.peerTxRateWord = r.rate) ∧
      ((∀ ev ∈ evs, ev.Reports) → a.fifo = [] → ∀ pid,
        a.stats.valid pid = a.radiated.countP (inClass pid) ∧
          a.stats.success pid = a.radiated.countP (ackedIn pid)) := by
  have inv := (TxAirInv.idle nOut (∀ ev ∈ evs, ev.Reports)).run evs fun reports => reports
  rw [List.nil_append] at inv
  refine ⟨_, _, rfl, rfl, inv.held, ?_, fun r mem => inv.attributed mem, ?_⟩
  · obtain ⟨went, inChip, anchored, sub, _, _, out⟩ := inv.frames
    have front := (List.sublist_append_left went inChip).trans (List.sublist_append_left _ anchored)
    exact ⟨went, front.trans sub, out⟩
  obtain ⟨seen, pending, part, all, fifo, stats⟩ := inv.counted
  have inner : seen.Sublist (evs.foldl TxAir.step (TxAir.idle nOut)).radiated :=
    (List.sublist_append_left _ _).trans part
  have bounds r mem := inv.class_lt (inner.subset (a := r) mem)
  have small : ∀ r ∈ seen, r.order.pktid < 8 := fun r mem => by have := bounds r mem; omega
  have counts (pid : UInt8) := after_class seen small (TxAir.idle nOut).stats pid
  have zero (n : Nat) : (0 : Nat) + n = n := Nat.zero_add n
  rw [stats]
  refine ⟨fun pid => ?_, ?_, fun valid => ?_, fun reports none pid => ?_⟩
  · obtain ⟨valid, success, ackreq⟩ := counts pid
    refine ⟨?_, ?_, ?_⟩
    · exact valid.trans (zero _) ▸ inner.countP_le
    · exact success.trans (zero _) ▸ inner.countP_le
    · rw [ackreq, valid]
      refine congrArg (0 + ·) (List.countP_congr fun r mem => ?_)
      rw [askedIn, (bounds r mem).2.2, Bool.and_true]
  · have total := class_total fun r mem => ⟨(bounds r mem).1, (bounds r mem).2.1⟩
    rw [after_reports, (counts pidCleartext).1, (counts pidEncrypted).1, (counts pidBogus).1, total]
    change 0 + _ = 0 + _ + (0 + _) + (0 + _)
    omega
  · rcases after_rate seen small (TxAir.idle nOut).stats with ⟨same, _⟩ | ⟨_, r, mem, in_, rate⟩
    · exact absurd (same.symm.trans valid) Bool.false_ne_true
    · exact ⟨r, inner.subset mem, in_, rate⟩
  · have empty : pending = [] := List.map_eq_nil_iff.1 (fifo.symm.trans none)
    have whole := all reports
    rw [empty, List.append_nil] at whole
    rw [← whole]
    exact ⟨(counts pid).1.trans (zero _), (counts pid).2.1.trans (zero _)⟩

end Measure

/-- A device with a key in the chip. -/
def demoKeyed : GlueDev := { demoGlue with hwKeyInstalled := true }

/-- A frame of the SME, an acknowledged data frame, and a frame to the address nobody owns. -/
def demoAir : List TxEvent :=
  [.call demoLuck (.plain ⟨[0xc0, 0], by decide⟩),
    .call demoLuck (.data demoKeyed (List.replicate 14 0)), .completed true,
    .radiated true false true 0x4000, .call demoLuck (.bogus demoKeyed), .completed true,
    .completed true, .radiated true false true 0x4001, .drained [], .radiated false false true 0x4000,
    .drained []]

theorem reports_measured_demo :
    (demoAir.foldl TxAir.step (TxAir.idle 3)).stats.success pidEncrypted = 1 ∧
      (demoAir.foldl TxAir.step (TxAir.idle 3)).stats.valid pidBogus = 1 ∧
      (demoAir.foldl TxAir.step (TxAir.idle 3)).stats.success pidBogus = 0 := by
  have reports : ∀ ev ∈ demoAir, ev.Reports := by
    intro ev mem
    simp only [demoAir, List.mem_cons, List.not_mem_nil, or_false] at mem
    rcases mem with rfl | rfl | rfl | rfl | rfl | rfl | rfl | rfl | rfl | rfl | rfl <;>
      first
        | trivial
        | rfl
        | exact fun f none => absurd none List.not_mem_nil
  obtain ⟨a, _, rfl, _, _, _, _, _, _, _, exact_⟩ := reports_measured 3 demoAir
  have counts := exact_ reports (by decide +kernel)
  rw [(counts pidEncrypted).2, (counts pidBogus).1, (counts pidBogus).2]
  decide +kernel

end Rf2a4m1
