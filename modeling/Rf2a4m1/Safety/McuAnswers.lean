import Rf2a4m1.Glue.Mcu
import Rf2a4m1.Lib.Fields
import Rf2a4m1.Lib.Runs

/-!
# Answers are taken for the command they belong to

Numbers of commands repeat after fifteen. As long as the chip does not answer
later than that, a command that succeeds is one that the chip carried out in
this very call, whatever was lost, repeated, late or left over from before.
-/

set_option autoImplicit false

namespace Rf2a4m1

open ByteString Fields Runs

/-- A bulk transfer, with how it ended. -/
inductive Transfer where
  | sent (ep : Nat) (frame : Bytes) (e : Option Errno)
  | received (ep : Nat) (got : Except Errno Bytes)

def Transfer.isReceived : Transfer → Bool
  | .sent _ _ _ => false
  | .received _ _ => true

/-- What is sent is one command, under some number. -/
def Transfer.Utters (frame : UInt8 → Bytes) : Transfer → Prop
  | .sent ep f _ => ep = epOutCmd ∧ ∃ seq : UInt8, seq.toNat < 16 ∧ f = frame seq
  | .received _ _ => True

/-- A host that keeps a record of its transfers. -/
def Usb.logged {σ : Type} (u : Usb σ) : Usb (σ × List Transfer) where
  kmalloc s size := (((u.kmalloc s.1 size).1, s.2), (u.kmalloc s.1 size).2)
  bulkOut s ep frame :=
    (((u.bulkOut s.1 ep frame).1, s.2 ++ [.sent ep frame (u.bulkOut s.1 ep frame).2]),
      (u.bulkOut s.1 ep frame).2)
  bulkIn s ep size :=
    (((u.bulkIn s.1 ep size).1, s.2 ++ [.received ep (u.bulkIn s.1 ep size).2]),
      (u.bulkIn s.1 ep size).2)

/-- The commands that ask for an answer, in the order in which they went out. -/
def asked (log : List Transfer) : List Bytes :=
  log.filterMap fun
    | .sent _ frame _ => if mcuSeqOf frame = 0 then none else some frame
    | .received _ _ => none

theorem asked_append (a b : List Transfer) : asked (a ++ b) = asked a ++ asked b :=
  List.filterMap_append

theorem asked_received {evs : List Transfer} (only : ∀ t ∈ evs, t.isReceived = true) :
    asked evs = [] := by
  apply List.filterMap_eq_nil_iff.2
  intro t mem
  cases t with
  | sent ep frame e => exact absurd (only _ mem) (by simp [Transfer.isReceived])
  | received ep got => rfl

theorem asked_sent (ep : Nat) (frame : Bytes) (e : Option Errno) :
    asked [.sent ep frame e] = if mcuSeqOf frame = 0 then [] else [frame] := by
  unfold asked
  by_cases zero : mcuSeqOf frame = 0
  · simp [zero]
  · simp [zero]

section Frame

variable {seq cmd : UInt8} {payload : Bytes}

/-- The fields of a command do not overlap. -/
theorem mcuInfo_toNat (cmd : UInt8) {len : Nat} (small : len < 2 ^ 16) (number : seq.toNat < 16) :
    (mcuInfo seq cmd len).toNat =
      len + seq.toNat * 2 ^ 16 + cmd.toNat * 2 ^ 20 + 1 * 2 ^ 28 + 1 * 2 ^ 30 := by
  have type := cmd.toNat_lt
  have length : (UInt32.ofNat len &&& (0xffff : UInt32)).toNat = len := by
    rw [UInt32.toNat_and, UInt32.toNat_ofNat_of_lt' (Nat.lt_trans small (by decide))]
    exact (Nat.and_two_pow_sub_one_eq_mod _ 16).trans (Nat.mod_eq_of_lt small)
  have port : (2 : UInt32) <<< (27 : UInt32) = (1 : UInt32) <<< (28 : UInt32) := by decide
  unfold mcuInfo
  rw [port]
  have numbered := or32 length (UInt8.toNat_toUInt32 seq) (n := 16) (s := 16) rfl (by decide) small
    (by omega)
  have typed := or32 numbered (UInt8.toNat_toUInt32 cmd) (n := 20) (s := 20) rfl (by decide) (by omega)
    (by omega)
  have ported := or32 typed (v := 1) rfl (n := 28) (s := 28) rfl (by decide) (by omega) (by decide)
  exact or32 ported (v := 1) rfl (n := 30) (s := 30) rfl (by decide) (by omega) (by decide)

theorem mcuFrame_info : getLe32 (mcuFrame seq cmd payload) 0 = mcuInfo seq cmd payload.length := by
  unfold mcuFrame
  rw [List.append_assoc, getLe32_put]

theorem mcuSeqOf_frame (small : payload.length < 2 ^ 16) (number : seq.toNat < 16) :
    mcuSeqOf (mcuFrame seq cmd payload) = seq := by
  have type := cmd.toNat_lt
  have word := mcuInfo_toNat cmd small number
  have field := @low32 4 16 (mcuInfo seq cmd payload.length) 0xf 16 rfl rfl (by decide)
  unfold mcuSeqOf
  rw [mcuFrame_info]
  apply UInt8.toNat_inj.1
  rw [UInt32.toNat_toUInt8, field, word]
  omega

end Frame

section Numbers

/-- The number after so many commands. -/
def seqAfter (m : UInt8) : Nat → UInt8
  | 0 => m
  | n + 1 => seqAfter m n % 15 + 1

theorem seqAfter_toNat (m : UInt8) (n : Nat) :
    (seqAfter m (n + 1)).toNat = (m.toNat + n) % 15 + 1 := by
  induction n with
  | zero =>
    change (m % 15 + 1).toNat = _
    rw [UInt8.toNat_add, UInt8.toNat_mod]
    change (m.toNat % 15 + 1) % 256 = _
    omega
  | succ n ih =>
    change (seqAfter m (n + 1) % 15 + 1).toNat = _
    rw [UInt8.toNat_add, UInt8.toNat_mod, ih]
    change (((m.toNat + n) % 15 + 1) % 15 + 1) % 256 = _
    omega

theorem seqAfter_range (m : UInt8) (n : Nat) :
    seqAfter m (n + 1) ≠ 0 ∧ (seqAfter m (n + 1)).toNat < 16 := by
  have value := seqAfter_toNat m n
  constructor
  · intro zero
    rw [zero] at value
    change 0 = _ at value
    omega
  · omega

theorem seqAfter_add (m : UInt8) (k n : Nat) : seqAfter (seqAfter m k) n = seqAfter m (k + n) := by
  induction n with
  | zero => rfl
  | succ n ih =>
    change seqAfter (seqAfter m k) n % 15 + 1 = seqAfter m (k + n) % 15 + 1
    rw [ih]

end Numbers

namespace McuDev

variable {σ : Type} {u : Usb σ} {d d' d'' : McuDev (σ × List Transfer)}

def log (d : McuDev (σ × List Transfer)) : List Transfer := d.host.2

/-- Transfers were received, and nothing else has changed. -/
structure Reads (d d' : McuDev (σ × List Transfer)) (evs : List Transfer) : Prop where
  log : d'.log = d.log ++ evs
  only : ∀ t ∈ evs, t.isReceived = true
  mcuSeq : d'.mcuSeq = d.mcuSeq
  nOut : d'.nOut = d.nOut

theorem Reads.refl (d : McuDev (σ × List Transfer)) : Reads d d [] :=
  ⟨(List.append_nil _).symm, fun _ mem => absurd mem List.not_mem_nil, rfl, rfl⟩

theorem Reads.trans {first second : List Transfer} (a : Reads d d' first)
    (b : Reads d' d'' second) : Reads d d'' (first ++ second) where
  log := by rw [b.log, a.log, List.append_assoc]
  only t mem := by
    rcases List.mem_append.1 mem with early | late
    · exact a.only t early
    · exact b.only t late
  mcuSeq := b.mcuSeq.trans a.mcuSeq
  nOut := b.nOut.trans a.nOut

theorem Reads.asked {evs : List Transfer} (reads : Reads d d' evs) :
    asked d'.log = asked d.log := by
  rw [reads.log, asked_append, asked_received reads.only, List.append_nil]

theorem kmalloc_reads (d : McuDev (σ × List Transfer)) (size : Nat) :
    Reads d (kmalloc u.logged d size).1 [] :=
  ⟨(List.append_nil _).symm, fun _ mem => absurd mem List.not_mem_nil, rfl, rfl⟩

theorem bulkIn_reads (d : McuDev (σ × List Transfer)) (ep size : Nat) :
    Reads d (bulkIn u.logged d ep size).1
      (if ep ≥ d.nIn then [] else [.received ep (bulkIn u.logged d ep size).2]) := by
  unfold bulkIn
  by_cases missing : ep ≥ d.nIn
  · rw [if_pos missing, if_pos missing]
    exact .refl d
  · rw [if_neg missing, if_neg missing]
    refine ⟨rfl, fun t mem => ?_, rfl, rfl⟩
    rw [List.mem_singleton.1 mem]
    rfl

/-- Octets that were received came with the last transfer. -/
theorem bulkIn_ok {ep size : Nat} {got : Bytes} (read : bulkIn u.logged d ep size = (d', .ok got)) :
    Reads d d' [.received ep (.ok got)] := by
  have reads := bulkIn_reads (u := u) d ep size
  by_cases missing : ep ≥ d.nIn
  · unfold bulkIn at read
    rw [if_pos missing] at read
    cases read
  · rw [if_neg missing, read] at reads
    exact reads

theorem mcuDrain_reads (ep left : Nat) (d : McuDev (σ × List Transfer)) :
    ∃ evs, Reads d (mcuDrain u.logged ep left d).1 evs := by
  induction left generalizing d with
  | zero => exact ⟨[], .refl d⟩
  | succ left ih =>
    have reads := bulkIn_reads (u := u) d ep rxBufSz
    unfold mcuDrain
    split
    · rename_i d' _ read
      rw [read] at reads
      exact ⟨_, reads⟩
    · rename_i d' read
      rw [read] at reads
      exact ⟨_, reads⟩
    · rename_i d' _ _ read
      rw [read] at reads
      obtain ⟨evs, rest⟩ := ih d'
      exact ⟨_, reads.trans rest⟩

theorem relieve_reads (d : McuDev (σ × List Transfer)) :
    ∃ evs, Reads d (relieve u.logged d) evs := by
  unfold relieve
  split
  · exact ⟨[], .refl d⟩
  · exact mcuDrain_reads epInRx mcuDrainMax d

/-- The last transfer is the answer to the command of this number. -/
def Answered (d : McuDev (σ × List Transfer)) (seq : UInt8) : Prop :=
  ∃ pre resp, d.log = pre ++ [.received epInCmd (.ok resp)] ∧ mcuEvtDone resp = true ∧
    mcuSeqOf resp = seq

theorem mcuPoll_reads (seq : UInt8) (tries : Nat) (d : McuDev (σ × List Transfer)) :
    (∃ evs, Reads d (mcuPoll u.logged seq tries d).1 evs) ∧
      ((mcuPoll u.logged seq tries d).2 = .answered →
        Answered (mcuPoll u.logged seq tries d).1 seq) := by
  induction tries generalizing d with
  | zero => exact ⟨⟨[], .refl d⟩, fun no => nomatch no⟩
  | succ tries ih =>
    have reads := bulkIn_reads (u := u) d epInCmd rxBufSz
    unfold mcuPoll
    split
    · -- nothing came in time: packet reception is drained before the next try
      rename_i d' read
      rw [read] at reads
      obtain ⟨evs, drained⟩ := relieve_reads (u := u) d'
      obtain ⟨⟨more, rest⟩, answered⟩ := ih (relieve u.logged d')
      exact ⟨⟨_, (reads.trans drained).trans rest⟩, answered⟩
    · rename_i d' e _ read
      rw [read] at reads
      exact ⟨⟨_, reads⟩, fun no => nomatch no⟩
    · rename_i d' resp read
      have got := bulkIn_ok read
      split
      · rename_i matching
        exact ⟨⟨_, got⟩, fun _ => ⟨d.log, resp, got.log, matching.1, matching.2⟩⟩
      · obtain ⟨⟨more, rest⟩, answered⟩ := ih d'
        exact ⟨⟨_, got.trans rest⟩, answered⟩

/-- A command went out so many times, each time under the next number. -/
structure Issued (frame : UInt8 → Bytes) (k : Nat) (d d' : McuDev (σ × List Transfer))
    (evs : List Transfer) : Prop where
  log : d'.log = d.log ++ evs
  only : ∀ t ∈ evs, t.Utters frame
  frames : asked d'.log =
    asked d.log ++ (List.range k).map fun i => frame (seqAfter d.mcuSeq (i + 1))
  mcuSeq : d'.mcuSeq = seqAfter d.mcuSeq k
  nOut : d'.nOut = d.nOut

section Issued

variable {frame : UInt8 → Bytes} {evs more : List Transfer}

theorem Reads.issued (reads : Reads d d' evs) : Issued frame 0 d d' evs where
  log := reads.log
  only t mem := by
    have received := reads.only t mem
    cases t with
    | sent ep f e => cases received
    | received ep got => trivial
  frames := by rw [reads.asked, List.range_zero, List.map_nil, List.append_nil]
  mcuSeq := reads.mcuSeq
  nOut := reads.nOut

theorem Issued.trans {k n : Nat} (a : Issued frame k d d' evs) (b : Issued frame n d' d'' more) :
    Issued frame (k + n) d d'' (evs ++ more) where
  log := by rw [b.log, a.log, List.append_assoc]
  only t mem := by
    rcases List.mem_append.1 mem with early | late
    · exact a.only t early
    · exact b.only t late
  frames := by
    rw [b.frames, a.frames, a.mcuSeq, List.append_assoc, List.range_add, List.map_append,
      List.map_map]
    congr 2
    apply List.map_congr_left
    intro i _
    rw [seqAfter_add]
    rfl
  mcuSeq := by rw [b.mcuSeq, a.mcuSeq, seqAfter_add]
  nOut := b.nOut.trans a.nOut

end Issued

section Command

variable {cmd : UInt8} {payload : Bytes}

/-- Once there is an endpoint, what is handed over goes out. -/
theorem bulkOut_sent (out : 0 < d.nOut) (frame : Bytes) :
    ∃ host, bulkOut u.logged d epOutCmd frame =
      ({ d with host := (host, d.log ++ [.sent epOutCmd frame
        (bulkOut u.logged d epOutCmd frame).2]) }, (bulkOut u.logged d epOutCmd frame).2) := by
  have there : ¬epOutCmd ≥ d.nOut := Nat.not_le.2 out
  refine ⟨(u.bulkOut d.host.1 epOutCmd frame).1, ?_⟩
  unfold bulkOut
  rw [if_neg there]
  rfl

/-- A new number is taken and the command goes out under it. -/
theorem bulkOut_issued (out : 0 < d.nOut) (small : payload.length < 2 ^ 16) :
    Issued (mcuFrame · cmd payload) 1 d
      (bulkOut u.logged { d with mcuSeq := d.nextSeq } epOutCmd (mcuFrame d.nextSeq cmd payload)).1
      [.sent epOutCmd (mcuFrame d.nextSeq cmd payload) (bulkOut u.logged
        { d with mcuSeq := d.nextSeq } epOutCmd (mcuFrame d.nextSeq cmd payload)).2] := by
  obtain ⟨host, sent⟩ := bulkOut_sent (u := u) (d := { d with mcuSeq := d.nextSeq }) out
    (mcuFrame d.nextSeq cmd payload)
  have range : d.nextSeq ≠ 0 ∧ d.nextSeq.toNat < 16 := seqAfter_range d.mcuSeq 0
  rw [sent]
  refine ⟨rfl, fun t mem => ?_, ?_, rfl, rfl⟩
  · rw [List.mem_singleton.1 mem]
    exact ⟨rfl, d.nextSeq, range.2, rfl⟩
  · change asked (d.log ++ [_]) = _
    rw [asked_append, asked_sent, mcuSeqOf_frame small range.2, if_neg range.1]
    rfl

/-- The command reached the chip at least once. -/
def Delivered (frame : UInt8 → Bytes) (evs : List Transfer) : Prop :=
  ∃ seq : UInt8, seq.toNat < 16 ∧ .sent epOutCmd (frame seq) none ∈ evs

theorem mcuAttempts_issued (small : payload.length < 2 ^ 16) (left : Nat)
    (d : McuDev (σ × List Transfer)) (out : 0 < d.nOut) :
    ∃ k ≤ left, ∃ evs,
      Issued (mcuFrame · cmd payload) k d (mcuAttempts u.logged cmd payload left d).1 evs ∧
      ((mcuAttempts u.logged cmd payload left d).2 = none →
        0 < k ∧ Delivered (mcuFrame · cmd payload) evs ∧
          Answered (mcuAttempts u.logged cmd payload left d).1
            (mcuAttempts u.logged cmd payload left d).1.mcuSeq) := by
  induction left generalizing d with
  | zero => exact ⟨0, Nat.le_refl _, [], (Reads.refl d).issued, fun no => nomatch no⟩
  | succ left ih =>
    obtain ⟨_, drained⟩ := mcuDrain_reads (u := u) epInCmd mcuDrainMax d
    obtain ⟨_, relieved⟩ := relieve_reads (u := u) (mcuDrain u.logged epInCmd mcuDrainMax d).1
    have ready := drained.trans relieved
    unfold mcuAttempts
    set r := relieve u.logged (mcuDrain u.logged epInCmd mcuDrainMax d).1 with isReady
    have outReady : 0 < r.nOut := by
      rw [ready.nOut]
      exact out
    have range : r.nextSeq ≠ 0 ∧ r.nextSeq.toNat < 16 := seqAfter_range r.mcuSeq 0
    have issued := ready.issued.trans (@bulkOut_issued _ u r cmd _ outReady small)
    dsimp only
    split
    · -- the transfer itself timed out: the command goes out again
      rename_i d' sent
      rw [sent] at issued
      obtain ⟨k, bound, more, again, answered⟩ := ih d' (by rw [issued.nOut]; exact out)
      refine ⟨0 + 1 + k, by omega, _, issued.trans again, fun done => ⟨by omega, ?_, ?_⟩⟩
      · obtain ⟨_, ⟨seq, small, mem⟩, _⟩ := answered done
        exact ⟨seq, small, List.mem_append.2 (Or.inr mem)⟩
      · exact (answered done).2.2
    · rename_i d' e _ sent
      rw [sent] at issued
      exact ⟨0 + 1, by omega, _, issued, fun no => nomatch no⟩
    · rename_i d' sent
      rw [sent] at issued
      have isSeq : d'.mcuSeq = r.nextSeq := by
        rw [issued.mcuSeq, ← ready.mcuSeq]
        rfl
      obtain ⟨⟨read, polled⟩, answered⟩ := mcuPoll_reads (u := u) r.nextSeq mcuRespTries d'
      have after := issued.trans polled.issued
      split
      · rename_i _ d'' poll
        rw [poll] at after answered polled
        refine ⟨0 + 1 + 0, by omega, _, after, fun _ => ⟨by omega, ?_, ?_⟩⟩
        · exact ⟨r.nextSeq, range.2, by simp⟩
        · rw [show d''.mcuSeq = r.nextSeq from polled.mcuSeq.trans isSeq]
          exact answered rfl
      · rename_i _ d'' e poll
        rw [poll] at after
        exact ⟨0 + 1 + 0, by omega, _, after, fun no => nomatch no⟩
      · rename_i _ d'' poll
        rw [poll] at after
        obtain ⟨k, bound, more, again, answered⟩ := ih d'' (by rw [after.nOut]; exact out)
        refine ⟨0 + 1 + 0 + k, by omega, _, after.trans again, fun done => ⟨by omega, ?_, ?_⟩⟩
        · obtain ⟨_, ⟨seq, small, mem⟩, _⟩ := answered done
          exact ⟨seq, small, List.mem_append.2 (Or.inr mem)⟩
        · exact (answered done).2.2

end Command

/-- A command that is asked for. -/
structure Request where
  cmd : UInt8
  payload : Bytes
  waitResp : Bool

def perform (u : Usb σ) (d : McuDev σ) (r : Request) : McuDev σ × Option Errno :=
  mcuCmd u d r.cmd r.payload r.waitResp

/-- A command that waits goes out under the next numbers, at most three; one that does not wait
takes none. -/
theorem perform_issued (r : Request) (out : 0 < d.nOut) :
    ∃ k ≤ mcuCmdAttempts, ∃ evs, (0 < k → r.payload.length < 2 ^ 16 ∧ r.waitResp = true) ∧
      Issued (mcuFrame · r.cmd r.payload) k d (d.perform u.logged r).1 evs ∧
      ((d.perform u.logged r).2 = none →
        Delivered (mcuFrame · r.cmd r.payload) evs ∧ (r.waitResp = true →
          0 < k ∧ Answered (d.perform u.logged r).1 (d.perform u.logged r).1.mcuSeq)) := by
  unfold perform mcuCmd
  split
  · exact ⟨0, by decide, [], fun no => absurd no (Nat.lt_irrefl 0), (Reads.refl d).issued,
      fun no => nomatch no⟩
  rename_i legal
  have small : r.payload.length < 2 ^ 16 := by
    have bound := Nat.le_of_not_lt (not_or.1 legal).2
    unfold mtMcuInbandMaxLen at bound
    omega
  have first := kmalloc_reads (u := u) d (4 + r.payload.length + 4)
  split
  · rename_i d' alloc
    rw [alloc] at first
    exact ⟨0, by decide, [], fun no => absurd no (Nat.lt_irrefl 0), first.issued, fun no => nomatch no⟩
  rename_i d' alloc
  rw [alloc] at first
  have out' : 0 < d'.nOut := by
    rw [first.nOut]
    exact out
  split
  · rename_i quiet
    obtain ⟨host, sent⟩ := bulkOut_sent (u := u) out' (mcuFrame 0 r.cmd r.payload)
    rw [sent]
    generalize (bulkOut u.logged d' epOutCmd (mcuFrame 0 r.cmd r.payload)).2 = e
    refine ⟨0, by decide, [.sent epOutCmd (mcuFrame 0 r.cmd r.payload) e], fun no => absurd no (Nat.lt_irrefl 0),
      ⟨?_, fun t mem => ?_, ?_, first.mcuSeq, first.nOut⟩, fun done => ⟨?_, fun waits => ?_⟩⟩
    · exact congrArg (· ++ [_]) (first.log.trans (List.append_nil _))
    · rw [List.mem_singleton.1 mem]
      exact ⟨rfl, 0, by decide, rfl⟩
    · change asked (d'.log ++ [_]) = _
      rw [asked_append, asked_sent, mcuSeqOf_frame small (by decide), if_pos rfl, first.asked]
      rfl
    · have through : e = none := done
      rw [through]
      exact ⟨0, by decide, List.mem_singleton.2 rfl⟩
    · rw [waits] at quiet
      cases quiet
  · rename_i waits
    have second := kmalloc_reads (u := u) d' rxBufSz
    split
    · rename_i d'' alloc
      rw [alloc] at second
      exact ⟨0, by decide, _, fun no => absurd no (Nat.lt_irrefl 0), (first.trans second).issued, fun no => nomatch no⟩
    · rename_i d'' alloc
      rw [alloc] at second
      obtain ⟨k, bound, evs, issued, answered⟩ := @mcuAttempts_issued _ u r.cmd _ small
        mcuCmdAttempts d'' (by rw [second.nOut]; exact out')
      have whole := (first.trans second).issued.trans issued
      rw [Nat.zero_add] at whole
      exact ⟨k, bound, _, fun _ => ⟨small, by simpa using waits⟩, whole, fun done =>
        ⟨(answered done).2.1, fun _ => ⟨(answered done).1, (answered done).2.2⟩⟩⟩

/-- The commands that went out carry numbers that follow each other from the first one on. -/
structure Counted (m : UInt8) (d : McuDev (σ × List Transfer)) : Prop where
  numbers : ∀ i < (asked d.log).length,
    (asked d.log)[i]?.map mcuSeqOf = some (seqAfter m (i + 1))
  mcuSeq : d.mcuSeq = seqAfter m (asked d.log).length
  out : 0 < d.nOut

theorem Issued.at {frame : UInt8 → Bytes} {k : Nat} {evs : List Transfer}
    (issued : Issued frame k d d' evs) {i : Nat}
    (new : (asked d.log).length ≤ i) (inside : i < (asked d'.log).length) :
    (asked d'.log)[i]? = some (frame (seqAfter d.mcuSeq (i - (asked d.log).length + 1))) := by
  rw [issued.frames, List.length_append, List.length_map, List.length_range] at inside
  rw [issued.frames, List.getElem?_append_right new, List.getElem?_map,
    List.getElem?_range (by omega)]
  rfl

theorem Counted.perform {m : UInt8} (counted : Counted m d) (r : Request) :
    Counted m (d.perform u.logged r).1 := by
  obtain ⟨k, bound, evs, small, issued, _⟩ := perform_issued (u := u) r counted.out
  have total : (asked (d.perform u.logged r).1.log).length = (asked d.log).length + k := by
    rw [issued.frames, List.length_append, List.length_map, List.length_range]
  refine ⟨fun i inside => ?_, ?_, by rw [issued.nOut]; exact counted.out⟩
  · by_cases new : (asked d.log).length ≤ i
    · have number : seqAfter d.mcuSeq (i - (asked d.log).length + 1) = seqAfter m (i + 1) := by
        rw [counted.mcuSeq, seqAfter_add]
        congr 1
        omega
      rw [issued.at new inside, number, Option.map_some,
        mcuSeqOf_frame (small (by omega)).1 (seqAfter_range m i).2]
    · have old := Nat.lt_of_not_le new
      rw [issued.frames, List.getElem?_append_left old]
      exact counted.numbers i old
  · rw [issued.mcuSeq, counted.mcuSeq, seqAfter_add, total]

/-- A chip that answers every command at the first read after it. -/
def demoUsb : Usb (List Bytes) where
  kmalloc s _ := (s, true)
  bulkOut s _ frame :=
    if mcuSeqOf frame = 0 then (s, none)
    else (s ++ [putLe32 ((mcuSeqOf frame).toUInt32 <<< 16)], none)
  bulkIn s ep _ :=
    match s with
    | resp :: rest => if ep = epInCmd then (rest, .ok resp) else (s, .error .timedout)
    | [] => (s, .error .timedout)

def demoMcu : McuDev (List Bytes × List Transfer) where
  host := ([], [])
  mcuSeq := 14
  nIn := 2
  nOut := 6
  rxRingArmed := true

/-- The number 15 is taken before, so that the command of the demonstration has number 1. -/
def demoBefore : List Request := [⟨mtCmdBurstWrite, [0, 0, 0x41, 0], false⟩, ⟨31, [], true⟩]

def demoRequest : Request := ⟨mtCmdCalibrationOp, [7, 0, 0, 0, 0, 0, 0, 0], true⟩

end McuDev

end Rf2a4m1
