import Rf2a4m1.Safety.McuAnswers

/-!
# Words written through the microcontroller

A long write is cut into commands, of which only the last asks for an answer
and may go out again. The memory of the chip is the one a single write of all
the words would leave, whichever of the failed transfers still got through.
-/

set_option autoImplicit false

namespace Rf2a4m1

open ByteString Fields

/-- The memory of the chip, by the addresses of its words. -/
abbrev ChipMem := UInt32 → UInt32

def writeWords (mem : ChipMem) : UInt32 → List UInt32 → ChipMem
  | _, [] => mem
  | addr, w :: ws => writeWords (fun a => if a = addr then w else mem a) (addr + 4) ws

def wordsOf : Bytes → List UInt32
  | a :: b :: c :: d :: rest => getLe32 [a, b, c, d] 0 :: wordsOf rest
  | _ => []

def mcuTypeOf (frame : Bytes) : UInt32 := (getLe32 frame 0 >>> 20) &&& 0x7f

def mcuPayload (frame : Bytes) : Bytes := slice frame 4 (getLe32 frame 0 &&& 0xffff).toNat

/-- What the chip does with a command that writes: the first word is the address. -/
def burstExec (frame : Bytes) (mem : ChipMem) : ChipMem :=
  if mcuTypeOf frame ≠ mtCmdBurstWrite.toUInt32 then mem
  else
    match wordsOf (mcuPayload frame) with
    | [] => mem
    | addr :: words => writeWords mem addr words

/-- The chip carries out the commands it gets in their order. It gets those whose transfer
succeeded, and of the others any that `got` says, by their place. -/
def chipAfter (got : Nat → Bool) : Nat → List Transfer → ChipMem → ChipMem
  | _, [], mem => mem
  | n, .sent _ frame e :: rest, mem =>
    chipAfter got (n + 1) rest (if e = none ∨ got n = true then burstExec frame mem else mem)
  | n, .received _ _ :: rest, mem => chipAfter got (n + 1) rest mem

section Words

theorem writeWords_append (mem : ChipMem) (addr : UInt32) (a b : List UInt32) :
    writeWords mem addr (a ++ b) =
      writeWords (writeWords mem addr a) (addr + UInt32.ofNat a.length * 4) b := by
  induction a generalizing mem addr with
  | nil =>
    change writeWords mem addr b = writeWords mem (addr + 0) b
    rw [UInt32.add_zero]
  | cons w ws ih =>
    have next : addr + 4 + UInt32.ofNat ws.length * 4 = addr + UInt32.ofNat (ws.length + 1) * 4 := by
      rw [UInt32.ofNat_add, UInt32.add_mul, UInt32.add_assoc, UInt32.add_comm 4]
      rfl
    rw [List.cons_append, writeWords, ih, next]
    rfl

theorem toNat_sub_next (a addr : UInt32) :
    (a - (addr + 4)).toNat =
      if (a - addr).toNat < 4 then (a - addr).toNat + (2 ^ 32 - 4) else (a - addr).toNat - 4 := by
  have small := a.toNat_lt
  have smallAddr := addr.toNat_lt
  rw [UInt32.toNat_sub, UInt32.toNat_sub, UInt32.toNat_add]
  change (2 ^ 32 - (addr.toNat + 4) % 2 ^ 32 + a.toNat) % 2 ^ 32 = _
  split <;> omega

theorem toNat_sub_eq_zero {a addr : UInt32} (zero : (a - addr).toNat = 0) : a = addr := by
  have small := a.toNat_lt
  have smallAddr := addr.toNat_lt
  rw [UInt32.toNat_sub] at zero
  apply UInt32.toNat_inj.1
  omega

/-- As long as the addresses do not wrap around, a word that was written is read back, and the
others are as before. -/
theorem writeWords_apply (mem : ChipMem) (addr : UInt32) (ws : List UInt32)
    (short : ws.length ≤ 2 ^ 30) (a : UInt32) :
    writeWords mem addr ws a =
      if (a - addr).toNat % 4 = 0 then ws[(a - addr).toNat / 4]?.getD (mem a) else mem a := by
  induction ws generalizing mem addr with
  | nil => simp [writeWords]
  | cons w ws ih =>
    have lt := (a - addr).toNat_lt
    have bound : ws.length + 1 ≤ 2 ^ 30 := short
    rw [writeWords, ih _ _ (by omega), toNat_sub_next]
    by_cases here : a = addr
    · have zero : (a - addr).toNat = 0 := by
        rw [here, UInt32.sub_self]
        rfl
      have beyond : ws[(0 + (2 ^ 32 - 4)) / 4]? = none := List.getElem?_eq_none (by omega)
      rw [zero, if_pos (by decide), if_pos here, if_pos (by decide), if_pos rfl, beyond]
      rfl
    · have apart : (a - addr).toNat ≠ 0 := fun zero => here (toNat_sub_eq_zero zero)
      rw [if_neg here]
      by_cases near : (a - addr).toNat < 4
      · rw [if_pos near, if_neg (by omega), if_neg (by omega)]
      · have index : (a - addr).toNat / 4 = ((a - addr).toNat - 4) / 4 + 1 := by omega
        have aligned : ((a - addr).toNat - 4) % 4 = (a - addr).toNat % 4 := by omega
        rw [if_neg near, aligned, index, List.getElem?_cons_succ]

/-- Writing the same words again changes nothing. -/
theorem writeWords_again (mem : ChipMem) (addr : UInt32) (ws : List UInt32)
    (short : ws.length ≤ 2 ^ 30) :
    writeWords (writeWords mem addr ws) addr ws = writeWords mem addr ws := by
  funext a
  rw [writeWords_apply _ _ _ short, writeWords_apply _ _ _ short]
  split
  · cases ws[(a - addr).toNat / 4]? with
    | none => rfl
    | some w => rfl
  · rfl

theorem wordsOf_put (w : UInt32) (rest : Bytes) :
    wordsOf (putLe32 w ++ rest) = w :: wordsOf rest := by
  have word := getLe32_put w []
  obtain ⟨a, b, c, d, octets⟩ : ∃ a b c d, putLe32 w = [a, b, c, d] :=
    ⟨_, _, _, _, rfl⟩
  rw [List.append_nil, octets] at word
  rw [octets]
  change getLe32 [a, b, c, d] 0 :: wordsOf rest = _
  rw [word]

theorem wordsOf_flatMap (ws : List UInt32) : wordsOf (ws.flatMap putLe32) = ws := by
  induction ws with
  | nil => rfl
  | cons w ws ih => rw [List.flatMap_cons, wordsOf_put, ih]

end Words

section Chip

variable {got : Nat → Bool}

theorem chipAfter_append (n : Nat) (a b : List Transfer) (mem : ChipMem) :
    chipAfter got n (a ++ b) mem = chipAfter got (n + a.length) b (chipAfter got n a mem) := by
  induction a generalizing n mem with
  | nil => rfl
  | cons t rest ih =>
    have place : n + (t :: rest).length = n + 1 + rest.length := by
      rw [List.length_cons]
      omega
    rw [place]
    cases t with
    | sent ep frame e => exact ih (n + 1) _
    | received ep got => exact ih (n + 1) _

/-- A command that writes, as the chip understands it. -/
theorem burstExec_frame {seq : UInt8} (number : seq.toNat < 16) (addr : UInt32) {ws : List UInt32}
    (short : ws.length ≤ McuDev.burstMax) (mem : ChipMem) :
    burstExec (mcuFrame seq mtCmdBurstWrite (putLe32 addr ++ ws.flatMap putLe32)) mem =
      writeWords mem addr ws := by
  have octets : (ws.flatMap putLe32).length = ws.length * 4 := by
    rw [List.length_flatMap]
    simp [List.map_const']
  have length : (putLe32 addr ++ ws.flatMap putLe32).length = 4 + ws.length * 4 := by
    rw [List.length_append, putLe32_length, octets]
  have few : ws.length ≤ 47 := short
  have small : 4 + ws.length * 4 < 2 ^ 16 := by omega
  have word := mcuInfo_toNat mtCmdBurstWrite small number
  have type : mcuTypeOf (mcuFrame seq mtCmdBurstWrite (putLe32 addr ++ ws.flatMap putLe32)) =
      mtCmdBurstWrite.toUInt32 := by
    have field := @low32 7 20 (mcuInfo seq mtCmdBurstWrite (4 + ws.length * 4)) 0x7f 20 rfl rfl
      (by decide)
    unfold mcuTypeOf
    rw [mcuFrame_info, length]
    apply UInt32.toNat_inj.1
    rw [field, word]
    change _ = 8
    have eight : mtCmdBurstWrite.toNat = 8 := rfl
    omega
  have payload : mcuPayload (mcuFrame seq mtCmdBurstWrite (putLe32 addr ++ ws.flatMap putLe32)) =
      putLe32 addr ++ ws.flatMap putLe32 := by
    have cut : (mcuInfo seq mtCmdBurstWrite (4 + ws.length * 4) &&& 0xffff).toNat =
        4 + ws.length * 4 := by
      rw [UInt32.toNat_and, word]
      refine (Nat.and_two_pow_sub_one_eq_mod _ 16).trans ?_
      omega
    unfold mcuPayload
    rw [mcuFrame_info, length, cut, mcuFrame, List.append_assoc,
      slice_append_right (Nat.le_of_eq (putLe32_length _)), putLe32_length]
    exact slice_append_left length
  unfold burstExec
  rw [if_neg (fun no => no type), payload, wordsOf_put, wordsOf_flatMap]

section Repeated

variable {frame : UInt8 → Bytes} {f : ChipMem → ChipMem} {evs : List Transfer}

/-- A command that is carried out again and again leaves what it left the first time. -/
theorem chipAfter_again (exec : ∀ seq : UInt8, seq.toNat < 16 → ∀ mem, burstExec (frame seq) mem = f mem)
    (again : ∀ mem, f (f mem) = f mem) (only : ∀ t ∈ evs, t.Utters frame) (n : Nat)
    (mem : ChipMem) : chipAfter got n evs (f mem) = f mem := by
  induction evs generalizing n with
  | nil => rfl
  | cons t rest ih =>
    have others := ih fun t mem => only t (List.mem_cons_of_mem _ mem)
    cases t with
    | received ep got => exact others (n + 1)
    | sent ep frame' e =>
      obtain ⟨_, seq, small, rfl⟩ := only _ List.mem_cons_self
      unfold chipAfter
      rw [exec seq small, again, ite_self]
      exact others (n + 1)

variable (got) in
/-- A command that goes out several times is carried out once or not at all, and once if one of
the transfers succeeded. -/
theorem chipAfter_once (exec : ∀ seq : UInt8, seq.toNat < 16 → ∀ mem, burstExec (frame seq) mem = f mem)
    (again : ∀ mem, f (f mem) = f mem) (only : ∀ t ∈ evs, t.Utters frame) (n : Nat)
    (mem : ChipMem) :
    (chipAfter got n evs mem = mem ∨ chipAfter got n evs mem = f mem) ∧
      (McuDev.Delivered frame evs → chipAfter got n evs mem = f mem) := by
  induction evs generalizing n with
  | nil =>
    refine ⟨Or.inl rfl, ?_⟩
    rintro ⟨seq, _, no⟩
    exact absurd no List.not_mem_nil
  | cons t rest ih =>
    have onlyRest : ∀ t ∈ rest, t.Utters frame := fun t mem => only t (List.mem_cons_of_mem _ mem)
    obtain ⟨outcome, delivered⟩ := ih onlyRest (n + 1)
    cases t with
    | received ep got =>
      refine ⟨outcome, ?_⟩
      rintro ⟨seq, small, there⟩
      rcases List.mem_cons.1 there with no | later
      · cases no
      · exact delivered ⟨seq, small, later⟩
    | sent ep frame' e =>
      obtain ⟨_, seq, small, rfl⟩ := only _ List.mem_cons_self
      unfold chipAfter
      by_cases taken : e = none ∨ got n = true
      · rw [if_pos taken, exec seq small, chipAfter_again exec again onlyRest]
        exact ⟨Or.inr rfl, fun _ => rfl⟩
      · rw [if_neg taken]
        refine ⟨outcome, ?_⟩
        rintro ⟨seq', small', there⟩
        rcases List.mem_cons.1 there with first | later
        · injection first with _ _ through
          exact absurd (Or.inl through.symm) taken
        · exact delivered ⟨seq', small', later⟩

end Repeated

end Chip

namespace McuDev

variable {σ : Type} {u : Usb σ}

theorem take_front (n k : Nat) (vals : List UInt32) :
    vals.take ((vals.take n).length + k) = vals.take n ++ (vals.drop n).take k := by
  have whole := @List.take_length_add_append _ (vals.take n) (vals.drop n) k
  rwa [List.take_append_drop] at whole

/-- One command of a write, when it is carried out, leaves its words. -/
theorem burst_issued {d d' : McuDev (σ × List Transfer)} (out : 0 < d.nOut) (addr : UInt32)
    {ws : List UInt32} (few : ws.length ≤ burstMax) (waits : Bool) {res : Option Errno}
    (sent : mcuCmd u.logged d mtCmdBurstWrite (putLe32 addr ++ ws.flatMap putLe32) waits =
      (d', res)) :
    ∃ evs, d'.log = d.log ++ evs ∧ d'.nOut = d.nOut ∧
      (asked d'.log).length ≤ (asked d.log).length + (if waits then mcuCmdAttempts else 0) ∧
      ∀ got n mem, (chipAfter got n evs mem = mem ∨ chipAfter got n evs mem = writeWords mem addr ws) ∧
        (res = none → chipAfter got n evs mem = writeWords mem addr ws) := by
  obtain ⟨k, few', evs, asking, issued, delivered⟩ := perform_issued (u := u)
    ⟨mtCmdBurstWrite, putLe32 addr ++ ws.flatMap putLe32, waits⟩ out
  have bound : ws.length ≤ 47 := few
  have short : ws.length ≤ 2 ^ 30 := by omega
  rw [perform, sent] at issued delivered
  refine ⟨evs, issued.log, issued.nOut, ?_, fun got n mem => ?_⟩
  · have total := congrArg List.length issued.frames
    rw [List.length_append, List.length_map, List.length_range] at total
    change (asked d'.log).length = _ at total
    cases waits with
    | true =>
      rw [if_pos rfl]
      omega
    | false =>
      have none : ¬0 < k := fun some => nomatch (asking some).2
      rw [if_neg (by decide)]
      omega
  obtain ⟨outcome, whole⟩ := chipAfter_once got
    (fun seq small mem => burstExec_frame small addr few mem)
    (fun mem => writeWords_again mem addr ws short) issued.only n mem
  exact ⟨outcome, fun done => whole (delivered done).1⟩

/-- All words are written, or those of the commands before a failure and perhaps those of the
command that failed. -/
theorem mcuBurstFrom_written (offset : UInt32) (off : Nat) (vals : List UInt32)
    (d : McuDev (σ × List Transfer)) (out : 0 < d.nOut) :
    ∃ evs, (mcuBurstFrom u.logged offset off vals d).1.log = d.log ++ evs ∧
      (mcuBurstFrom u.logged offset off vals d).1.nOut = d.nOut ∧
      (asked (mcuBurstFrom u.logged offset off vals d).1.log).length ≤
        (asked d.log).length + (if vals = [] then 0 else mcuCmdAttempts) ∧
      ∀ got n mem, ∃ k ≤ vals.length,
        chipAfter got n evs mem =
          writeWords mem (mtMcuMemmapWlan + offset + UInt32.ofNat off * 4) (vals.take k) ∧
        ((mcuBurstFrom u.logged offset off vals d).2 = none → k = vals.length) := by
  induction off, vals, d using mcuBurstFrom.induct u.logged offset with
  | case1 off d =>
    unfold mcuBurstFrom
    exact ⟨[], (List.append_nil _).symm, rfl, Nat.le_add_right _ _, fun _ _ _ => ⟨0, Nat.le_refl _, rfl, fun _ => rfl⟩⟩
  | case2 off vals d more now rest addr d' e sent =>
    obtain ⟨evs, log, nOut, numbers, chip⟩ :=
      burst_issued out addr (List.length_take_le _ _) _ sent
    unfold mcuBurstFrom
    rw [if_neg more]
    dsimp only
    rw [sent]
    refine ⟨evs, log, nOut, ?_, fun got n mem => ?_⟩
    · rw [if_neg more]
      refine Nat.le_trans numbers (Nat.add_le_add_left ?_ _)
      split
      · exact Nat.le_refl _
      · exact Nat.zero_le _
    rcases (chip got n mem).1 with untouched | written
    · exact ⟨0, Nat.zero_le _, untouched, fun no => nomatch no⟩
    · refine ⟨now.length, List.length_take_le' _ _, ?_, fun no => nomatch no⟩
      have front := take_front burstMax 0 vals
      rw [List.take_zero, List.append_nil] at front
      rw [written, ← front]
      rfl
  | case3 off vals d more now rest addr d' sent ih =>
    obtain ⟨evs, log, nOut, numbers, chip⟩ :=
      burst_issued out addr (List.length_take_le _ _) _ sent
    obtain ⟨others, logRest, nOutRest, numbersRest, chipRest⟩ := ih (by rw [nOut]; exact out)
    unfold mcuBurstFrom
    rw [if_neg more]
    dsimp only
    rw [sent]
    dsimp only
    refine ⟨evs ++ others, by rw [logRest, log, List.append_assoc], nOutRest.trans nOut, ?_,
      fun got n mem => ?_⟩
    · rw [if_neg more]
      refine Nat.le_trans numbersRest ?_
      by_cases last : rest = []
      · rw [if_pos last]
        rw [last] at numbers
        exact numbers
      · have quiet : rest.isEmpty = false := by simpa using last
        rw [quiet] at numbers
        rw [if_neg last]
        exact Nat.add_le_add_right numbers _
    obtain ⟨k, bound, written, whole⟩ := chipRest got (n + evs.length) (writeWords mem addr now)
    have split : now.length + rest.length = vals.length := by
      rw [← List.length_append, List.take_append_drop]
    refine ⟨now.length + k, by omega, ?_, fun done => by rw [whole done]; exact split⟩
    have front : vals.take (now.length + k) = now ++ rest.take k := take_front burstMax k vals
    have next : addr + UInt32.ofNat now.length * 4 =
        mtMcuMemmapWlan + offset + UInt32.ofNat (off + now.length) * 4 := by
      rw [UInt32.ofNat_add, UInt32.add_mul, ← UInt32.add_assoc]
    rw [chipAfter_append, (chip got n mem).2 rfl, written, front, writeWords_append, next]

/-- Words stand at their addresses, and the rest of the memory is as it was. -/
structure Stands (mem mem' : ChipMem) (addr : UInt32) (ws : List UInt32) : Prop where
  there : ∀ i < ws.length, ws[i]? = some (mem' (addr + UInt32.ofNat i * 4))
  others : ∀ a, (∀ i < ws.length, a ≠ addr + UInt32.ofNat i * 4) → mem' a = mem a

theorem writeWords_stands (mem : ChipMem) (addr : UInt32) {ws : List UInt32}
    (short : ws.length ≤ 2 ^ 30) : Stands mem (writeWords mem addr ws) addr ws where
  there i inside := by
    have off : (addr + UInt32.ofNat i * 4 - addr).toNat = i * 4 := by
      rw [UInt32.add_comm, UInt32.add_sub_cancel, UInt32.toNat_mul, UInt32.toNat_ofNat_of_lt' (by
        change i < 2 ^ 32
        omega)]
      change i * 4 % 2 ^ 32 = i * 4
      omega
    rw [writeWords_apply _ _ _ short, off, if_pos (Nat.mul_mod_left i 4),
      Nat.mul_div_cancel i (by decide), List.getElem?_eq_getElem inside]
    rfl
  others a apart := by
    rw [writeWords_apply _ _ _ short]
    split
    · rename_i aligned
      by_cases inside : (a - addr).toNat / 4 < ws.length
      · refine absurd ?_ (apart _ inside)
        have whole : (a - addr).toNat / 4 * 4 = (a - addr).toNat := by omega
        have back : UInt32.ofNat ((a - addr).toNat / 4) * 4 = a - addr := by
          apply UInt32.toNat_inj.1
          have lt := (a - addr).toNat_lt
          rw [UInt32.toNat_mul, UInt32.toNat_ofNat_of_lt' (by
            change _ < 2 ^ 32
            omega)]
          change _ / 4 * 4 % 2 ^ 32 = _
          rw [whole]
          exact Nat.mod_eq_of_lt lt
        rw [back, UInt32.add_comm, UInt32.sub_add_cancel]
      · rw [List.getElem?_eq_none (Nat.le_of_not_lt inside)]
        rfl
    · rfl

theorem mcuBurstWrite_done {d d' : McuDev (σ × List Transfer)} (out : 0 < d.nOut) {offset : UInt32}
    {vals : List UInt32} (short : vals.length ≤ 2 ^ 30)
    (done : mcuBurstWrite u.logged d offset vals = (d', none)) :
    ∃ evs, d'.log = d.log ++ evs ∧ d'.nOut = d.nOut ∧
      ∀ got n mem, Stands mem (chipAfter got n evs mem) (mtMcuMemmapWlan + offset) vals := by
  obtain ⟨evs, log, nOut, _, chip⟩ := mcuBurstFrom_written (u := u) offset 0 vals d out
  change mcuBurstFrom u.logged offset 0 vals d = _ at done
  rw [done] at log nOut chip
  refine ⟨evs, log, nOut, fun got n mem => ?_⟩
  obtain ⟨k, _, after, whole⟩ := chip got n mem
  have base : mtMcuMemmapWlan + offset + UInt32.ofNat 0 * 4 = mtMcuMemmapWlan + offset :=
    UInt32.add_zero _
  rw [whole rfl, List.take_length, base] at after
  rw [after]
  exact writeWords_stands mem _ short

/-- The tables of the chip after bring-up: no peers, no modes of group keys, attribute 1. -/
structure Blanked (mem mem' : ChipMem) : Prop where
  peers : ∀ i < wcidBlank.length,
    wcidBlank[i]? = some (mem' (mtMcuMemmapWlan + mtWcidAddrBase + UInt32.ofNat i * 4))
  modes : ∀ i < 4, mem' (mtMcuMemmapWlan + mtSkeyModeBase0 + UInt32.ofNat i * 4) = 0
  attrs : ∀ i < nWcid * 2, mem' (mtMcuMemmapWlan + mtWcidAttrBase + UInt32.ofNat i * 4) = 1
  others : ∀ a, (∀ i < wcidBlank.length, a ≠ mtMcuMemmapWlan + mtWcidAddrBase + UInt32.ofNat i * 4) →
    (∀ i < 4, a ≠ mtMcuMemmapWlan + mtSkeyModeBase0 + UInt32.ofNat i * 4) →
    (∀ i < nWcid * 2, a ≠ mtMcuMemmapWlan + mtWcidAttrBase + UInt32.ofNat i * 4) → mem' a = mem a

theorem wcidBlank_length : wcidBlank.length = 256 := by decide +kernel

/-- Words of two tables that do not overlap have different addresses. -/
theorem addr_apart {p q : UInt32} {i j : Nat} (small : i < 2 ^ 28 ∧ j < 2 ^ 28)
    (places : p.toNat < 2 ^ 24 ∧ q.toNat < 2 ^ 24)
    (apart : p.toNat + i * 4 ≠ q.toNat + j * 4) : p + UInt32.ofNat i * 4 ≠ q + UInt32.ofNat j * 4 := by
  intro same
  have values := congrArg UInt32.toNat same
  have index {k : Nat} (k_small : k < 2 ^ 28) : (UInt32.ofNat k * 4).toNat = k * 4 := by
    rw [UInt32.toNat_mul, UInt32.toNat_ofNat_of_lt' (by change k < 2 ^ 32; omega)]
    change k * 4 % 2 ^ 32 = k * 4
    omega
  rw [UInt32.toNat_add, UInt32.toNat_add, index small.1, index small.2] at values
  omega

/-- After a bring-up that succeeds, the tables are blank and nothing else was written. -/
theorem initWcidMem_blanks {d : McuDev (σ × List Transfer)} (out : 0 < d.nOut)
    (success : (initWcidMem u.logged d).2 = none) :
    ∃ evs, (initWcidMem u.logged d).1.log = d.log ++ evs ∧
      ∀ got mem, Blanked mem (chipAfter got d.log.length evs mem) := by
  have alloc := kmalloc_reads (u := u) d (nWcid * 2 * 4)
  have peersShort : wcidBlank.length ≤ 2 ^ 30 := by
    rw [wcidBlank_length]
    decide
  have modesLength : (List.replicate 4 (0 : UInt32)).length = 4 := List.length_replicate
  have attrsLength : (List.replicate (nWcid * 2) (1 : UInt32)).length = 256 := List.length_replicate
  unfold initWcidMem at success ⊢
  split at success
  · cases success
  rename_i d₀ isAlloc
  rw [isAlloc] at alloc
  split at success
  · cases success
  rename_i d₁ peersDone
  have out₀ : 0 < d₀.nOut := by
    rw [alloc.nOut]
    exact out
  obtain ⟨evs₁, log₁, nOut₁, peers⟩ := mcuBurstWrite_done out₀ peersShort peersDone
  split at success
  · cases success
  rename_i d₂ modesDone
  have out₁ : 0 < d₁.nOut := by
    rw [nOut₁]
    exact out₀
  obtain ⟨evs₂, log₂, nOut₂, modes⟩ := mcuBurstWrite_done out₁ (by rw [modesLength]; decide) modesDone
  have out₂ : 0 < d₂.nOut := by
    rw [nOut₂]
    exact out₁
  obtain ⟨d₃, attrsDone⟩ : ∃ d₃, mcuBurstWrite u.logged d₂ mtWcidAttrBase
      (List.replicate (nWcid * 2) 1) = (d₃, none) := ⟨_, Prod.ext rfl success⟩
  obtain ⟨evs₃, log₃, _, attrs⟩ := mcuBurstWrite_done out₂ (by rw [attrsLength]; decide) attrsDone
  rw [attrsDone]
  refine ⟨evs₁ ++ (evs₂ ++ evs₃), ?_, fun got mem => ?_⟩
  · have log₀ : d₀.log = d.log := alloc.log.trans (List.append_nil _)
    rw [log₃, log₂, log₁, log₀, List.append_assoc, List.append_assoc]
  rw [chipAfter_append, chipAfter_append]
  have first := peers got d.log.length mem
  set mem₁ := chipAfter got d.log.length evs₁ mem
  have second := modes got (d.log.length + evs₁.length) mem₁
  set mem₂ := chipAfter got (d.log.length + evs₁.length) evs₂ mem₁
  have third := attrs got (d.log.length + evs₁.length + evs₂.length) mem₂
  set mem₃ := chipAfter got (d.log.length + evs₁.length + evs₂.length) evs₃ mem₂
  refine ⟨fun i inside => ?_, fun i inside => ?_, fun i inside => ?_, fun a p m q => ?_⟩
  · rw [first.there i inside]
    rw [wcidBlank_length] at inside
    refine congrArg some ?_
    rw [third.others, second.others]
    · intro j small
      rw [modesLength] at small
      exact addr_apart ⟨by omega, by omega⟩ (by decide) (by
        change 0x411800 + i * 4 ≠ 0x41b000 + j * 4
        omega)
    · intro j small
      rw [attrsLength] at small
      exact addr_apart ⟨by omega, by omega⟩ (by decide) (by
        change 0x411800 + i * 4 ≠ 0x41a800 + j * 4
        omega)
  · have stands := second.there i (by rw [modesLength]; exact inside)
    rw [List.getElem?_replicate, if_pos inside] at stands
    rw [third.others]
    · exact (Option.some.inj stands).symm
    · intro j small
      rw [attrsLength] at small
      exact addr_apart ⟨by omega, by omega⟩ (by decide) (by
        change 0x41b000 + i * 4 ≠ 0x41a800 + j * 4
        omega)
  · have stands := third.there i (by rw [attrsLength]; exact inside)
    rw [List.getElem?_replicate, if_pos inside] at stands
    exact (Option.some.inj stands).symm
  · rw [third.others a (by rw [attrsLength]; exact q), second.others a (by
      rw [modesLength]
      exact m), first.others a p]

theorem initWcidMem_blanks_demo :
    ∃ evs, (initWcidMem demoUsb.logged demoMcu).1.log = evs ∧
      Blanked (fun _ => 7) (chipAfter (fun _ => false) 0 evs fun _ => 7) := by
  have success : (initWcidMem demoUsb.logged demoMcu).2 = none := by decide +kernel
  obtain ⟨evs, log, blanked⟩ := initWcidMem_blanks (u := demoUsb) (d := demoMcu) (by decide) success
  exact ⟨evs, log, blanked _ _⟩

end McuDev

end Rf2a4m1
