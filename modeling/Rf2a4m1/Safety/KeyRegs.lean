import Rf2a4m1.Glue.Regs
import Rf2a4m1.Lib.Fields
import Rf2a4m1.Safety.HwKeys

/-!
# The key table of the chip

The registers that are written when the keys are installed are read back as the
key table the driver believes in, whatever transfers had to be repeated, and no
other register is touched, whatever failed for good.
-/

set_option autoImplicit false

namespace Rf2a4m1

open ByteString Halves

section Requests

variable {fate : Nat → Ctl} {alloc : Nat → Bool} {b : ChipBus} {off val x : UInt16}

namespace ChipBus

/-- A write reaches its cell or no cell. -/
theorem writeRequest_cells (fate : Nat → Ctl) (off val : UInt16) (left : Nat) (b : ChipBus) :
    (b.writeRequest fate off val left).1.cells = b.cells ∨
      (b.writeRequest fate off val left).1.cells = write b.cells off val := by
  induction left generalizing b with
  | zero => exact .inl rfl
  | succ left ih =>
    unfold writeRequest
    cases fate b.turn with
    | done whole => exact .inr rfl
    | gone => exact .inl rfl
    | failed e reached =>
      dsimp only
      have now : (if reached = true then write b.cells off val else b.cells) = b.cells ∨
          (if reached = true then write b.cells off val else b.cells) = write b.cells off val := by
        cases reached
        · exact .inl rfl
        · exact .inr rfl
      split
      · exact now
      · rcases ih { b.next with cells := if reached then write b.cells off val else b.cells } with
          kept | written
        · rw [kept]
          exact now
        · rw [written]
          rcases now with same | same
          · exact .inr (by rw [same])
          · exact .inr (by rw [same, write_write])

theorem readRequest_cells (fate : Nat → Ctl) (off : UInt16) (left : Nat) (b : ChipBus) :
    (b.readRequest fate off left).1.cells = b.cells := by
  induction left generalizing b with
  | zero => rfl
  | succ left ih =>
    unfold readRequest
    cases fate b.turn with
    | done whole => rfl
    | gone => rfl
    | failed e reached => exact ih b.next

theorem regRead_cells (fate : Nat → Ctl) (alloc : Nat → Bool) (off : UInt16) (b : ChipBus) :
    (b.regRead fate alloc off).1.cells = b.cells := by
  unfold regRead
  split
  · rfl
  · exact readRequest_cells fate off _ b

/-- A cell that no half of a register is. -/
theorem regWrite_other (fate : Nat → Ctl) (v : UInt32) (b : ChipBus) (low : x ≠ off)
    (high : x ≠ off + 2) : (b.regWrite fate off v).1.cells x = b.cells x := by
  have cell (val : UInt16) (b : ChipBus) (o : UInt16) (other : x ≠ o) :
      (b.writeRequest fate o val mtVendReqMaxRetry).1.cells x = b.cells x := by
    rcases b.writeRequest_cells fate o val mtVendReqMaxRetry with same | same
    · rw [same]
    · rw [same, write_other other]
  have first := cell v.toUInt16 b off low
  unfold regWrite
  split
  · rename_i eq
    rw [eq] at first
    exact first
  · rename_i eq
    rw [eq] at first
    exact (cell _ _ _ high).trans first

theorem regWrites_other {l : List (UInt16 × UInt32)} (fate : Nat → Ctl) (b : ChipBus)
    (other : ∀ r ∈ l.map Prod.fst, x ≠ r ∧ x ≠ r + 2) :
    (b.regWrites fate l).cells x = b.cells x := by
  induction l generalizing b with
  | nil => rfl
  | cons w rest ih =>
    obtain ⟨low, high⟩ := other w.1 List.mem_cons_self
    exact (ih (b.regWrite fate w.1 w.2).1 fun r mem => other r (List.mem_cons_of_mem _ mem)).trans
      (regWrite_other fate w.2 b low high)

end ChipBus

/-- Every request succeeds before it is given up, and there is memory for it. -/
structure Transient (fate : Nat → Ctl) (alloc : Nat → Bool) : Prop where
  recovers : ∀ n, ∃ k < mtVendReqMaxRetry,
    (∀ j < k, ∃ e reached, fate (n + j) = .failed e reached) ∧ fate (n + k) = .done true
  memory : ∀ n, alloc n = true

namespace ChipBus

theorem writeRequest_recovers {left k : Nat} (enough : k < left)
    (fails : ∀ j < k, ∃ e reached, fate (b.turn + j) = .failed e reached)
    (ends : fate (b.turn + k) = .done true) :
    ∃ turn, b.writeRequest fate off val left = (⟨write b.cells off val, turn⟩, none) := by
  induction k generalizing b left with
  | zero =>
    obtain ⟨left, rfl⟩ := Nat.exists_eq_succ_of_ne_zero (Nat.ne_of_gt enough)
    have now : fate b.turn = .done true := ends
    refine ⟨b.turn + 1, ?_⟩
    unfold writeRequest
    rw [now]
    rfl
  | succ k ih =>
    obtain ⟨left, rfl⟩ := Nat.exists_eq_succ_of_ne_zero (Nat.ne_of_gt (Nat.zero_lt_of_lt enough))
    obtain ⟨e, reached, now⟩ := fails 0 (Nat.succ_pos k)
    have now : fate b.turn = .failed e reached := now
    have more : left ≠ 0 := by omega
    obtain ⟨turn, rest⟩ := @ih
      { b.next with cells := if reached then write b.cells off val else b.cells } left (by omega)
      (fun j small => by
        obtain ⟨e, reached, at_⟩ := fails (j + 1) (by omega)
        exact ⟨e, reached, (congrArg fate (by dsimp only [next]; omega)).trans at_⟩)
      ((congrArg fate (by dsimp only [next]; omega)).trans ends)
    refine ⟨turn, ?_⟩
    unfold writeRequest
    rw [now]
    dsimp only
    rw [if_neg more, rest]
    cases reached
    · rfl
    · dsimp only
      rw [if_pos rfl, write_write]

theorem readRequest_recovers {left k : Nat} (enough : k < left)
    (fails : ∀ j < k, ∃ e reached, fate (b.turn + j) = .failed e reached)
    (ends : fate (b.turn + k) = .done true) :
    ∃ turn, b.readRequest fate off left = (⟨b.cells, turn⟩, some (get b.cells off)) := by
  induction k generalizing b left with
  | zero =>
    obtain ⟨left, rfl⟩ := Nat.exists_eq_succ_of_ne_zero (Nat.ne_of_gt enough)
    have now : fate b.turn = .done true := ends
    refine ⟨b.turn + 1, ?_⟩
    unfold readRequest
    rw [now]
    rfl
  | succ k ih =>
    obtain ⟨left, rfl⟩ := Nat.exists_eq_succ_of_ne_zero (Nat.ne_of_gt (Nat.zero_lt_of_lt enough))
    obtain ⟨e, reached, now⟩ := fails 0 (Nat.succ_pos k)
    have now : fate b.turn = .failed e reached := now
    obtain ⟨turn, rest⟩ := @ih b.next left (by omega)
      (fun j small => by
        obtain ⟨e, reached, at_⟩ := fails (j + 1) (by omega)
        exact ⟨e, reached, (congrArg fate (by dsimp only [next]; omega)).trans at_⟩)
      ((congrArg fate (by dsimp only [next]; omega)).trans ends)
    refine ⟨turn, ?_⟩
    unfold readRequest
    rw [now]
    exact rest

variable (transient : Transient fate alloc)

include transient

/-- A register that is written has its value, one that is read shows it. -/
theorem regWrite_recovers (off : UInt16) (v : UInt32) (b : ChipBus) :
    (b.regWrite fate off v).1.cells = put b.cells off v := by
  obtain ⟨k, enough, fails, ends⟩ := transient.recovers b.turn
  obtain ⟨turn, low⟩ := @writeRequest_recovers fate b off v.toUInt16 _ k enough fails ends
  obtain ⟨k', enough', fails', ends'⟩ := transient.recovers turn
  obtain ⟨turn', high⟩ := @writeRequest_recovers fate ⟨write b.cells off v.toUInt16, turn⟩ (off + 2)
    (v >>> 16).toUInt16 _ k' enough' fails' ends'
  unfold regWrite
  rw [low]
  dsimp only
  rw [high]
  rfl

theorem regRead_recovers (off : UInt16) (b : ChipBus) :
    (b.regRead fate alloc off).2 = get b.cells off := by
  obtain ⟨k, enough, fails, ends⟩ := transient.recovers b.turn
  obtain ⟨turn, value⟩ := @readRequest_recovers fate b off _ k enough fails ends
  unfold regRead
  rw [transient.memory, value]
  rfl

theorem regWrites_recovers (l : List (UInt16 × UInt32)) (b : ChipBus) :
    (b.regWrites fate l).cells = putAll l b.cells := by
  induction l generalizing b with
  | nil => rfl
  | cons w rest ih =>
    refine (ih (b.regWrite fate w.1 w.2).1).trans ?_
    rw [regWrite_recovers transient]
    rfl

end ChipBus

end Requests

section Image

variable (peer : MacAddr) (key gtk : Octets 16) (c : Memory)

/-- The pairwise key, its drop bit and the first group key with its cipher. -/
def keyImage₁ : List (UInt16 × UInt32) :=
  pairwiseWords peer key ++ [(mtWcidDrop hwWcidIdx, get c (mtWcidDrop hwWcidIdx) &&& 0xfffffffd)] ++
    keyWords (mtSkey 1) gtk ++ [(mtSkeyMode0, skeyModeSet 1 (get c mtSkeyMode0))]

/-- The second group key with its cipher, and the BSSID. -/
def keyImage₂ : List (UInt16 × UInt32) :=
  keyWords (mtSkey 2) gtk ++ [(mtSkeyMode0, skeyModeSet 2 (skeyModeSet 1 (get c mtSkeyMode0)))] ++
    macWords mtMacBssidDw0 peer

/-- The registers of the key table. -/
def keyRegs : List UInt16 :=
  (keyImage₁ (Octets.zero 6) (Octets.zero 16) (Octets.zero 16) fun _ => 0).map Prod.fst ++
    (keyImage₂ (Octets.zero 6) (Octets.zero 16) fun _ => 0).map Prod.fst

/-- No two registers of a part share a cell; the registers do not depend on what is written. -/
theorem keyImage₁_apart :
    ((keyImage₁ peer key gtk c).map Prod.fst).Pairwise fun a b => Apart a b := by
  change ((keyImage₁ (Octets.zero 6) (Octets.zero 16) (Octets.zero 16) fun _ => 0).map
    Prod.fst).Pairwise fun a b => Apart a b
  decide +kernel

/-- The second part writes one register of the first part again, and it is the last one. -/
theorem images_apart : ((pairwiseWords peer key ++
    [(mtWcidDrop hwWcidIdx, get c (mtWcidDrop hwWcidIdx) &&& 0xfffffffd)] ++
      keyWords (mtSkey 1) gtk ++ keyImage₂ peer gtk c).map Prod.fst).Pairwise
        fun a b => Apart a b := by
  change ((pairwiseWords (Octets.zero 6) (Octets.zero 16) ++ [(mtWcidDrop hwWcidIdx, (0 : UInt32))] ++
    keyWords (mtSkey 1) (Octets.zero 16) ++
      keyImage₂ (Octets.zero 6) (Octets.zero 16) fun _ => 0).map Prod.fst).Pairwise
        fun a b => Apart a b
  decide +kernel

theorem drop_apart :
    ∀ r ∈ (pairwiseWords peer key).map Prod.fst, Apart (mtWcidDrop hwWcidIdx) r := by
  have all := keyImage₁_apart peer key (Octets.zero 16) fun _ => 0
  unfold keyImage₁ at all
  exact apart_last (apart_append (apart_append all).1).1

theorem mode_apart_first :
    ∀ r ∈ (pairwiseWords peer key ++
      [(mtWcidDrop hwWcidIdx, get c (mtWcidDrop hwWcidIdx) &&& 0xfffffffd)] ++
        keyWords (mtSkey 1) gtk).map Prod.fst, Apart mtSkeyMode0 r := by
  have all := keyImage₁_apart peer key gtk c
  unfold keyImage₁ at all
  exact apart_last all

theorem mode_apart_second : ∀ r ∈ (keyWords (mtSkey 2) gtk).map Prod.fst, Apart mtSkeyMode0 r := by
  have images := images_apart (Octets.zero 6) (Octets.zero 16) gtk fun _ => 0
  have all := (apart_append images).2.1
  unfold keyImage₂ at all
  exact apart_last (apart_append all).1

end Image

section Install

variable {fate : Nat → Ctl} {alloc : Nat → Bool} {gid : UInt16}
variable (transient : Transient fate alloc) (peer : MacAddr) (key gtk : Octets 16) (b : ChipBus)

include transient

theorem installGroupKey_recovers
    (apart : ∀ r ∈ (keyWords (mtSkey gid) gtk).map Prod.fst, Apart mtSkeyMode0 r) :
    (b.installGroupKey fate alloc gtk gid).cells =
      putAll (keyWords (mtSkey gid) gtk ++
        [(mtSkeyMode0, skeyModeSet gid (get b.cells mtSkeyMode0))]) b.cells := by
  have words := ChipBus.regWrites_recovers transient (keyWords (mtSkey gid) gtk) b
  have mode := ChipBus.regRead_recovers transient mtSkeyMode0
    (b.regWrites fate (keyWords (mtSkey gid) gtk))
  have kept := (b.regWrites fate (keyWords (mtSkey gid) gtk)).regRead_cells fate alloc mtSkeyMode0
  rw [words, get_putAll_apart apart] at mode
  rw [words] at kept
  unfold ChipBus.installGroupKey
  dsimp only
  rw [ChipBus.regWrite_recovers transient, mode, kept, putAll_append]
  rfl

/-- The bits under the mask are replaced, the others kept. -/
theorem regRmw_recovers (off : UInt16) (mask val : UInt32) :
    (b.regRmw fate alloc off mask val).1.cells =
      put b.cells off (val ||| (get b.cells off &&& ~~~mask)) := by
  unfold ChipBus.regRmw
  dsimp only
  rw [ChipBus.regWrite_recovers transient, ChipBus.regRead_recovers transient,
    ChipBus.regRead_cells]

/-- When every request recovers, the registers are those of the image. -/
theorem installKeys_recovers :
    (b.installKeys fate alloc peer key gtk).cells =
      putAll (keyImage₂ peer gtk b.cells) (putAll (keyImage₁ peer key gtk b.cells) b.cells) := by
  have pairwise : ((b.regWrites fate (pairwiseWords peer key)).regRmw fate alloc
      (mtWcidDrop hwWcidIdx) (mtWcidDropMask hwWcidIdx) 0).1.cells =
      putAll (pairwiseWords peer key ++
        [(mtWcidDrop hwWcidIdx, get b.cells (mtWcidDrop hwWcidIdx) &&& 0xfffffffd)]) b.cells := by
    rw [regRmw_recovers transient, ChipBus.regWrites_recovers transient,
      get_putAll_apart (drop_apart peer key), putAll_append, UInt32.zero_or]
    rfl
  unfold ChipBus.installKeys
  dsimp only
  generalize ((b.regWrites fate (pairwiseWords peer key)).regRmw fate alloc
    (mtWcidDrop hwWcidIdx) (mtWcidDropMask hwWcidIdx) 0).1 = b₁ at pairwise ⊢
  have mode := mode_apart_first peer key gtk b.cells
  rw [List.map_append, List.forall_mem_append] at mode
  have mode₁ : get b₁.cells mtSkeyMode0 = get b.cells mtSkeyMode0 := by
    rw [pairwise, get_putAll_apart mode.1]
  have group₁ : (b₁.installGroupKey fate alloc gtk 1).cells =
      putAll (keyImage₁ peer key gtk b.cells) b.cells := by
    rw [installGroupKey_recovers transient gtk b₁ mode.2, mode₁,
      pairwise, ← putAll_append, ← List.append_assoc]
    rfl
  have mode₂ : get (b₁.installGroupKey fate alloc gtk 1).cells mtSkeyMode0 =
      skeyModeSet 1 (get b.cells mtSkeyMode0) := by
    rw [group₁]
    exact get_putAll (keyImage₁_apart peer key gtk b.cells) (List.mem_append_right _ (.head _))
  have group₂ : ((b₁.installGroupKey fate alloc gtk 1).installGroupKey fate alloc gtk 2).cells =
      putAll (keyWords (mtSkey 2) gtk ++
        [(mtSkeyMode0, skeyModeSet 2 (skeyModeSet 1 (get b.cells mtSkeyMode0)))])
        (putAll (keyImage₁ peer key gtk b.cells) b.cells) := by
    rw [installGroupKey_recovers transient gtk _ (mode_apart_second gtk), mode₂, group₁]
  simp only [List.foldl_cons, List.foldl_nil, ChipBus.regRead_cells]
  rw [ChipBus.regWrites_recovers transient, group₂, ← putAll_append]
  rfl

end Install

section Table

/-- The address in two registers. -/
def readMac (c : Memory) (base : UInt16) : MacAddr :=
  Octets.of 6 (putLe32 (get c base) ++ putLe16 (get c (base + 4)).toUInt16)

/-- The key in the lower half of a slot. -/
def readKey (c : Memory) (base : UInt16) : Octets 16 :=
  Octets.of 16 ((List.range 4).flatMap fun i => putLe32 (get c (base + UInt16.ofNat i * 4)))

/-- The key table that the registers hold. -/
def keyTable (c : Memory) : KeyTable :=
  { wcidAddr := readMac c (mtWcidAddr hwWcidIdx), wcidTk := readKey c (mtWcidKey hwWcidIdx)
    skey1 := readKey c (mtSkey 1), skey2 := readKey c (mtSkey 2)
    macBssid := readMac c mtMacBssidDw0 }

variable {c : Memory} {base : UInt16} {b : Bytes} {off : Nat}

theorem slice_all (length : b.length = off) : slice b 0 off = b := by
  rw [slice, List.drop_zero, List.take_of_length_le (Nat.le_of_eq length)]

theorem putLe32_getLe32 (inside : off + 4 ≤ b.length) :
    putLe32 (getLe32 b off) = slice b off 4 := by
  have length : (slice b off 4).length = 4 := by
    rw [slice_length]
    omega
  have small : ofLe (slice b off 4) < 2 ^ 32 := by
    have := ofLe_lt (slice b off 4)
    rwa [length] at this
  have back := le_ofLe (slice b off 4)
  rw [length] at back
  rw [putLe32, getLe32, UInt32.toNat_ofNat_of_lt' small, back]

/-- Two octets in the lower half of a register. -/
theorem putLe16_pair (x y : UInt8) :
    putLe16 (x.toUInt32 ||| (y.toUInt32 <<< 8)).toUInt16 = [x, y] := by
  have hx := x.toNat_lt
  have hy := y.toNat_lt
  have value : (x.toUInt32 ||| (y.toUInt32 <<< 8)).toNat = x.toNat + y.toNat * 2 ^ 8 :=
    Fields.or32 x.toNat_toUInt32 y.toNat_toUInt32 rfl (by decide) hx (by omega)
  rw [putLe16, UInt32.toNat_toUInt16, value]
  have first : UInt8.ofNat ((x.toNat + y.toNat * 2 ^ 8) % 2 ^ 16) = x := by
    apply UInt8.toNat_inj.1
    rw [UInt8.toNat_ofNat']
    omega
  have second : UInt8.ofNat ((x.toNat + y.toNat * 2 ^ 8) % 2 ^ 16 / 256) = y := by
    apply UInt8.toNat_inj.1
    rw [UInt8.toNat_ofNat']
    omega
  rw [le, le, le, first, second]

theorem readMac_written {mac : MacAddr} (written : ∀ w ∈ macWords base mac, get c w.1 = w.2) :
    readMac c base = mac := by
  have low : get c base = getLe32 mac.bytes 0 := written _ (.head _)
  have high : get c (base + 4) = _ := written _ (.tail _ (.head _))
  have length := mac.length_eq
  have pair : slice mac.bytes 4 2 = [byteAt mac.bytes 4, byteAt mac.bytes 5] := by
    rw [slice_succ (by omega), slice_succ (by omega), slice, List.take_zero]
  have whole : slice mac.bytes 0 4 ++ slice mac.bytes 4 2 = mac.bytes := by
    rw [← slice_add, slice_all length]
  rw [readMac, low, high, putLe16_pair, putLe32_getLe32 (by omega), ← pair, whole, Octets.of_bytes]

theorem readKey_written {key : Octets 16} (written : ∀ w ∈ keyWords base key, get c w.1 = w.2) :
    readKey c base = key := by
  have word (i : Nat) (small : i < 4) :
      putLe32 (get c (base + UInt16.ofNat i * 4)) = slice key.bytes (i * 4) 4 := by
    have value := written _ (List.mem_append_left _ (List.mem_map_of_mem (List.mem_range.2 small)))
    dsimp only at value
    rw [value, putLe32_getLe32 (by rw [key.length_eq]; omega)]
  have whole : slice key.bytes 0 4 ++ (slice key.bytes 4 4 ++ (slice key.bytes 8 4 ++
      slice key.bytes 12 4)) = key.bytes := by
    rw [← slice_add, ← slice_add, ← slice_add, slice_all key.length_eq]
  have flat : ((List.range 4).flatMap fun i => putLe32 (get c (base + UInt16.ofNat i * 4))) =
      key.bytes := by
    have four : List.range 4 = [0, 1, 2, 3] := rfl
    rw [four, List.flatMap_cons, List.flatMap_cons, List.flatMap_cons, List.flatMap_cons,
      List.flatMap_nil, List.append_nil, word 0 (by omega), word 1 (by omega), word 2 (by omega),
      word 3 (by omega)]
    exact whole
  rw [readKey, flat, Octets.of_bytes]

end Table

/-- What else the slots of the keys need, and what is kept of the registers that other slots
share. -/
structure CcmpSlots (old new : Memory) : Prop where
  attr : get new (mtWcidAttr hwWcidIdx) = 9
  iv : get new (mtWcidIv hwWcidIdx) = 0x20000001
  eiv : get new (mtWcidIv hwWcidIdx + 4) = 0
  upper : ∀ base ∈ [mtWcidKey hwWcidIdx, mtSkey 1, mtSkey 2], ∀ i ∈ List.range' 4 4,
    get new (base + UInt16.ofNat i * 4) = 0
  drop : get new (mtWcidDrop hwWcidIdx) = get old (mtWcidDrop hwWcidIdx) &&& 0xfffffffd
  mode : get new mtSkeyMode0 = (get old mtSkeyMode0 &&& 0xfffff00f) ||| 0x440

/-- The ciphers of both group key slots are those of CCMP, the other slots keep theirs. -/
theorem skeyModeSet_both (m : UInt32) :
    skeyModeSet 2 (skeyModeSet 1 m) = (m &&& 0xfffff00f) ||| 0x440 := by
  have distrib (a b c : UInt32) : (a ||| b) &&& c = (a &&& c) ||| (b &&& c) := by
    apply UInt32.toNat_inj.1
    simp only [UInt32.toNat_and, UInt32.toNat_or, Nat.and_or_distrib_right]
  unfold skeyModeSet
  rw [distrib, UInt32.and_assoc, UInt32.or_assoc]
  rfl

section Refine

variable (peer : MacAddr) (key gtk : Octets 16) (c : Memory)

/-- The registers after the first and the second part. -/
def keyed : Memory := putAll (keyImage₂ peer gtk c) (putAll (keyImage₁ peer key gtk c) c)

variable {peer key gtk c} {l : List (UInt16 × UInt32)}

theorem keyed_second (written : l ⊆ keyImage₂ peer gtk c) :
    ∀ w ∈ l, get (keyed peer key gtk c) w.1 = w.2 := by
  intro w mem
  have apart := (apart_append (images_apart peer key gtk c)).2.1
  exact get_putAll apart (written mem)

theorem keyed_pairwise : ∀ w ∈ pairwiseWords peer key ++
    [(mtWcidDrop hwWcidIdx, get c (mtWcidDrop hwWcidIdx) &&& 0xfffffffd)] ++
      keyWords (mtSkey 1) gtk, get (keyed peer key gtk c) w.1 = w.2 := by
  intro w mem
  have kept := (apart_append (images_apart peer key gtk c)).2.2 w mem
  have written : get (putAll (keyImage₁ peer key gtk c) c) w.1 = w.2 :=
    get_putAll (keyImage₁_apart peer key gtk c) (List.mem_append_left _ mem)
  exact (get_putAll_apart kept).trans written

theorem keyed_table : keyTable (keyed peer key gtk c) =
    { wcidAddr := peer, wcidTk := key, skey1 := gtk, skey2 := gtk, macBssid := peer } := by
  have first := @keyed_pairwise peer key gtk c
  have slot (l : List (UInt16 × UInt32)) (part : l ⊆ pairwiseWords peer key) :
      ∀ w ∈ l, get (keyed peer key gtk c) w.1 = w.2 := fun w mem =>
    first w (List.mem_append_left _ (List.mem_append_left _ (part mem)))
  have addr := readMac_written (slot (macWords _ peer) fun w mem =>
    List.mem_append_left _ (List.mem_append_left _ mem))
  have tk := readKey_written (slot (keyWords _ key) fun w mem =>
    List.mem_append_left _ (List.mem_append_right _ mem))
  have skey1 := readKey_written fun w mem => first w (List.mem_append_right _ mem)
  have second := @keyed_second peer key gtk c
  have skey2 := readKey_written (@second (keyWords (mtSkey 2) gtk) fun w mem =>
    List.mem_append_left _ (List.mem_append_left _ mem))
  have bssid := readMac_written (@second (macWords mtMacBssidDw0 peer) fun w mem =>
    List.mem_append_right _ mem)
  unfold keyTable
  rw [addr, tk, skey1, skey2, bssid]

theorem keyed_upper {base : UInt16} {k : Octets 16} {new : Memory}
    (all : ∀ w ∈ keyWords base k, get new w.1 = w.2) :
    ∀ i ∈ List.range' 4 4, get new (base + UInt16.ofNat i * 4) = 0 := fun _ mem =>
  all _ (List.mem_append_right _ (List.mem_map_of_mem mem))

theorem keyed_slots : CcmpSlots c (keyed peer key gtk c) := by
  have first := @keyed_pairwise peer key gtk c
  have second := @keyed_second peer key gtk c
  have own (l : List (UInt16 × UInt32)) (part : l ⊆ pairwiseWords peer key) :
      ∀ w ∈ l, get (keyed peer key gtk c) w.1 = w.2 := fun w mem =>
    first w (List.mem_append_left _ (List.mem_append_left _ (part mem)))
  have ccmp := own [(mtWcidIv hwWcidIdx, 0x20000001), (mtWcidIv hwWcidIdx + 4, 0),
    (mtWcidAttr hwWcidIdx, wcidAttrCcmp)] fun w mem => List.mem_append_right _ mem
  have drop := first (mtWcidDrop hwWcidIdx, get c (mtWcidDrop hwWcidIdx) &&& 0xfffffffd)
    (List.mem_append_left _ (List.mem_append_right _ (.head _)))
  have mode := @second [(mtSkeyMode0, skeyModeSet 2 (skeyModeSet 1 (get c mtSkeyMode0)))]
    (fun w mem => List.mem_append_left _ (List.mem_append_right _ mem)) _ (.head _)
  have pairwise := keyed_upper (own (keyWords (mtWcidKey hwWcidIdx) key) fun w mem =>
    List.mem_append_left _ (List.mem_append_right _ mem))
  have skey1 := keyed_upper fun w mem => first w (List.mem_append_right _ mem)
  have skey2 := keyed_upper (@second (keyWords (mtSkey 2) gtk) fun w mem =>
    List.mem_append_left _ (List.mem_append_left _ mem))
  generalize keyed peer key gtk c = new at ccmp drop mode pairwise skey1 skey2 ⊢
  simp only [List.forall_mem_cons] at ccmp
  obtain ⟨iv, eiv, attr, _⟩ := ccmp
  refine ⟨attr, iv, eiv, ?_, drop, mode.trans (skeyModeSet_both _)⟩
  intro base mem
  simp only [List.mem_cons, List.not_mem_nil, or_false] at mem
  rcases mem with rfl | rfl | rfl
  · exact pairwise
  · exact skey1
  · exact skey2

end Refine

section Frame

variable {x : UInt16} (fate : Nat → Ctl) (alloc : Nat → Bool)

theorem installGroupKey_other {gid : UInt16} (gtk : Octets 16) (b : ChipBus)
    (words : ∀ r ∈ (keyWords (mtSkey gid) gtk).map Prod.fst, x ≠ r ∧ x ≠ r + 2)
    (mode : x ≠ mtSkeyMode0 ∧ x ≠ mtSkeyMode0 + 2) :
    (b.installGroupKey fate alloc gtk gid).cells x = b.cells x := by
  unfold ChipBus.installGroupKey
  dsimp only
  rw [ChipBus.regWrite_other fate _ _ mode.1 mode.2, ChipBus.regRead_cells,
    ChipBus.regWrites_other fate b words]

/-- Every register that is written is one of the key table. -/
theorem keyRegs_all (peer : MacAddr) (key gtk : Octets 16) :
    (pairwiseWords peer key).map Prod.fst ⊆ keyRegs ∧
      (keyWords (mtSkey 1) gtk).map Prod.fst ⊆ keyRegs ∧
      (keyWords (mtSkey 2) gtk).map Prod.fst ⊆ keyRegs ∧
      (macWords mtMacBssidDw0 peer).map Prod.fst ⊆ keyRegs ∧
      mtWcidDrop hwWcidIdx ∈ keyRegs ∧ mtSkeyMode0 ∈ keyRegs := by
  change (pairwiseWords (Octets.zero 6) (Octets.zero 16)).map Prod.fst ⊆ keyRegs ∧
      (keyWords (mtSkey 1) (Octets.zero 16)).map Prod.fst ⊆ keyRegs ∧
      (keyWords (mtSkey 2) (Octets.zero 16)).map Prod.fst ⊆ keyRegs ∧
      (macWords mtMacBssidDw0 (Octets.zero 6)).map Prod.fst ⊆ keyRegs ∧
      mtWcidDrop hwWcidIdx ∈ keyRegs ∧ mtSkeyMode0 ∈ keyRegs
  decide +kernel

/-- Whatever fails, only registers of the key table change. -/
theorem installKeys_other (peer : MacAddr) (key gtk : Octets 16) (b : ChipBus)
    (other : ∀ r ∈ keyRegs, x ≠ r ∧ x ≠ r + 2) :
    (b.installKeys fate alloc peer key gtk).cells x = b.cells x := by
  obtain ⟨pairwise, skey1, skey2, bssid, drop, mode⟩ := keyRegs_all peer key gtk
  have drop := other _ drop
  have mode := other _ mode
  unfold ChipBus.installKeys
  simp only [List.foldl_cons, List.foldl_nil, ChipBus.regRead_cells]
  rw [ChipBus.regWrites_other fate _ fun r mem => other r (bssid mem),
    installGroupKey_other fate alloc gtk _ (fun r mem => other r (skey2 mem)) mode,
    installGroupKey_other fate alloc gtk _ (fun r mem => other r (skey1 mem)) mode]
  unfold ChipBus.regRmw
  dsimp only
  rw [ChipBus.regWrite_other fate _ _ drop.1 drop.2, ChipBus.regRead_cells,
    ChipBus.regWrites_other fate b fun r mem => other r (pairwise mem)]

end Frame

/--
The registers after an install are a key table: that of the driver, in slots
made for CCMP, if every request recovers. Nothing is written without a key,
and no other register is whatever fails.
-/
theorem GlueDev.usbInstallHwKeys_refines (fate : Nat → Ctl) (alloc : Nat → Bool) (d : GlueDev)
    (b : ChipBus) :
    (∀ x, (∀ r ∈ keyRegs, x ≠ r ∧ x ≠ r + 2) →
      (d.usbInstallHwKeys fate alloc b).2.1.cells x = b.cells x) ∧
    ((d.usbInstallHwKeys fate alloc b).2.2 ≠ none →
      d.usbInstallHwKeys fate alloc b = (d, b, (d.usbInstallHwKeys fate alloc b).2.2)) ∧
    (Transient fate alloc →
      { (d.usbInstallHwKeys fate alloc b).1 with
        toKeyTable := keyTable (d.usbInstallHwKeys fate alloc b).2.1.cells } =
        ({ d with toKeyTable := keyTable b.cells } : GlueDev).installHwKeys ∧
      ((d.usbInstallHwKeys fate alloc b).2.2 = none →
        CcmpSlots b.cells (d.usbInstallHwKeys fate alloc b).2.1.cells)) := by
  unfold usbInstallHwKeys installHwKeys
  dsimp only
  by_cases ready : (!d.hwInited) = true
  · rw [if_pos ready, if_pos ready]
    exact ⟨fun _ _ => rfl, fun _ => rfl, fun _ => ⟨rfl, nofun⟩⟩
  rw [if_neg ready, if_neg ready]
  by_cases keys : (!d.sme.ptkInstalled) = true ∨ (!d.sme.dataKeyValid) = true
  · rw [if_pos keys, if_pos keys]
    exact ⟨fun _ _ => rfl, fun _ => rfl, fun _ => ⟨rfl, nofun⟩⟩
  rw [if_neg keys, if_neg keys]
  refine ⟨fun x other => installKeys_other fate alloc _ _ _ b other, fun some => absurd rfl some,
    fun transient => ?_⟩
  have image : (b.installKeys fate alloc d.sme.peer d.sme.installedTk d.sme.gtk).cells =
      keyed d.sme.peer d.sme.installedTk d.sme.gtk b.cells :=
    installKeys_recovers transient _ _ _ b
  dsimp only
  rw [image]
  exact ⟨by rw [keyed_table], fun _ => keyed_slots⟩

/-- Requests that fail twice, the second time behind the chip. -/
def demoFate (n : Nat) : Ctl := if n % 3 = 2 then .done true else .failed .timedout (n % 3 = 1)

theorem GlueDev.usbInstallHwKeys_refines_demo :
    (keyTable ((demoSteps demoLink).usbInstallHwKeys demoFate (fun _ => true)
      ⟨fun _ => 0, 0⟩).2.1.cells).macBssid = demoApMac := by
  have transient : Transient demoFate fun _ => true := by
    refine ⟨fun n => ⟨2 - n % 3, by unfold mtVendReqMaxRetry; omega, fun j small => ?_, ?_⟩,
      fun _ => rfl⟩
    · exact ⟨.timedout, _, if_neg (by omega)⟩
    · exact if_pos (by omega)
  have link : ({ demoSteps demoLink with toKeyTable := keyTable fun _ => 0 } :
      GlueDev).installHwKeys.macBssid = demoApMac := by
    decide +kernel
  obtain ⟨table, _⟩ := (usbInstallHwKeys_refines demoFate (fun _ => true) (demoSteps demoLink)
    ⟨fun _ => 0, 0⟩).2.2 transient
  exact (congrArg (fun d : GlueDev => d.macBssid) table).trans link

end Rf2a4m1
