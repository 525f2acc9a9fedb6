import Rf2a4m1.Lib.Counter
import Rf2a4m1.Lib.Runs
import Rf2a4m1.Crypto.Codec
import Rf2a4m1.Wire.Pmf

/-!
# The packet numbers of group management frames

The transmit counter of a group key is wider than the number a frame carries.
The numbers on the air rise, and a receiver that starts where the sender starts
takes every frame, exactly as long as the counter fits the field.
-/

set_option autoImplicit false

namespace Rf2a4m1

open ByteString Runs

/-- A call that asks for a protected frame: room, header and body. -/
structure GroupCall where
  cap : Nat
  hdr : Octets 24
  body : Bytes

/-- The calls that get a frame. -/
def GroupCall.fits (c : GroupCall) : Bool :=
  decide (c.body.length ≤ 512) && decide (24 + c.body.length + 18 ≤ c.cap)

def groupProtectFrame (k : PmfIgtk) (c : GroupCall) : Option Bytes :=
  (pmfGroupProtect k c.cap c.hdr.bytes c.body).map (·.1)

/-- The key after a call; a call without a frame leaves it. -/
def groupProtectStep (k : PmfIgtk) (c : GroupCall) : PmfIgtk :=
  ((pmfGroupProtect k c.cap c.hdr.bytes c.body).map (·.2)).getD k

def groupFrames (k : PmfIgtk) (calls : List GroupCall) : List Bytes :=
  observed groupProtectStep groupProtectFrame k calls

/-- Whether a receiver takes the frames one after the other. -/
def groupVerifyAll (k : PmfIgtk) (frames : List Bytes) : Bool :=
  allAlong (fun k frame => (pmfGroupVerify k frame).2)
    (fun k frame => decide ((pmfGroupVerify k frame).1 = .ok)) k frames

section Frames

variable {k : PmfIgtk} {c : GroupCall}

theorem mmieIpn_parts {h body : Bytes} {keyId : UInt16} {ipn : Octets 6} {mic : Octets 8} :
    mmieIpn (h ++ body ++ mmieBytes keyId ipn mic) = ofBe ipn.bytes := by
  have field : slice (h ++ body ++ mmieBytes keyId ipn mic)
      ((h ++ body ++ mmieBytes keyId ipn mic).length - 14) 6 = ipn.bytes := by
    have start : (h ++ body ++ mmieBytes keyId ipn mic).length - 14 = (h ++ body).length + 4 := by
      rw [List.length_append, mmieBytes_length]
      omega
    rw [start, slice_append_right (Nat.le_add_right ..), Nat.add_sub_cancel_left, mmieBytes,
      List.append_assoc, slice_append_right (by simp)]
    exact slice_append_left ipn.length_bytes
  rw [mmieIpn, field]

/-- The frame a call gets, with the number its element carries. -/
theorem pmfGroupProtect_fits (installed : k.installed = true) (fits : c.fits = true) :
    ∃ frame, pmfGroupProtect k c.cap c.hdr.bytes c.body =
        some (frame, { k with ipnTx := k.ipnTx + 1 }) ∧
      BipProduced frame k.key ∧ mmieIpn frame = (k.ipnTx + 1) % 2 ^ 48 := by
  rw [GroupCall.fits, Bool.and_eq_true, decide_eq_true_eq, decide_eq_true_eq] at fits
  have header : slice c.hdr.bytes 0 24 = c.hdr.bytes := by
    rw [slice, List.drop_zero, List.take_of_length_le (Nat.le_of_eq c.hdr.length_bytes)]
  obtain ⟨mic, computed⟩ : ∃ mic, bipComputeMic c.hdr.bytes c.body
      (mmieBytes k.keyId (Octets.of 6 (be 6 (k.ipnTx + 1))) (Octets.zero 8)) k.key = some mic := by
    rw [bipComputeMic, if_neg (by omega)]
    exact ⟨_, rfl⟩
  have produced : BipProduced (c.hdr.bytes ++ c.body ++
      mmieBytes k.keyId (Octets.of 6 (be 6 (k.ipnTx + 1))) mic) k.key := by
    apply (bipProduced_parts c.hdr.length_bytes (mmieBytes_length ..)).2
    refine ⟨rfl, rfl, mic, ?_, (mmieBytes_mic ..).symm⟩
    rw [← computed]
    exact bipComputeMic_congr rfl (mmieBytes_head ..)
  refine ⟨_, ?_, produced, ?_⟩
  · rw [pmfGroupProtect, installed, Bool.not_true, if_neg Bool.false_ne_true]
    dsimp only
    rw [bipMmieProtect, if_neg (by omega), computed, header]
    rfl
  · rw [mmieIpn_parts, Octets.of_bytes_of_length (be_length ..), ofBe_be]
    rfl

theorem pmfGroupProtect_unfit (unfit : c.fits = false) :
    pmfGroupProtect k c.cap c.hdr.bytes c.body = none := by
  have refused : c.body.length > 512 ∨ 24 + c.body.length + 18 > c.cap := by
    rw [GroupCall.fits, Bool.and_eq_false_iff, decide_eq_false_iff_not,
      decide_eq_false_iff_not] at unfit
    omega
  unfold pmfGroupProtect bipMmieProtect
  dsimp only
  rw [if_pos refused]
  exact ite_self _

/-- A receiver takes a frame of its key exactly when the number is above the last one. -/
theorem pmfGroupVerify_produced {r : PmfIgtk} {frame : Bytes} (installed : r.installed = true)
    (produced : BipProduced frame r.key) :
    ((pmfGroupVerify r frame).1 = .ok ↔ r.ipnRx < mmieIpn frame) ∧
      (r.ipnRx < mmieIpn frame →
        (pmfGroupVerify r frame).2 = { r with ipnRx := mmieIpn frame }) := by
  have verify : pmfGroupVerify r frame =
      ((bipMmieVerify frame r.key r.ipnRx).1,
        { r with ipnRx := (bipMmieVerify frame r.key r.ipnRx).2 }) := by
    rw [pmfGroupVerify, installed, Bool.not_true, if_neg Bool.false_ne_true]
  rw [verify, bipMmieVerify_produced produced]
  split
  · rename_i old
    exact ⟨⟨fun ok => (nomatch ok), fun new => absurd old (Nat.not_le.2 new)⟩,
      fun new => absurd old (Nat.not_le.2 new)⟩
  · rename_i new
    exact ⟨⟨fun _ => Nat.not_le.1 new, fun _ => rfl⟩, fun _ => rfl⟩

end Frames

section Sequences

variable {k r : PmfIgtk}

/-- The numbers of the frames are the counts after the first, cut to their field. -/
theorem groupFrames_numbers (installed : k.installed = true) (calls : List GroupCall) :
    (∀ frame ∈ groupFrames k calls, BipProduced frame k.key) ∧
      (groupFrames k calls).map mmieIpn =
        (List.range' (k.ipnTx + 1) (calls.countP (·.fits))).map (· % 2 ^ 48) := by
  induction calls generalizing k with
  | nil => exact ⟨fun frame mem => absurd mem List.not_mem_nil, rfl⟩
  | cons c rest ih =>
    unfold groupFrames at ih ⊢
    rw [observed]
    cases fits : c.fits with
    | false =>
      have refused := @pmfGroupProtect_unfit k c fits
      have stays : groupProtectStep k c = k := by
        rw [groupProtectStep, refused]
        rfl
      have silent : groupProtectFrame k c = none := by
        rw [groupProtectFrame, refused]
        rfl
      rw [stays, silent, List.countP_cons_of_neg (by rw [fits]; exact Bool.false_ne_true)]
      exact ih installed
    | true =>
      obtain ⟨frame, made, produced, number⟩ := pmfGroupProtect_fits installed fits
      have moves : groupProtectStep k c = { k with ipnTx := k.ipnTx + 1 } := by
        rw [groupProtectStep, made]
        rfl
      have seen : groupProtectFrame k c = some frame := by
        rw [groupProtectFrame, made]
        rfl
      obtain ⟨others, numbers⟩ := @ih { k with ipnTx := k.ipnTx + 1 } installed
      rw [moves, seen, List.countP_cons_of_pos fits, List.range'_succ]
      constructor
      · intro f mem
        rcases List.mem_cons.1 mem with rfl | later
        · exact produced
        · exact others f later
      · rw [Option.toList_some, List.singleton_append, List.map_cons, List.map_cons, number,
          numbers]

/-- A receiver takes all frames of its key exactly when their numbers rise from its own. -/
theorem groupVerifyAll_iff {frames : List Bytes} (installed : r.installed = true)
    (produced : ∀ frame ∈ frames, BipProduced frame r.key) :
    groupVerifyAll r frames = true ↔ (r.ipnRx :: frames.map mmieIpn).Pairwise (· < ·) := by
  rw [← List.isChain_iff_pairwise]
  unfold groupVerifyAll
  induction frames generalizing r with
  | nil => exact iff_of_true rfl (List.IsChain.singleton _)
  | cons frame rest ih =>
    obtain ⟨taken, after⟩ := pmfGroupVerify_produced installed
      (produced frame List.mem_cons_self)
    rw [allAlong, Bool.and_eq_true, decide_eq_true_eq, taken, List.map_cons,
      List.isChain_cons_cons]
    apply and_congr_right
    intro fresh
    rw [after fresh]
    exact ih installed fun f mem => produced f (List.mem_cons_of_mem frame mem)

/-- What a sequence of calls on a key promises: the numbers rise and none comes twice, a
receiver with the same key and start takes every frame in order, and a call without a frame
takes no number. -/
def OrderedNumbers (k : PmfIgtk) (calls : List GroupCall) : Prop :=
  ((groupFrames k calls).map mmieIpn).Pairwise (· < ·) ∧
    ((groupFrames k calls).map mmieIpn).Nodup ∧
    groupVerifyAll k (groupFrames k calls) = true ∧
    ∀ before c after, calls = before ++ c :: after →
      groupProtectFrame (before.foldl groupProtectStep k) c = none →
        (groupProtectStep (before.foldl groupProtectStep k) c).ipnTx =
          (before.foldl groupProtectStep k).ipnTx

theorem groupProtect_refused {c : GroupCall} (none : groupProtectFrame k c = none) :
    groupProtectStep k c = k := by
  have refused := Option.map_eq_none_iff.1 none
  rw [groupProtectStep, refused]
  rfl

/-- The promise is kept exactly when the last count still fits the field. -/
theorem orderedNumbers_iff (igtk : Octets 16) (keyId : UInt16) {ipnStart : Nat}
    (start : ipnStart < 2 ^ 48) (calls : List GroupCall) :
    OrderedNumbers (pmfIgtkInstall igtk keyId ipnStart) calls ↔
      ipnStart + calls.countP (·.fits) < 2 ^ 48 := by
  obtain ⟨produced, numbers⟩ :=
    @groupFrames_numbers (pmfIgtkInstall igtk keyId ipnStart) rfl calls
  rw [← Counter.truncated_pairwise start]
  constructor
  · rintro ⟨_, _, taken, _⟩
    have rising := (groupVerifyAll_iff rfl produced).1 taken
    rw [numbers] at rising
    exact rising
  · intro rising
    have taken : groupVerifyAll (pmfIgtkInstall igtk keyId ipnStart)
        (groupFrames (pmfIgtkInstall igtk keyId ipnStart) calls) = true := by
      apply (groupVerifyAll_iff rfl produced).2
      rw [numbers]
      exact rising
    have sorted : ((groupFrames (pmfIgtkInstall igtk keyId ipnStart) calls).map mmieIpn).Pairwise
        (· < ·) := by
      rw [numbers]
      exact rising.of_cons
    refine ⟨sorted, sorted.imp Nat.ne_of_lt, taken, ?_⟩
    intro before c after _ none
    rw [groupProtect_refused none]

/-- A deauthentication for everybody. -/
def deauthCall : GroupCall :=
  { cap := 44
    hdr := Octets.of 24 ([0xc0, 0, 0, 0] ++ List.replicate 6 0xff ++ List.replicate 14 2)
    body := [3, 0] }

theorem orderedNumbers_deauth :
    OrderedNumbers (pmfIgtkInstall (Octets.zero 16) 4 0) [deauthCall, deauthCall] :=
  (orderedNumbers_iff (Octets.zero 16) 4 (by decide) [deauthCall, deauthCall]).2 (by decide)

/-- Two frames before the end of the field: the second one carries zero. -/
theorem groupFrames_wrap :
    (groupFrames (pmfIgtkInstall (Octets.zero 16) 4 (2 ^ 48 - 2)) [deauthCall, deauthCall]).map
        mmieIpn = [2 ^ 48 - 1, 0] ∧
      ¬OrderedNumbers (pmfIgtkInstall (Octets.zero 16) 4 (2 ^ 48 - 2))
        [deauthCall, deauthCall] := by
  have numbers := (@groupFrames_numbers (pmfIgtkInstall (Octets.zero 16) 4 (2 ^ 48 - 2)) rfl
    [deauthCall, deauthCall]).2
  have wrapped : (List.range' ((pmfIgtkInstall (Octets.zero 16) 4 (2 ^ 48 - 2)).ipnTx + 1)
      ([deauthCall, deauthCall].countP (·.fits))).map (· % 2 ^ 48) = [2 ^ 48 - 1, 0] := by
    decide
  rw [wrapped] at numbers
  refine ⟨numbers, ?_⟩
  rintro ⟨rising, _⟩
  rw [numbers] at rising
  exact absurd rising (by decide)

end Sequences

end Rf2a4m1
