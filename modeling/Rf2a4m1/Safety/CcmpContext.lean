import Rf2a4m1.Crypto.CcmBlocks
import Rf2a4m1.Glue.Netdev
import Rf2a4m1.Lib.Runs

/-!
# One key, one replay context

Any strings, with any header lengths, are given to the receiver under one key
and one context. What it takes is ordered by packet number slot by slot, and a
string is not taken again at the header length it was taken at before.
-/

set_option autoImplicit false

namespace Rf2a4m1

open ByteString Runs

inductive CcmpRxStatus where
  | errCrypto
  | errReplay
  | ok (bodyLen : Nat)
deriving DecidableEq

/-- `ccmpDecryptRx` with the caller's buffer: what it returns, the buffer and the context after. -/
def ccmpDecryptRxInto (inp : Bytes) (hdrLen : Nat) (tk : Octets 16) (buf : Bytes) (rp : PnReplay) :
    CcmpRxStatus × Bytes × PnReplay :=
  match ccmpDecryptInto inp hdrLen tk buf with
  | (none, out) => (.errCrypto, out, rp)
  | (some r, out) =>
    let pn := ccmpPn inp hdrLen
    let tid := pnReplayTid inp
    if !pnReplayOk rp tid pn then (.errReplay, splice out 0 (List.replicate r 0), rp)
    else (.ok r, out, pnReplayCommit rp tid pn)

/-- A string with its header length, and the buffer it is deciphered into. -/
structure RxCall where
  frame : Bytes
  hdrLen : Nat
  buf : Bytes

namespace RxCall

def slot (c : RxCall) : Nat := pnReplayTid c.frame

def pn (c : RxCall) : Nat := ccmpPn c.frame c.hdrLen

/-- The header length covers what the frame control announces. -/
def Covered (c : RxCall) : Prop := ccmpHdrSpan c.frame ≤ c.hdrLen

def run (tk : Octets 16) (rp : PnReplay) (c : RxCall) : CcmpRxStatus × Bytes × PnReplay :=
  ccmpDecryptRxInto c.frame c.hdrLen tk c.buf rp

def step (tk : Octets 16) (rp : PnReplay) (c : RxCall) : PnReplay := (c.run tk rp).2.2

/-- The call, when its string is taken. -/
def taken (tk : Octets 16) (rp : PnReplay) (c : RxCall) : Option RxCall :=
  match (c.run tk rp).1 with
  | .ok _ => some c
  | _ => none

/-- Whether the MIC of the string is right. -/
def opens (tk : Octets 16) (c : RxCall) : Bool :=
  (ccmpDecrypt c.frame c.hdrLen tk c.buf.length).isSome

end RxCall

section Call

variable {tk : Octets 16} {rp : PnReplay} {c : RxCall}

theorem ccmpDecryptInto_opened {inp buf plain : Bytes} {hdrLen pn : Nat}
    (opened : ccmpDecrypt inp hdrLen tk buf.length = some (plain, pn)) :
    ccmpDecryptInto inp hdrLen tk buf = (some plain.length, plain ++ buf.drop plain.length) := by
  rw [ccmpDecryptInto_eq (ccmpDecrypt_some opened).1, opened]

theorem ccmpDecryptInto_refused {inp buf : Bytes} {hdrLen : Nat}
    (refused : ccmpDecrypt inp hdrLen tk buf.length = none) :
    ∃ out, ccmpDecryptInto inp hdrLen tk buf = (none, out) := by
  by_cases shaped : CcmpShaped inp hdrLen buf.length
  · rw [ccmpDecryptInto_eq shaped, refused]
    exact ⟨_, rfl⟩
  · refine ⟨buf, ?_⟩
    unfold ccmpDecryptInto
    by_cases short : hdrLen < 24 ∨ inp.length < hdrLen + 8 + 8
    · exact if_pos short
    rw [if_neg short]
    by_cases plain : byteAt inp (hdrLen + 3) &&& 0x20 = 0
    · exact if_pos plain
    rw [if_neg plain]
    have tight : inp.length - hdrLen - 8 - 8 > buf.length := by
      by_contra fits
      exact shaped ⟨by omega, by omega, plain, by omega⟩
    exact if_pos tight

/-- What a call can do. -/
inductive CallCase (tk : Octets 16) (rp : PnReplay) (c : RxCall) : Prop where
  | refused (closed : c.opens tk = false) (status : (c.run tk rp).1 = .errCrypto)
      (context : c.step tk rp = rp)
  | replayed (plain : Bytes) (open' : c.opens tk = true)
      (stale : pnReplayOk rp c.slot c.pn = false) (status : (c.run tk rp).1 = .errReplay)
      (buffer : (c.run tk rp).2.1 = List.replicate plain.length 0 ++ c.buf.drop plain.length)
      (opened : ccmpDecrypt c.frame c.hdrLen tk c.buf.length = some (plain, c.pn))
      (context : c.step tk rp = rp)
  | accepted (plain : Bytes) (open' : c.opens tk = true)
      (fresh : pnReplayOk rp c.slot c.pn = true) (status : (c.run tk rp).1 = .ok plain.length)
      (context : c.step tk rp = pnReplayCommit rp c.slot c.pn)

theorem RxCall.cases (tk : Octets 16) (rp : PnReplay) (c : RxCall) : CallCase tk rp c := by
  cases opened : ccmpDecrypt c.frame c.hdrLen tk c.buf.length with
  | none =>
    obtain ⟨out, into⟩ := ccmpDecryptInto_refused opened
    have ran : c.run tk rp = (.errCrypto, out, rp) := by
      unfold RxCall.run ccmpDecryptRxInto
      rw [into]
    refine .refused ?_ (congrArg Prod.fst ran) (congrArg (fun r => r.2.2) ran)
    unfold RxCall.opens
    rw [opened]
    rfl
  | some found =>
    obtain ⟨plain, pn⟩ := found
    have number : pn = c.pn := (ccmpDecrypt_some opened).2.1.symm
    subst number
    have into := ccmpDecryptInto_opened opened
    have open' : c.opens tk = true := by
      unfold RxCall.opens
      rw [opened]
      rfl
    have ran : c.run tk rp =
        if !pnReplayOk rp c.slot c.pn then
          (.errReplay, splice (plain ++ c.buf.drop plain.length) 0
            (List.replicate plain.length 0), rp)
        else (.ok plain.length, plain ++ c.buf.drop plain.length,
          pnReplayCommit rp c.slot c.pn) := by
      unfold RxCall.run ccmpDecryptRxInto
      rw [into]
      rfl
    cases fresh : pnReplayOk rp c.slot c.pn with
    | false =>
      rw [fresh, if_pos (by rfl)] at ran
      have wiped : splice (plain ++ c.buf.drop plain.length) 0 (List.replicate plain.length 0) =
          List.replicate plain.length 0 ++ c.buf.drop plain.length := by
        simp [splice]
      rw [wiped] at ran
      exact .replayed plain open' fresh (congrArg Prod.fst ran) (congrArg (fun r => r.2.1) ran)
        opened (congrArg (fun r => r.2.2) ran)
    | true =>
      rw [fresh, if_neg (by simp)] at ran
      exact .accepted plain open' fresh (congrArg Prod.fst ran) (congrArg (fun r => r.2.2) ran)

/-- A string is taken exactly when its MIC is right and its number is new to its slot. -/
theorem RxCall.taken_eq : c.taken tk rp =
    if c.opens tk && pnReplayOk rp c.slot c.pn then some c else none := by
  unfold RxCall.taken
  cases RxCall.cases tk rp c with
  | refused closed status context => rw [status, closed, Bool.false_and, if_neg Bool.false_ne_true]
  | replayed plain open' stale status buffer opened context =>
    rw [status, stale, Bool.and_false, if_neg Bool.false_ne_true]
  | accepted plain open' fresh status context => rw [status, open', fresh, Bool.true_and, if_pos rfl]

theorem RxCall.step_eq : c.step tk rp =
    if c.opens tk && pnReplayOk rp c.slot c.pn then pnReplayCommit rp c.slot c.pn else rp := by
  cases RxCall.cases tk rp c with
  | refused closed status context => rw [context, closed, Bool.false_and, if_neg Bool.false_ne_true]
  | replayed plain open' stale status buffer opened context =>
    rw [context, stale, Bool.and_false, if_neg Bool.false_ne_true]
  | accepted plain open' fresh status context => rw [context, open', fresh, Bool.true_and, if_pos rfl]

/-- The buffer aside, this is the receiver of the data path. -/
theorem ccmpDecryptRx_step :
    (ccmpDecryptRx c.frame c.hdrLen tk c.buf.length rp).2 = c.step tk rp := by
  rw [RxCall.step_eq]
  unfold ccmpDecryptRx RxCall.opens
  cases opened : ccmpDecrypt c.frame c.hdrLen tk c.buf.length with
  | none => rfl
  | some found =>
    obtain ⟨plain, pn⟩ := found
    obtain rfl : c.pn = pn := (ccmpDecrypt_some opened).2.1
    dsimp only
    change (if !pnReplayOk rp c.slot c.pn then _ else _ : CcmpRx × PnReplay).2 = _
    cases pnReplayOk rp c.slot c.pn with
    | false => rfl
    | true => rfl

/-- The verdict on a number is a matter of its own slot. -/
theorem pnReplayOk_congr {rp rp' : PnReplay} {slot : Nat}
    (same : replayWindow rp slot = replayWindow rp' slot) (pn : Nat) :
    pnReplayOk rp slot pn = pnReplayOk rp' slot pn := by
  unfold replayWindow at same
  unfold pnReplayOk
  cases seen : rp.seen slot with
  | false =>
    cases seen' : rp'.seen slot with
    | false => rfl
    | true =>
      rw [seen, seen'] at same
      cases same
  | true =>
    cases seen' : rp'.seen slot with
    | false =>
      rw [seen, seen'] at same
      cases same
    | true =>
      rw [seen, seen'] at same
      have highest : rp.highest slot = rp'.highest slot := Option.some.inj same
      rw [highest]

/-- A call leaves the other slots as they are, and its own as its own was. -/
theorem step_window {rp rp' : PnReplay} {slot : Nat}
    (same : replayWindow rp slot = replayWindow rp' slot) :
    (c.slot ≠ slot → replayWindow (c.step tk rp) slot = replayWindow rp slot) ∧
      (c.slot = slot → replayWindow (c.step tk rp) slot = replayWindow (c.step tk rp') slot) := by
  rw [RxCall.step_eq, RxCall.step_eq]
  constructor
  · intro other
    split
    · rename_i accepted
      have fresh := (Bool.and_eq_true_iff.1 accepted).2
      rw [replayWindow_commit (pnReplayOk_admits fresh).1]
      exact if_neg (Ne.symm other)
    · rfl
  · rintro rfl
    rw [pnReplayOk_congr same]
    split
    · rename_i accepted
      have fresh := (Bool.and_eq_true_iff.1 accepted).2
      have valid := (pnReplayOk_admits fresh).1
      rw [replayWindow_commit valid, replayWindow_commit valid]
      exact (if_pos rfl).trans (if_pos rfl).symm
    · exact same

/-- What the context admits after a call it admitted before. -/
theorem step_admits {slot pn : Nat} (later : (replayWindow (c.step tk rp)).admits slot pn) :
    (replayWindow rp).admits slot pn := by
  rw [RxCall.step_eq] at later
  split at later
  · rename_i accepted
    obtain ⟨valid, admitted⟩ := pnReplayOk_admits (Bool.and_eq_true_iff.1 accepted).2
    rw [replayWindow_commit valid] at later
    exact Replay.Window.admits_of_take admitted later
  · exact later

end Call

section Run

variable {tk : Octets 16} {rp : PnReplay} {calls : List RxCall} {c : RxCall}

theorem taken_some {c' : RxCall} (now : c' ∈ (c.taken tk rp).toList) :
    c' = c ∧ pnReplayOk rp c.slot c.pn = true := by
  rw [RxCall.taken_eq] at now
  split at now
  · rename_i accepted
    exact ⟨List.mem_singleton.1 now, (Bool.and_eq_true_iff.1 accepted).2⟩
  · exact absurd now List.not_mem_nil

/-- What is still going to be taken is new to the context now. -/
theorem taken_admitted (later : c ∈ observed (RxCall.step tk) (RxCall.taken tk) rp calls) :
    (replayWindow rp).admits c.slot c.pn := by
  induction calls generalizing rp with
  | nil => exact absurd later List.not_mem_nil
  | cons first rest ih =>
    rcases List.mem_append.1 later with now | later
    · obtain ⟨rfl, fresh⟩ := taken_some now
      exact (pnReplayOk_admits fresh).2
    · exact step_admits (ih later)

theorem taken_small (later : c ∈ observed (RxCall.step tk) (RxCall.taken tk) rp calls) :
    c.pn < 2 ^ 48 := by
  induction calls generalizing rp with
  | nil => exact absurd later List.not_mem_nil
  | cons first rest ih =>
    rcases List.mem_append.1 later with now | later
    · obtain ⟨rfl, fresh⟩ := taken_some now
      unfold pnReplayOk at fresh
      split at fresh
      · cases fresh
      split at fresh
      · cases fresh
      · rename_i fits
        exact Nat.lt_of_le_of_lt (Nat.not_lt.1 fits) (by decide)
    · exact ih later

/-- In every slot the numbers that are taken increase. -/
theorem taken_increasing :
    (observed (RxCall.step tk) (RxCall.taken tk) rp calls).Pairwise fun a b =>
      a.slot = b.slot → a.pn < b.pn := by
  induction calls generalizing rp with
  | nil => exact List.Pairwise.nil
  | cons first rest ih =>
    refine List.pairwise_append.2 ⟨?_, ih, ?_⟩
    · cases first.taken tk rp with
      | none => exact List.Pairwise.nil
      | some one => exact List.pairwise_singleton ..
    · intro a now b later same
      have admitted := taken_admitted later
      rw [RxCall.taken_eq] at now
      split at now
      · rename_i accepted
        obtain rfl := List.mem_singleton.1 now
        have valid := (pnReplayOk_admits (Bool.and_eq_true_iff.1 accepted).2).1
        rw [RxCall.step_eq, if_pos accepted, replayWindow_commit valid, ← same] at admitted
        exact admitted _ (if_pos rfl)
      · exact absurd now List.not_mem_nil

/-- What is taken in a slot is what would be taken there without the others. -/
theorem taken_slot {rp rp' : PnReplay} (slot : Nat)
    (same : replayWindow rp slot = replayWindow rp' slot) :
    (observed (RxCall.step tk) (RxCall.taken tk) rp calls).filter (fun c => c.slot = slot) =
      observed (RxCall.step tk) (RxCall.taken tk) rp' (calls.filter fun c => c.slot = slot) := by
  induction calls generalizing rp rp' with
  | nil => rfl
  | cons first rest ih =>
    rw [observed, List.filter_append]
    by_cases mine : first.slot = slot
    · have kept : (first :: rest).filter (fun c => c.slot = slot) =
          first :: rest.filter fun c => c.slot = slot :=
        List.filter_cons_of_pos (decide_eq_true mine)
      have verdict : ((first.taken tk rp).toList).filter (fun c => c.slot = slot) =
          (first.taken tk rp').toList := by
        rw [RxCall.taken_eq, RxCall.taken_eq, mine, pnReplayOk_congr same]
        split
        · exact List.filter_cons_of_pos (decide_eq_true mine)
        · rfl
      rw [kept, observed, verdict, ih ((@step_window tk first _ _ slot same).2 mine)]
    · have dropped : (first :: rest).filter (fun c => c.slot = slot) =
          rest.filter fun c => c.slot = slot :=
        List.filter_cons_of_neg (by simpa using mine)
      have none : ((first.taken tk rp).toList).filter (fun c => c.slot = slot) = [] := by
        rw [RxCall.taken_eq]
        split
        · exact List.filter_cons_of_neg (by simpa using mine)
        · rfl
      rw [dropped, none, List.nil_append]
      exact ih (((@step_window tk first _ _ slot same).1 mine).trans same)

end Run

/-- Whatever is received under one key and with one context: a refused string leaves the context
as it is, a replayed one no plaintext; what is taken increases in every slot, below the end of
the packet numbers, slots do not know of each other, and no string is taken twice at one header
length. -/
theorem ccmpContext_run (tk : Octets 16) (rp : PnReplay) (calls : List RxCall) :
    (∀ c : RxCall, (∀ n, (c.run tk rp).1 ≠ .ok n) → c.step tk rp = rp) ∧
    (∀ c : RxCall, (c.run tk rp).1 = .errReplay → ∃ plain,
      ccmpDecrypt c.frame c.hdrLen tk c.buf.length = some (plain, c.pn) ∧
        (c.run tk rp).2.1 = List.replicate plain.length 0 ++ c.buf.drop plain.length) ∧
    (observed (RxCall.step tk) (RxCall.taken tk) rp calls).Pairwise
      (fun a b => a.slot = b.slot → a.pn < b.pn) ∧
    (∀ c ∈ observed (RxCall.step tk) (RxCall.taken tk) rp calls, c.pn < 2 ^ 48) ∧
    (∀ slot,
      (observed (RxCall.step tk) (RxCall.taken tk) rp calls).filter (fun c => c.slot = slot) =
        observed (RxCall.step tk) (RxCall.taken tk) rp (calls.filter fun c => c.slot = slot)) ∧
    (observed (RxCall.step tk) (RxCall.taken tk) rp calls).Pairwise
      (fun a b => a.frame = b.frame → a.hdrLen ≠ b.hdrLen) := by
  refine ⟨fun c negative => ?_, fun c replay => ?_, taken_increasing, fun c => taken_small,
    fun slot => taken_slot slot rfl, ?_⟩
  · cases RxCall.cases tk rp c with
    | refused closed status context => exact context
    | replayed plain open' stale status buffer opened context => exact context
    | accepted plain open' fresh status context => exact absurd status (negative _)
  · cases RxCall.cases tk rp c with
    | refused closed status context => exact absurd (status.symm.trans replay) (by decide)
    | replayed plain open' stale status buffer opened context => exact ⟨plain, opened, buffer⟩
    | accepted plain open' fresh status context => cases status.symm.trans replay
  · refine taken_increasing.imp ?_
    intro a b increasing sameFrame sameLen
    have slot : a.slot = b.slot := congrArg pnReplayTid sameFrame
    have number : a.pn = b.pn := by
      unfold RxCall.pn
      rw [sameFrame, sameLen]
    exact absurd (increasing slot) (Nat.not_lt.2 (Nat.le_of_eq number.symm))

section Forged

variable (tk : Octets 16)

/-- A block under another one, and the other one taken off. -/
theorem block_xor_xor (x y : Octets 16) :
    Ccm.xor (Octets.of 16 (Ccm.xor x.bytes y.bytes)).bytes y.bytes = x.bytes := by
  have same : x.bytes.length = y.bytes.length := x.length_bytes.trans y.length_bytes.symm
  have size : (Ccm.xor x.bytes y.bytes).length = 16 := (Ccm.xor_length same).trans x.length_bytes
  rw [Octets.of_bytes_of_length size, Ccm.xor_xor (Nat.le_of_eq same)]

/-- With the key, a block can be put before another one to reach any value of the chain. -/
theorem chain_reaches (x second target : Octets 16) :
    ∃ first, Ccm.chain (aes128EncryptBlock (aes128Init tk)) x [first, second] = target := by
  let back := aes128DecryptBlock (aes128Init tk)
  have decrypted (b : Octets 16) : aes128EncryptBlock (aes128Init tk) (back b) = b :=
    aes128Encrypt_decrypt (aes128Init_length tk) b
  let between := back (Octets.of 16 (Ccm.xor (back target).bytes second.bytes))
  refine ⟨Octets.of 16 (Ccm.xor between.bytes x.bytes), ?_⟩
  unfold Ccm.chain
  rw [List.foldl_cons, List.foldl_cons, List.foldl_nil, Ccm.xor_comm x.bytes, block_xor_xor,
    Octets.of_bytes, decrypted, block_xor_xor, Octets.of_bytes, decrypted]

/-- A ciphertext of two blocks that ends as one wants and has the tag one wants. -/
theorem ccm_forged (nonce : Octets 13) (a : Bytes) (short : a.length < 0xff00) (mic : Octets 8)
    (tail : Octets 16) :
    ∃ front : Octets 16, ∃ plain : Bytes, plain.length = 32 ∧
      aesCcm tk nonce a (front.bytes ++ tail.bytes) false = (plain, mic) := by
  let cipher := aes128EncryptBlock (aes128Init tk)
  let key (i : Nat) : Octets 16 := cipher (Ccm.counterBlock nonce i)
  let second := Octets.of 16 (Ccm.xor tail.bytes (key 2).bytes)
  let wanted := Octets.of 16 (Ccm.xor (Octets.of 16 mic.bytes).bytes (key 0).bytes)
  have start (m m' : Bytes) (same : m.length = m'.length) :
      Ccm.firstBlock nonce a m = Ccm.firstBlock nonce a m' := by
    unfold Ccm.firstBlock
    rw [same]
  obtain ⟨first, reached⟩ := chain_reaches tk (Ccm.chain cipher
    (cipher (Ccm.firstBlock nonce a (List.replicate 32 0))) (Ccm.blocks (Ccm.encodeData a)))
    second wanted
  have long : (first.bytes ++ second.bytes).length = 32 := by
    rw [List.length_append, first.length_bytes, second.length_bytes]
  have chained : Ccm.mac cipher nonce a (first.bytes ++ second.bytes) = wanted := by
    unfold Ccm.mac
    rw [start _ (List.replicate 32 0) (long.trans List.length_replicate.symm), Ccm.blocks_pair]
    exact (List.foldl_append ..).trans reached
  have stream : Ccm.keyStream cipher nonce 2 = (key 1).bytes ++ (key 2).bytes :=
    congrArg ((key 1).bytes ++ ·) (List.append_nil _)
  have sealed : Ccm.crypt cipher nonce (first.bytes ++ second.bytes) =
      (Octets.of 16 (Ccm.xor first.bytes (key 1).bytes)).bytes ++ tail.bytes := by
    have same : first.bytes.length = (key 1).bytes.length :=
      first.length_bytes.trans (key 1).length_bytes.symm
    unfold Ccm.crypt
    rw [long, stream, Ccm.xor_append same, block_xor_xor, Octets.of_bytes_of_length
      ((Ccm.xor_length same).trans first.length_bytes)]
  have tagged : Ccm.tag cipher nonce a (first.bytes ++ second.bytes) = mic := by
    unfold Ccm.tag
    rw [chained]
    have opened : Ccm.xor wanted.bytes (key 0).bytes = (Octets.of 16 mic.bytes).bytes :=
      block_xor_xor (Octets.of 16 mic.bytes) (key 0)
    change Octets.of 8 (Ccm.xor wanted.bytes (key 0).bytes) = mic
    rw [opened]
    apply Octets.ext
    apply byteAt_ext (by rw [Octets.length_bytes, Octets.length_bytes])
    intro i within
    rw [Octets.length_bytes] at within
    exact (byteAt_fit _ within).trans (byteAt_fit _ (by omega))
  have restored := (aesCcm_inverse tk nonce a (first.bytes ++ second.bytes) true).2
  rw [aesCcm_seals short, sealed, tagged] at restored
  exact ⟨_, _, long, restored⟩

/-- The header of a data frame without QoS. -/
def forgedHdr : Bytes := [0x08, 0x40] ++ List.replicate 22 0

theorem forgedHdr_reads (rest : Bytes) :
    ccmpHdrSpan (forgedHdr ++ rest) = 24 ∧ pnReplayTid (forgedHdr ++ rest) = pnReplayNonQos := by
  have fc0 : byteAt (forgedHdr ++ rest) 0 = 0x08 := rfl
  have fc1 : byteAt (forgedHdr ++ rest) 1 = 0x40 := rfl
  constructor
  · unfold ccmpHdrSpan ccmpFcHasA4 ccmpFcIsQosData
    rw [fc0, fc1]
    decide
  · unfold pnReplayTid
    rw [fc0]
    exact if_pos (by decide)

theorem forgedHdr_aad (rest : Bytes) (pn : Nat) :
    buildAadNonce (forgedHdr ++ rest) pn = buildAadNonce forgedHdr pn := by
  apply buildAadNonce_congr (n := 24)
  · have front : (forgedHdr ++ rest).take 24 = forgedHdr := List.take_left' rfl
    rw [front]
    rfl
  · exact Nat.le_of_eq (forgedHdr_reads rest).1

/-- A string that is authentic with a header of 24 octets and with one of 56. -/
theorem forged_frame : ∃ frame plain : Bytes,
    (∃ rest, frame = forgedHdr ++ rest) ∧ plain.length = 32 ∧
      ccmpDecrypt frame 24 tk 32 = some (plain, 1) ∧ ccmpDecrypt frame 56 tk 0 = some ([], 2) := by
  let mic := (aesCcm tk (buildAadNonce forgedHdr 2).2 (buildAadNonce forgedHdr 2).1 [] false).2
  let filler : Bytes := List.replicate 8 0
  obtain ⟨front, plain, long, opened⟩ := ccm_forged tk (buildAadNonce forgedHdr 1).2
    (buildAadNonce forgedHdr 1).1 (by decide) mic (Octets.of 16 (filler ++ ccmpHeader 0 2))
  have tail : (Octets.of 16 (filler ++ ccmpHeader 0 2)).bytes = filler ++ ccmpHeader 0 2 :=
    Octets.of_bytes_of_length rfl
  rw [tail] at opened
  let frame := forgedHdr ++ ccmpHeader 0 1 ++ (front.bytes ++ (filler ++ ccmpHeader 0 2)) ++ mic.bytes
  have outer : ccmpDecrypt frame 24 tk 32 = some (plain, 1) := by
    apply @ccmpDecrypt_built tk 0 1 32 forgedHdr _ plain mic (Nat.le_refl 24) (by decide)
    · rw [List.length_append, front.length_bytes]
      exact Nat.le_refl 32
    · rw [forgedHdr_aad]
      exact opened
  have inner : ccmpDecrypt frame 56 tk 0 = some ([], 2) := by
    have size : (forgedHdr ++ ccmpHeader 0 1 ++ front.bytes ++ filler).length = 56 := by
      rw [List.length_append, List.length_append, front.length_bytes]
      rfl
    have again := @ccmpDecrypt_built tk 0 2 0 (forgedHdr ++ ccmpHeader 0 1 ++ front.bytes ++ filler)
      [] [] mic (by rw [size]; decide) (by decide) (Nat.le_refl 0) (by
        simp only [List.append_assoc]
        rw [forgedHdr_aad]
        rfl)
    rw [size] at again
    have same : forgedHdr ++ ccmpHeader 0 1 ++ front.bytes ++ filler ++ ccmpHeader 0 2 ++ [] ++
        mic.bytes = frame := by
      simp only [frame, List.append_assoc, List.append_nil]
    rwa [same] at again
  exact ⟨frame, plain, ⟨_, by simp only [frame, List.append_assoc]; rfl⟩, long, outer, inner⟩

end Forged

/-- Where the CCMP header is looked for is up to the caller, and it holds the packet number: one
string is taken at one header length, and with a higher number at another. -/
theorem accepted_twice :
    ¬∀ (tk : Octets 16) (rp : PnReplay) (calls : List RxCall),
      (∀ c ∈ calls, 24 ≤ c.hdrLen ∧ c.Covered) →
      ((observed (RxCall.step tk) (RxCall.taken tk) rp calls).map RxCall.frame).Nodup := by
  intro all
  obtain ⟨frame, plain, ⟨rest, rfl⟩, long, outer, inner⟩ := forged_frame (Octets.zero 16)
  let first : RxCall := { frame := forgedHdr ++ rest, hdrLen := 24, buf := List.replicate 32 0 }
  let second : RxCall := { frame := forgedHdr ++ rest, hdrLen := 56, buf := [] }
  have covered : ∀ c ∈ [first, second], 24 ≤ c.hdrLen ∧ c.Covered := by
    intro c mem
    rcases List.mem_cons.1 mem with rfl | mem
    · exact ⟨Nat.le_refl 24, Nat.le_of_eq (forgedHdr_reads rest).1⟩
    · obtain rfl := List.mem_singleton.1 mem
      have announced : ccmpHdrSpan second.frame = 24 := (forgedHdr_reads rest).1
      have large : 24 ≤ second.hdrLen := (by decide : 24 ≤ 56)
      exact ⟨large, Nat.le_trans (Nat.le_of_eq announced) large⟩
  have opens : first.opens (Octets.zero 16) = true ∧ second.opens (Octets.zero 16) = true := by
    unfold RxCall.opens
    have cap : first.buf.length = 32 := rfl
    rw [cap]
    exact ⟨congrArg Option.isSome outer, congrArg Option.isSome inner⟩
  have numbers : first.pn = 1 ∧ second.pn = 2 :=
    ⟨(ccmpDecrypt_some outer).2.1, (ccmpDecrypt_some inner).2.1⟩
  have slots : first.slot = pnReplayNonQos ∧ second.slot = pnReplayNonQos :=
    ⟨(forgedHdr_reads rest).2, (forgedHdr_reads rest).2⟩
  have one : (first.opens (Octets.zero 16) && pnReplayOk pnReplayReset first.slot first.pn) = true := by
    rw [opens.1, numbers.1, slots.1]
    rfl
  have two : (second.opens (Octets.zero 16) &&
      pnReplayOk (pnReplayCommit pnReplayReset first.slot first.pn) second.slot second.pn) = true := by
    rw [opens.2, numbers.1, numbers.2, slots.1, slots.2]
    rfl
  have both : observed (RxCall.step (Octets.zero 16)) (RxCall.taken (Octets.zero 16)) pnReplayReset
      [first, second] = [first, second] := by
    rw [observed, observed, observed, RxCall.taken_eq, RxCall.step_eq, if_pos one, if_pos one,
      RxCall.taken_eq, if_pos two]
    rfl
  have distinct := all (Octets.zero 16) pnReplayReset [first, second] covered
  rw [both] at distinct
  exact absurd distinct (List.not_nodup_pair _)

end Rf2a4m1
