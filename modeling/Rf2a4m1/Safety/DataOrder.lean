import Rf2a4m1.Lib.Pipe
import Rf2a4m1.Safety.DataChannel

/-!
# Data arrives as it was sent

Two ends that are up under one key, with a queue towards each of them that may
lose frames but keeps their order. Each direction is a pipe of payloads: packet
number, MIC and replay window cost no payload and let none through twice.
-/

set_option autoImplicit false

namespace Rf2a4m1

open ByteString Pipes Replay

section Reception

variable {env : Env} {sib : Siblings} {s : Sme} {key : Octets 16} {hdr payload : Bytes} {pn : Nat}

/-- The packet number stands behind the header. -/
theorem getPn48_dataFrame (small : pn ≤ pnReplayPnMax) :
    getPn48 (dataFrame env key hdr pn payload) hdr.length = pn := by
  have field : slice (dataFrame env key hdr pn payload) hdr.length 6 = putPn48 pn := by
    unfold dataFrame
    dsimp only
    rw [List.append_assoc, List.append_assoc, slice_append_right (Nat.le_refl _), Nat.sub_self,
      slice_append_left (by rw [putPn48, be_length])]
  have bound : pn < 256 ^ 6 := Nat.lt_succ_of_le small
  rw [getPn48, field, putPn48, ofBe_be, Nat.mod_eq_of_lt bound]

theorem dataFrame_length :
    (dataFrame env key hdr pn payload).length = hdr.length + 6 + payload.length + 16 := by
  simp only [dataFrame, putPn48, List.length_append, be_length, Octets.length_bytes]

/-- The MIC of a frame is good under the key it was built with. -/
theorem dataFrame_mic (same : tk s.ptk = key) :
    dataMicOk env s (dataFrame env key hdr pn payload) = true := by
  obtain ⟨msg, _⟩ := dataFrame_parts env key hdr payload pn
  have rest : (dataFrame env key hdr pn payload).drop
      ((dataFrame env key hdr pn payload).length - 16) =
        (env.mic key (hdr ++ putPn48 pn ++ payload)).bytes := by
    refine List.drop_left' ?_
    rw [dataFrame_length]
    simp only [List.length_append, putPn48, be_length]
    omega
  unfold dataMicOk
  rw [msg, rest, same]
  exact decide_eq_true rfl

/-- A number above everything its slot has taken is fresh. -/
theorem pnReplayOk_above {r : PnReplay} {slot : Nat} (valid : slot < pnReplayTids)
    (small : pn ≤ pnReplayPnMax) (above : ∀ slot n, replayWindow r slot = some n → n < pn) :
    pnReplayOk r slot pn = true := by
  unfold pnReplayOk
  rw [if_neg (Nat.not_le.2 valid), if_neg (Nat.not_lt.2 small)]
  cases seen : r.seen slot with
  | false => rfl
  | true =>
    rw [if_neg (by decide)]
    exact decide_eq_true (above slot _ (if_pos seen))

theorem qosCtrlUnpack_tid (v : UInt16) : (qosCtrlUnpack v).tid.toNat < pnReplayTids := by
  have low : (v &&& 0x0f).toNat ≤ 15 := by
    rw [UInt16.toNat_and]
    exact Nat.and_le_right
  change (v &&& 0x0f).toUInt8.toNat < 17
  rw [UInt16.toNat_toUInt8]
  omega

/-- A frame with a payload and a number, of either kind. -/
def Bears (env : Env) (key : Octets 16) (f : Bytes) (pn : Nat) (payload : Bytes) : Prop :=
  payload.length ≤ smeDataMax ∧ tdlsIsEncap payload = false ∧
    ∃ src, f = dataFrame env key (smePfx .data src) pn payload ∨
      ∃ up, f = dataFrame env key (smePfx .qosData src ++ qosHdr up) pn payload

/-- What the end is after it has taken a payload: the slot moves on, the payload is recorded. -/
structure Took (s t : Sme) (pn : Nat) (payload : Bytes) : Prop where
  link : SameLink s t
  bound : t.halBound = s.halBound
  sends : t.dataTxPn = s.dataTxPn ∧ t.sent = s.sent
  payload : t.dataRx = s.dataRx + 1 ∧ t.rxData = payload
  slot : ∃ slot, t.dataRxReplay = pnReplayCommit s.dataRxReplay slot pn

/-- A frame with a number above all that were taken is taken. -/
theorem smeRx_took {f : Bytes} (up : s.state = .connected) (bears : Bears env (tk s.ptk) f pn payload)
    (small : pn ≤ pnReplayPnMax)
    (above : ∀ slot n, replayWindow s.dataRxReplay slot = some n → n < pn) :
    Took s (smeRx env sib s f).1 pn payload := by
  obtain ⟨fits, plain, src, rfl | ⟨user, rfl⟩⟩ := bears
  · have number := @getPn48_dataFrame env (tk s.ptk) (smePfx .data src) payload pn small
    obtain ⟨_, body⟩ := dataFrame_parts env (tk s.ptk) (smePfx .data src) payload pn
    have long := @dataFrame_length env (tk s.ptk) (smePfx .data src) payload pn
    have mic := @dataFrame_mic env s (tk s.ptk) (smePfx .data src) payload pn rfl
    have tag : byteAt (dataFrame env (tk s.ptk) (smePfx .data src) pn payload) 0 =
        smeIntEnc .data := rfl
    rw [smePfx_length] at number body long
    have fresh := @pnReplayOk_above pn s.dataRxReplay pnReplayNonQos (by decide) small above
    rw [smeRx_data (by rw [long, smePfxLen]; omega) tag up]
    unfold rxData
    rw [if_neg (by simp [up, long, smePfxLen]), mic, if_neg (by decide)]
    dsimp only
    rw [smePfxLen, number, fresh, if_neg (by decide), body]
    unfold routeData
    rw [plain, if_neg (by decide), if_neg (Nat.not_lt.2 fits)]
    exact ⟨⟨rfl, rfl, rfl⟩, rfl, ⟨rfl, rfl⟩, ⟨rfl, rfl⟩, pnReplayNonQos, rfl⟩
  · set hdr := smePfx .qosData src ++ qosHdr user with header
    have number := @getPn48_dataFrame env (tk s.ptk) hdr payload pn small
    obtain ⟨_, body⟩ := dataFrame_parts env (tk s.ptk) hdr payload pn
    have long := @dataFrame_length env (tk s.ptk) hdr payload pn
    have mic := @dataFrame_mic env s (tk s.ptk) hdr payload pn rfl
    have tag : byteAt (dataFrame env (tk s.ptk) hdr pn payload) 0 = smeIntEnc .qosData := rfl
    have size : hdr.length = 9 := by rw [header]; simp [qosHdr]
    rw [size] at number body long
    rw [smeRx_qosData (by rw [long, smePfxLen]; omega) tag up]
    unfold rxQosData
    rw [if_neg (by simp [up, long, smePfxLen])]
    dsimp only
    rw [smePfxLen, body, if_neg (Nat.not_lt.2 fits), mic, if_neg (by decide), number,
      pnReplayOk_above (qosCtrlUnpack_tid _) small above, if_neg (by decide)]
    exact ⟨⟨rfl, rfl, rfl⟩, rfl, ⟨rfl, rfl⟩, ⟨rfl, rfl⟩, _, rfl⟩

/-- What a slot holds after one of them has moved on. -/
theorem commit_window {r : PnReplay} {slot slot' n : Nat}
    (holds : replayWindow (pnReplayCommit r slot pn) slot' = some n) :
    n = pn ∨ replayWindow r slot' = some n := by
  by_cases valid : slot < pnReplayTids
  · rw [replayWindow_commit valid] at holds
    unfold Window.take at holds
    split at holds
    · exact Or.inl (Option.some.inj holds).symm
    · exact Or.inr holds
  · rw [pnReplayCommit, if_pos (Nat.le_of_not_lt valid)] at holds
    exact Or.inr holds

end Reception

/-- Two ends, the frames on their way to each of them, and what each was given. -/
structure Talk where
  ends : SmeRole → Sme
  wire : SmeRole → List Bytes
  got : SmeRole → List Bytes

/-- An end sends, with a user priority or without; the first frame on its way to an end arrives or
is lost. -/
inductive TalkOp where
  | send (e : SmeRole) (payload : Bytes) (up : Option UInt8)
  | deliver (e : SmeRole)
  | lose (e : SmeRole)
deriving DecidableEq

namespace Talk

def start (sta ap : Sme) : Talk where
  ends := fun
    | .sta => sta
    | .ap => ap
  wire := fun _ => []
  got := fun _ => []

def send (env : Env) (s : Sme) (payload : Bytes) : Option UInt8 → Sme
  | none => (smeDataTx env s payload).1
  | some up => (smeDataTxQos env s payload up).1

/-- An end moves on, and what it sent is on its way to the other. -/
def act (c : Talk) (e : SmeRole) (t : Sme) : Talk where
  ends := Function.update c.ends e t
  wire := Function.update c.wire e.other (c.wire e.other ++ newSent (c.ends e) t)
  got := Function.update c.got e
    (c.got e ++ if t.dataRx = (c.ends e).dataRx then [] else [t.rxData])

def step (env : Env) (sib : Siblings) (c : Talk) : TalkOp → Talk
  | .send e payload up => c.act e (send env (c.ends e) payload up)
  | .deliver e =>
    match c.wire e with
    | [] => c
    | f :: rest =>
      { c with wire := Function.update c.wire e rest }.act e (smeRx env sib (c.ends e) f).1
  | .lose e => { c with wire := Function.update c.wire e (c.wire e).tail }

end Talk

namespace TalkOp

/-- What an operation is to the pipe towards an end; a payload that is too long is refused. -/
def towards (e : SmeRole) : TalkOp → List (Op Bytes)
  | .send e' payload _ =>
    if e'.other = e ∧ payload.length ≤ smeDataMax then [.send payload] else []
  | .deliver e' => if e' = e then [.deliver] else []
  | .lose e' => if e' = e then [.lose] else []

/-- A payload that does not look like a frame of a direct link. -/
def Plain : TalkOp → Prop
  | .send _ payload _ => tdlsIsEncap payload = false
  | .deliver _ => True
  | .lose _ => True

end TalkOp

/-- Up under the key, with numbers left for so many frames. -/
structure Able (ptk : Octets 48) (left : Nat) (s : Sme) : Prop where
  up : s.state = .connected
  key : s.ptk = ptk
  bound : s.halBound = true
  left : s.dataTxPn + left ≤ pnReplayPnMax

/-- A pipe holds what is on its way to an end, under numbers up to the sender's and above all that
the end has taken, and what the end was given. -/
structure Flow (env : Env) (ptk : Octets 48) (top : Nat) (s : Sme) (wire got : List Bytes)
    (p : Pipe Bytes) : Prop where
  carried : ∃ floor, (∀ slot n, replayWindow s.dataRxReplay slot = some n → n ≤ floor) ∧
    Carried (Bears env (tk ptk)) top floor wire p.waiting
  got : got = p.got

structure TalkInv (env : Env) (ptk : Octets 48) (left : Nat) (c : Talk)
    (p : SmeRole → Pipe Bytes) : Prop where
  able : ∀ e, Able ptk left (c.ends e)
  flow : ∀ e, Flow env ptk (c.ends e.other).dataTxPn (c.ends e) (c.wire e) (c.got e) (p e)

section Steps

variable {env : Env} {sib : Siblings} {ptk : Octets 48} {left : Nat} {c : Talk}
  {p : SmeRole → Pipe Bytes} {s : Sme} {payload : Bytes}

@[simp] theorem other_other (e : SmeRole) : e.other.other = e := by cases e <;> rfl

theorem other_ne (e : SmeRole) : e.other ≠ e := by cases e <;> decide

/-- What a send call leaves behind: a frame with the next number, or nothing. -/
structure Sent (env : Env) (s t : Sme) (payload : Bytes) : Prop where
  link : SameLink s t
  bound : t.halBound = s.halBound
  window : t.dataRxReplay = s.dataRxReplay
  record : t.dataRx = s.dataRx
  out : payload.length ≤ smeDataMax ∧ t.dataTxPn = s.dataTxPn + 1 ∧
      (∃ f, newSent s t = [f] ∧ Bears env (tk s.ptk) f t.dataTxPn payload) ∨
    ¬payload.length ≤ smeDataMax ∧ t = s

theorem txProt_Sent {hdr : Bytes} (bound : s.halBound = true) (fits : payload.length ≤ smeDataMax)
    (ac tid : UInt8)
    (bears : Bears env (tk s.ptk) (dataFrame env (tk s.ptk) hdr (s.dataTxPn + 1) payload)
      (s.dataTxPn + 1) payload) : Sent env s (txProt env s hdr payload ac tid) payload := by
  have sent : newSent s (txProt env s hdr payload ac tid) =
      [dataFrame env (tk s.ptk) hdr (s.dataTxPn + 1) payload] := by
    rw [txProt_newSent rfl, if_pos bound]
  have count : (txProt env s hdr payload ac tid).dataTxPn = s.dataTxPn + 1 := by
    unfold txProt SmeTx.push
    dsimp only
    rw [if_pos bound]
  have kept : (txProt env s hdr payload ac tid).halBound = s.halBound := by
    unfold txProt SmeTx.push
    dsimp only
    rw [if_pos bound]
  refine ⟨⟨rfl, rfl, rfl⟩, kept, rfl, rfl, Or.inl ⟨fits, count, _, sent, ?_⟩⟩
  rw [count]
  exact bears

theorem send_Sent (up : s.state = .connected) (bound : s.halBound = true)
    (plain : tdlsIsEncap payload = false) (user : Option UInt8) :
    Sent env s (Talk.send env s payload user) payload := by
  have refused (long : payload.length > smeDataMax) : Sent env s s payload :=
    ⟨⟨rfl, rfl, rfl⟩, rfl, rfl, rfl, Or.inr ⟨Nat.not_le.2 long, rfl⟩⟩
  have unnumbered : Sent env s (smeDataTx env s payload).1 payload := by
    unfold smeDataTx
    rw [if_neg (not_not.2 up)]
    split
    · rename_i long
      exact refused long
    · rename_i short
      have fits := Nat.le_of_not_lt short
      exact txProt_Sent bound fits 1 0xff ⟨fits, plain, s.self, Or.inl rfl⟩
  cases user with
  | none => exact unnumbered
  | some user =>
    change Sent env s (smeDataTxQos env s payload user).1 payload
    unfold smeDataTxQos
    rw [if_neg (not_not.2 up)]
    split
    · rename_i long
      exact refused long
    split
    · exact unnumbered
    · rename_i short _
      have fits := Nat.le_of_not_lt short
      exact txProt_Sent bound fits _ _ ⟨fits, plain, s.self, Or.inr ⟨user, rfl⟩⟩

section Acting

variable {e : SmeRole} {t : Sme}

/-- What holds of an end and of the other one holds of both. -/
theorem both_ends {P : SmeRole → Prop} (own : P e) (other : P e.other) : ∀ e', P e' := by
  intro e'
  by_cases same : e' = e
  · rw [same]
    exact own
  · rw [SmeRole.eq_other same]
    exact other

theorem Able.less (able : Able ptk (left + 1) s) : Able ptk left s :=
  ⟨able.up, able.key, able.bound, Nat.le_of_succ_le able.left⟩

/-- An end that moves on leaves both directions in order. -/
theorem TalkInv.act (other : Able ptk left (c.ends e.other)) (able : Able ptk left t)
    (inward : Flow env ptk (c.ends e.other).dataTxPn t (c.wire e)
      (c.got e ++ if t.dataRx = (c.ends e).dataRx then [] else [t.rxData]) (p e))
    (outward : Flow env ptk t.dataTxPn (c.ends e.other)
      (c.wire e.other ++ newSent (c.ends e) t) (c.got e.other) (p e.other)) :
    TalkInv env ptk left (c.act e t) p := by
  have own : (c.act e t).ends e = t := Function.update_self ..
  have others : (c.act e t).ends e.other = c.ends e.other := Function.update_of_ne (other_ne e) ..
  refine ⟨@both_ends e _ ?_ ?_, @both_ends e _ ?_ ?_⟩
  · rw [own]
    exact able
  · rw [others]
    exact other
  · have wire : (c.act e t).wire e = c.wire e := Function.update_of_ne (other_ne e).symm ..
    have got : (c.act e t).got e =
        c.got e ++ (if t.dataRx = (c.ends e).dataRx then [] else [t.rxData]) :=
      Function.update_self ..
    rw [own, others, wire, got]
    exact inward
  · have wire : (c.act e t).wire e.other = c.wire e.other ++ newSent (c.ends e) t :=
      Function.update_self ..
    have got : (c.act e t).got e.other = c.got e.other := Function.update_of_ne (other_ne e) ..
    rw [other_other, own, others, wire, got]
    exact outward

/-- What an operation makes of the pipes. -/
def TalkOp.pipes (op : TalkOp) (p : SmeRole → Pipe Bytes) (e : SmeRole) : Pipe Bytes :=
  (op.towards e).foldl Pipe.step (p e)

theorem TalkInv.send (inv : TalkInv env ptk (left + 1) c p) (e : SmeRole)
    (plain : tdlsIsEncap payload = false) (user : Option UInt8) :
    TalkInv env ptk left (c.step env sib (.send e payload user))
      ((TalkOp.send e payload user).pipes p) := by
  have able := inv.able e
  have sent : Sent env (c.ends e) (Talk.send env (c.ends e) payload user) payload :=
    send_Sent able.up able.bound plain user
  set t := Talk.send env (c.ends e) payload user with sends
  have stepped : c.step env sib (.send e payload user) = c.act e t := rfl
  have inward : (TalkOp.send e payload user).towards e = [] :=
    if_neg fun both => other_ne e both.1
  have room := able.left
  rw [stepped]
  refine TalkInv.act (inv.able e.other).less ⟨sent.link.state.trans able.up,
    sent.link.ptk.trans able.key, sent.bound.trans able.bound, ?_⟩ ?_ ?_
  · rcases sent.out with ⟨_, count, _⟩ | ⟨_, same⟩
    · omega
    · rw [same]
      omega
  · rw [if_pos sent.record, List.append_nil, TalkOp.pipes, inward]
    obtain ⟨⟨floor, window, carried⟩, got⟩ := inv.flow e
    refine ⟨⟨floor, ?_, carried⟩, got⟩
    rw [sent.window]
    exact window
  · obtain ⟨⟨floor, window, carried⟩, got⟩ := inv.flow e.other
    rw [other_other] at carried
    rw [TalkOp.pipes]
    rcases sent.out with ⟨fits, count, f, new, bears⟩ | ⟨long, same⟩
    · have outward : (TalkOp.send e payload user).towards e.other = [.send payload] :=
        if_pos ⟨rfl, fits⟩
      rw [outward, new]
      rw [able.key] at bears
      exact ⟨⟨floor, window, carried.send (by omega) bears⟩, got⟩
    · have refused : (TalkOp.send e payload user).towards e.other = [] :=
        if_neg fun both => long both.2
      rw [refused, same, newSent_same rfl, List.append_nil]
      exact ⟨⟨floor, window, carried⟩, got⟩

theorem TalkInv.lose (inv : TalkInv env ptk (left + 1) c p) (e : SmeRole) :
    TalkInv env ptk left (c.step env sib (.lose e)) ((TalkOp.lose e).pipes p) := by
  refine ⟨fun e' => (inv.able e').less, @both_ends e _ ?_ ?_⟩
  · have wire : (c.step env sib (.lose e)).wire e = (c.wire e).tail := Function.update_self ..
    have drops : (TalkOp.lose e).towards e = [.lose] := if_pos rfl
    obtain ⟨⟨floor, window, carried⟩, got⟩ := inv.flow e
    rw [wire, TalkOp.pipes, drops]
    exact ⟨⟨floor, window, carried.lose⟩, got⟩
  · have wire : (c.step env sib (.lose e)).wire e.other = c.wire e.other :=
      Function.update_of_ne (other_ne e) ..
    have keeps : (TalkOp.lose e).towards e.other = [] := if_neg (other_ne e).symm
    rw [wire, TalkOp.pipes, keeps]
    exact inv.flow e.other

theorem TalkInv.deliver (inv : TalkInv env ptk (left + 1) c p) (e : SmeRole) :
    TalkInv env ptk left (c.step env sib (.deliver e)) ((TalkOp.deliver e).pipes p) := by
  have able := inv.able e
  have served : (TalkOp.deliver e).towards e = [.deliver] := if_pos rfl
  have keeps : (TalkOp.deliver e).towards e.other = [] := if_neg (other_ne e).symm
  obtain ⟨⟨floor, window, carried⟩, got⟩ := inv.flow e
  have top : (c.ends e.other).dataTxPn ≤ pnReplayPnMax :=
    Nat.le_trans (Nat.le_add_right _ _) (inv.able e.other).left
  cases waits : c.wire e with
  | nil =>
    have idle : c.step env sib (.deliver e) = c := by
      dsimp only [Talk.step]
      rw [waits]
    rw [idle]
    refine ⟨fun e' => (inv.able e').less, @both_ends e _ ?_ ?_⟩
    · have none : (p e).waiting = [] := by
        rw [waits] at carried
        exact carried.eq_nil
      have same : Pipe.step (p e) .deliver = p e := by
        unfold Pipe.step
        rw [none]
        simp only [List.tail_nil, List.head?_nil, Option.toList_none, List.append_nil]
        rw [← none]
      rw [TalkOp.pipes, served, List.foldl_cons, List.foldl_nil, same]
      exact inv.flow e
    · rw [TalkOp.pipes, keeps]
      exact inv.flow e.other
  | cons f rest =>
    rw [waits] at carried
    obtain ⟨n, payload, later, first, above, below, bears, carried⟩ := carried.head
    rw [← able.key] at bears
    have took := @smeRx_took env sib (c.ends e) payload n f able.up bears (Nat.le_trans below top)
      fun slot m holds => Nat.lt_of_le_of_lt (window slot m holds) above
    set t := (smeRx env sib (c.ends e) f).1 with taken
    have stepped : c.step env sib (.deliver e) =
        ({ c with wire := Function.update c.wire e rest }).act e t := by
      dsimp only [Talk.step]
      rw [waits]
    have room := able.left
    rw [stepped]
    refine TalkInv.act (inv.able e.other).less ⟨took.link.state.trans able.up,
      took.link.ptk.trans able.key, took.bound.trans able.bound, ?_⟩ ?_ ?_
    · rw [took.sends.1]
      omega
    · have behind : Function.update c.wire e rest e = rest := Function.update_self ..
      have moved : t.dataRx ≠ (c.ends e).dataRx := by
        rw [took.payload.1]
        exact Nat.succ_ne_self _
      dsimp only
      rw [if_neg moved, took.payload.2, behind, TalkOp.pipes, served, List.foldl_cons,
        List.foldl_nil]
      refine ⟨⟨n, fun slot m holds => ?_, ?_⟩, ?_⟩
      · obtain ⟨slot', commit⟩ := took.slot
        rw [commit] at holds
        rcases commit_window holds with same | old
        · exact Nat.le_of_eq same
        · exact Nat.le_trans (window slot m old) (Nat.le_of_lt above)
      · unfold Pipe.step
        rw [first]
        exact carried
      · unfold Pipe.step
        rw [first, got]
        rfl
    · have beside : Function.update c.wire e rest e.other = c.wire e.other :=
        Function.update_of_ne (other_ne e) ..
      have outward := inv.flow e.other
      rw [other_other] at outward
      dsimp only
      rw [beside, newSent_same took.sends.2, List.append_nil, took.sends.1, TalkOp.pipes, keeps]
      exact outward

theorem TalkInv.step (inv : TalkInv env ptk (left + 1) c p) {op : TalkOp} (plain : op.Plain) :
    TalkInv env ptk left (c.step env sib op) (op.pipes p) := by
  cases op with
  | send e payload up => exact inv.send e plain up
  | deliver e => exact inv.deliver e
  | lose e => exact inv.lose e

end Acting

end Steps

namespace TalkOp

/-- The payload that an operation sends to an end, unless it is too long. -/
def accepted (e : SmeRole) : TalkOp → List Bytes
  | .send e' payload _ => if e'.other = e ∧ payload.length ≤ smeDataMax then [payload] else []
  | .deliver _ => []
  | .lose _ => []

end TalkOp

section Order

variable {env : Env} {sib : Siblings} {sta ap : Sme}

end Order

end Rf2a4m1
