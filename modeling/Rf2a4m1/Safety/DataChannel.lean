import Rf2a4m1.Lib.Network
import Rf2a4m1.Lib.Replay
import Rf2a4m1.Sme.DataPath
import Rf2a4m1.Sme.Demo

/-!
# Data between two ends

A station and an AP with the same pairwise key send data over a network that
loses, repeats and reorders frames. Nothing in a frame says which end built it,
so a frame must not come back to its sender while its number is still new there.
-/

set_option autoImplicit false

namespace Rf2a4m1

open ByteString Runs Network Replay

def SmeRole.other : SmeRole → SmeRole
  | .sta => .ap
  | .ap => .sta

/-- A frame in the air, with the payload of the send call that produced it, if one did. -/
structure Packet where
  frame : Bytes
  payload : Option Bytes

/-- A frame taken by an end: its position in the air, its slot and packet number. -/
structure Taken where
  receiver : SmeRole
  index : Nat
  slot : Nat
  pn : Nat

/-- The two ends and the air, what was taken and which payloads were recorded, newest first. -/
structure Channel extends Config SmeRole Sme Packet where
  taken : List Taken
  recorded : List (SmeRole × Bytes)

inductive ChannelOp where
  | send (e : SmeRole) (payload : Bytes)
  | sendQos (e : SmeRole) (payload : Bytes) (up : UInt8)
  | deliver (e : SmeRole) (sib : Siblings) (index : Nat)

namespace Channel

def start (sta ap : Sme) : Channel where
  ends := fun
    | .sta => sta
    | .ap => ap
  air := []
  taken := []
  recorded := []

/-- An end moves on; what it sent is in the air. -/
def act (c : Channel) (e : SmeRole) (t : Sme) (payload : Option Bytes) :
    Config SmeRole Sme Packet :=
  c.toConfig.act e t ((newSent (c.ends e) t).map fun f => { frame := f, payload := payload })

def deliver (env : Env) (c : Channel) (e : SmeRole) (sib : Siblings) (index : Nat)
    (frame : Bytes) : Channel :=
  let s := c.ends e
  let t := (smeRx env sib s frame).1
  { c.act e t none with
    taken := match smeTakes env s frame with
      | none => c.taken
      | some (slot, pn) => { receiver := e, index := index, slot := slot, pn := pn } :: c.taken
    recorded := if t.dataRx = s.dataRx then c.recorded else (e, t.rxData) :: c.recorded }

/-- Any frame of the air may be delivered to any end, in any order and any number of times. -/
def step (env : Env) (c : Channel) : ChannelOp → Channel
  | .send e payload => { c with toConfig := c.act e (smeDataTx env (c.ends e) payload).1 payload }
  | .sendQos e payload up =>
    { c with toConfig := c.act e (smeDataTxQos env (c.ends e) payload up).1 payload }
  | .deliver e sib index =>
    match c.air[index]? with
    | none => c
    | some (_, p) => c.deliver env e sib index p.frame

/-- The slots and packet numbers that an end took, newest first. -/
def log (c : Channel) (e : SmeRole) : List (Nat × Nat) :=
  (c.taken.filter fun t => t.receiver = e).map fun t => (t.slot, t.pn)

end Channel

/-- Payloads come from the other end, frames count once, packet numbers rise in each slot. -/
structure ChannelSafe (c : Channel) : Prop where
  origin : ∀ e payload, (e, payload) ∈ c.recorded →
    ∃ p, (e.other, p) ∈ c.air ∧ p.payload = some payload
  once : (c.taken.map Taken.index).Nodup
  increasing : ∀ e, Increasing (c.log e)

/-- A station and an AP, connected with the same key, that have taken nothing yet. -/
structure Ready (sta ap : Sme) : Prop where
  roles : sta.role = .sta ∧ ap.role = .ap
  up : sta.state = .connected ∧ ap.state = .connected
  key : sta.ptk = ap.ptk
  fresh : sta.dataRxReplay = pnReplayReset ∧ ap.dataRxReplay = pnReplayReset

/-- A frame only comes back to its sender when the replay window there refuses it. -/
def NotReflected (c : Channel) : ChannelOp → Prop
  | .deliver e _ index => ∀ p slot pn, c.air[index]? = some (e, p) →
      frameSlot p.frame = some (slot, pn) → pnReplayOk (c.ends e).dataRxReplay slot pn = false
  | _ => True

/-- What is in the air was built under the key: data of a send call, or for a direct link. -/
inductive Built (env : Env) (key : Octets 16) : Packet → Prop where
  | data (src : MacAddr) (pn : Nat) (payload : Bytes) (sent : Option Bytes)
      (from_ : sent = some payload ∨ tdlsIsEncap payload = true) :
      Built env key { frame := dataFrame env key (smePfx .data src) pn payload, payload := sent }
  | qos (src : MacAddr) (up : UInt8) (pn : Nat) (payload : Bytes) :
      Built env key { frame := dataFrame env key (smePfx .qosData src ++ qosHdr up) pn payload,
                      payload := some payload }

section Packets

variable {env : Env} {key : Octets 16} {p : Packet}

theorem Built.tag (h : Built env key p) :
    smePfxLen ≤ p.frame.length ∧
      (byteAt p.frame 0 = smeIntEnc .data ∨ byteAt p.frame 0 = smeIntEnc .qosData) := by
  cases h with
  | data src pn payload =>
    have parts := dataFrame_tag env key .data src [] payload pn
    rw [List.append_nil] at parts
    exact ⟨parts.2, Or.inl parts.1⟩
  | qos src up pn payload =>
    have parts := dataFrame_tag env key .qosData src (qosHdr up) payload pn
    exact ⟨parts.2, Or.inr parts.1⟩

/-- What a receiver reads as payload is what a send call put in, unless it is a direct link's. -/
theorem Built.payload (h : Built env key p)
    (plain : byteAt p.frame 0 = smeIntEnc .data → tdlsIsEncap (framePayload p.frame) = false) :
    p.payload = some (framePayload p.frame) := by
  cases h with
  | data src pn payload sent from_ =>
    have parts := dataFrame_tag env key .data src [] payload pn
    rw [List.append_nil] at parts
    have read : framePayload (dataFrame env key (smePfx .data src) pn payload) = payload := by
      have body := (dataFrame_parts env key (smePfx .data src) payload pn).2
      rw [smePfx_length] at body
      exact (if_pos parts.1).trans body
    have other := plain parts.1
    dsimp only at other ⊢
    rw [read] at other ⊢
    rcases from_ with sent | encap
    · exact sent
    · rw [encap] at other
      cases other
  | qos src up pn payload =>
    have parts := dataFrame_tag env key .qosData src (qosHdr up) payload pn
    have notData : byteAt (dataFrame env key (smePfx .qosData src ++ qosHdr up) pn payload) 0 ≠
        smeIntEnc .data := by
      rw [parts.1]
      decide
    have body := (dataFrame_parts env key
      (smePfx .qosData src ++ qosHdr up) payload pn).2
    rw [List.length_append, smePfx_length] at body
    exact congrArg some ((if_neg notData).trans body).symm

end Packets

/-- Both ends up under one key, its frames in the air, and every taken frame the other end's. -/
structure ChannelInv (env : Env) (ptk : Octets 48) (c : Channel) : Prop where
  up : ∀ e, (c.ends e).state = .connected ∧ (c.ends e).ptk = ptk
  built : ∀ e p, (e, p) ∈ c.air → Built env (tk ptk) p
  source : ∀ t ∈ c.taken, ∃ p, c.air[t.index]? = some (t.receiver.other, p) ∧
    frameSlot p.frame = some (t.slot, t.pn)
  covers : ∀ e, (replayWindow (c.ends e).dataRxReplay).Covers (c.log e)
  safe : ChannelSafe c

section Send

variable {env : Env} {s : Sme}

/-- A send call keeps link and replay state, and what it sends carries its payload. -/
structure SendStep (env : Env) (s t : Sme) (payload : Bytes) : Prop where
  link : SameLink s t
  replay : t.dataRxReplay = s.dataRxReplay
  built : ∀ f ∈ newSent s t, Built env (tk s.ptk) { frame := f, payload := some payload }

theorem SendStep.none (payload : Bytes) : SendStep env s s payload where
  link := ⟨rfl, rfl, rfl⟩
  replay := rfl
  built := by
    rw [newSent_same rfl]
    exact fun f sent => absurd sent List.not_mem_nil

theorem txProt_send {hdr payload : Bytes} (ac tid : UInt8)
    (built : ∀ pn, Built env (tk s.ptk)
      { frame := dataFrame env (tk s.ptk) hdr pn payload, payload := some payload }) :
    SendStep env s (txProt env s hdr payload ac tid) payload where
  link := ⟨rfl, rfl, rfl⟩
  replay := rfl
  built := by
    rw [txProt_newSent rfl]
    intro f sent
    split at sent
    · rw [List.mem_singleton.1 sent]
      exact built _
    · exact absurd sent List.not_mem_nil

theorem smeDataTx_send (payload : Bytes) :
    SendStep env s (smeDataTx env s payload).1 payload := by
  unfold smeDataTx
  split
  · exact SendStep.none payload
  split
  · exact SendStep.none payload
  · exact txProt_send 1 0xff fun pn => Built.data s.self pn payload _ (Or.inl rfl)

theorem smeDataTxQos_send (payload : Bytes) (up : UInt8) :
    SendStep env s (smeDataTxQos env s payload up).1 payload := by
  unfold smeDataTxQos
  split
  · exact SendStep.none payload
  split
  · exact SendStep.none payload
  split
  · exact smeDataTx_send payload
  · exact txProt_send _ _ fun pn => Built.qos s.self up pn payload

end Send

section Step

variable {env : Env} {ptk : Octets 48} {c : Channel} {e : SmeRole} {t : Sme}

theorem SmeRole.eq_other {a b : SmeRole} (h : a ≠ b) : a = b.other := by
  cases a <;> cases b <;> first | rfl | exact absurd rfl h

theorem mem_log {k : Taken} (h : k ∈ c.taken) : (k.slot, k.pn) ∈ c.log k.receiver := by
  unfold Channel.log
  exact List.mem_map.2 ⟨k, List.mem_filter.2 ⟨h, by simp⟩, rfl⟩

/-- What an end's move leaves intact when it stays up and sends only under the key. -/
theorem ChannelInv.act (inv : ChannelInv env ptk c) (payload : Option Bytes)
    (link : SameLink (c.ends e) t)
    (built : ∀ f ∈ newSent (c.ends e) t, Built env (tk ptk) { frame := f, payload := payload }) :
    (∀ e', ((c.act e t payload).ends e').state = .connected ∧
        ((c.act e t payload).ends e').ptk = ptk) ∧
      (∀ e' p, (e', p) ∈ (c.act e t payload).air → Built env (tk ptk) p) ∧
      (∀ k ∈ c.taken, ∃ p, (c.act e t payload).air[k.index]? = some (k.receiver.other, p) ∧
        frameSlot p.frame = some (k.slot, k.pn)) ∧
      (∀ e' payload', (e', payload') ∈ c.recorded →
        ∃ p, (e'.other, p) ∈ (c.act e t payload).air ∧ p.payload = some payload') := by
  refine ⟨?_, ?_, ?_, ?_⟩
  · refine Config.act_all (P := fun _ (s : Sme) => s.state = .connected ∧ s.ptk = ptk) inv.up ⟨?_, ?_⟩
    · exact link.state.trans (inv.up e).1
    · exact link.ptk.trans (inv.up e).2
  · intro e' p sent
    rcases Config.mem_act.1 sent with old | ⟨_, new⟩
    · exact inv.built e' p old
    · obtain ⟨f, mem, rfl⟩ := List.mem_map.1 new
      exact built f mem
  · intro k taken
    obtain ⟨p, source, slot⟩ := inv.source k taken
    exact ⟨p, Config.get_act source, slot⟩
  · intro e' payload' recorded
    obtain ⟨p, sent, eq⟩ := inv.safe.origin e' payload' recorded
    exact ⟨p, Config.mem_act.2 (Or.inl sent), eq⟩

/-- A move after which the same frames are taken and recorded. -/
theorem ChannelInv.quiet (inv : ChannelInv env ptk c) (payload : Option Bytes)
    (link : SameLink (c.ends e) t) (replay : t.dataRxReplay = (c.ends e).dataRxReplay)
    (built : ∀ f ∈ newSent (c.ends e) t, Built env (tk ptk) { frame := f, payload := payload }) :
    ChannelInv env ptk { c with toConfig := c.act e t payload } := by
  obtain ⟨up, air, source, origin⟩ := inv.act payload link built
  refine ⟨up, air, source, ?_, ⟨origin, inv.safe.once, inv.safe.increasing⟩⟩
  intro e'
  refine Config.act_all (P := fun e' (s : Sme) => (replayWindow s.dataRxReplay).Covers (c.log e'))
    inv.covers ?_ e'
  rw [replay]
  exact inv.covers e

theorem ChannelInv.send (inv : ChannelInv env ptk c) {payload : Bytes}
    (sends : SendStep env (c.ends e) t payload) :
    ChannelInv env ptk { c with toConfig := c.act e t (some payload) } := by
  refine inv.quiet (some payload) sends.link sends.replay ?_
  rw [← (inv.up e).2]
  exact sends.built

/-- What an end sends on its own is for a direct link. -/
theorem AnswersDirect.built (answers : AnswersDirect env (c.ends e) t)
    (inv : ChannelInv env ptk c) : ∀ f ∈ newSent (c.ends e) t,
      Built env (tk ptk) { frame := f, payload := none } := by
  intro f sent
  rcases answers with none | ⟨pn, out, encap, one⟩
  · rw [none] at sent
    exact absurd sent List.not_mem_nil
  · rw [one, (inv.up e).2] at sent
    rw [List.mem_singleton.1 sent]
    exact Built.data _ pn _ none (Or.inr encap)

theorem deliver_untaken {sib : Siblings} {index : Nat} {frame : Bytes}
    (inv : ChannelInv env ptk c) (untaken : smeTakes env (c.ends e) frame = none)
    (counts : OnlyCounts (c.ends e) (smeRx env sib (c.ends e) frame).1) :
    ChannelInv env ptk (c.deliver env e sib index frame) := by
  obtain ⟨badMic, replay, eq⟩ := counts
  have same : c.deliver env e sib index frame =
      { c with toConfig := c.act e (smeRx env sib (c.ends e) frame).1 none } := by
    unfold Channel.deliver
    dsimp only
    rw [untaken, eq, if_pos rfl]
  rw [same, eq]
  refine inv.quiet none ⟨rfl, rfl, rfl⟩ rfl fun f sent => ?_
  have silent := newSent_same (s := c.ends e)
    (t := { c.ends e with badMic := badMic, dataReplay := replay }) rfl
  rw [silent] at sent
  exact absurd sent List.not_mem_nil

/-- A frame that is taken comes from the other end. -/
theorem deliver_foreign {sib : Siblings} {index slot pn : Nat} {p : Packet} {sender : SmeRole}
    (source : c.air[index]? = some (sender, p)) (slotEq : frameSlot p.frame = some (slot, pn))
    (notReflected : NotReflected c (.deliver e sib index))
    (ok : pnReplayOk (c.ends e).dataRxReplay slot pn = true) : sender = e.other := by
  refine SmeRole.eq_other fun reflected => ?_
  rw [reflected] at source
  rw [notReflected p slot pn source slotEq] at ok
  cases ok

section Taking

variable {sib : Siblings} {index slot pn : Nat} {p : Packet}
  (taken : smeTakes env (c.ends e) p.frame = some (slot, pn))
include taken

theorem deliver_takes : (c.deliver env e sib index p.frame).taken =
    { receiver := e, index := index, slot := slot, pn := pn } :: c.taken := by
  unfold Channel.deliver
  dsimp only
  rw [taken]

theorem deliver_log (e' : SmeRole) : (c.deliver env e sib index p.frame).log e' =
    if e = e' then (slot, pn) :: c.log e' else c.log e' := by
  unfold Channel.log
  rw [deliver_takes taken]
  by_cases same : e = e' <;> simp [same]

theorem deliver_increasing (inv : ChannelInv env ptk c)
    (admits : (replayWindow (c.ends e).dataRxReplay).admits slot pn) (e' : SmeRole) :
    Increasing ((c.deliver env e sib index p.frame).log e') := by
  rw [deliver_log taken e']
  by_cases same : e = e'
  · subst same
    rw [if_pos rfl]
    exact (inv.covers e).increasing (inv.safe.increasing e) admits
  · rw [if_neg same]
    exact inv.safe.increasing e'

/-- The window of the receiver moves on with what it took. -/
theorem deliver_covers (inv : ChannelInv env ptk c) (valid : slot < pnReplayTids)
    (admits : (replayWindow (c.ends e).dataRxReplay).admits slot pn)
    (replay : (smeRx env sib (c.ends e) p.frame).1.dataRxReplay =
      pnReplayCommit (c.ends e).dataRxReplay slot pn) (e' : SmeRole) :
    (replayWindow ((c.deliver env e sib index p.frame).ends e').dataRxReplay).Covers
      ((c.deliver env e sib index p.frame).log e') := by
  rw [deliver_log taken e']
  by_cases same : e = e'
  · subst same
    have now : ((c.deliver env e sib index p.frame).ends e).dataRxReplay =
        pnReplayCommit (c.ends e).dataRxReplay slot pn :=
      (congrArg (fun s : Sme => s.dataRxReplay) Config.act_self).trans replay
    rw [if_pos rfl, now, replayWindow_commit valid]
    exact (inv.covers e).take admits
  · have now : (c.deliver env e sib index p.frame).ends e' = c.ends e' :=
      Config.act_other (Ne.symm same)
    rw [if_neg same, now]
    exact inv.covers e'

end Taking

/-- A frame that was taken before is not newer than the window. -/
theorem ChannelInv.untaken {index slot pn : Nat} {p : Packet} (inv : ChannelInv env ptk c)
    (source : c.air[index]? = some (e.other, p)) (slotEq : frameSlot p.frame = some (slot, pn))
    (admits : (replayWindow (c.ends e).dataRxReplay).admits slot pn) :
    index ∉ c.taken.map Taken.index := by
  intro before
  obtain ⟨k, mem, rfl⟩ := List.mem_map.1 before
  obtain ⟨q, source', slot'⟩ := inv.source k mem
  rw [source] at source'
  obtain ⟨receiver, rfl⟩ := Prod.mk.inj (Option.some.inj source')
  have receiver : e = k.receiver := by
    revert receiver
    cases e <;> cases k.receiver <;> first | exact fun _ => rfl | exact fun h => by cases h
  rw [slotEq] at slot'
  obtain ⟨slot', pn'⟩ := Prod.mk.inj (Option.some.inj slot')
  have logged := mem_log mem
  rw [← slot', ← pn', ← receiver] at logged
  obtain ⟨m, highest, le⟩ := inv.covers e _ logged
  exact absurd (admits m highest) (Nat.not_lt.2 le)

theorem deliver_taken {sib : Siblings} {index slot pn : Nat} {p : Packet} {sender : SmeRole}
    (inv : ChannelInv env ptk c) (source : c.air[index]? = some (sender, p))
    (notReflected : NotReflected c (.deliver e sib index))
    (taken : smeTakes env (c.ends e) p.frame = some (slot, pn))
    (step : TakenStep env (c.ends e) (smeRx env sib (c.ends e) p.frame).1 p.frame slot pn) :
    ChannelInv env ptk (c.deliver env e sib index p.frame) := by
  obtain ⟨slotEq, accepted⟩ := Option.filter_eq_some_iff.1 taken
  have ok : pnReplayOk (c.ends e).dataRxReplay slot pn = true := by
    simp only [Bool.and_eq_true] at accepted
    exact accepted.2
  obtain rfl := deliver_foreign source slotEq notReflected ok
  obtain ⟨valid, admits⟩ := pnReplayOk_admits ok
  obtain ⟨up, air, oldSource, oldOrigin⟩ := inv.act none step.link (step.answers.built inv)
  refine ⟨up, air, ?_, deliver_covers taken inv valid admits step.replay,
    ⟨?_, ?_, deliver_increasing taken inv admits⟩⟩
  · intro k mem
    rw [deliver_takes taken] at mem
    rcases List.mem_cons.1 mem with rfl | old
    · exact ⟨p, Config.get_act source, slotEq⟩
    · exact oldSource k old
  · intro e' payload mem
    unfold Channel.deliver at mem
    dsimp only at mem
    split at mem
    · exact oldOrigin e' payload mem
    rename_i counted
    rcases List.mem_cons.1 mem with new | old
    · obtain ⟨rfl, rfl⟩ := Prod.mk.inj new
      obtain ⟨delivered, plain⟩ := step.delivered.resolve_left counted
      have sent : (e'.other, p) ∈ c.air := List.mem_of_getElem? source
      refine ⟨p, Config.mem_act.2 (Or.inl sent), ?_⟩
      rw [delivered]
      exact (inv.built _ p sent).payload plain
    · exact oldOrigin e' payload old
  · rw [deliver_takes taken, List.map_cons, List.nodup_cons]
    exact ⟨inv.untaken source slotEq admits, inv.safe.once⟩

theorem channelInv_step {op : ChannelOp} (inv : ChannelInv env ptk c)
    (notReflected : NotReflected c op) : ChannelInv env ptk (c.step env op) := by
  cases op with
  | send e payload => exact inv.send (smeDataTx_send payload)
  | sendQos e payload up => exact inv.send (smeDataTxQos_send payload up)
  | deliver e sib index =>
    cases source : c.air[index]? with
    | none =>
      have same : c.step env (.deliver e sib index) = c := by
        simp only [Channel.step, source]
      rw [same]
      exact inv
    | some sent =>
      obtain ⟨sender, p⟩ := sent
      have next : c.step env (.deliver e sib index) = c.deliver env e sib index p.frame := by
        simp only [Channel.step, source]
      rw [next]
      obtain ⟨long, tag⟩ := (inv.built sender p (List.mem_of_getElem? source)).tag
      rcases @smeRx_takes env sib _ _ (inv.up e).1 long tag with
        ⟨untaken, counts⟩ | ⟨slot, pn, taken, step⟩
      · exact deliver_untaken inv untaken counts
      · exact deliver_taken inv source notReflected taken step

end Step

section Run

variable {env : Env}

theorem channelInv_start {sta ap : Sme} (ready : Ready sta ap) :
    ChannelInv env sta.ptk (Channel.start sta ap) where
  up := by
    intro e
    cases e with
    | sta => exact ⟨ready.up.1, rfl⟩
    | ap => exact ⟨ready.up.2, ready.key.symm⟩
  built := fun _ _ sent => absurd sent List.not_mem_nil
  source := fun _ taken => absurd taken List.not_mem_nil
  covers := fun _ => Window.covers_nil _
  safe := ⟨fun _ _ recorded => absurd recorded List.not_mem_nil, List.nodup_nil,
    fun _ => List.Pairwise.nil⟩

/-- Whatever the network does short of that, the channel is safe. -/
theorem channelSafe_run {sta ap : Sme} {c : Channel} (ready : Ready sta ap)
    (run : Run (Channel.step env) NotReflected (Channel.start sta ap) c) : ChannelSafe c :=
  (run.invariant (ChannelInv env sta.ptk) (channelInv_start ready)
    fun _ _ inv notReflected => channelInv_step inv notReflected).safe

/-- The ends of the demonstration, connected. -/
def readySta : Sme :=
  { runOps demoStaInit (demoStaOps .disabled []) with dataRxReplay := pnReplayReset }

def readyAp : Sme :=
  { runOps demoApInit (demoApOps .disabled []) with dataRxReplay := pnReplayReset }

theorem ready_demo : Ready readySta readyAp := by
  have both : (readySta.role = .sta ∧ readyAp.role = .ap) ∧
      (readySta.state = .connected ∧ readyAp.state = .connected) ∧ readySta.ptk = readyAp.ptk := by
    decide +kernel
  exact ⟨both.1, both.2.1, both.2.2, ⟨rfl, rfl⟩⟩

@[irreducible] def runChannel (ops : List ChannelOp) : Channel :=
  ops.foldl (Channel.step demoEnv) (Channel.start readySta readyAp)

/-- A check that suffices for `NotReflected`. -/
def notReflectedCheck (c : Channel) : ChannelOp → Bool
  | .deliver e _ index => c.air[index]?.all fun p => p.1 ≠ e
  | _ => true

theorem notReflected_of_check {c : Channel} {op : ChannelOp} (h : notReflectedCheck c op = true) :
    NotReflected c op := by
  cases op with
  | send e payload => trivial
  | sendQos e payload up => trivial
  | deliver e sib index =>
    intro p slot pn source
    simp only [notReflectedCheck, source] at h
    simp at h

/-- Each end sends a payload; the first arrives twice. -/
def demoTraffic : List ChannelOp :=
  [.send .ap [1], .sendQos .sta [2] 5, .deliver .sta noSiblings 0, .deliver .sta noSiblings 0,
    .deliver .ap noSiblings 1]

theorem channelSafe_run_demo :
    ChannelSafe (runChannel demoTraffic) ∧
      (runChannel demoTraffic).recorded = [(.ap, [2]), (.sta, [1])] := by
  have run : Run (Channel.step demoEnv) NotReflected (Channel.start readySta readyAp)
      (runChannel demoTraffic) := by
    unfold runChannel
    apply Run.of_allAlong fun _ _ => notReflected_of_check
    decide +kernel
  exact ⟨channelSafe_run ready_demo run, by decide +kernel⟩

/-- A frame of the AP that comes back to it is taken for one of the station's. -/
theorem frame_reflected :
    ¬∀ (sta ap : Sme) (c : Channel), Ready sta ap →
      Reach (Channel.step demoEnv) (Channel.start sta ap) c → ChannelSafe c := by
  intro all
  let ops : List ChannelOp := [.send .ap [1], .deliver .ap noSiblings 0]
  have reach : Reach (Channel.step demoEnv) (Channel.start readySta readyAp) (runChannel ops) := by
    unfold runChannel
    exact Run.reach ops
  have outcome : (runChannel ops).recorded = [(.ap, [1])] ∧
      (runChannel ops).air.map Prod.fst = [.ap] := by
    decide +kernel
  have safe := all readySta readyAp _ ready_demo reach
  obtain ⟨p, sent, _⟩ := safe.origin .ap [1] (by rw [outcome.1]; exact List.mem_singleton_self _)
  have sender := List.mem_map_of_mem (f := Prod.fst) sent
  rw [outcome.2] at sender
  have same : SmeRole.sta = .ap := List.mem_singleton.1 sender
  cases same

end Run

end Rf2a4m1
