import Rf2a4m1.Sme.Accept
import Rf2a4m1.Sme.Demo

/-!
# The replay counter of an association

What the counters of EAPOL-Key messages do to a station from the moment it
associates. A first message carries no MIC and overwrites the counter.
-/

set_option autoImplicit false

namespace Rf2a4m1

open ByteString Runs

/-- The messages of the handshake. -/
def FrameType.eapol : FrameType → Bool
  | .m1 | .m2 | .m3 | .m4 => true
  | _ => false

/-- An 802.11 data frame, or one of the four messages in internal form. -/
def isEapolFrame (frame : Bytes) : Bool :=
  isDot11Data frame ||
    decide (smePfxLen ≤ frame.length) &&
      [FrameType.m1, .m2, .m3, .m4].any fun type => byteAt frame 0 = smeIntEnc type

structure EapolFrame where
  octets : Bytes
  eapol : isEapolFrame octets = true

/-- The message a frame brings to the handlers. -/
def eapolMessage (s : Sme) (frame : Bytes) : Option (FrameType × Bytes) :=
  match rxKind s frame with
  | .handle _ type inp => if type.eapol then some (type, frameBody inp) else none
  | _ => none

/--
What happens to an association: the station enters it, and answers the message
it kept, or a frame arrives. A genuine message is one the AP of the association sent.
-/
inductive AssocInput where
  | entered (genuine : Bool)
  | rx (sib : Siblings) (frame : EapolFrame) (genuine : Bool)

namespace AssocInput

def genuine : AssocInput → Bool
  | entered g | rx _ _ g => g

def act (env : Env) (s : Sme) : AssocInput → Sme
  | entered _ => staAssoced env s
  | rx sib frame _ => (smeRx env sib s frame.octets).1

def message (s : Sme) : AssocInput → Option (FrameType × Bytes)
  | entered _ => s.earlyM1.map fun pdu => (.m1, pdu)
  | rx _ frame _ => eapolMessage s frame.octets

/-- The fields of a message of one type. -/
def reads (s : Sme) (i : AssocInput) (type : FrameType) : Option EapolKey :=
  (i.message s).bind fun m => if m.1 = type then smeEapolKeyDecode m.2 else none

/-- Whether the station is where it answers a first message. -/
def answers (s : Sme) : AssocInput → Bool
  | entered _ => true
  | rx _ _ _ => s.state = .assoced || s.state = .fourWay

/-- The counter a message carries. -/
def counter (s : Sme) (i : AssocInput) : List Nat :=
  ((i.message s).bind fun m => (smeEapolKeyDecode m.2).map EapolKey.replay).toList

end AssocInput

/-- A station with the counters of the messages it accepted, and of the genuine ones so far. -/
structure Association where
  sme : Sme
  accepted : List Nat
  genuine : List Nat

namespace Association

def start (s : Sme) : Association := { sme := s, accepted := [], genuine := [] }

/-- A message is accepted when it is answered. -/
def answered (s t : Sme) : Bool := s.eapolM2Tx < t.eapolM2Tx || s.eapolM4Tx < t.eapolM4Tx

def step (env : Env) (a : Association) (i : AssocInput) : Association :=
  let t := i.act env a.sme
  let seen := i.counter a.sme
  { sme := t
    accepted := if answered a.sme t then seen ++ a.accepted else a.accepted
    genuine := if i.genuine then seen ++ a.genuine else a.genuine }

/--
A first message that is answered does not lie below the replay counter, and a
forged one not above every genuine message so far.
-/
def InOrder (a : Association) (i : AssocInput) : Prop :=
  i.answers a.sme = true → ∀ k, i.reads a.sme .m1 = some k →
    a.sme.replay ≤ k.replay ∧ (i.genuine = true ∨ ∃ c ∈ a.genuine, k.replay ≤ c)

/-- What a step does to the counter and to stale and fresh messages. -/
structure ReplayGuarded (env : Env) (a : Association) (i : AssocInput) : Prop where
  monotone : a.sme.replay ≤ (i.act env a.sme).replay
  staleM1 : ∀ k, i.reads a.sme .m1 = some k → k.replay < a.sme.replay →
    (i.act env a.sme).eapolM2Tx = a.sme.eapolM2Tx ∧ (i.act env a.sme).sent = a.sme.sent ∧
      (i.act env a.sme).anonce = a.sme.anonce ∧ (i.act env a.sme).ptk = a.sme.ptk
  freshM3 : a.sme.eapolM4Tx < (i.act env a.sme).eapolM4Tx →
    ∃ k, i.reads a.sme .m3 = some k ∧ ∀ c ∈ a.accepted, c < k.replay
  genuineM3 : ∀ pdu k, i.message a.sme = some (.m3, pdu) → smeEapolKeyDecode pdu = some k →
    i.genuine = true → a.sme.state = .fourWay → eapolMicOk env a.sme pdu = true →
    (∀ c ∈ a.genuine, c < k.replay) → a.sme.eapolM3Rx < (i.act env a.sme).eapolM3Rx

/-- Nothing accepted lies above the counter, and during the handshake some genuine message
is as high. -/
structure Bounded (a : Association) : Prop where
  role : a.sme.role = .sta
  accepted : ∀ c ∈ a.accepted, c ≤ a.sme.replay
  genuine : a.sme.state = .fourWay → ∃ c ∈ a.genuine, a.sme.replay ≤ c

end Association

section Frames

variable {s : Sme} {frame : Bytes}

theorem eapolType_eapol {ki : UInt16} {type : FrameType} (known : eapolType ki = some type) :
    type.eapol = true := by
  unfold eapolType at known
  dsimp only at known
  split_ifs at known <;> cases known <;> rfl

/-- A kind that is nothing, or a message of the handshake. -/
def RxKind.eapol : RxKind → Bool
  | .ignored => true
  | .handle none type _ => type.eapol
  | _ => false

theorem internalKind_eapol {type : FrameType} (eapol : type.eapol = true) (inp : Bytes) :
    (internalKind s none type inp).eapol = true := by
  unfold internalKind
  split
  · exact eapol
  · rfl

theorem dataKind_eapol : (dataKind s frame).eapol = true := by
  unfold dataKind
  cases eapolOfDot11 s frame with
  | none => rfl
  | some found =>
    dsimp only
    cases known : (eapolKeyFields found.2).bind fun k => eapolType k.keyInfo with
    | none => rfl
    | some type =>
      obtain ⟨k, _, kind⟩ := Option.bind_eq_some_iff.1 known
      dsimp only
      unfold viewKind
      split
      · rfl
      · exact internalKind_eapol (eapolType_eapol kind) _

/-- An EAPOL frame is ignored or reaches a handler of the handshake. -/
theorem rxKind_eapol (eapol : isEapolFrame frame = true) : (rxKind s frame).eapol = true := by
  unfold rxKind
  split
  · rfl
  rename_i live
  unfold isEapolFrame at eapol
  rcases Bool.or_eq_true_iff.1 eapol with data | internal
  · have noHdr : (if frame.length ≤ 0xffff then mgmtParseHdr frame else none) = none := by
      cases parsed : mgmtParseHdr frame with
      | none => exact ite_self none
      | some h =>
        rw [(mgmtParseHdr_exclusive parsed).1] at data
        cases data
    rw [noHdr]
    dsimp only
    rw [if_pos data]
    exact dataKind_eapol
  · obtain ⟨long, tag⟩ := Bool.and_eq_true_iff.1 internal
    obtain ⟨type, listed, tag⟩ := List.any_eq_true.1 tag
    have known : type.eapol = true := by
      simp only [List.mem_cons, List.not_mem_nil, or_false] at listed
      rcases listed with rfl | rfl | rfl | rfl <;> rfl
    have kind := @rxKind_internal s type frame (of_decide_eq_true long) (of_decide_eq_true tag)
      (fun failed => live (Or.inr failed))
    unfold rxKind at kind
    rw [if_neg live] at kind
    rw [kind]
    exact internalKind_eapol known _

end Frames

section Step

variable {env : Env} {s : Sme}

/-- What the counters of an association are about. -/
structure ReplayView where
  role : SmeRole
  state : SmeState
  replay : Nat
  anonce : Octets 32
  ptk : Octets 48
  eapolM2Tx : Nat
  eapolM4Tx : Nat
  sent : List TxFrame

def Sme.replayView (s : Sme) : ReplayView :=
  { role := s.role, state := s.state, replay := s.replay, anonce := s.anonce, ptk := s.ptk,
    eapolM2Tx := s.eapolM2Tx, eapolM4Tx := s.eapolM4Tx, sent := s.sent }

/-- What an input does to a station. -/
inductive AssocStep (s : Sme) (i : AssocInput) (t : Sme) : Prop where
  | kept (state : SmeState) (keeps : state = .fourWay → s.state = .fourWay)
      (same : t.replayView = { s.replayView with state := state })
  | answered (k : EapolKey) (answers : i.answers s = true) (reads : i.reads s .m1 = some k)
      (role : t.role = s.role) (replay : t.replay = k.replay) (m4 : t.eapolM4Tx = s.eapolM4Tx)
  | accepted (k : EapolKey) (reads : i.reads s .m3 = some k) (newer : s.replay < k.replay)
      (role : t.role = s.role) (replay : t.replay = k.replay) (up : t.state = .connected)

theorem staOnM1_answers {pdu : Bytes} {k : EapolKey} (decoded : smeEapolKeyDecode pdu = some k) :
    (staOnM1 env s pdu).role = s.role ∧ (staOnM1 env s pdu).replay = k.replay ∧
      (staOnM1 env s pdu).eapolM4Tx = s.eapolM4Tx := by
  unfold staOnM1
  rw [decoded]
  dsimp only
  unfold staSnonce
  split <;> exact ⟨rfl, rfl, rfl⟩

theorem staM3Mfp_replayView (kde : Bytes) : (staM3Mfp s kde).replayView = s.replayView := by
  obtain ⟨fails, eq⟩ := staM3Mfp_eq s kde
  rw [eq]
  rfl

/-- A third message is turned down, or accepted with a newer counter. -/
theorem staOnM3_cases (env : Env) (s : Sme) (pdu : Bytes) :
    (staOnM3 env s pdu).replayView = s.replayView ∨
      ∃ k, smeEapolKeyDecode pdu = some k ∧ s.replay < k.replay ∧
        (staOnM3 env s pdu).role = s.role ∧ (staOnM3 env s pdu).replay = k.replay ∧
        (staOnM3 env s pdu).state = .connected := by
  have accept (t : Sme) (replay : Nat) (gtk : Octets 16) :
      (staAcceptM3 env t replay gtk).role = t.role ∧
        (staAcceptM3 env t replay gtk).replay = replay ∧
        (staAcceptM3 env t replay gtk).state = .connected := by
    obtain ⟨valid, up⟩ := staAcceptM3_core env t replay gtk
    exact ⟨congrArg SmeCore.role up, congrArg (fun c : SmeCore => c.replay) up,
      congrArg SmeCore.state up⟩
  unfold staOnM3
  split
  · exact Or.inl rfl
  cases decoded : smeEapolKeyDecode pdu with
  | none => exact Or.inl rfl
  | some k =>
    dsimp only
    by_cases stale : k.replay ≤ s.replay
    · rw [if_pos stale]
      exact Or.inl rfl
    rw [if_neg stale]
    have newer := Nat.lt_of_not_le stale
    split
    · exact Or.inl rfl
    split
    · exact Or.inl rfl
    unfold staM3Keys
    split
    · exact Or.inl rfl
    split
    · exact Or.inr ⟨k, rfl, newer, accept _ k.replay _⟩
    dsimp only
    have kept := @staM3Mfp_replayView { s with eapolM3Rx := s.eapolM3Rx + 1 }
      (env.keyUnwrap smeKdeMax (kek s.ptk) k.keyData)
    split
    · exact Or.inl kept
    · obtain ⟨role, rest⟩ := accept (staM3Mfp { s with eapolM3Rx := s.eapolM3Rx + 1 }
        (env.keyUnwrap smeKdeMax (kek s.ptk) k.keyData)) k.replay _
      exact Or.inr ⟨k, rfl, newer, role.trans (congrArg ReplayView.role kept), rest⟩

/-- The handlers of a station for the four messages. -/
theorem rx_step (sta : s.role = .sta) (sib : Siblings) (frame : EapolFrame) :
    eapolMessage s frame.octets = none ∧ (smeRx env sib s frame.octets).1 = s ∨
      ∃ type pdu, eapolMessage s frame.octets = some (type, pdu) ∧
        (smeRx env sib s frame.octets).1 =
          if type = .m1 then staRxM1 env s pdu else if type = .m3 then staOnM3 env s pdu else s := by
  have kind := @rxKind_eapol s _ frame.eapol
  rw [smeRx_eq]
  unfold eapolMessage
  cases found : rxKind s frame.octets with
  | ignored => exact Or.inl ⟨rfl, rfl⟩
  | handle aid type inp =>
    rw [found] at kind
    cases aid with
    | some a => cases kind
    | none =>
      have eapol : type.eapol = true := kind
      dsimp only
      rw [if_pos eapol]
      refine Or.inr ⟨type, frameBody inp, rfl, ?_⟩
      have act : (rxAct env sib s frame.octets (.handle none type inp)).1 =
          (staDemux env sib s type (frameSrc inp) inp (frameBody inp)).1 := by
        rw [rxAct_sta env sib s sta]
        rfl
      rw [act]
      cases type <;> first | rfl | cases eapol
  | _ =>
    rw [found] at kind
    cases kind

/-- A first message is kept for later, or answered. -/
theorem staRxM1_cases (env : Env) (s : Sme) (pdu : Bytes) :
    (staRxM1 env s pdu).replayView = s.replayView ∨
      (s.state = .assoced ∨ s.state = .fourWay) ∧ staRxM1 env s pdu = staOnM1 env s pdu := by
  unfold staRxM1
  split
  · exact Or.inl rfl
  split
  · split
    · exact Or.inl rfl
    · exact Or.inl rfl
  · rename_i here
    exact Or.inr ⟨by tauto, rfl⟩

theorem staOnM1_none {pdu : Bytes} (decoded : smeEapolKeyDecode pdu = none) :
    staOnM1 env s pdu = s := by
  unfold staOnM1
  rw [decoded]

theorem AssocInput.step (sta : s.role = .sta) (i : AssocInput) : AssocStep s i (i.act env s) := by
  cases i with
  | entered g =>
    have act : AssocInput.act env s (.entered g) = staAssoced env s := rfl
    rw [act]
    unfold staAssoced
    dsimp only
    cases early : s.earlyM1 with
    | none => exact .kept .assoced (fun no => by cases no) rfl
    | some pdu =>
      dsimp only
      cases decoded : smeEapolKeyDecode pdu with
      | none =>
        rw [staOnM1_none decoded]
        exact .kept .assoced (fun no => by cases no) rfl
      | some k =>
        obtain ⟨role, replay, m4⟩ := staOnM1_answers decoded
        refine .answered k rfl ?_ role replay m4
        unfold AssocInput.reads AssocInput.message
        rw [early]
        exact decoded
  | rx sib frame g =>
    have act : AssocInput.act env s (.rx sib frame g) = (smeRx env sib s frame.octets).1 := rfl
    rw [act]
    rcases rx_step sta sib frame with ⟨_, same⟩ | ⟨type, pdu, message, effect⟩
    · rw [same]
      exact .kept s.state id rfl
    rw [effect]
    have reads : AssocInput.reads s (.rx sib frame g) type = smeEapolKeyDecode pdu := by
      unfold AssocInput.reads AssocInput.message
      dsimp only
      rw [message, Option.bind_some, if_pos rfl]
    by_cases first : type = .m1
    · rw [if_pos first]
      rw [first] at reads
      rcases staRxM1_cases env s pdu with same | ⟨here, answer⟩
      · exact .kept s.state id same
      rw [answer]
      cases decoded : smeEapolKeyDecode pdu with
      | none =>
        rw [staOnM1_none decoded]
        exact .kept s.state id rfl
      | some k =>
        obtain ⟨role, replay, m4⟩ := @staOnM1_answers env s _ _ decoded
        refine .answered k ?_ (reads.trans decoded) role replay m4
        unfold AssocInput.answers
        simpa using here
    · rw [if_neg first]
      by_cases third : type = .m3
      · rw [if_pos third]
        rw [third] at reads
        rcases staOnM3_cases env s pdu with same | ⟨k, decoded, newer, role, replay, up⟩
        · exact .kept s.state id same
        · exact .accepted k (reads.trans decoded) newer role replay up
      · rw [if_neg third]
        exact .kept s.state id rfl

end Step

namespace Association

variable {env : Env} {a : Association} {i : AssocInput}

theorem message_of_reads {s : Sme} {type : FrameType} {k : EapolKey}
    (reads : i.reads s type = some k) :
    ∃ pdu, i.message s = some (type, pdu) ∧ smeEapolKeyDecode pdu = some k := by
  unfold AssocInput.reads at reads
  obtain ⟨m, message, decoded⟩ := Option.bind_eq_some_iff.1 reads
  split at decoded
  · rename_i same
    exact ⟨m.2, by rw [message, ← same], decoded⟩
  · cases decoded

theorem counter_of_reads {s : Sme} {type : FrameType} {k : EapolKey}
    (reads : i.reads s type = some k) : i.counter s = [k.replay] := by
  obtain ⟨pdu, message, decoded⟩ := message_of_reads reads
  unfold AssocInput.counter
  rw [message, Option.bind_some, decoded]
  rfl

theorem Bounded.start {s : Sme} (sta : s.role = .sta) (before : s.state ≠ .fourWay) :
    Bounded (start s) where
  role := sta
  accepted _ no := absurd no List.not_mem_nil
  genuine during := absurd during before

/-- The genuine messages so far stay. -/
theorem genuine_step {c : Nat} (mem : c ∈ a.genuine) : c ∈ (a.step env i).genuine := by
  unfold step
  dsimp only
  split
  · exact List.mem_append_right _ mem
  · exact mem

theorem Bounded.step (bounded : Bounded a) (inOrder : a.InOrder i) : Bounded (a.step env i) := by
  have answeredBelow {k : EapolKey} {type : FrameType} (reads : i.reads a.sme type = some k)
      (rises : a.sme.replay ≤ k.replay) (c : Nat) (mem : c ∈ (a.step env i).accepted) :
      c ≤ k.replay := by
    unfold Association.step at mem
    dsimp only at mem
    split at mem
    · rcases List.mem_append.1 mem with new | old
      · rw [counter_of_reads reads] at new
        exact Nat.le_of_eq (List.mem_singleton.1 new)
      · exact Nat.le_trans (bounded.accepted c old) rises
    · exact Nat.le_trans (bounded.accepted c mem) rises
  cases @AssocInput.step env _ bounded.role i with
  | kept state keeps same =>
    have m2 : (i.act env a.sme).eapolM2Tx = a.sme.eapolM2Tx := congrArg ReplayView.eapolM2Tx same
    have m4 : (i.act env a.sme).eapolM4Tx = a.sme.eapolM4Tx := congrArg ReplayView.eapolM4Tx same
    have replay : (i.act env a.sme).replay = a.sme.replay := congrArg ReplayView.replay same
    constructor
    · exact (congrArg ReplayView.role same).trans bounded.role
    · intro c mem
      have quiet : answered a.sme (i.act env a.sme) = false := by
        unfold answered
        rw [m2, m4]
        simp
      unfold Association.step at mem ⊢
      dsimp only at mem ⊢
      rw [quiet, if_neg Bool.false_ne_true] at mem
      rw [replay]
      exact bounded.accepted c mem
    · intro during
      have during : state = .fourWay := (congrArg ReplayView.state same).symm.trans during
      obtain ⟨c, mem, below⟩ := bounded.genuine (keeps during)
      exact ⟨c, genuine_step mem, Nat.le_trans (Nat.le_of_eq replay) below⟩
  | answered k answers reads role replay m4 =>
    obtain ⟨rises, genuine⟩ := inOrder answers k reads
    constructor
    · exact role.trans bounded.role
    · intro c mem
      have replay : (a.step env i).sme.replay = k.replay := replay
      rw [replay]
      exact answeredBelow reads rises c mem
    · intro _
      have replay : (a.step env i).sme.replay = k.replay := replay
      rw [replay]
      rcases genuine with own | ⟨c, mem, below⟩
      · refine ⟨k.replay, ?_, Nat.le_refl _⟩
        unfold Association.step
        dsimp only
        rw [if_pos own, counter_of_reads reads]
        exact List.mem_cons_self
      · exact ⟨c, genuine_step mem, below⟩
  | accepted k reads newer role replay up =>
    constructor
    · exact role.trans bounded.role
    · intro c mem
      have replay : (a.step env i).sme.replay = k.replay := replay
      rw [replay]
      exact answeredBelow reads (Nat.le_of_lt newer) c mem
    · intro during
      exact absurd (up.symm.trans during) (by decide)

/-- A genuine third message with a newer counter and a valid MIC is read. -/
theorem staOnM3_reads {s : Sme} {pdu : Bytes} {k : EapolKey} (during : s.state = .fourWay)
    (decoded : smeEapolKeyDecode pdu = some k) (newer : s.replay < k.replay)
    (mic : eapolMicOk env s pdu = true) : s.eapolM3Rx < (staOnM3 env s pdu).eapolM3Rx := by
  have established (t : Sme) : (connectAndEstablish t).eapolM3Rx = t.eapolM3Rx := by
    unfold connectAndEstablish smeFtEstablish
    repeat' split
    all_goals rfl
  have installed (t : Sme) : (smeInstallKeys t).eapolM3Rx = t.eapolM3Rx := by
    unfold smeInstallKeys smeInstallDataKey
    split <;> rfl
  have mfp (t : Sme) (kde : Bytes) : (staM3Mfp t kde).eapolM3Rx = t.eapolM3Rx := by
    obtain ⟨fails, eq⟩ := staM3Mfp_eq t kde
    rw [eq]
  have accept (t : Sme) (replay : Nat) (gtk : Octets 16) :
      (staAcceptM3 env t replay gtk).eapolM3Rx = t.eapolM3Rx := by
    unfold staAcceptM3
    exact (established _).trans (installed { t with replay := replay, gtk := gtk })
  have keys (t : Sme) (replay : Nat) (kde : Bytes) :
      (staM3Keys env t replay kde).eapolM3Rx = t.eapolM3Rx := by
    unfold staM3Keys
    split
    · rfl
    split
    · exact accept t replay _
    dsimp only
    split
    · exact mfp t kde
    · exact (accept _ replay _).trans (mfp t kde)
  unfold staOnM3
  rw [if_neg (not_not.2 during), decoded]
  dsimp only
  rw [if_neg (Nat.not_le.2 newer), mic, if_neg (by decide)]
  split
  · exact Nat.lt_succ_self _
  · rw [keys]
    exact Nat.lt_succ_self _

theorem Bounded.guarded (bounded : Bounded a) (inOrder : a.InOrder i) : ReplayGuarded env a i := by
  have step := @AssocInput.step env _ bounded.role i
  constructor
  · cases step with
    | kept state keeps same => exact Nat.le_of_eq (congrArg ReplayView.replay same).symm
    | answered k answers reads role replay m4 =>
      rw [replay]
      exact (inOrder answers k reads).1
    | accepted k reads newer role replay up =>
      rw [replay]
      exact Nat.le_of_lt newer
  · intro k reads stale
    cases step with
    | kept state keeps same =>
      exact ⟨congrArg ReplayView.eapolM2Tx same, congrArg ReplayView.sent same,
        congrArg ReplayView.anonce same, congrArg ReplayView.ptk same⟩
    | answered k' answers reads' role replay m4 =>
      have rises := (inOrder answers k reads).1
      omega
    | accepted k' reads' newer role replay up =>
      obtain ⟨_, first, _⟩ := message_of_reads reads
      obtain ⟨_, third, _⟩ := message_of_reads reads'
      rw [first] at third
      cases third
  · intro up
    cases step with
    | kept state keeps same =>
      have m4 : (i.act env a.sme).eapolM4Tx = a.sme.eapolM4Tx := congrArg ReplayView.eapolM4Tx same
      omega
    | answered k answers reads role replay m4 => omega
    | accepted k reads newer role replay _ =>
      refine ⟨k, reads, fun c mem => ?_⟩
      have below := bounded.accepted c mem
      omega
  · intro pdu k message decoded genuine during mic above
    obtain ⟨c, mem, below⟩ := bounded.genuine during
    have newer := above c mem
    cases i with
    | entered g =>
      obtain ⟨_, _, first⟩ := Option.map_eq_some_iff.1 message
      cases first
    | rx sib frame g =>
      have found : eapolMessage a.sme frame.octets = some (.m3, pdu) := message
      rcases @rx_step env _ bounded.role sib frame with ⟨none, _⟩ | ⟨type, _, some, effect⟩
      · rw [found] at none
        cases none
      · rw [found] at some
        cases some
        have act : AssocInput.act env a.sme (.rx sib frame g) = staOnM3 env a.sme pdu := effect
        rw [act]
        exact staOnM3_reads during decoded (Nat.lt_of_le_of_lt below newer) mic

/--
While every first message that is answered comes in order, the counter of an
association does what it is for.
-/
theorem replayGuarded_run {s : Sme} (sta : s.role = .sta) (before : s.state ≠ .fourWay)
    (run : Run (step env) InOrder (start s) a) (inOrder : a.InOrder i) : ReplayGuarded env a i := by
  have bounded : Bounded a := by
    apply run.invariant Bounded
    · exact Bounded.start sta before
    · intro b j kept ordered
      exact kept.step ordered
  exact bounded.guarded inOrder

instance (a : Association) (i : AssocInput) : Decidable (a.InOrder i) :=
  decidable_of_iff (i.answers a.sme = true → (i.reads a.sme .m1).all (fun k =>
      decide (a.sme.replay ≤ k.replay ∧ (i.genuine = true ∨ ∃ c ∈ a.genuine, k.replay ≤ c))) = true)
    (imp_congr_right fun _ => (Option.all_eq_true _ _).trans
      (forall_congr' fun _ => imp_congr_right fun _ => decide_eq_true_iff))

end Association

section Demo

open Association

/-- A message from the AP in internal form, with a MIC under `key` when its type carries one. -/
def demoEapol (type : FrameType) (keyInfo : UInt16) (replay : Nat) (key : Octets 48) : Bytes :=
  let keyData := gtkKdeBuild (Octets.zero 16) 1
  let pdu := (smeEapolKeyEncode 288 keyInfo 16 replay (Octets.zero 32) keyData).getD []
  smePfx type demoApMac ++
    if keyInfo &&& smeKiMic = 0 then pdu else splice pdu eoMic (demoEnv.mic (kck key) pdu).bytes

theorem demoEapol_eapol (type : FrameType) (eapol : type.eapol = true) (keyInfo : UInt16)
    (replay : Nat) (key : Octets 48) : isEapolFrame (demoEapol type keyInfo replay key) = true := by
  have long : smePfxLen ≤ (demoEapol type keyInfo replay key).length := by
    unfold demoEapol smePfxLen
    dsimp only
    rw [List.length_append, smePfx_length]
    omega
  have tag : byteAt (demoEapol type keyInfo replay key) 0 = smeIntEnc type := rfl
  unfold isEapolFrame
  rw [decide_eq_true long, tag]
  cases type <;> first | exact absurd eapol (by decide) | simp

def demoRx (type : FrameType) (eapol : type.eapol = true) (keyInfo : UInt16) (replay : Nat)
    (key : Octets 48) (genuine : Bool) : AssocInput :=
  .rx noSiblings ⟨_, demoEapol_eapol type eapol keyInfo replay key⟩ genuine

def demoM1At (replay : Nat) (genuine : Bool) : AssocInput :=
  demoRx .m1 rfl smeKiM1 replay (Octets.zero 48) genuine

/-- The station once it is authenticated. -/
@[irreducible] def demoAuthed : Sme := runOps demoStaInit ((demoStaStart .disabled []).take 5)

theorem demoAuthed_state : demoAuthed.role = .sta ∧ demoAuthed.state ≠ .fourWay := by
  decide +kernel

/-- It has associated and answered a genuine first message with counter 5. -/
@[irreducible] def demoAnswered : Association :=
  [AssocInput.entered false, demoM1At 5 true].foldl (step demoEnv) (start demoAuthed)

theorem replayGuarded_run_demo :
    ReplayGuarded demoEnv demoAnswered (demoRx .m3 rfl smeKiM3 6 demoAnswered.sme.ptk true) := by
  have entered : Run (step demoEnv) InOrder (start demoAuthed)
      (step demoEnv (start demoAuthed) (.entered false)) :=
    Run.single _ (by decide +kernel)
  have run : Run (step demoEnv) InOrder (start demoAuthed) demoAnswered := by
    unfold demoAnswered
    exact entered.tail (demoM1At 5 true) (by decide +kernel)
  exact replayGuarded_run demoAuthed_state.1 demoAuthed_state.2 run (by decide +kernel)

/-- A forged first message with counter 3 is answered after one with counter 5. -/
theorem replay_decreases :
    ¬∀ s a i, s.role = .sta → s.state ≠ .fourWay → Reach (step demoEnv) (start s) a →
      ReplayGuarded demoEnv a i := by
  intro all
  have reach : Reach (step demoEnv) (start demoAuthed) demoAnswered := by
    unfold demoAnswered
    exact Run.reach _
  have guarded := all _ _ (demoM1At 3 false) demoAuthed_state.1 demoAuthed_state.2 reach
  have drops : ¬demoAnswered.sme.replay ≤
      ((demoM1At 3 false).act demoEnv demoAnswered.sme).replay := by
    decide +kernel
  exact drops guarded.monotone

/-- The third message that the witness is about is accepted. -/
example : ((demoRx .m3 rfl smeKiM3 6 demoAnswered.sme.ptk true).act demoEnv demoAnswered.sme).state =
    .connected := by
  decide +kernel

end Demo

end Rf2a4m1
