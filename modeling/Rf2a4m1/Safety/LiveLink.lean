import Rf2a4m1.Sme.Core
import Rf2a4m1.Sme.Demo
import Rf2a4m1.Sme.Dispatch

/-!
# A live link and management frames nobody authenticated

The demultiplexer is closed for Authentication and association frames while the
link is up. A refusal fails the link all the same, and an Association Response
brings its AID, because both are acted on before the demultiplexer is asked.
-/

set_option autoImplicit false

namespace Rf2a4m1

open ByteString Runs

/-- Authentication, (Re)Association Response, Association Request, Beacon, Probe Request and Response. -/
def linkSubtypes : List UInt8 := [11, 1, 3, 0, 8, 4, 5]

/-- What makes up the live link. -/
structure LinkKept (s t : Sme) : Prop where
  state : t.state = s.state
  connected : t.connected = s.connected
  peer : t.peer = s.peer
  aid : t.aid = s.aid
  pmk : t.pmk = s.pmk
  ptk : t.ptk = s.ptk
  gtk : t.gtk = s.gtk
  installedTk : t.installedTk = s.installedTk
  dataRxReplay : t.dataRxReplay = s.dataRxReplay
  mfpActive : t.mfpActive = s.mfpActive

/-- A refusal: open-system Authentication or a (Re)Association Response with a bad status. -/
def Refuses (h : MgmtHdr) : Prop :=
  h.subtype = 11 ∧ (∃ a, mgmtParseAuth h.body = some a ∧ a.algo = 0 ∧ a.txn = 2 ∧ a.status ≠ 0) ∨
    (h.subtype = 1 ∨ h.subtype = 3) ∧ ∃ r, mgmtParseAssocResp h.body = some r ∧ r.status ≠ 0

/-- A (Re)Association Response that assigns another AID. -/
def MovesAid (s : Sme) (h : MgmtHdr) : Prop :=
  (h.subtype = 1 ∨ h.subtype = 3) ∧
    ∃ r, mgmtParseAssocResp h.body = some r ∧ r.status = 0 ∧ r.aid ≠ s.aid

section Kind

variable {s : Sme} {frame : Bytes} {h : MgmtHdr}

/-- Frame types that are not let through on a live link. -/
theorem viewKind_closed {type : FrameType} (up : s.state = .connected)
    (closed : type.whenConnected = false) (src : MacAddr) (body : Bytes) :
    viewKind s none type src body = .ignored ∧
      ∀ a, viewKind s (some a) type src body = .aid a := by
  have gate (inp : Bytes) : demuxGate s type inp = false := by
    simp [demuxGate, up, closed]
  constructor
  · unfold viewKind internalKind
    simp [gate]
  · intro a
    unfold viewKind internalKind
    simp [gate]

theorem assocRespKind_link {type : FrameType} (up : s.state = .connected)
    (closed : type.whenConnected = false) :
    (mgmtParseAssocResp h.body = none ∧ assocRespKind s h type = .ignored) ∨
      ∃ r, mgmtParseAssocResp h.body = some r ∧
        (r.status ≠ 0 ∧ assocRespKind s h type = .refused ∨
          r.status = 0 ∧ assocRespKind s h type = .aid r.aid) := by
  unfold assocRespKind
  cases mgmtParseAssocResp h.body with
  | none => exact Or.inl ⟨rfl, rfl⟩
  | some r =>
    refine Or.inr ⟨r, rfl, ?_⟩
    dsimp only
    by_cases success : r.status = 0
    · rw [if_neg (not_not.2 success)]
      exact Or.inr ⟨success, (viewKind_closed up closed _ _).2 r.aid⟩
    · exact Or.inl ⟨success, if_pos success⟩

theorem authKind_link (up : s.state = .connected) :
    (authKind s h = .ignored ∨ authKind s h = .sae h) ∧
        (∀ a, mgmtParseAuth h.body = some a → ¬(a.algo = 0 ∧ a.txn = 2 ∧ a.status ≠ 0)) ∨
      authKind s h = .refused ∧
        ∃ a, mgmtParseAuth h.body = some a ∧ a.algo = 0 ∧ a.txn = 2 ∧ a.status ≠ 0 := by
  unfold authKind
  cases mgmtParseAuth h.body with
  | none => exact Or.inl ⟨Or.inl rfl, fun a none => (nomatch none)⟩
  | some a =>
    dsimp only
    have closed := @viewKind_closed s .authReq up rfl h.addr2 (h.body.drop 6)
    have closed' := @viewKind_closed s .authResp up rfl h.addr2 (h.body.drop 6)
    rw [closed.1, closed'.1]
    by_cases refused : a.algo = 0 ∧ a.txn = 2 ∧ a.status ≠ 0
    · right
      refine ⟨?_, a, rfl, refused⟩
      simp [refused.1, refused.2.1, refused.2.2]
    · left
      refine ⟨?_, fun b same => ?_⟩
      · split_ifs <;> simp_all
      · cases same
        exact refused

/-- Kinds that a live link is indifferent to. -/
def RxKind.Indifferent (h : MgmtHdr) (k : RxKind) : Prop :=
  k = .ignored ∨ k = .announce h ∨ k = .sae h ∨ k = .probed h.addr2

/-- What the kind of a frame says about the live link. -/
inductive LinkKind (s : Sme) (h : MgmtHdr) : RxKind → Prop where
  | refused (refuses : Refuses h) : LinkKind s h .refused
  | assigns (a : UInt16) (accepted : ¬Refuses h) (moves : MovesAid s h ↔ a ≠ s.aid) :
      LinkKind s h (.aid a)
  | indifferent {k : RxKind} (quiet : k.Indifferent h) (accepted : ¬Refuses h)
      (stays : ¬MovesAid s h) : LinkKind s h k

theorem assocRespKind_kind {type : FrameType} (up : s.state = .connected)
    (closed : type.whenConnected = false) (subtype : h.subtype = 1 ∨ h.subtype = 3) :
    LinkKind s h (assocRespKind s h type) := by
  have notAuth : h.subtype ≠ 11 := by
    rcases subtype with eq | eq <;> rw [eq] <;> decide
  rcases assocRespKind_link (h := h) up closed with
    ⟨unread, eq⟩ | ⟨r, read, ⟨refused, eq⟩ | ⟨success, eq⟩⟩
  · rw [eq]
    refine .indifferent (Or.inl rfl) ?_ ?_
    · rintro (⟨auth, _⟩ | ⟨_, r, read, _⟩)
      · exact notAuth auth
      · rw [unread] at read
        cases read
    · rintro ⟨_, r, read, _⟩
      rw [unread] at read
      cases read
  · rw [eq]
    exact .refused (Or.inr ⟨subtype, r, read, refused⟩)
  · rw [eq]
    refine .assigns r.aid ?_ ⟨fun moves => ?_, fun moved => ⟨subtype, r, read, success, moved⟩⟩
    · rintro (⟨auth, _⟩ | ⟨_, r', read', refused⟩)
      · exact notAuth auth
      · rw [read] at read'
        cases read'
        exact refused success
    · obtain ⟨_, r', read', _, moved⟩ := moves
      rw [read] at read'
      cases read'
      exact moved

theorem authKind_kind (up : s.state = .connected) (subtype : h.subtype = 11) :
    LinkKind s h (authKind s h) := by
  have notResp : ¬(h.subtype = 1 ∨ h.subtype = 3) := by
    rw [subtype]
    decide
  rcases authKind_link (h := h) up with ⟨quiet, accepted⟩ | ⟨eq, a, read, bad⟩
  · refine .indifferent ?_ ?_ fun moves => notResp moves.1
    · rcases quiet with ignored | sae
      · exact Or.inl ignored
      · exact Or.inr (Or.inr (Or.inl sae))
    · rintro (⟨_, a, read, bad⟩ | ⟨resp, _⟩)
      · exact accepted a read bad
      · exact notResp resp
  · rw [eq]
    exact .refused (Or.inl ⟨subtype, a, read, bad⟩)

/-- A frame of these subtypes refuses, assigns an AID, or does neither. -/
theorem mgmtKind_link (up : s.state = .connected) (listed : h.subtype ∈ linkSubtypes) :
    LinkKind s h (mgmtKind s frame h) := by
  have quiet (auth : h.subtype ≠ 11) (resp : ¬(h.subtype = 1 ∨ h.subtype = 3))
      (kind : (mgmtKind s frame h).Indifferent h) : LinkKind s h (mgmtKind s frame h) := by
    refine .indifferent kind ?_ fun moves => resp moves.1
    rintro (refused | refused)
    · exact auth refused.1
    · exact resp refused.1
  simp only [linkSubtypes, List.mem_cons, List.not_mem_nil, or_false] at listed
  rcases listed with eq | eq | eq | eq | eq | eq | eq
  · have kind : mgmtKind s frame h = authKind s h := by
      simp [mgmtKind, eq]
    rw [kind]
    exact authKind_kind up eq
  · have kind : mgmtKind s frame h = assocRespKind s h .assocResp := by
      simp [mgmtKind, eq]
    rw [kind]
    exact assocRespKind_kind up rfl (Or.inl eq)
  · have kind : mgmtKind s frame h = assocRespKind s h .reassocResp := by
      simp [mgmtKind, eq]
    rw [kind]
    exact assocRespKind_kind up rfl (Or.inr eq)
  · refine quiet (by simp [eq]) (by simp [eq]) (Or.inl ?_)
    simp only [mgmtKind, eq, assocReqKind, (@viewKind_closed s .assocReq up rfl _ _).1]
    simp
  · exact quiet (by simp [eq]) (by simp [eq]) (Or.inr (Or.inl (by simp [mgmtKind, eq])))
  · refine quiet (by simp [eq]) (by simp [eq]) ?_
    unfold mgmtKind RxKind.Indifferent
    by_cases role : s.role = .ap <;> simp [eq, role]
  · exact quiet (by simp [eq]) (by simp [eq]) (Or.inr (Or.inl (by simp [mgmtKind, eq])))

end Kind

section Claim

variable {env : Env} {sib : Siblings} {s : Sme} {frame : Bytes} {h : MgmtHdr}

theorem LinkKept.refl (s : Sme) : LinkKept s s :=
  ⟨rfl, rfl, rfl, rfl, rfl, rfl, rfl, rfl, rfl, rfl⟩

theorem indifferent_kept (up : s.state = .connected) {k : RxKind} (quiet : k.Indifferent h) :
    LinkKept s (rxAct env sib s frame k).1 := by
  have notScanning : s.role ≠ .sta ∨ s.state ≠ .scanning := by
    rw [up]
    exact Or.inr (by decide)
  rcases quiet with eq | eq | eq | eq
  · rw [eq]
    exact LinkKept.refl s
  · rw [eq]
    have same : rxBssAnnounce env s h = s := if_pos notScanning
    simp only [rxAct, same]
    exact LinkKept.refl s
  · rw [eq]
    have same : smeSaeRxAuth s h = s := if_pos notScanning
    simp only [rxAct, same]
    exact LinkKept.refl s
  · rw [eq]
    exact ⟨rfl, rfl, rfl, rfl, rfl, rfl, rfl, rfl, rfl, rfl⟩

/-- A live link survives such a frame unless it refuses or assigns another AID. -/
theorem linkKept_iff (up : s.state = .connected) (parsed : mgmtParseHdr frame = some h)
    (listed : h.subtype ∈ linkSubtypes) :
    LinkKept s (smeRx env sib s frame).1 ↔
      frame.length ≤ 0xffff → ¬Refuses h ∧ ¬MovesAid s h := by
  rw [smeRx_eq]
  have live : s.state ≠ .failed := by
    rw [up]
    decide
  by_cases short : frame.length ≤ 0xffff
  · have kind := @mgmtKind_link _ frame _ up listed
    rw [rxKind_mgmt parsed live short]
    generalize mgmtKind s frame h = k at kind
    cases kind with
    | refused refuses =>
      refine ⟨fun kept => ?_, fun accepted => absurd refuses (accepted short).1⟩
      have state : SmeState.failed = s.state := kept.state
      exact absurd state.symm live
    | assigns a accepted moves =>
      refine ⟨fun kept _ => ⟨accepted, fun moved => moves.1 moved kept.aid⟩, fun stays => ?_⟩
      have same : a = s.aid := not_not.1 fun other => (stays short).2 (moves.2 other)
      exact { LinkKept.refl s with aid := same }
    | indifferent quiet accepted stays =>
      exact ⟨fun _ _ => ⟨accepted, stays⟩, fun _ => indifferent_kept up quiet⟩
  · rw [rxKind_mgmt_ignored parsed (Or.inr (Nat.lt_of_not_le short))]
    exact ⟨fun _ le => absurd le short, fun _ => LinkKept.refl s⟩

/-- A belated Authentication that accepts leaves the station of the demonstration connected. -/
theorem linkKept_iff_demo :
    let s := runOps demoStaInit (demoStaOps .disabled [])
    s.state = .connected ∧
      LinkKept s (smeRx demoEnv noSiblings s (demoAuthFrame demoStaMac demoApMac 2 0)).1 := by
  intro s
  have up : s.state = .connected := by
    decide +kernel
  have parsed : ∃ h, mgmtParseHdr (demoAuthFrame demoStaMac demoApMac 2 0) = some h ∧
      h.subtype = 11 ∧ (mgmtParseAuth h.body).map AuthFixed.status = some 0 :=
    ⟨_, rfl, by decide, by decide⟩
  obtain ⟨h, parsed, subtype, status⟩ := parsed
  have listed : h.subtype ∈ linkSubtypes := by
    rw [subtype]
    decide
  have notResp : ¬(h.subtype = 1 ∨ h.subtype = 3) := by
    rw [subtype]
    decide
  refine ⟨up, (linkKept_iff up parsed listed).2 fun _ => ⟨?_, fun moves => notResp moves.1⟩⟩
  rintro (⟨_, a, read, _, _, refused⟩ | ⟨resp, _⟩)
  · rw [read] at status
    exact refused (Option.some.inj status)
  · exact notResp resp

/-- One that refuses takes it down. -/
theorem link_refused :
    ¬∀ (role : SmeRole) (self : MacAddr) (pmk : Octets 32) (salt : UInt64) (config : SmeConfig)
        (s : Sme) (frame : Bytes) (h : MgmtHdr),
      Reach (smeStep demoEnv) (smeConfigure (smeInit role self pmk salt) config) s →
      s.state = .connected → mgmtParseHdr frame = some h → h.subtype ∈ linkSubtypes →
      LinkKept s (smeRx demoEnv noSiblings s frame).1 := by
  intro all
  let s := runOps demoStaInit (demoStaOps .disabled [])
  let frame := demoAuthFrame demoStaMac demoApMac 2 1
  have fails : s.state = .connected ∧ (smeRx demoEnv noSiblings s frame).1.state = .failed := by
    decide +kernel
  have parsed : ∃ h, mgmtParseHdr (demoAuthFrame demoStaMac demoApMac 2 1) = some h ∧
      h.subtype ∈ linkSubtypes :=
    ⟨_, rfl, by decide⟩
  obtain ⟨h, parsed, listed⟩ := parsed
  have kept := all .sta demoStaMac demoPmk 9 .plain s frame h (runOps_reach _ _) fails.1 parsed
    listed
  have state := kept.state
  rw [fails.1, fails.2] at state
  cases state

end Claim

end Rf2a4m1
