import Rf2a4m1.Safety.ActionReplay
import Rf2a4m1.Sme.Rest

/-!
# The SA Query defence of a protected association

A (Re)Association Request that claims the address of the peer starts a query.
The watch records which Requests of the AP still wait and for how many ticks.
Starting a query gives up the one that was pending, so the defence holds in
the runs in which no such request arrives while a query is pending.
-/

set_option autoImplicit false

namespace Rf2a4m1

open ByteString Runs

section Watch

/-- The source of a frame that is read as a Reassociation Request. -/
def RxKind.reassocSrc : RxKind → Option MacAddr
  | .handle _ .reassocReq inp => some (frameSrc inp)
  | _ => none

/-- The body of a frame that is read as an SA Query Response. -/
def RxKind.response : RxKind → Option Bytes
  | .handle _ .saQueryResp inp => some (frameBody inp)
  | _ => none

def RxKind.dropped : RxKind → Bool
  | .ignored => true
  | _ => false

/-- A (Re)Association Request that claims the address of the peer. -/
def claimsPeer (s : Sme) : SmeOp → Bool
  | .rxSpuriousReassoc src => src = s.peer
  | .rx _ frame => (rxKind s frame).reassocSrc = some s.peer
  | _ => false

/-- The body of an SA Query Response that reaches the query. -/
def responseBody (s : Sme) : SmeOp → Option Bytes
  | .rx _ frame => (rxKind s frame).response
  | _ => none

def SmeOp.isTick : SmeOp → Bool
  | .saQueryTick => true
  | _ => false

/-- Ticks, (Re)Association Requests from any address and SA Query Responses; a live link
ignores Association Requests. -/
def defenceOp (s : Sme) : SmeOp → Bool
  | .saQueryTick | .rxSpuriousReassoc _ => true
  | .rx _ frame =>
    (rxKind s frame).dropped || (rxKind s frame).reassocSrc.isSome ||
      (rxKind s frame).response.isSome
  | _ => false

/-- Requests that are neither answered nor given up, and the ticks since the first of them. -/
structure SaWatch where
  outstanding : List UInt16
  ticks : Nat

/-- What a query that is already under way leaves to be watched. -/
def SaWatch.of (q : PmfSaQuery) : SaWatch :=
  if q.state = .pending then { outstanding := [q.transId], ticks := q.spent }
  else { outstanding := [], ticks := 0 }

/-- An answer or a timeout settles the Requests, and only that. -/
def watchStep (env : Env) (x : Sme × SaWatch) (op : SmeOp) : Sme × SaWatch :=
  let t := smeStep env x.1 op
  (t,
    if t.saQuery.state ≠ .pending then { outstanding := [], ticks := 0 }
    else if claimsPeer x.1 op then
      { x.2 with outstanding := t.saQuery.transId :: x.2.outstanding }
    else if op.isTick then { x.2 with ticks := x.2.ticks + 1 }
    else x.2)

/-- A Response to a Request that waits is taken, and none waits for longer than the budget. -/
structure Defended (env : Env) (s : Sme) (w : SaWatch) : Prop where
  resolves : ∀ tid ∈ w.outstanding, ∀ op body, responseBody s op = some body →
    AnswersQuery tid body → (smeStep env s op).saQuery.state = .answered
  inTime : w.outstanding ≠ [] → w.ticks < s.saQuery.maxRetries * s.saQuery.timeoutTicks
  givesUp : w.outstanding ≠ [] → w.ticks + 1 = s.saQuery.maxRetries * s.saQuery.timeoutTicks →
    (smeStep env s .saQueryTick).saQuery.state = .timeout

end Watch

/-- An AP with a protected link that is up. -/
structure LiveAp (s : Sme) : Prop where
  role : s.role = .ap
  connected : s.state = .connected
  active : s.mfpActive = true

section Step

variable {env : Env} {s : Sme} {op : SmeOp}

/-- The call of the query that an operation amounts to. -/
def defenceCall (s : Sme) (op : SmeOp) : Option SaqOp :=
  if claimsPeer s op then some (.start 4)
  else if op.isTick then some (.tick 4)
  else (responseBody s op).map SaqOp.response

theorem LiveAp.of_core {t : Sme} (live : LiveAp s) (same : t.core = s.core) : LiveAp t where
  role := (congrArg (fun c : SmeCore => c.role) same).trans live.role
  connected := (congrArg (fun c : SmeCore => c.state) same).trans live.connected
  active := (congrArg (fun c : SmeCore => c.mfpActive) same).trans live.active

theorem LiveAp.spurious (live : LiveAp s) (src : MacAddr) :
    (pmfApOnSpuriousReassoc s src).core = s.core ∧
      (pmfApOnSpuriousReassoc s src).saQuery =
        if src = s.peer then saqStep s.saQuery (.start 4) else s.saQuery := by
  refine ⟨pmfApOnSpuriousReassoc_core s src, ?_⟩
  have rest := congrArg SmeRest.saQuery (pmfApOnSpuriousReassoc_rest s src)
  by_cases claims : src = s.peer
  · rw [if_neg (by simp [live.role, live.connected, live.active, claims])] at rest
    rw [if_pos claims]
    exact rest
  · rw [if_pos (Or.inr (Or.inr (Or.inr claims)))] at rest
    rw [if_neg claims]
    exact rest

theorem LiveAp.response (live : LiveAp s) (body : Bytes) :
    (apOnSaQueryResp s body).core = s.core ∧
      (apOnSaQueryResp s body).saQuery = saqStep s.saQuery (.response body) := by
  refine ⟨apOnSaQueryResp_core s body, ?_⟩
  have rest := congrArg SmeRest.saQuery (apOnSaQueryResp_rest s body)
  rw [if_pos live.active] at rest
  exact rest

theorem LiveAp.tick (live : LiveAp s) :
    (smeSaQueryTick s).core = s.core ∧
      (smeSaQueryTick s).saQuery = saqStep s.saQuery (.tick 4) := by
  refine ⟨smeSaQueryTick_core s, ?_⟩
  have rest := congrArg SmeRest.saQuery (smeSaQueryTick_rest s)
  rw [if_neg (by simp [live.role, live.active])] at rest
  exact rest

/-- On a live link the operation is the call of the query it amounts to, and no more. -/
theorem LiveAp.step (live : LiveAp s) (defence : defenceOp s op = true) :
    (smeStep env s op).core = s.core ∧
      (smeStep env s op).saQuery = (defenceCall s op).elim s.saQuery (saqStep s.saQuery) := by
  cases op with
  | saQueryTick => exact live.tick
  | rxSpuriousReassoc src =>
    obtain ⟨core, query⟩ := live.spurious src
    refine ⟨core, query.trans ?_⟩
    unfold defenceCall claimsPeer
    by_cases claims : src = s.peer
    · simp [claims]
    · simp [claims, SmeOp.isTick, responseBody]
  | rx sib frame =>
    have calls : defenceCall s (.rx sib frame) =
        if decide ((rxKind s frame).reassocSrc = some s.peer) = true then some (.start 4)
        else (rxKind s frame).response.map SaqOp.response := rfl
    have defence : ((rxKind s frame).dropped || (rxKind s frame).reassocSrc.isSome ||
        (rxKind s frame).response.isSome) = true := defence
    rw [calls, smeStep_rx_eq]
    generalize rxKind s frame = kind at defence ⊢
    cases kind with
    | ignored => exact ⟨rfl, rfl⟩
    | handle aid type inp =>
      rw [rxAct_ap env sib s live.role]
      have live' : LiveAp { s with aid := aid.getD s.aid } := live.of_core rfl
      cases type with
      | reassocReq =>
        obtain ⟨core, query⟩ := live'.spurious (frameSrc inp)
        refine ⟨core, query.trans ?_⟩
        by_cases claims : frameSrc inp = s.peer
        · simp [RxKind.reassocSrc, claims]
        · simp [RxKind.reassocSrc, RxKind.response, claims]
      | saQueryResp => exact live'.response (frameBody inp)
      | _ => cases defence
    | _ => cases defence
  | _ => cases defence

/-- A response that reaches the query is a call of the query. -/
theorem LiveAp.responds (live : LiveAp s) {body : Bytes} (arrives : responseBody s op = some body) :
    (smeStep env s op).saQuery = saqStep s.saQuery (.response body) := by
  have defence : defenceOp s op = true ∧ defenceCall s op = some (.response body) := by
    cases op with
    | rx sib frame =>
      have arrives : (rxKind s frame).response = some body := arrives
      have noClaim : (rxKind s frame).reassocSrc = none := by
        revert arrives
        generalize rxKind s frame = kind
        intro arrives
        cases kind with
        | handle aid type inp => cases type <;> first | rfl | cases arrives
        | _ => cases arrives
      constructor
      · simp [defenceOp, arrives]
      · simp [defenceCall, claimsPeer, SmeOp.isTick, responseBody, arrives, noClaim]
    | _ => cases arrives
  rw [(live.step defence.1).2, defence.2]
  rfl

/-- An SA Query Response that passes as an Action frame reaches the query of a live link. -/
theorem LiveAp.receives (live : LiveAp s) {sib : Siblings} {frame body : Bytes} {h : MgmtHdr}
    (parsed : mgmtParseHdr frame = some h) (action : h.subtype = 13 ∨ h.subtype = 14)
    (passed : actionPassed s frame h = some (.saQueryResp, body)) :
    responseBody s (.rx sib frame) = some body := by
  unfold actionPassed at passed
  split at passed
  · cases passed
  rename_i out
  rw [not_or, Nat.not_lt] at out
  have other : ¬(h.subtype = 12 ∨ h.subtype = 10) := by
    rcases action with eq | eq <;> rw [eq] <;> decide
  unfold responseBody
  dsimp only
  rw [rxKind_mgmt parsed out.1 out.2]
  unfold mgmtKind actionKind
  rw [if_neg other, if_pos action]
  cases verdict : actionVerdict s frame h with
  | badMic =>
    rw [verdict] at passed
    cases passed
  | dropUnprotected =>
    rw [verdict] at passed
    cases passed
  | accept plain =>
    rw [verdict] at passed
    dsimp only at passed ⊢
    split at passed
    · cases passed
    rename_i fits
    obtain ⟨type, known, eq⟩ := Option.map_eq_some_iff.1 passed
    cases eq
    have gate : demuxGate s .saQueryResp (smePfx .saQueryResp h.addr2 ++ body) = true := by
      simp [demuxGate, live.connected, smePfxLen, FrameType.whenConnected]
    rw [known]
    unfold viewKind internalKind
    dsimp only
    rw [if_neg fits, if_pos gate]
    have content : frameBody (smePfx .saQueryResp h.addr2 ++ body) = body :=
      List.drop_left' (smePfx_length _ _)
    exact congrArg some content

end Step

/-- A step of the defence in which no request finds a query pending. -/
def Unhurried (x : Sme × SaWatch) (op : SmeOp) : Prop :=
  defenceOp x.1 op = true ∧ (claimsPeer x.1 op = true → x.1.saQuery.state ≠ .pending)

/-- The watch is that of the query which is under way. -/
structure Watched (x : Sme × SaWatch) : Prop where
  live : LiveAp x.1
  sound : x.1.saQuery.Sound
  watch : x.2 = SaWatch.of x.1.saQuery

section Run

variable {env : Env} {x : Sme × SaWatch} {op : SmeOp}

theorem SaWatch.of_settled {q : PmfSaQuery} (settled : q.state ≠ .pending) :
    SaWatch.of q = { outstanding := [], ticks := 0 } := if_neg settled

theorem SaWatch.of_pending {q : PmfSaQuery} (pending : q.state = .pending) :
    SaWatch.of q = { outstanding := [q.transId], ticks := q.spent } := if_pos pending

theorem Watched.step (inv : Watched x) (ok : Unhurried x op) : Watched (watchStep env x op) := by
  obtain ⟨s, w⟩ := x
  obtain ⟨live, sound, watch⟩ := inv
  obtain ⟨defence, unhurried⟩ := ok
  dsimp only at live sound watch defence unhurried
  obtain ⟨core, query⟩ := @LiveAp.step env _ _ live defence
  have soundAfter : (smeStep env s op).saQuery.Sound := by
    rw [query]
    cases defenceCall s op with
    | none => exact sound
    | some q => exact sound.step q
  refine ⟨live.of_core core, soundAfter, ?_⟩
  unfold watchStep
  dsimp only
  by_cases settled : (smeStep env s op).saQuery.state ≠ .pending
  · rw [if_pos settled, SaWatch.of_settled settled]
  rw [if_neg settled, SaWatch.of_pending (not_not.1 settled)]
  unfold defenceCall at query
  by_cases claims : claimsPeer s op = true
  · -- the request found no query pending, so it opens the only transaction
    rw [if_pos claims] at query ⊢
    rw [watch, SaWatch.of_settled (unhurried claims), query]
    have fresh := (s.saQuery.start_spent 4).2
    have fresh : (saqStep s.saQuery (.start 4)).spent = 0 := fresh
    dsimp only [Option.elim]
    rw [fresh]
  rw [if_neg claims] at query ⊢
  by_cases tick : op.isTick = true
  · rw [if_pos tick] at query ⊢
    dsimp only [Option.elim] at query
    rw [query] at settled ⊢
    by_cases pending : s.saQuery.state = .pending
    · rw [watch, SaWatch.of_pending pending]
      rcases sound.tick_spends pending 4 with ⟨_, _, spends⟩ | ⟨_, gone⟩
      · have spends : (saqStep s.saQuery (.tick 4)).spent = s.saQuery.spent + 1 := spends
        rw [spends, (s.saQuery.step_fixed (.tick 4)).2.2 rfl]
      · have gone : (saqStep s.saQuery (.tick 4)).state = .timeout := gone
        rw [gone] at settled
        exact absurd (by decide) settled
    · rcases s.saQuery.tick_cases 4 with ⟨_, eq⟩ | ⟨yes, _⟩
      · have kept : saqStep s.saQuery (.tick 4) = s.saQuery := congrArg Prod.fst eq
        rw [kept] at settled
        exact absurd (not_not.1 settled) pending
      · exact absurd yes pending
  · rw [if_neg tick] at query ⊢
    have kept : (smeStep env s op).saQuery = s.saQuery := by
      cases arrives : responseBody s op with
      | none =>
        rw [arrives] at query
        exact query
      | some body =>
        rw [arrives] at query
        have query : (smeStep env s op).saQuery = saqStep s.saQuery (.response body) := query
        rcases s.saQuery.onResponse_eq body with ⟨_, _, eq⟩ | ⟨_, eq⟩
        · have done : saqStep s.saQuery (.response body) =
              { s.saQuery with state := .answered } := congrArg Prod.fst eq
          rw [query, done] at settled
          exact absurd (nofun : PmfSaQueryState.answered ≠ .pending) settled
        · exact query.trans (congrArg Prod.fst eq)
    rw [kept] at settled ⊢
    rw [watch, SaWatch.of_pending (not_not.1 settled)]

theorem Watched.defended (inv : Watched x) : Defended env x.1 x.2 := by
  obtain ⟨s, w⟩ := x
  obtain ⟨live, sound, watch⟩ := inv
  dsimp only at live sound watch ⊢
  have pending (tid : UInt16) (waits : tid ∈ w.outstanding) :
      s.saQuery.state = .pending ∧ tid = s.saQuery.transId ∧ w.ticks = s.saQuery.spent := by
    by_cases pending : s.saQuery.state = .pending
    · rw [watch, SaWatch.of_pending pending] at waits ⊢
      exact ⟨pending, List.mem_singleton.1 waits, rfl⟩
    · rw [watch, SaWatch.of_settled pending] at waits
      cases waits
  have waiting (some' : w.outstanding ≠ []) :
      s.saQuery.state = .pending ∧ w.ticks = s.saQuery.spent := by
    obtain ⟨tid, waits⟩ := List.exists_mem_of_ne_nil _ some'
    obtain ⟨isPending, _, ticks⟩ := pending tid waits
    exact ⟨isPending, ticks⟩
  refine ⟨?_, ?_, ?_⟩
  · intro tid waits op body arrives answers
    obtain ⟨isPending, rfl, _⟩ := pending tid waits
    rw [live.responds arrives]
    rcases s.saQuery.onResponse_eq body with ⟨_, _, eq⟩ | ⟨no, _⟩
    · exact congrArg (fun r : PmfSaQuery × Bool => r.1.state) eq
    · exact absurd ⟨isPending, answers⟩ no
  · intro some'
    obtain ⟨isPending, ticks⟩ := waiting some'
    have within : s.saQuery.spent < s.saQuery.budget := by
      rcases sound.tick_spends isPending 4 with ⟨lt, _⟩ | ⟨eq, _⟩ <;> omega
    rw [ticks]
    exact within
  · intro some' last
    obtain ⟨isPending, ticks⟩ := waiting some'
    rw [ticks] at last
    have query : (smeStep env s .saQueryTick).saQuery = saqStep s.saQuery (.tick 4) := live.tick.2
    rw [query]
    rcases sound.tick_spends isPending 4 with ⟨lt, _⟩ | ⟨_, gone⟩
    · exact absurd last (Nat.ne_of_lt lt)
    · exact gone

/-- In every run of the defence in which no (Re)Association Request of the peer's address finds
a query pending, the defence holds in every state reached. -/
theorem saDefence_run {env : Env} {role : SmeRole} {self : MacAddr} {pmk : Octets 32}
    {salt : UInt64} {config : SmeConfig} {s : Sme} {x : Sme × SaWatch}
    (reach : Reach (smeStep env) (smeConfigure (smeInit role self pmk salt) config) s)
    (live : LiveAp s)
    (run : Run (watchStep env) Unhurried (s, SaWatch.of s.saQuery) x) :
    Defended env x.1 x.2 := by
  have inv : Watched x :=
    run.invariant Watched ⟨live, (smeReach_saQuery reach).1, rfl⟩ fun _ _ inv ok => inv.step ok
  exact inv.defended

end Run

section Demo

def demoSpurious : SmeOp := .rxSpuriousReassoc demoStaMac

theorem demoApUp_live : LiveAp demoApUp := by
  have facts : demoApUp.role = .ap ∧ demoApUp.state = .connected ∧ demoApUp.mfpActive = true := by
    decide +kernel
  exact ⟨facts.1, facts.2.1, facts.2.2⟩

/-- One request and two ticks: the query is defended, with one tick left. -/
theorem saDefence_run_demo :
    Defended demoEnv
      ([demoSpurious, .saQueryTick, .saQueryTick].foldl (watchStep demoEnv)
        (demoApUp, SaWatch.of demoApUp.saQuery)).1
      ([demoSpurious, .saQueryTick, .saQueryTick].foldl (watchStep demoEnv)
        (demoApUp, SaWatch.of demoApUp.saQuery)).2 := by
  have fresh : demoApUp.saQuery.state ≠ .pending := by decide +kernel
  have reach : Reach (smeStep demoEnv) (smeConfigure (smeInit .ap demoApMac demoPmk 7) .plain)
      demoApUp := runOps_reach _ _
  refine saDefence_run reach demoApUp_live ?_
  refine Run.tail .saQueryTick (Run.tail .saQueryTick (Run.tail demoSpurious (Run.refl _) ?_) ?_) ?_
  · exact ⟨rfl, fun _ => fresh⟩
  · exact ⟨rfl, nofun⟩
  · exact ⟨rfl, nofun⟩

/-- The AP after two requests in a row, and with three ticks around the second. -/
def demoTwice (between after : List SmeOp) : Sme × SaWatch :=
  (demoSpurious :: between ++ demoSpurious :: after).foldl (watchStep demoEnv)
    (demoApUp, SaWatch.of demoApUp.saQuery)

def demoResponse : Bytes := [8, 1, 1, 0]

theorem demoTwice_watch :
    ((demoTwice [] []).2.outstanding = [2, 1] ∧ LiveAp (demoTwice [] []).1 ∧
        KeyedOn (tk demoApUp.ptk) (demoTwice [] []).1 ∧
        (saqStep (demoTwice [] []).1.saQuery (.response demoResponse)).state = .pending) ∧
      (demoTwice [.saQueryTick, .saQueryTick] [.saQueryTick]).2.outstanding = [2, 1] ∧
      (demoTwice [.saQueryTick, .saQueryTick] [.saQueryTick]).2.ticks =
        (demoTwice [.saQueryTick, .saQueryTick] [.saQueryTick]).1.saQuery.budget := by
  have facts : ((demoTwice [] []).2.outstanding = [2, 1] ∧ ((demoTwice [] []).1.role = .ap ∧
      (demoTwice [] []).1.state = .connected ∧ (demoTwice [] []).1.mfpActive = true) ∧
      (demoTwice [] []).1.ptkInstalled = true ∧
      tk (demoTwice [] []).1.ptk = tk demoApUp.ptk ∧
      (saqStep (demoTwice [] []).1.saQuery (.response demoResponse)).state = .pending) ∧
      (demoTwice [.saQueryTick, .saQueryTick] [.saQueryTick]).2.outstanding = [2, 1] ∧
      (demoTwice [.saQueryTick, .saQueryTick] [.saQueryTick]).2.ticks =
        (demoTwice [.saQueryTick, .saQueryTick] [.saQueryTick]).1.saQuery.budget := by
    decide +kernel
  obtain ⟨⟨waiting, ⟨role, connected, active⟩, installed, key, refused⟩, later⟩ := facts
  exact ⟨⟨waiting, ⟨role, connected, active⟩, ⟨active, installed, key⟩, refused⟩, later⟩

theorem demoTwice_run {between after : List SmeOp} (first : between.all SmeOp.isTick = true)
    (last : after.all SmeOp.isTick = true) :
    Run (watchStep demoEnv) (fun x op => defenceOp x.1 op = true)
      (demoApUp, SaWatch.of demoApUp.saQuery) (demoTwice between after) := by
  have ticks (is : List SmeOp) (all : is.all SmeOp.isTick = true) (x : Sme × SaWatch) :
      Run (watchStep demoEnv) (fun x op => defenceOp x.1 op = true) x
        (is.foldl (watchStep demoEnv) x) := by
    induction is generalizing x with
    | nil => exact .refl x
    | cons op rest ih =>
      rw [List.all_cons, Bool.and_eq_true] at all
      have ok : defenceOp x.1 op = true := by
        cases op with
        | saQueryTick => rfl
        | _ => cases all.1
      exact (Run.single op ok).trans (ih all.2 _)
  unfold demoTwice
  rw [List.cons_append, List.foldl_cons, List.foldl_append, List.foldl_cons]
  have spurious (x : Sme × SaWatch) : Run (watchStep demoEnv)
      (fun x op => defenceOp x.1 op = true) x (watchStep demoEnv x demoSpurious) :=
    Run.single demoSpurious rfl
  exact (spurious _).trans ((ticks between first _).trans ((spurious _).trans (ticks after last _)))

/-- A second request while the query is pending gives the first Request up, whose sealed
Response is refused, and starts the count of ticks again. -/
theorem saDefence_restarted :
    (¬∀ s x, Reach (smeStep demoEnv) (smeConfigure (smeInit .ap demoApMac demoPmk 7) .plain) s →
        LiveAp s → Run (watchStep demoEnv) (fun x op => defenceOp x.1 op = true)
          (s, SaWatch.of s.saQuery) x →
        ∀ tid ∈ x.2.outstanding, ∀ op body, responseBody x.1 op = some body →
          AnswersQuery tid body → (smeStep demoEnv x.1 op).saQuery.state = .answered) ∧
      ¬∀ s x, Reach (smeStep demoEnv) (smeConfigure (smeInit .ap demoApMac demoPmk 7) .plain) s →
        LiveAp s → Run (watchStep demoEnv) (fun x op => defenceOp x.1 op = true)
          (s, SaWatch.of s.saQuery) x →
        x.2.outstanding ≠ [] → x.2.ticks < x.1.saQuery.maxRetries * x.1.saQuery.timeoutTicks := by
  obtain ⟨⟨waiting, live, keyed, refused⟩, waiting', ticks⟩ := demoTwice_watch
  have reach : Reach (smeStep demoEnv) (smeConfigure (smeInit .ap demoApMac demoPmk 7) .plain)
      demoApUp := runOps_reach _ _
  constructor
  · intro all
    obtain ⟨h, parsed, subtype, single, _⟩ : ∃ h,
        mgmtParseHdr (demoActionHdr.modify 1 (· ||| 0x40)) = some h ∧ h.subtype = 13 ∧
          byteAt h.addr1.bytes 0 &&& 1 = 0 ∧ h.addr2 = demoStaMac :=
      ⟨_, rfl, by decide, by decide, by decide⟩
    obtain ⟨frame, _, frameParsed, _, passes⟩ := @sealed_action (tk demoApUp.ptk)
      demoActionHdr demoResponse h 1 (by decide) (by decide) parsed (Or.inl subtype) single
      (by decide) (by decide) (by decide)
    have failed : (demoTwice [] []).1.state ≠ .failed := by
      rw [live.connected]
      decide
    have passed := passes _ keyed failed
    have arrives : responseBody (demoTwice [] []).1 (.rx noSiblings frame) = some demoResponse :=
      live.receives frameParsed (Or.inl subtype) passed
    have answers : AnswersQuery 1 demoResponse := by
      unfold AnswersQuery
      decide
    have answered := all _ _ reach demoApUp_live (demoTwice_run rfl rfl) 1
      (by rw [waiting]; decide) _ _ arrives answers
    rw [live.responds arrives, refused] at answered
    cases answered
  · intro all
    have within := all _ _ reach demoApUp_live
      (@demoTwice_run [.saQueryTick, .saQueryTick] [.saQueryTick] rfl rfl)
      (by rw [waiting']; decide)
    rw [ticks] at within
    exact Nat.lt_irrefl _ within

end Demo

end Rf2a4m1
