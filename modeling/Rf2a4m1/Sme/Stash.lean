import Rf2a4m1.Sme.Rest

/-!
# The message kept for later

A first message that comes too early is kept in one place, taken over when the
station associates, and left alone by everything else.
-/

set_option autoImplicit false

namespace Rf2a4m1

open ByteString Runs

section Receive

variable {env : Env} {s : Sme}

/-- Where a first message is answered at once. -/
def Associated (s : Sme) : Prop := s.state = .assoced ∨ s.state = .fourWay

/-- A station that associates has taken the message over. -/
theorem staOnAssocResp_earlyM1 (ies : Bytes) :
    (staOnAssocResp env s ies).state = .failed ∨ (staOnAssocResp env s ies).earlyM1 = none := by
  have taken (t : Sme) : (staAssoced env t).earlyM1 = none := by
    unfold staAssoced
    dsimp only
    cases early : t.earlyM1 with
    | none => rfl
    | some pdu => exact congrArg SmeRest.earlyM1 (staOnM1_rest env _ pdu)
  unfold staOnAssocResp
  dsimp only
  repeat' split
  all_goals first
    | exact Or.inl rfl
    | exact Or.inr (taken _)

/-- An associated station keeps no new message but with the next association. -/
theorem smeStep_earlyM1 (associated : Associated s) {op : SmeOp}
    (other : ∀ inp, smeEvent s op ≠ .handle .assocResp inp) :
    (smeStep env s op).earlyM1 = s.earlyM1 := by
  have step := smeStep_rest env s op
  have here : (smeStep env s op).earlyM1 = (smeStep env s op).rest.earlyM1 := rfl
  rw [here]
  revert step other
  generalize smeEvent s op = e
  generalize (smeStep env s op).rest = r
  intro other step
  cases step with
  | same => rfl
  | query => rfl
  | stash early =>
    rcases associated with waiting | during
    · exact absurd waiting early.1
    · exact absurd during early.2
  | associate => exact absurd rfl (other _)

theorem smeStep_assocResp {op : SmeOp} {inp : Bytes} (sta : s.role = .sta)
    (handles : smeEvent s op = .handle .assocResp inp) :
    (smeStep env s op).state = .failed ∨ (smeStep env s op).earlyM1 = none := by
  obtain ⟨sib, frame, aid, rfl, reads⟩ := smeEvent_handle handles
  rw [sta_handles sta reads nofun]
  exact staOnAssocResp_earlyM1 _

/-- A station comes to be associated by an Association Response, or was so before. -/
theorem smeStep_associated (sta : s.role = .sta) {op : SmeOp}
    (associated : Associated (smeStep env s op)) :
    Associated s ∨ ∃ inp, smeEvent s op = .handle .assocResp inp := by
  have effect := smeStep_effect env s op
  have here : (smeStep env s op).core.state = .assoced ∨ (smeStep env s op).core.state = .fourWay :=
    associated
  revert effect here
  generalize smeEvent s op = e
  generalize (smeStep env s op).core = c
  intro effect here
  cases effect with
  | unchanged => exact Or.inl here
  | staAssocResp | staAssocRespM1 | staAssocRefused => exact Or.inr ⟨_, rfl⟩
  | staM1 _ before => exact Or.inl before
  | announced _ _ _ _ _ _ state _ outcome =>
    rcases outcome with ⟨rfl, _⟩ | rfl
    · rcases here with no | no <;> cases no
    · rcases here with no | no <;> cases no
  | staProbeResp _ _ _ _ state outcome =>
    rcases outcome with ⟨rfl, _⟩ | rfl
    · rcases here with no | no <;> cases no
    · rcases here with no | no <;> cases no
  | apAssocReq role =>
    rw [sta] at role
    cases role
  | _ => first | exact Or.inl here | (rcases here with no | no <;> cases no)

theorem smeStep_role (op : SmeOp) : (smeStep env s op).role = s.role := by
  have effect := smeStep_effect env s op
  have same : (smeStep env s op).core.role = s.core.role := by
    revert effect
    generalize smeEvent s op = e
    generalize (smeStep env s op).core = c
    intro effect
    cases effect <;> rfl
  exact same

/-- While a station is associated it keeps no message for later. -/
theorem associated_earlyM1 {role : SmeRole} {self : MacAddr} {pmk : Octets 32} {salt : UInt64}
    {config : SmeConfig}
    (reach : Reach (smeStep env) (smeConfigure (smeInit role self pmk salt) config) s)
    (sta : s.role = .sta) (associated : Associated s) : s.earlyM1 = none := by
  have inv : s.role = .sta → Associated s → s.earlyM1 = none := by
    refine reach.invariant (fun s => s.role = .sta → Associated s → s.earlyM1 = none) ?_ ?_
    · intro _ _
      rfl
    · intro t op kept _ sta associated
      have sta : t.role = .sta := (smeStep_role op).symm.trans sta
      by_cases handles : ∃ inp, smeEvent t op = .handle .assocResp inp
      · obtain ⟨inp, handles⟩ := handles
        rcases smeStep_assocResp sta handles with failed | none
        · rcases associated with no | no
          · cases failed.symm.trans no
          · cases failed.symm.trans no
        · exact none
      · rcases smeStep_associated sta associated with before | handled
        · rw [smeStep_earlyM1 before fun inp h => handles ⟨inp, h⟩]
          exact kept sta before
        · exact absurd handled handles
  exact inv sta associated

end Receive

end Rf2a4m1
