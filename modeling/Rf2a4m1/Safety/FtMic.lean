import Rf2a4m1.Sme.Demo

/-!
# The MIC of a fast transition Reassociation

The MIC function refuses parts that are out of scope by leaving the caller's
buffer as it was, and both callers compare that buffer with the frame. The
check is the one of the standard exactly when the parts are in scope.
-/

set_option autoImplicit false

namespace Rf2a4m1

open ByteString Runs

/-- Which MIC a handler checks: the two addresses and the sequence number of the message. -/
structure FtSide where
  sta : MacAddr
  ap : MacAddr
  seq : UInt8

def ftApSide (s : Sme) : FtSide := { sta := s.peer, ap := s.self, seq := 5 }

def ftStaSide (s : Sme) : FtSide := { sta := s.self, ap := s.ftTarget, seq := 6 }

/-- The elements of a Reassociation Request that gets as far as the MIC check. -/
def ftApChecked (s : Sme) (body : Bytes) : Option (FtParts × FtFte) :=
  (ftLocateFte s body 16).filter fun found => slice found.1.trailing 0 16 = s.ftPmkR1Name.bytes

/-- The elements of a Reassociation Response that gets as far as the MIC check. -/
def ftStaChecked (s : Sme) (body : Bytes) : Option (FtParts × FtFte) := ftLocateFte s body 16

/-- AES-128-CMAC over the addresses, the sequence number, the elements with the MIC field
cleared, PMKR1Name and everything that trails it, of whatever length. -/
def ftFullMic (s : Sme) (side : FtSide) (p : FtParts) : Octets 16 :=
  aes128Cmac (kck s.ptk) (side.sta.bytes ++ side.ap.bytes ++ [side.seq] ++ p.mde ++
    fteZeroMic p.fte ++ s.ftPmkR1Name.bytes ++ p.trailing.drop 16)

/-- The handler's verdict on the MIC, when it comes to check it. -/
def ftVerdict (env : Env) (s : Sme) (side : FtSide) (found : FtParts × FtFte) : Bool :=
  (ftMic env s side.sta side.ap side.seq found.1.mde found.1.fte (found.1.trailing.drop 16)).1 =
    found.2.mic

/-- A request is answered, or refused for its channel, only after a favourable verdict. -/
theorem ftApOnReassoc_verdict (env : Env) (s : Sme) (body : Bytes) :
    ftApOnReassoc env s body =
      match ftApChecked s body with
      | none => s
      | some found =>
        let t := { s with draws := s.draws + 1 }
        if !ftVerdict env s (ftApSide s) found then { t with badMic := s.badMic + 1 }
        else if !ftApOcvOk t (found.1.trailing.drop 16) then { t with ocvFail := s.ocvFail + 1 }
        else ftApAccept env t (found.1.trailing.drop 16) := by
  unfold ftApOnReassoc ftApChecked
  cases ftLocateFte s body 16 with
  | none => rfl
  | some found =>
    obtain ⟨p, f⟩ := found
    dsimp only
    by_cases named : slice p.trailing 0 16 = s.ftPmkR1Name.bytes
    · have checked : (some (p, f)).filter (fun found : FtParts × FtFte =>
          decide (slice found.1.trailing 0 16 = s.ftPmkR1Name.bytes)) = some (p, f) := by
        simp [named]
      rw [if_neg (not_not.2 named), checked]
      dsimp only
      by_cases verified : (ftMic env s s.peer s.self 5 p.mde p.fte (p.trailing.drop 16)).1 = f.mic
      · have verdict : ftVerdict env s (ftApSide s) (p, f) = true := decide_eq_true verified
        rw [verdict, if_neg (not_not.2 verified)]
        rfl
      · have verdict : ftVerdict env s (ftApSide s) (p, f) = false := decide_eq_false verified
        rw [verdict, if_pos verified]
        rfl
    · have checked : (some (p, f)).filter (fun found : FtParts × FtFte =>
          decide (slice found.1.trailing 0 16 = s.ftPmkR1Name.bytes)) = none := by
        simp [named]
      rw [if_pos named, checked]

/-- A response is looked into only after a favourable verdict. -/
theorem ftStaOnReassoc_verdict (env : Env) (s : Sme) (body : Bytes) :
    ftStaOnReassoc env s body =
      match ftStaChecked s body with
      | none => s
      | some found =>
        let t := { s with draws := s.draws + 1 }
        if !ftVerdict env s (ftStaSide s) found then { t with badMic := s.badMic + 1 }
        else
          let (wrapped, t) := ftStaRic t (found.1.trailing.drop 16)
          let kde := env.keyUnwrap smeKdeMax (kek t.ptk) wrapped
          if kde = [] then { t with badMic := t.badMic + 1 }
          else
            match gtkKdeParse kde with
            | none => t
            | some gtk => ftConnect { t with gtk := gtk, peer := t.ftTarget } := by
  unfold ftStaOnReassoc ftStaChecked
  cases ftLocateFte s body 16 with
  | none => rfl
  | some found =>
    obtain ⟨p, f⟩ := found
    dsimp only
    by_cases verified : (ftMic env s s.self s.ftTarget 6 p.mde p.fte (p.trailing.drop 16)).1 = f.mic
    · have verdict : ftVerdict env s (ftStaSide s) (p, f) = true := decide_eq_true verified
      rw [verdict, if_neg (not_not.2 verified)]
      rfl
    · have verdict : ftVerdict env s (ftStaSide s) (p, f) = false := decide_eq_false verified
      rw [verdict, if_pos verified]
      rfl

/-- The check is sound: it passes only with the full MIC, and nothing but the frame and the
state decides it. -/
structure FtMicSound (s : Sme) (side : FtSide) (checked : Option (FtParts × FtFte)) : Prop where
  authentic : ∀ env found, checked = some found → ftVerdict env s side found = true →
    found.2.mic = ftFullMic s side found.1
  determined : ∀ env env' found, checked = some found →
    ftVerdict env s side found = ftVerdict env' s side found

/-- The parts the MIC function does not refuse. -/
def FtMicScope (checked : Option (FtParts × FtFte)) : Prop :=
  ∀ found, checked = some found →
    found.1.fte.length ≤ 255 ∧ (found.1.trailing.drop 16).length ≤ 160

section Scope

variable {s : Sme} {body : Bytes} {p : FtParts} {f : FtFte}

theorem ftLocateFte_mde {minTrailing : Nat} (found : ftLocateFte s body minTrailing = some (p, f)) :
    p.mde.length ≤ 16 := by
  unfold ftLocateFte ftLocate at found
  split at found
  · cases found
  rename_i located
  split at located
  · cases located
  obtain ⟨_, _, located⟩ := Option.bind_eq_some_iff.1 located
  dsimp only at located
  split at located
  · cases located
  split at located
  · cases located
  cases located
  split at found
  · cases found
  obtain ⟨_, _, same⟩ := Option.map_eq_some_iff.1 found
  cases same
  rw [List.length_take]
  omega

/-- In scope the buffer holds the full MIC, out of scope it holds what it held before. -/
theorem ftMic_eq (env : Env) (side : FtSide) (mde : p.mde.length ≤ 16) :
    (ftMic env s side.sta side.ap side.seq p.mde p.fte (p.trailing.drop 16)).1 =
      if p.fte.length ≤ 255 ∧ (p.trailing.drop 16).length ≤ 160 then ftFullMic s side p
      else env.stackMic s.draws := by
  unfold ftMic ftFteMic
  by_cases scope : p.fte.length ≤ 255 ∧ (p.trailing.drop 16).length ≤ 160
  · rw [if_pos scope, if_neg (by omega)]
    rfl
  · rw [if_neg scope, if_pos (by omega)]
    rfl

theorem ftMicSound_iff {side : FtSide} {checked : Option (FtParts × FtFte)}
    (mde : ∀ found, checked = some found → found.1.mde.length ≤ 16) :
    FtMicSound s side checked ↔ FtMicScope checked := by
  constructor
  · intro sound found eq
    by_contra scope
    -- two buffers, one that happens to hold the frame's MIC and one that does not
    obtain ⟨other, differs⟩ : ∃ other : Octets 16, other ≠ found.2.mic := by
      by_cases zero : Octets.zero 16 = found.2.mic
      · exact ⟨Octets.of 16 [1], by rw [← zero]; decide⟩
      · exact ⟨Octets.zero 16, zero⟩
    let env (m : Octets 16) : Env :=
      { genNonce := fun _ _ _ _ => Octets.zero 32, kdf := fun _ _ _ _ _ => Octets.zero 48
        mic := fun _ _ => Octets.zero 16, keyWrap := fun _ _ _ => [], keyUnwrap := fun _ _ _ => []
        stackMic := fun _ => m }
    have same := sound.determined (env found.2.mic) (env other) found eq
    unfold ftVerdict at same
    rw [ftMic_eq _ _ (mde found eq), ftMic_eq _ _ (mde found eq), if_neg scope, if_neg scope] at same
    simp [env, differs] at same
  · intro scope
    refine ⟨fun env found eq verdict => ?_, fun env env' found eq => ?_⟩
    · unfold ftVerdict at verdict
      rw [ftMic_eq _ _ (mde found eq), if_pos (scope found eq)] at verdict
      exact (of_decide_eq_true verdict).symm
    · unfold ftVerdict
      rw [ftMic_eq _ _ (mde found eq), ftMic_eq _ _ (mde found eq)]
      rw [if_pos (scope found eq), if_pos (scope found eq)]

end Scope

/-- Reassociations are verified in both roles exactly when their parts are in scope. -/
theorem ftReassoc_verified_iff (s : Sme) (body : Bytes) :
    (FtMicSound s (ftApSide s) (ftApChecked s body) ↔ FtMicScope (ftApChecked s body)) ∧
      (FtMicSound s (ftStaSide s) (ftStaChecked s body) ↔ FtMicScope (ftStaChecked s body)) := by
  constructor
  · refine ftMicSound_iff fun found checked => ?_
    exact ftLocateFte_mde (Option.filter_eq_some_iff.1 checked).1
  · exact ftMicSound_iff fun found checked => ftLocateFte_mde checked

/-- A request with an all-zero MIC and more octets after PMKR1Name than the MIC covers. -/
def longReassoc : Bytes :=
  [54, 3, 1, 0, 1] ++ [55, 82] ++ List.replicate 82 0 ++ List.replicate 16 0 ++
    List.replicate 161 0

/-- An AP that does fast transition compares it with a buffer that nothing was written to. -/
theorem reassoc_unverified :
    ¬∀ (role : SmeRole) (self : MacAddr) (pmk : Octets 32) (salt : UInt64) (config : SmeConfig)
        (s : Sme) (body : Bytes),
      Reach (smeStep demoEnv) (smeConfigure (smeInit role self pmk salt) config) s →
      FtMicSound s (ftApSide s) (ftApChecked s body) ∧
        FtMicSound s (ftStaSide s) (ftStaChecked s body) := by
  intro all
  let s := runOps demoApInit [.set (.ft 1 [65] [66])]
  have sound := (all .ap demoApMac demoPmk 7 .plain s longReassoc (runOps_reach _ _)).1
  have scope := (ftMicSound_iff fun found checked =>
    ftLocateFte_mde (Option.filter_eq_some_iff.1 checked).1).1 sound
  have long : ∃ found, ftApChecked s longReassoc = some found ∧
      ¬(found.1.trailing.drop 16).length ≤ 160 := by
    have far : (ftApChecked s longReassoc).map
        (fun found => decide ((found.1.trailing.drop 16).length ≤ 160)) = some false := by
      decide +kernel
    obtain ⟨found, checked, out⟩ := Option.map_eq_some_iff.1 far
    exact ⟨found, checked, of_decide_eq_false out⟩
  obtain ⟨found, checked, long⟩ := long
  exact long (scope found checked).2

end Rf2a4m1
