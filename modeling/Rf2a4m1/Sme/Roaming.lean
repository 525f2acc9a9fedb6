import Rf2a4m1.Sme.Accept

/-!
# What the fast transition accepts

The checks of the four fast transition messages and what each does to the core.
-/

set_option autoImplicit false

namespace Rf2a4m1

open ByteString

section Ap

variable (env : Env) (s : Sme)

/-- The PMK-R0 of a station with our PMK, when its parameters are in range. -/
def ftPmkR0Of (sta : MacAddr) : Option (Octets 32 × Octets 16) :=
  ftDerivePmkR0 s.pmk.bytes s.ftSsid s.ftMdid s.ftR0khId sta

/-- The PMK-R0 that an Authentication names, and the SNonce it carries. -/
def ftApAuth1Names (src : MacAddr) (body : Bytes) : Option ((Octets 32 × Octets 16) × Octets 32) :=
  (ftLocateFte s body 16).bind fun (p, f) =>
    ((ftPmkR0Of s src).filter fun r0 => r0.2.bytes = slice p.trailing 0 16).map fun r0 =>
      (r0, f.snonce)

/-- The key a named Authentication leads to, with the ANonce drawn for it. -/
def ftApAuth1Ptk (src : MacAddr) (r0 : Octets 32 × Octets 16) (snonce anonce : Octets 32) :
    Octets 48 :=
  ftDerivePtk (ftDerivePmkR1 r0.1 r0.2 s.self src).1 snonce anonce s.self src

theorem ftTxAuth2_core : (ftTxAuth2 s).core = s.core := by
  unfold ftTxAuth2
  split
  · rfl
  · exact ftTx_core s _ _

theorem ftTxAuth1_core : (ftTxAuth1 s).core = s.core := by
  unfold ftTxAuth1
  split
  · rfl
  split
  · rfl
  · exact ftTx_core s _ _

theorem ftTxDsRequest_core : (ftTxDsRequest s).core = s.core := by
  unfold ftTxDsRequest
  split
  · rfl
  split
  · rfl
  split
  · rfl
  · exact txInt_core s _ _

theorem ftTxReassoc_core (type : FrameType) (seq : UInt8) (r1kh : MacAddr) (extra : Bytes) :
    (ftTxReassoc env s type seq r1kh extra).core = s.core := by
  unfold ftTxReassoc
  split
  · rfl
  split
  · rfl
  · exact ftTx_core { s with draws := s.draws + 1 } _ _

theorem ftApDerive_core :
    ∃ anonce, (ftApDerive env s).core =
      { s.core with ptk := ftDerivePtk (ftDerivePmkR1 s.ftPmkR0 s.ftPmkR0Name s.self s.peer).1
                             s.ftSnonce anonce s.self s.peer } :=
  ⟨(smeGenMaterial env s 32 (s.nonceSalt + 10)).1, rfl⟩

/-- The station becomes the peer in any case; the key changes when its name matches. -/
theorem ftApOnAuth1_core (src : MacAddr) (body : Bytes) :
    (ftApAuth1Names s src body = none ∧
        ((ftApOnAuth1 env s src body).core = s.core ∨
          ∃ valid, (ftApOnAuth1 env s src body).core =
            { s.core with peer := src, ftR0Valid := valid })) ∨
      ∃ r0 snonce anonce, ftApAuth1Names s src body = some (r0, snonce) ∧
        (ftApOnAuth1 env s src body).core =
          { s.core with peer := src, ftR0Valid := true, ptk := ftApAuth1Ptk s src r0 snonce anonce } := by
  unfold ftApOnAuth1 ftApAuth1Names ftPmkR0Of
  cases ftLocateFte s body 16 with
  | none => exact Or.inl ⟨rfl, Or.inl rfl⟩
  | some found =>
    obtain ⟨p, f⟩ := found
    simp only [Option.bind_some]
    cases ftDerivePmkR0 s.pmk.bytes s.ftSsid s.ftMdid s.ftR0khId src with
    | none => exact Or.inl ⟨rfl, Or.inr ⟨s.ftR0Valid, rfl⟩⟩
    | some r0 =>
      by_cases named : r0.2.bytes = slice p.trailing 0 16
      · right
        obtain ⟨anonce, derived⟩ := ftApDerive_core env
          { s with peer := src, ftSnonce := f.snonce, ftPmkR0 := r0.1, ftPmkR0Name := r0.2,
                   ftR0Valid := true }
        refine ⟨r0, f.snonce, anonce, by simp [named], ?_⟩
        dsimp only
        rw [if_neg (not_not.2 named), ftTxAuth2_core]
        exact derived
      · left
        refine ⟨by simp [named], Or.inr ⟨true, ?_⟩⟩
        dsimp only
        rw [if_pos named]
        rfl

/-- The checks a Reassociation passes before it is answered. -/
def ftApAcceptsReassoc (body : Bytes) : Bool :=
  match ftLocateFte s body 16 with
  | none => false
  | some (p, f) =>
    decide (slice p.trailing 0 16 = s.ftPmkR1Name.bytes) &&
      decide ((ftMic env s s.peer s.self 5 p.mde p.fte (p.trailing.drop 16)).1 = f.mic) &&
      ftApOcvOk s (p.trailing.drop 16)

theorem ftConnect_core : (ftConnect s).core = s.core.connect :=
  congrArg (fun c : SmeCore => { c with connected := true, state := .connected })
    (smeInstallKeys_core s)

theorem ftApRic_core (region : Bytes) : (ftApRic s region).2.core = s.core := by
  unfold ftApRic
  split <;> rfl

theorem ftApAccept_core (region : Bytes) :
    ∃ gtk, (ftApAccept env s region).core = { s.core with gtk := gtk } ∨
      (ftApAccept env s region).core = SmeCore.connect { s.core with gtk := gtk } := by
  obtain ⟨gtk, drawn⟩ : ∃ gtk, gtk =
      (smeGenMaterial env (ftApRic s region).2 16 ((ftApRic s region).2.nonceSalt + 21)).1 :=
    ⟨_, rfl⟩
  refine ⟨gtk, ?_⟩
  have taken : Sme.core
      { (smeGenMaterial env (ftApRic s region).2 16 ((ftApRic s region).2.nonceSalt + 21)).2 with
        gtk := gtk } = { s.core with gtk := gtk } :=
    congrArg (fun c : SmeCore => { c with gtk := gtk }) (ftApRic_core s region)
  unfold ftApAccept
  dsimp only
  rw [← drawn]
  split
  · exact Or.inl taken
  · right
    rw [ftConnect_core, ftTxReassoc_core, taken]

theorem ftApOnReassoc_core (body : Bytes) :
    (ftApOnReassoc env s body).core = s.core ∨
      ftApAcceptsReassoc env s body = true ∧
        ∃ gtk, (ftApOnReassoc env s body).core = { s.core with gtk := gtk } ∨
          (ftApOnReassoc env s body).core = SmeCore.connect { s.core with gtk := gtk } := by
  unfold ftApOnReassoc ftApAcceptsReassoc
  cases ftLocateFte s body 16 with
  | none => exact Or.inl rfl
  | some found =>
    obtain ⟨p, f⟩ := found
    dsimp only
    split
    · exact Or.inl rfl
    rename_i named
    split
    · exact Or.inl rfl
    rename_i mic
    split
    · exact Or.inl rfl
    rename_i channel
    right
    refine ⟨?_, ftApAccept_core env (ftMic env s s.peer s.self 5 p.mde p.fte _).2 _⟩
    have sameChannel : ftApOcvOk s (p.trailing.drop 16) =
        ftApOcvOk (ftMic env s s.peer s.self 5 p.mde p.fte (p.trailing.drop 16)).2
          (p.trailing.drop 16) := rfl
    rw [sameChannel]
    simp only [Bool.not_eq_true', Bool.not_eq_false] at channel
    simp [not_not.1 named, not_not.1 mic, channel]

/-- A pushed PMK-R1 replaces peer and key of a target that does fast transition. -/
theorem ftDsTargetProcess_core (sta target : MacAddr) (snonce pmkR1 : Octets 32)
    (pmkR1Name : Octets 16) (cap : Nat) :
    (¬(s.ftEnabled = true ∧ target = s.self) ∧
        (ftDsTargetProcess env s sta target snonce pmkR1 pmkR1Name cap).1.core = s.core) ∨
      s.ftEnabled = true ∧ target = s.self ∧ ∃ anonce,
        (ftDsTargetProcess env s sta target snonce pmkR1 pmkR1Name cap).1.core =
          { s.core with peer := sta, ptk := ftDerivePtk pmkR1 snonce anonce s.self sta } := by
  unfold ftDsTargetProcess
  by_cases mine : !s.ftEnabled ∨ target ≠ s.self
  · rw [if_pos mine]
    refine Or.inl ⟨?_, rfl⟩
    rintro ⟨enabled, isSelf⟩
    simp [enabled, isSelf] at mine
  · rw [if_neg mine]
    rw [not_or, not_not] at mine
    refine Or.inr ⟨by simpa using mine.1, mine.2, ?_⟩
    dsimp only
    split
    · exact ⟨_, rfl⟩
    split <;> exact ⟨_, rfl⟩

theorem ftApOnDsRequest_core (sib : Siblings) (body : Bytes) :
    (ftApOnDsRequest env sib s body).1.core = s.core := by
  unfold ftApOnDsRequest
  repeat' split
  all_goals first
    | rfl
    | exact ftTx_core s _ _

end Ap

section Sta

variable (env : Env) (s : Sme)

/-- The ANonce of an Authentication that echoes our SNonce. -/
def ftStaAuth2Echoes (body : Bytes) : Option (Octets 32) :=
  ((ftLocateFte s body 0).filter fun pf => pf.2.snonce = s.ftSnonce).map fun pf => pf.2.anonce

/-- The same for the elements of a successful response over the DS. -/
def ftStaDsEchoes (body : Bytes) : Option (Octets 32) :=
  ((ftActionRespParse body).filter fun resp => resp.status = 0).bind fun resp =>
    ftStaAuth2Echoes s resp.elems

theorem ftStaOnAuth2_core (body : Bytes) :
    (ftStaOnAuth2 env s body).core = s.core ∨
      (ftStaAuth2Echoes s body).isSome = true ∧
        ∃ ptk, (ftStaOnAuth2 env s body).core = { s.core with ptk := ptk } := by
  unfold ftStaOnAuth2 ftStaAuth2Echoes
  cases ftLocateFte s body 0 with
  | none => exact Or.inl rfl
  | some found =>
    obtain ⟨p, f⟩ := found
    dsimp only
    by_cases echoed : f.snonce = s.ftSnonce
    · rw [if_neg (not_not.2 echoed)]
      refine Or.inr ⟨by simp [echoed], _, ftTxReassoc_core env _ _ _ _ _⟩
    · rw [if_pos echoed]
      exact Or.inl rfl

theorem ftStaOnDsResponse_core (body : Bytes) :
    (ftStaOnDsResponse env s body).core = s.core ∨
      (ftStaDsEchoes s body).isSome = true ∧
        ∃ ptk, (ftStaOnDsResponse env s body).core = { s.core with ptk := ptk } := by
  unfold ftStaOnDsResponse ftStaDsEchoes
  cases ftActionRespParse body with
  | none => exact Or.inl rfl
  | some resp =>
    dsimp only
    by_cases success : resp.status = 0
    · rw [if_neg (not_not.2 success)]
      have kept : (some resp).filter (fun resp => decide (resp.status = 0)) = some resp := by
        simp [success]
      rw [kept, Option.bind_some]
      exact ftStaOnAuth2_core env s resp.elems
    · rw [if_pos success]
      exact Or.inl rfl

theorem ftStaRic_core (region : Bytes) : (ftStaRic s region).2.core = s.core := by
  unfold ftStaRic
  repeat' split
  all_goals rfl

/-- Whether the MIC of a Reassociation verifies under the key held. -/
def ftStaReassocMicOk (body : Bytes) : Bool :=
  match ftLocateFte s body 16 with
  | none => false
  | some (p, f) => (ftMic env s s.self s.ftTarget 6 p.mde p.fte (p.trailing.drop 16)).1 = f.mic

theorem ftStaOnReassoc_core (body : Bytes) :
    (ftStaOnReassoc env s body).core = s.core ∨
      ftStaReassocMicOk env s body = true ∧ ∃ gtk, (ftStaOnReassoc env s body).core =
        SmeCore.connect { s.core with gtk := gtk, peer := s.ftTarget } := by
  unfold ftStaOnReassoc ftStaReassocMicOk
  cases ftLocateFte s body 16 with
  | none => exact Or.inl rfl
  | some found =>
    obtain ⟨p, f⟩ := found
    dsimp only
    split
    · exact Or.inl rfl
    rename_i mic
    have quiet := ftStaRic_core (ftMic env s s.self s.ftTarget 6 p.mde p.fte
      (p.trailing.drop 16)).2 (p.trailing.drop 16)
    have sameTarget : (ftStaRic (ftMic env s s.self s.ftTarget 6 p.mde p.fte
        (p.trailing.drop 16)).2 (p.trailing.drop 16)).2.ftTarget = s.ftTarget := by
      unfold ftStaRic
      repeat' split
      all_goals rfl
    split
    · exact Or.inl quiet
    split
    · exact Or.inl quiet
    · rename_i gtk _
      refine Or.inr ⟨by simp [not_not.1 mic], gtk, ?_⟩
      rw [ftConnect_core, sameTarget]
      exact congrArg (fun c : SmeCore => SmeCore.connect { c with gtk := gtk, peer := s.ftTarget })
        quiet

theorem smeFtRoam_core (target : MacAddr) : (smeFtRoam env s target).1.core = s.core := by
  unfold smeFtRoam
  split
  · rfl
  · exact ftTxAuth1_core _

theorem smeFtRoamOverDs_core (target : MacAddr) :
    (smeFtRoamOverDs env s target).1.core = s.core := by
  unfold smeFtRoamOverDs
  split
  · rfl
  · exact ftTxDsRequest_core _

end Sta

end Rf2a4m1
