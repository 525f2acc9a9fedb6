import Rf2a4m1.Sme.EapolFrames

/-!
# Management frames on the air

A management frame that was built here is either ignored or acted on as the
frame it was built as.
-/

set_option autoImplicit false

namespace Rf2a4m1

open ByteString

section Header

variable {type : MgmtStype} {da sa bssid : MacAddr} {sc : UInt16} {body : Bytes}

/-- The header as it is read back. -/
def mgmtHdrOf (type : MgmtStype) (da sa bssid : MacAddr) (sc : UInt16) (body : Bytes) : MgmtHdr :=
  { fc := getLe16 [type.code <<< 4, 0] 0, subtype := type.code, addr1 := da, addr2 := sa,
    addr3 := bssid, seqCtrl := sc, body := body }

theorem mgmtParseHdr_putHdr :
    mgmtParseHdr (putHdr type da sa bssid sc ++ body) =
      some (mgmtHdrOf type da sa bssid sc body) := by
  set frame := putHdr type da sa bssid sc ++ body with built
  have long : 24 ≤ frame.length := by
    rw [built, List.length_append, putHdr_length]
    exact Nat.le_add_right _ _
  have control : getLe16 frame 0 = getLe16 [type.code <<< 4, 0] 0 := rfl
  have bits : getLe16 [type.code <<< 4, 0] 0 &&& 0x3 = 0 ∧
      fcType (getLe16 [type.code <<< 4, 0] 0) = 0 ∧
      fcSubtype (getLe16 [type.code <<< 4, 0] 0) = type.code := by
    cases type <;> decide
  have start : frame = [type.code <<< 4, 0, 0, 0] ++ (da.bytes ++ (sa.bytes ++ (bssid.bytes ++
      (putLe16 sc ++ body)))) := by
    simp only [built, putHdr, List.append_assoc]
  have first : macAt frame 4 = da := by
    have before : ([type.code <<< 4, 0, 0, 0] : Bytes).length = 4 := rfl
    unfold macAt
    rw [start, slice_between before da.length_bytes, Octets.of_bytes]
  have second : macAt frame 10 = sa := by
    have before : ([type.code <<< 4, 0, 0, 0] ++ da.bytes).length = 10 := by simp
    unfold macAt
    rw [start, ← List.append_assoc, slice_between before sa.length_bytes, Octets.of_bytes]
  have third : macAt frame 16 = bssid := by
    have before : ([type.code <<< 4, 0, 0, 0] ++ da.bytes ++ sa.bytes).length = 16 := by simp
    unfold macAt
    rw [start, ← List.append_assoc, ← List.append_assoc, slice_between before bssid.length_bytes,
      Octets.of_bytes]
  have sequence : getLe16 frame 22 = sc := by
    have before : ([type.code <<< 4, 0, 0, 0] ++ da.bytes ++ sa.bytes ++ bssid.bytes).length = 22 :=
      by simp
    have field : slice frame 22 2 = slice (putLe16 sc) 0 2 := by
      rw [start, ← List.append_assoc, ← List.append_assoc, ← List.append_assoc,
        slice_between before (putLe16_length sc)]
      exact (List.take_of_length_le (Nat.le_of_eq (putLe16_length sc))).symm
    unfold getLe16
    rw [field]
    exact getLe16_put sc
  have rest : frame.drop 24 = body := List.drop_left' (putHdr_length type da sa bssid sc)
  unfold mgmtParseHdr
  rw [if_neg (Nat.not_lt.2 long)]
  dsimp only
  rw [control, if_neg (not_not.2 bits.1), if_neg (not_not.2 bits.2.1), bits.2.2, first, second,
    third, sequence, rest]
  rfl

/-- A management frame is ignored or classified by its header. -/
theorem rxKind_putHdr (t : Sme) :
    rxKind t (putHdr type da sa bssid sc ++ body) = .ignored ∨
      rxKind t (putHdr type da sa bssid sc ++ body) =
        mgmtKind t (putHdr type da sa bssid sc ++ body) (mgmtHdrOf type da sa bssid sc body) := by
  by_cases out : t.state = .failed ∨ (putHdr type da sa bssid sc ++ body).length > 0xffff
  · exact Or.inl (rxKind_mgmt_ignored mgmtParseHdr_putHdr out)
  · rw [not_or] at out
    exact Or.inr (rxKind_mgmt mgmtParseHdr_putHdr out.1 (Nat.le_of_not_lt out.2))

end Header

section Classified

variable {da sa bssid : MacAddr} {sc : UInt16} (body : Bytes) (t : Sme)

theorem viewKind_none (type : FrameType) (src : MacAddr) (body : Bytes) :
    viewKind t none type src body = .ignored ∨
      viewKind t none type src body = .handle none type (smePfx type src ++ body) := by
  unfold viewKind internalKind
  split
  · exact Or.inl rfl
  split
  · exact Or.inr rfl
  · exact Or.inl rfl

theorem viewKind_some (a : UInt16) (type : FrameType) (src : MacAddr) (body : Bytes) :
    viewKind t (some a) type src body = .aid a ∨
      viewKind t (some a) type src body = .handle (some a) type (smePfx type src ++ body) := by
  unfold viewKind internalKind
  split
  · exact Or.inl rfl
  split
  · exact Or.inr rfl
  · exact Or.inl rfl

theorem rxKind_probeReq :
    rxKind t (putHdr .probeReq da sa bssid sc ++ body) = .ignored ∨
      rxKind t (putHdr .probeReq da sa bssid sc ++ body) = .probed sa := by
  rcases @rxKind_putHdr .probeReq da sa bssid sc body t with ignored | eq
  · exact Or.inl ignored
  have kind : mgmtKind t (putHdr .probeReq da sa bssid sc ++ body)
      (mgmtHdrOf .probeReq da sa bssid sc body) =
        if t.role = .ap then .probed sa else .ignored := rfl
  rw [eq, kind]
  split
  · exact Or.inr rfl
  · exact Or.inl rfl

theorem rxKind_probeResp :
    rxKind t (putHdr .probeResp da sa bssid sc ++ body) = .ignored ∨
      rxKind t (putHdr .probeResp da sa bssid sc ++ body) =
        .announce (mgmtHdrOf .probeResp da sa bssid sc body) :=
  @rxKind_putHdr .probeResp da sa bssid sc body t

/-- What an open-system Authentication that was not refused is read as. -/
theorem rxKind_auth (txn : UInt16) :
    rxKind t (putHdr .auth da sa bssid sc ++ authBody 0 txn 0) = .ignored ∨
      rxKind t (putHdr .auth da sa bssid sc ++ authBody 0 txn 0) =
        (if txn = 1 then viewKind t none .authReq sa []
        else if txn = 2 then viewKind t none .authResp sa [] else .ignored) := by
  rcases @rxKind_putHdr .auth da sa bssid sc (authBody 0 txn 0) t with ignored | eq
  · exact Or.inl ignored
  right
  rw [eq]
  have parsed : mgmtParseAuth (authBody 0 txn 0) = some { algo := 0, txn := txn, status := 0 } := by
    have middle : getLe16 (authBody 0 txn 0) 2 = txn := by
      have field : slice (authBody 0 txn 0) 2 2 = slice (putLe16 txn) 0 2 := rfl
      unfold getLe16
      rw [field]
      exact getLe16_put txn
    have whole : mgmtParseAuth (authBody 0 txn 0) =
        some { algo := 0, txn := getLe16 (authBody 0 txn 0) 2, status := 0 } := rfl
    rw [whole, middle]
  change authKind t (mgmtHdrOf .auth da sa bssid sc (authBody 0 txn 0)) = _
  unfold authKind
  have body : (mgmtHdrOf .auth da sa bssid sc (authBody 0 txn 0)).body = authBody 0 txn 0 := rfl
  rw [body, parsed]
  rfl

theorem rxKind_authReq :
    rxKind t (putHdr .auth da sa bssid sc ++ authBody 0 1 0) = .ignored ∨
      rxKind t (putHdr .auth da sa bssid sc ++ authBody 0 1 0) =
        .handle none .authReq (smePfx .authReq sa ++ []) := by
  rcases @rxKind_auth da sa bssid sc t 1 with ignored | eq
  · exact Or.inl ignored
  · rw [eq, if_pos rfl]
    exact viewKind_none t .authReq sa []

theorem rxKind_authResp :
    rxKind t (putHdr .auth da sa bssid sc ++ authBody 0 2 0) = .ignored ∨
      rxKind t (putHdr .auth da sa bssid sc ++ authBody 0 2 0) =
        .handle none .authResp (smePfx .authResp sa ++ []) := by
  rcases @rxKind_auth da sa bssid sc t 2 with ignored | eq
  · exact Or.inl ignored
  · rw [eq, if_neg (by decide), if_pos rfl]
    exact viewKind_none t .authResp sa []

theorem rxKind_assocReq :
    rxKind t (putHdr .assocReq da sa bssid sc ++ body) = .ignored ∨
      rxKind t (putHdr .assocReq da sa bssid sc ++ body) =
        .handle none .assocReq (smePfx .assocReq sa ++ body.drop 4) := by
  rcases @rxKind_putHdr .assocReq da sa bssid sc body t with ignored | eq
  · exact Or.inl ignored
  have kind : mgmtKind t (putHdr .assocReq da sa bssid sc ++ body)
      (mgmtHdrOf .assocReq da sa bssid sc body) =
        if body.length < 4 then .ignored else viewKind t none .assocReq sa (body.drop 4) := rfl
  rw [eq, kind]
  split
  · exact Or.inl rfl
  · exact viewKind_none t .assocReq sa (body.drop 4)

/-- An Association Response that grants, whatever its capabilities and AID. -/
theorem mgmtKind_assocResp (cap aid : UInt16) :
    let granted := putLe16 cap ++ putLe16 0 ++ putLe16 aid ++ body
    ∃ a, mgmtKind t (putHdr .assocResp da sa bssid sc ++ granted)
      (mgmtHdrOf .assocResp da sa bssid sc granted) = viewKind t (some a) .assocResp sa body := by
  intro granted
  have rest : granted.drop 6 = body := by
    apply List.drop_left'
    simp
  have status : getLe16 granted 2 = 0 := by
    have field : slice granted 2 2 = putLe16 0 := by
      change slice (putLe16 cap ++ putLe16 0 ++ putLe16 aid ++ body) 2 2 = putLe16 0
      rw [List.append_assoc, List.append_assoc]
      exact slice_between (putLe16_length cap) (putLe16_length 0)
    unfold getLe16
    rw [field]
    rfl
  have long : ¬granted.length < 6 := by
    change ¬(putLe16 cap ++ putLe16 0 ++ putLe16 aid ++ body).length < 6
    simp only [List.length_append, putLe16_length]
    omega
  refine ⟨getLe16 granted 4 &&& 0x3fff, ?_⟩
  change assocRespKind t (mgmtHdrOf .assocResp da sa bssid sc granted) .assocResp = _
  have body' : (mgmtHdrOf .assocResp da sa bssid sc granted).body = granted := rfl
  unfold assocRespKind mgmtParseAssocResp
  rw [body', if_neg long]
  dsimp only
  rw [status, if_neg (by decide), rest]
  rfl

theorem rxKind_assocResp (cap aid : UInt16) :
    let frame := putHdr .assocResp da sa bssid sc ++ (putLe16 cap ++ putLe16 0 ++ putLe16 aid ++ body)
    rxKind t frame = .ignored ∨ (∃ a, rxKind t frame = .aid a) ∨
      ∃ a, rxKind t frame = .handle (some a) .assocResp (smePfx .assocResp sa ++ body) := by
  intro frame
  rcases @rxKind_putHdr .assocResp da sa bssid sc
    (putLe16 cap ++ putLe16 0 ++ putLe16 aid ++ body) t with ignored | eq
  · exact Or.inl ignored
  obtain ⟨a, granted⟩ := @mgmtKind_assocResp da sa bssid sc body t cap aid
  right
  have kind : rxKind t frame = viewKind t (some a) .assocResp sa body := eq.trans granted
  rw [kind]
  exact (viewKind_some t _ .assocResp sa body).imp (fun aid => ⟨_, aid⟩)
    fun handled => ⟨_, handled⟩

end Classified

section Built

variable {s : Sme} {da : MacAddr} {sc : UInt16} {ie f : Bytes}

theorem mgmtFrame_probeReq (built : mgmtFrame s .probeReq da sc ie = some f) :
    ∃ w, f = putHdr .probeReq da s.self da sc ++ w := by
  unfold mgmtFrame mgmtBuildProbeReq at built
  dsimp only at built
  split at built
  · cases built
  · obtain ⟨w, _, rfl⟩ := Option.map_eq_some_iff.1 built
    exact ⟨w, rfl⟩

theorem mgmtFrame_probeResp (built : mgmtFrame s .probeResp da sc ie = some f) :
    ∃ w, f = putHdr .probeResp da s.self s.self sc ++ w := by
  unfold mgmtFrame mgmtBuildProbeResp at built
  dsimp only at built
  split at built
  · cases built
  · obtain ⟨w, _, rfl⟩ := Option.map_eq_some_iff.1 built
    exact ⟨w, rfl⟩

theorem mgmtFrame_authReq (built : mgmtFrame s .authReq da sc ie = some f) :
    f = putHdr .auth da s.self da sc ++ authBody 0 1 0 :=
  (Option.some.inj built).symm

theorem mgmtFrame_authResp (built : mgmtFrame s .authResp da sc ie = some f) :
    f = putHdr .auth da s.self s.self sc ++ authBody 0 2 0 :=
  (Option.some.inj built).symm

theorem mgmtFrame_assocReq (built : mgmtFrame s .assocReq da sc ie = some f) :
    ∃ w, f = putHdr .assocReq da s.self da sc ++ w := by
  unfold mgmtFrame mgmtBuildAssocReq at built
  dsimp only at built
  split at built
  · cases built
  · obtain ⟨w, _, built⟩ := Option.bind_eq_some_iff.1 built
    obtain ⟨w, _, built⟩ := Option.bind_eq_some_iff.1 built
    unfold appendExtra at built
    split at built
    · cases built
    · refine ⟨putLe16 smeCapInfo ++ putLe16 10 ++ w ++ ie, ?_⟩
      rw [← Option.some.inj built]
      simp only [List.append_assoc]

theorem mgmtFrame_assocResp (built : mgmtFrame s .assocResp da sc ie = some f) :
    ∃ cap aid w, f = putHdr .assocResp da s.self s.self sc ++
      (putLe16 cap ++ putLe16 0 ++ putLe16 aid ++ w) := by
  unfold mgmtFrame mgmtBuildAssocResp at built
  dsimp only at built
  split at built
  · cases built
  · obtain ⟨w, _, built⟩ := Option.bind_eq_some_iff.1 built
    unfold appendExtra at built
    split at built
    · cases built
    · refine ⟨smeCapInfo, 0xc000 ||| (1 &&& 0x3fff), w ++ ie, ?_⟩
      rw [← Option.some.inj built]
      simp only [List.append_assoc]

end Built

end Rf2a4m1
