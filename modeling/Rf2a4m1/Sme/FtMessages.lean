import Rf2a4m1.Sme.Dispatch
import Rf2a4m1.Wire.RoamCodec

/-!
# The messages of a fast transition

What each end puts into its messages, and what the other end finds in them.
-/

set_option autoImplicit false

namespace Rf2a4m1

open ByteString

section Elements

/-- The element of the mobility domain that every message leads with. -/
def ftMdeOf (s : Sme) : Bytes := mdeOf s.ftMdid 0x01

variable {s : Sme}

theorem ftFillFte_ok (holder : s.ftR0khId.length ≤ 48) (setAnonce setSnonce : Bool)
    (r1kh : Option MacAddr) : fteR0khOk (ftFillFte s setAnonce setSnonce r1kh) = true := by
  unfold fteR0khOk ftFillFte
  dsimp only
  by_cases empty : s.ftR0khId.length = 0
  · rw [if_pos empty]
  · rw [if_neg empty]
    exact decide_eq_true ⟨empty, holder⟩

/-- Both elements fit every buffer they are built in. -/
theorem ftBuildMdeFte_eq (holder : s.ftR0khId.length ≤ 48) {cap : Nat} (room : 147 ≤ cap)
    (setAnonce setSnonce : Bool) (r1kh : Option MacAddr) :
    ftBuildMdeFte s cap setAnonce setSnonce r1kh =
      some (ftMdeOf s, fteOf (ftFillFte s setAnonce setSnonce r1kh)) := by
  have ok := ftFillFte_ok holder setAnonce setSnonce r1kh
  have small := fteBody_le ok
  unfold ftBuildMdeFte
  rw [ftMdeBuild_eq _ _ (by omega), Option.bind_some, mdeOf_length, ftFteBuild_eq ok (by omega)]
  rfl

theorem ftElems_length {f : FtFte} (ok : fteR0khOk f = true) :
    (ftMdeOf s).length = 5 ∧ (fteOf f).length ≤ 142 := by
  have small := fteBody_le ok
  have whole := fteOf_length f
  exact ⟨mdeOf_length _ _, by omega⟩

/-- The elements of a message are found where they were put. -/
theorem ftLocate_append {f : FtFte} (ok : fteR0khOk f = true) (trailing : Bytes) :
    ftLocate (ftMdeOf s ++ fteOf f ++ trailing) =
      some { mdid := s.ftMdid, mde := ftMdeOf s, fte := fteOf f, trailing := trailing } := by
  have mdeLength : (ftMdeOf s).length = 5 := mdeOf_length _ _
  have behind : (ftMdeOf s ++ (fteOf f ++ trailing)).drop 5 = fteOf f ++ trailing :=
    List.drop_left' mdeLength
  have front : (ftMdeOf s ++ (fteOf f ++ trailing)).take 5 = ftMdeOf s :=
    List.take_left' mdeLength
  have octet : byteAt (fteOf f ++ trailing) 1 = byteAt (fteOf f) 1 := by
    apply byteAt_append_left
    rw [fteOf_length]
    omega
  have long := fteOf_length f
  have parsed : ftMdeParse (ftMdeOf s ++ (fteOf f ++ trailing)) = some (s.ftMdid, 0x01) :=
    ftMdeParse_append _ _ _
  unfold ftLocate
  rw [List.append_assoc, parsed, if_neg (by rw [List.length_append]; omega), Option.bind_some]
  dsimp only
  rw [behind, front, octet, fteOf_felen ok, if_neg (by rw [List.length_append]; omega),
    if_neg (by rw [List.length_append]; omega), List.take_left, List.drop_left]

theorem ftFteParse_fteOf {f : FtFte} (ok : fteR0khOk f = true) : ftFteParse (fteOf f) = some f := by
  have one := @ftFteParse_append f [] ok
  rwa [List.append_nil] at one

theorem ftLocateFte_append {f : FtFte} (ok : fteR0khOk f = true) (trailing : Bytes)
    {minTrailing : Nat} (enough : minTrailing ≤ trailing.length) :
    ftLocateFte s (ftMdeOf s ++ fteOf f ++ trailing) minTrailing =
      some ({ mdid := s.ftMdid, mde := ftMdeOf s, fte := fteOf f, trailing := trailing }, f) := by
  unfold ftLocateFte
  rw [ftLocate_append ok]
  dsimp only
  rw [if_neg (by rw [not_or, not_not, Nat.not_lt]; exact ⟨rfl, enough⟩), ftFteParse_fteOf ok]
  rfl

end Elements

section Send

variable (env : Env) {s : Sme}

theorem ftTx_eq {type : FrameType} {payload : Bytes} (short : payload.length ≤ 300) :
    ftTx s type payload = txInt s type payload :=
  if_neg (by omega)

/-- What a station asks for, over the air as over the DS. -/
def ftRequestElems (s : Sme) : Bytes :=
  ftMdeOf s ++ fteOf (ftFillFte s false true none) ++ s.ftPmkR0Name.bytes

/-- What a target offers. -/
def ftOfferElems (s : Sme) : Bytes := ftMdeOf s ++ fteOf (ftFillFte s true true (some s.self))

theorem ftRequestElems_length (holder : s.ftR0khId.length ≤ 48) :
    (ftRequestElems s).length ≤ 163 := by
  obtain ⟨mde, fte⟩ := @ftElems_length s _ (ftFillFte_ok holder false true none)
  simp only [ftRequestElems, List.length_append, Octets.length_bytes]
  omega

theorem ftOfferElems_length (holder : s.ftR0khId.length ≤ 48) : (ftOfferElems s).length ≤ 147 := by
  obtain ⟨mde, fte⟩ := @ftElems_length s _ (ftFillFte_ok holder true true (some s.self))
  simp only [ftOfferElems, List.length_append]
  omega

theorem ftTxAuth1_eq (holder : s.ftR0khId.length ≤ 48) :
    ftTxAuth1 s = txInt s .ftAuth1 (ftRequestElems s) := by
  obtain ⟨mde, fte⟩ := @ftElems_length s _ (ftFillFte_ok holder false true none)
  have total := ftRequestElems_length holder
  unfold ftTxAuth1
  rw [ftBuildMdeFte_eq holder (by omega)]
  dsimp only
  rw [if_neg (by omega)]
  exact ftTx_eq (Nat.le_trans total (by omega))

theorem ftTxAuth2_eq (holder : s.ftR0khId.length ≤ 48) :
    ftTxAuth2 s = txInt s .ftAuth2 (ftOfferElems s) := by
  have total := ftOfferElems_length holder
  unfold ftTxAuth2
  rw [ftBuildMdeFte_eq holder (by omega)]
  exact ftTx_eq (Nat.le_trans total (by omega))

theorem ftTxDsRequest_eq (holder : s.ftR0khId.length ≤ 48) :
    ftTxDsRequest s = txInt s .ftDsReq
      ([6, 1] ++ s.self.bytes ++ s.ftTarget.bytes ++ ftRequestElems s) := by
  obtain ⟨mde, fte⟩ := @ftElems_length s _ (ftFillFte_ok holder false true none)
  have total := ftRequestElems_length holder
  unfold ftRequestElems at total
  unfold ftTxDsRequest
  rw [ftBuildMdeFte_eq holder (by omega)]
  dsimp only
  rw [if_neg (by omega), ftActionReqBuild_eq _ _ (by omega) (by omega)]
  rfl

/-- The MIC over the elements of a message, its key name and what trails that. -/
def ftMicOf (s : Sme) (sta ap : MacAddr) (seq : UInt8) (f : FtFte) (extra : Bytes) : Octets 16 :=
  aes128Cmac (kck s.ptk) (sta.bytes ++ ap.bytes ++ [seq] ++ ftMdeOf s ++ fteZeroMic (fteOf f) ++
    s.ftPmkR1Name.bytes ++ extra)

/-- Elements of these sizes are in the scope of the MIC. -/
theorem ftMic_fteOf {f : FtFte} (ok : fteR0khOk f = true) {extra : Bytes}
    (short : extra.length ≤ 160) (sta ap : MacAddr) (seq : UInt8) :
    ftMic env s sta ap seq (ftMdeOf s) (fteOf f) extra =
      (ftMicOf s sta ap seq f extra, { s with draws := s.draws + 1 }) := by
  obtain ⟨mde, fte⟩ := @ftElems_length s f ok
  unfold ftMic ftFteMic
  rw [if_neg (by omega)]
  rfl

/-- The MIC the element carries does not enter into it. -/
theorem ftMicOf_mic (sta ap : MacAddr) (seq : UInt8) (f : FtFte) (mic : Octets 16) (extra : Bytes) :
    ftMicOf s sta ap seq { f with mic := mic } extra = ftMicOf s sta ap seq f extra := by
  unfold ftMicOf
  rw [fteZeroMic_fteOf]

/-- The element of a Reassociation, with its MIC. -/
def ftReassocFte (s : Sme) (sta : MacAddr) (seq : UInt8) (r1kh : MacAddr) (extra : Bytes) : FtFte :=
  { ftFillFte s true true (some r1kh) with
    mic := ftMicOf s sta r1kh seq (ftFillFte s true true (some r1kh)) extra }

def ftReassocElems (s : Sme) (sta : MacAddr) (seq : UInt8) (r1kh : MacAddr) (extra : Bytes) :
    Bytes :=
  ftMdeOf s ++ fteOf (ftReassocFte s sta seq r1kh extra) ++ (s.ftPmkR1Name.bytes ++ extra)

/-- Octets of the subelement that names the holder of PMK-R0. -/
def r0khPart (s : Sme) : Nat := if s.ftR0khId.length = 0 then 0 else 2 + s.ftR0khId.length

theorem r0khPart_le (holder : s.ftR0khId.length ≤ 48) : r0khPart s ≤ 50 := by
  unfold r0khPart
  split <;> omega

theorem ftReassocFte_length (setAnonce setSnonce : Bool) (r1kh : MacAddr) :
    (fteOf (ftFillFte s setAnonce setSnonce (some r1kh))).length = 92 + r0khPart s := by
  rw [fteOf_length, fteBody_length]
  unfold fteSubelements ftFillFte r0khPart
  dsimp only
  by_cases empty : s.ftR0khId.length = 0
  · simp [empty]
  · simp [empty]
    omega

/-- The MIC does not change the length. -/
theorem ftReassocFte_sealed (sta : MacAddr) (seq : UInt8) (r1kh : MacAddr) (extra : Bytes) :
    (fteOf (ftReassocFte s sta seq r1kh extra)).length = 92 + r0khPart s := by
  rw [← @ftReassocFte_length s true true r1kh, fteOf_length, fteOf_length, fteBody_length,
    fteBody_length]
  rfl

theorem ftTxReassoc_fits (holder : s.ftR0khId.length ≤ 48) {extra : Bytes}
    (room : 113 + r0khPart s + extra.length ≤ 300) (scope : extra.length ≤ 160)
    (type : FrameType) (seq : UInt8) (r1kh : MacAddr) :
    ftTxReassoc env s type seq r1kh extra =
      txInt { s with draws := s.draws + 1 } type
        (ftReassocElems s (if s.role = .sta then s.self else s.peer) seq r1kh extra) := by
  have ok := ftFillFte_ok holder true true (some r1kh)
  have mde : (ftMdeOf s).length = 5 := mdeOf_length _ _
  have fte := @ftReassocFte_length s true true r1kh
  unfold ftTxReassoc
  rw [ftBuildMdeFte_eq holder (by omega)]
  dsimp only
  rw [if_neg (by omega), ftMic_fteOf env ok scope]
  dsimp only
  rw [fteOf_mic]
  have octets : ftMdeOf s ++ fteOf (ftReassocFte s (if s.role = .sta then s.self else s.peer) seq
      r1kh extra) ++ s.ftPmkR1Name.bytes ++ extra =
      ftReassocElems s (if s.role = .sta then s.self else s.peer) seq r1kh extra := by
    simp only [ftReassocElems, List.append_assoc]
  have sealed : (fteOf (ftReassocFte s (if s.role = .sta then s.self else s.peer) seq r1kh
      extra)).length = 92 + r0khPart s := ftReassocFte_sealed _ seq r1kh extra
  have total : (ftReassocElems s (if s.role = .sta then s.self else s.peer) seq r1kh
      extra).length ≤ 300 := by
    simp only [ftReassocElems, List.length_append, Octets.length_bytes]
    omega
  rw [← octets] at total ⊢
  exact ftTx_eq total

/-- A message that is too long is not sent at all. -/
theorem ftTxReassoc_dropped (holder : s.ftR0khId.length ≤ 48) {extra : Bytes}
    (long : 300 < 113 + r0khPart s + extra.length) (type : FrameType) (seq : UInt8)
    (r1kh : MacAddr) : ftTxReassoc env s type seq r1kh extra = s := by
  have mde : (ftMdeOf s).length = 5 := mdeOf_length _ _
  have fte := @ftReassocFte_length s true true r1kh
  unfold ftTxReassoc
  rw [ftBuildMdeFte_eq holder (by omega)]
  exact if_pos (by omega)

theorem ftTxReassoc_eq (holder : s.ftR0khId.length ≤ 48) {extra : Bytes}
    (short : extra.length ≤ 137) (type : FrameType) (seq : UInt8) (r1kh : MacAddr) :
    ftTxReassoc env s type seq r1kh extra =
      txInt { s with draws := s.draws + 1 } type
        (ftReassocElems s (if s.role = .sta then s.self else s.peer) seq r1kh extra) := by
  have part := r0khPart_le holder
  exact ftTxReassoc_fits env holder (by omega) (by omega) type seq r1kh

end Send

section Extra

/-- The channel a station announces under operating channel validation. -/
def ociPart (s : Sme) : Bytes := if s.ocvEnabled then [255, 4, 54] ++ s.ociLocal.bytes else []

/-- Its resource request. -/
def ricPart : Option Tspec → Bytes
  | none => []
  | some t => ricRdeOf { rdieId := 1, descCount := 1, status := ricStatusSuccess } ++ tspecOf t

variable {s : Sme}

theorem ociPart_length : (ociPart s).length ≤ 6 := by
  unfold ociPart PmfOci.bytes
  split <;> simp

theorem ricPart_length (request : Option Tspec) : (ricPart request).length ≤ 63 := by
  cases request with
  | none => simp [ricPart]
  | some t =>
    rw [ricPart, List.length_append, ricRdeOf_length, tspecOf_length]

theorem tspecBuild_of {cap : Nat} (t : Tspec) (room : 57 ≤ cap) :
    tspecBuild cap t = some (tspecOf t) :=
  tspecBuild_eq t room

theorem ricRdeBuild_of {cap : Nat} (r : RicRde) (room : 6 ≤ cap) :
    ricRdeBuild cap r = some (ricRdeOf r) :=
  if_neg (by omega)

theorem ricRequestBuild_one {cap : Nat} (t : Tspec) (room : 63 ≤ cap) :
    ricRequestBuild cap 1 [t] = some (ricPart (some t)) := by
  have few : ¬[t].length > ricMaxResources := by
    rw [List.length_singleton]
    decide
  unfold ricRequestBuild
  rw [if_neg few, ricRdeBuild_of _ (by omega), Option.bind_some, ricRequestLoop,
    ricRdeOf_length, tspecBuild_of t (by omega)]
  rfl

/-- Both parts fit. -/
theorem ftBuildReassocReqExtra_eq :
    ftBuildReassocReqExtra s 220 = ociPart s ++ ricPart s.ricRequest := by
  have fits := @ociPart_length s
  have oci : (if s.ocvEnabled then pmfOciElementBuild 220 s.ociLocal else some []) =
      some (ociPart s) := by
    unfold ociPart
    split <;> rfl
  unfold ftBuildReassocReqExtra
  rw [oci]
  dsimp only
  cases s.ricRequest with
  | none => simp [ricPart]
  | some t =>
    dsimp only
    rw [ricRequestBuild_one t (by omega), Option.getD_some]

theorem ftReassocExtra_length :
    (ociPart s ++ ricPart s.ricRequest).length ≤ 69 := by
  have oci := @ociPart_length s
  have ric := ricPart_length s.ricRequest
  rw [List.length_append]
  omega

/-- The AP finds its own channel when the station announces the same one. -/
theorem ftApOcvOk_region {ap : Sme} (channel : ap.ocvEnabled = true →
    s.ocvEnabled = true ∧ s.ociLocal = ap.ociLocal) (rest : Bytes) :
    ftApOcvOk ap (ociPart s ++ rest) = true := by
  unfold ftApOcvOk
  cases validated : ap.ocvEnabled with
  | false => rfl
  | true =>
    obtain ⟨enabled, same⟩ := channel validated
    have parsed : pmfOciElementParse (ociPart s ++ rest) = some s.ociLocal := by
      unfold ociPart
      rw [if_pos enabled]
      unfold pmfOciElementParse PmfOci.bytes
      rw [if_neg (by simp [byteAt]), if_neg (by simp [byteAt])]
      rfl
    rw [parsed, same]
    simp [pmfOcvVerify]

/-- Elements other than a resource request are skipped. -/
theorem ricScan_skip {e : Bytes} {rest : Bytes} (fuel : Nat)
    (whole : e.length = 2 + (byteAt e 1).toNat) (other : byteAt e 0 ≠ 57) :
    ricScan (fuel + 1) (e ++ rest) = ricScan fuel rest := by
  have long : 2 ≤ e.length := by omega
  have first : byteAt (e ++ rest) 0 = byteAt e 0 := byteAt_append_left (by omega)
  have second : byteAt (e ++ rest) 1 = byteAt e 1 := byteAt_append_left (by omega)
  rw [ricScan, if_neg (by rw [List.length_append]; omega)]
  dsimp only
  rw [first, second, if_neg (by rw [List.length_append]; omega), if_neg other, List.drop_left' whole]

theorem ricScan_few {fuel : Nat} {region : Bytes} {rq : RicRequest}
    (found : ricScan fuel region = some rq) :
    1 ≤ rq.tspecs.length ∧ rq.tspecs.length ≤ ricMaxResources := by
  induction fuel generalizing region with
  | zero => cases found
  | succ fuel ih =>
    rw [ricScan] at found
    split at found
    · cases found
    dsimp only at found
    split at found
    · cases found
    split at found
    · obtain ⟨parsed, some'⟩ := Option.filter_eq_some_iff.1 found
      exact ⟨of_decide_eq_true some', ricRequestParse_few parsed⟩
    · exact ih found

/-- The request that is scanned for: the specification as it went over the air. -/
theorem ricScan_ricPart (request : Option Tspec) (fuel : Nat) (enough : (ricPart request).length ≤ fuel) :
    ricScan fuel (ricPart request) =
      request.map fun t => { rdieId := 1, tspecs := [t.onAir] } := by
  cases request with
  | none =>
    cases fuel <;> rfl
  | some t =>
    have long : (ricPart (some t)).length = 63 := by
      rw [ricPart, List.length_append, ricRdeOf_length, tspecOf_length]
    obtain ⟨fuel, rfl⟩ := Nat.exists_eq_add_of_le' (Nat.le_trans (by omega : 1 ≤ _) enough)
    have parsed : ricRequestParse (ricPart (some t)) = some { rdieId := 1, tspecs := [t.onAir] } := by
      have one := @ricRequestParse_append [] 63 1 [t] _ (ricRequestBuild_one t le_rfl)
      rwa [List.append_nil] at one
    have octets : byteAt (ricPart (some t)) 0 = 57 ∧ byteAt (ricPart (some t)) 1 = 4 := ⟨rfl, rfl⟩
    rw [ricScan, if_neg (by omega)]
    dsimp only
    rw [octets.1, octets.2, if_neg (by rw [long]; decide), if_pos rfl, parsed]
    rfl

theorem ricScan_region :
    ricScan (ociPart s ++ ricPart s.ricRequest).length (ociPart s ++ ricPart s.ricRequest) =
      s.ricRequest.map fun t => { rdieId := 1, tspecs := [t.onAir] } := by
  unfold ociPart PmfOci.bytes
  split
  · rw [List.length_append]
    have fuel : ([255, 4, 54] ++ [s.ociLocal.opClass, s.ociLocal.primChan, s.ociLocal.seg1Freq] :
        Bytes).length + (ricPart s.ricRequest).length = (5 + (ricPart s.ricRequest).length) + 1 := by
      simp
      omega
    rw [fuel, ricScan_skip _ rfl (by simp [byteAt])]
    exact ricScan_ricPart _ _ (by omega)
  · rw [List.nil_append]
    exact ricScan_ricPart _ _ le_rfl

end Extra

section Answer

/-- The status the AP gives a resource. -/
def ricStatusOf (deny : Bool) : UInt16 := if deny then ricStatusDenied else ricStatusSuccess

/-- The answer to a request: status, and the specification when it is granted. -/
def ricVerdictOf (deny : Bool) (request : Option Tspec) : Option (UInt16 × Option Tspec) :=
  request.map fun t => (ricStatusOf deny, if deny then none else some t.onAir)

def ricAnswerPart (deny : Bool) : Option Tspec → Bytes
  | none => []
  | some t =>
    ricRdeOf { rdieId := 1, descCount := 1, status := ricStatusOf deny } ++
      ricResourceOf (t.onAir, ricStatusOf deny)

theorem ricAnswerPart_length (deny : Bool) (request : Option Tspec) :
    (ricAnswerPart deny request).length ≤ 65 := by
  cases request with
  | none => simp [ricAnswerPart]
  | some t =>
    rw [ricAnswerPart, List.length_append, ricRdeOf_length, ricResourceOf, List.length_append,
      putLe16_length]
    split
    · rw [tspecOf_length]
    · simp

theorem ricResponseBuild_one {cap : Nat} (deny : Bool) (t : Tspec) (room : 65 ≤ cap) :
    ricResponseBuild cap 1 [(t.onAir, ricStatusOf deny)] = some (ricAnswerPart deny (some t)) := by
  have few : ¬[(t.onAir, ricStatusOf deny)].length > ricMaxResources := by
    rw [List.length_singleton]
    decide
  have overall : (if [(t.onAir, ricStatusOf deny)].any fun x => x.2 ≠ ricStatusSuccess then
      ricStatusDenied else ricStatusSuccess) = ricStatusOf deny := by
    cases deny <;> rfl
  unfold ricResponseBuild
  rw [if_neg few]
  dsimp only
  rw [overall, ricRdeBuild_of _ (by omega), Option.bind_some, ricResponseLoop, ricRdeOf_length,
    if_neg (by omega)]
  dsimp only
  rw [ricAnswerPart, ricResourceOf]
  cases deny with
  | true => rfl
  | false =>
    have granted : ricStatusOf false = ricStatusSuccess := rfl
    rw [if_pos granted, if_pos granted, tspecBuild_of, Option.bind_some]
    · simp only [ricResponseLoop, List.append_assoc]
      rfl
    · rw [List.length_append, ricRdeOf_length, putLe16_length]
      omega

/-- What an AP counts. -/
def SmeRic.answered (r : SmeRic) : Option Tspec → SmeRic
  | none => r
  | some _ =>
    { r with ricApGrants := if r.ricApDeny then r.ricApGrants else r.ricApGrants + 1
             ricApDenials := if r.ricApDeny then r.ricApDenials + 1 else r.ricApDenials }

/-- What a station is told about its request. -/
def SmeRic.told (r : SmeRic) (deny : Bool) : SmeRic :=
  match r.ricRequest with
  | none => r
  | some t =>
    { r with ricRespReceived := true, ricStatus := ricStatusOf deny, ricGranted := !deny
             ricGrantedTspec := if deny then r.ricGrantedTspec else t.onAir }

/-- The verdict a station has on record, if any. -/
def SmeRic.verdict (r : SmeRic) : Option (UInt16 × Option Tspec) :=
  if r.ricRespReceived then some (r.ricStatus, if r.ricGranted then some r.ricGrantedTspec else none)
  else none

theorem SmeRic.told_verdict {r : SmeRic} (fresh : r.ricRespReceived = false) (deny : Bool) :
    (r.told deny).verdict = ricVerdictOf deny r.ricRequest := by
  unfold told verdict ricVerdictOf
  cases r.ricRequest with
  | none => simp [fresh]
  | some t => cases deny <;> rfl

/-- The AP answers the request it scans for, and counts it. -/
theorem ftApRic_region {s ap : Sme} :
    ftApRic ap (ociPart s ++ ricPart s.ricRequest) =
      (ricAnswerPart ap.ricApDeny s.ricRequest,
        { ap with toSmeRic := ap.toSmeRic.answered s.ricRequest }) := by
  unfold ftApRic
  rw [ricScan_region]
  cases s.ricRequest with
  | none => rfl
  | some t =>
    have answer := @ricResponseBuild_one 128 ap.ricApDeny t (by omega)
    rw [ricStatusOf] at answer
    simp only [Option.map_some, List.map_cons, List.map_nil]
    rw [answer]
    rfl

/-- The station takes the answer off and keeps the verdict. -/
theorem ftStaRic_region {sta : Sme} (deny : Bool) (rest : Bytes) :
    ftStaRic sta (ricAnswerPart deny sta.ricRequest ++ rest) =
      (rest, { sta with toSmeRic := sta.toSmeRic.told deny }) := by
  unfold ftStaRic SmeRic.told
  cases request : sta.ricRequest with
  | none => rfl
  | some t =>
    have parsed := @ricResponseParse_append rest 65 1 _ _ (ricResponseBuild_one deny t le_rfl)
    rw [parsed, List.map_cons, List.map_nil, ricAnswer, Tspec.onAir_onAir]
    cases deny <;> rfl

end Answer

end Rf2a4m1
