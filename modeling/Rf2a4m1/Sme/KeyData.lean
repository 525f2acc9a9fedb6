import Rf2a4m1.Sme.Handshake

/-!
# Key data of the third message

Each walker over key data elements either stops at the element in front of it
or steps over it, and the elements the AP puts in are the ones it was told to.
-/

set_option autoImplicit false

namespace Rf2a4m1

open ByteString

section Walkers

/-- A key data element. -/
def kdeOf (oui : Bytes) (dt : UInt8) (payload : Bytes) : Bytes :=
  0xdd :: UInt8.ofNat (4 + payload.length) :: (oui ++ dt :: payload)

variable {oui payload rest : Bytes} {dt : UInt8}

theorem kdeOf_length (three : oui.length = 3) :
    (kdeOf oui dt payload).length = 6 + payload.length := by
  simp only [kdeOf, List.length_cons, List.length_append, three]
  omega

/-- What a walker sees of the element in front of it. -/
theorem kdeOf_head (three : oui.length = 3) (short : payload.length ≤ 251) :
    byteAt (kdeOf oui dt payload ++ rest) 0 = 0xdd ∧
      (byteAt (kdeOf oui dt payload ++ rest) 1).toNat = 4 + payload.length ∧
      slice (kdeOf oui dt payload ++ rest) 2 3 = oui ∧
      byteAt (kdeOf oui dt payload ++ rest) 5 = dt ∧
      (kdeOf oui dt payload ++ rest).drop 6 = payload ++ rest := by
  have size : (UInt8.ofNat (4 + payload.length)).toNat = 4 + payload.length := by
    rw [UInt8.toNat_ofNat']
    omega
  match oui, three with
  | [a, b, c], _ => exact ⟨rfl, size, rfl, rfl, rfl⟩

theorem kdeOf_drop (three : oui.length = 3) :
    (kdeOf oui dt payload ++ rest).drop (2 + (4 + payload.length)) = rest := by
  apply List.drop_left'
  rw [kdeOf_length three]
  omega

theorem kdeFindLoop_kde (three : oui.length = 3) (short : payload.length ≤ 251) (fuel : Nat)
    (oui' : Bytes) (dt' : UInt8) (minBody : Nat) :
    kdeFindLoop (fuel + 1) (kdeOf oui dt payload ++ rest) oui' dt' minBody =
      if 4 + payload.length ≥ minBody ∧ oui = oui' ∧ dt = dt' then some payload
      else kdeFindLoop fuel rest oui' dt' minBody := by
  obtain ⟨tag, size, vendor, type, body⟩ := @kdeOf_head oui payload rest dt three short
  have len : (kdeOf oui dt payload ++ rest).length = 6 + payload.length + rest.length := by
    rw [List.length_append, kdeOf_length three]
  have field : slice (kdeOf oui dt payload ++ rest) 6 (4 + payload.length - 4) = payload := by
    rw [slice, body, Nat.add_sub_cancel_left, List.take_left]
  rw [kdeFindLoop, if_neg (by omega)]
  dsimp only
  rw [tag, size, if_neg (by simp), if_neg (by omega), vendor, type, field, kdeOf_drop three]
  simp only [true_and]

theorem kdeOf_size (three : oui.length = 3) (short : payload.length ≤ 251) (n : UInt8) :
    byteAt (kdeOf oui dt payload ++ rest) 1 = n ↔ 4 + payload.length = n.toNat := by
  obtain ⟨_, size, _⟩ := @kdeOf_head oui payload rest dt three short
  rw [← UInt8.toNat_inj, size]

theorem kdeOf_field (three : oui.length = 3) (short : payload.length ≤ 251) {off n : Nat}
    (within : off + n ≤ payload.length) :
    slice (kdeOf oui dt payload ++ rest) (6 + off) n = slice payload off n := by
  obtain ⟨_, _, _, _, body⟩ := @kdeOf_head oui payload rest dt three short
  rw [slice, ← List.drop_drop, body, slice, List.drop_append_of_le_length (by omega),
    List.take_append_of_le_length (by rw [List.length_drop]; omega)]

theorem gtkKdeParse_kde (three : oui.length = 3) (short : payload.length ≤ 251) :
    gtkKdeParse (kdeOf oui dt payload) =
      if payload.length = 18 ∧ oui = rsnOui ∧ dt = 1 then some (Octets.of 16 (payload.drop 2))
      else none := by
  have whole : (kdeOf oui dt payload).length = 6 + payload.length := kdeOf_length three
  obtain ⟨tag, _, vendor, type, _⟩ := @kdeOf_head oui payload [] dt three short
  have size := @kdeOf_size oui payload [] dt three short 22
  have field := @kdeOf_field oui payload [] dt three short 2 16
  rw [List.append_nil] at tag vendor type size field
  unfold gtkKdeParse
  rw [vendor, type, whole, tag]
  by_cases right : payload.length = 18
  · have key : slice (kdeOf oui dt payload) 8 16 = payload.drop 2 := by
      rw [field (by omega), slice, List.take_of_length_le (by rw [List.length_drop]; omega)]
    rw [key, size.2 (by rw [right]; rfl), if_neg (by simp [right])]
    by_cases named : oui = rsnOui ∧ dt = 1
    · rw [if_neg (by simp [named]), if_pos ⟨right, named⟩]
    · rw [if_pos (by rw [← not_and_or]; exact named), if_neg (fun all => named all.2)]
  · have ne : byteAt (kdeOf oui dt payload) 1 ≠ 22 := by
      intro eq
      have long : 4 + payload.length = 22 := size.1 eq
      omega
    rw [if_pos (Or.inr (Or.inr ne)), if_neg (fun all => right all.1)]

theorem gtkKdeFindLoop_kde (three : oui.length = 3) (short : payload.length ≤ 251) (fuel : Nat) :
    gtkKdeFindLoop (fuel + 1) (kdeOf oui dt payload ++ rest) =
      if payload.length = 18 ∧ oui = rsnOui ∧ dt = 1 then some (Octets.of 16 (payload.drop 2))
      else gtkKdeFindLoop fuel rest := by
  obtain ⟨tag, size, -, -, -⟩ := @kdeOf_head oui payload rest dt three short
  have whole : (kdeOf oui dt payload).length = 6 + payload.length := kdeOf_length three
  have len : (kdeOf oui dt payload ++ rest).length = 6 + payload.length + rest.length := by
    rw [List.length_append, whole]
  have element : (kdeOf oui dt payload ++ rest).take (2 + (4 + payload.length)) =
      kdeOf oui dt payload := by
    apply List.take_left'
    omega
  rw [gtkKdeFindLoop, if_neg (by omega)]
  dsimp only
  rw [tag, size, if_neg (by decide), if_neg (by omega), if_pos rfl, element,
    gtkKdeParse_kde three short, kdeOf_drop three]
  by_cases found : payload.length = 18 ∧ oui = rsnOui ∧ dt = 1
  · rw [if_pos found, if_pos found]
  · rw [if_neg found, if_neg found]

theorem igtkKdeParse_kde (three : oui.length = 3) (short : payload.length ≤ 251) :
    igtkKdeParse (kdeOf oui dt payload ++ rest) =
      if payload.length = 24 ∧ oui = rsnOui ∧ dt = 9 then
        some (Octets.of 16 (slice payload 8 16), getLe16 payload 0, ofLe (slice payload 2 6))
      else none := by
  obtain ⟨tag, _, vendor, type, _⟩ := @kdeOf_head oui payload rest dt three short
  have size := @kdeOf_size oui payload rest dt three short 28
  have field (off n : Nat) := @kdeOf_field oui payload rest dt three short off n
  unfold igtkKdeParse
  rw [tag, vendor, type]
  by_cases right : payload.length = 24
  · have key : slice (kdeOf oui dt payload ++ rest) 14 16 = slice payload 8 16 :=
      field 8 16 (by omega)
    have octets : slice (kdeOf oui dt payload ++ rest) 6 2 = slice payload 0 2 := field 0 2 (by omega)
    have keyId : getLe16 (kdeOf oui dt payload ++ rest) 6 = getLe16 payload 0 := by
      unfold getLe16
      rw [octets]
    have number : slice (kdeOf oui dt payload ++ rest) 8 6 = slice payload 2 6 :=
      field 2 6 (by omega)
    rw [size.2 (by rw [right]; rfl), key, keyId, number]
    by_cases named : oui = rsnOui ∧ dt = 9
    · rw [if_pos ⟨rfl, rfl, named⟩, if_pos ⟨right, named⟩]
    · rw [if_neg (fun all => named all.2.2), if_neg (fun all => named all.2)]
  · have ne : byteAt (kdeOf oui dt payload ++ rest) 1 ≠ 28 := by
      intro eq
      have long : 4 + payload.length = 28 := size.1 eq
      omega
    rw [if_neg (fun all => ne all.2.1), if_neg (fun all => right all.1)]

theorem igtkKdeFindLoop_kde (three : oui.length = 3) (short : payload.length ≤ 251) (fuel : Nat) :
    igtkKdeFindLoop (fuel + 1) (kdeOf oui dt payload ++ rest) =
      if payload.length = 24 ∧ oui = rsnOui ∧ dt = 9 then
        some (Octets.of 16 (slice payload 8 16), getLe16 payload 0, ofLe (slice payload 2 6))
      else igtkKdeFindLoop fuel rest := by
  obtain ⟨tag, size, -, -, -⟩ := @kdeOf_head oui payload rest dt three short
  have len : (kdeOf oui dt payload ++ rest).length = 6 + payload.length + rest.length := by
    rw [List.length_append, kdeOf_length three]
  rw [igtkKdeFindLoop, if_neg (by omega)]
  dsimp only
  rw [tag, size, if_neg (by decide), if_neg (by omega), igtkKdeParse_kde three short,
    kdeOf_drop three]
  by_cases found : payload.length = 24 ∧ oui = rsnOui ∧ dt = 9
  · rw [if_pos found, if_pos found]
  · rw [if_neg found, if_neg found]

end Walkers

section Elements

theorem rsnOui_length : rsnOui.length = 3 := rfl

theorem gtkKdeBuild_eq (gtk : Octets 16) :
    gtkKdeBuild gtk 1 = kdeOf rsnOui 1 ([1, 0] ++ gtk.bytes) := by
  have size : ([1, 0] ++ gtk.bytes).length = 18 := by simp
  unfold kdeOf
  rw [size]
  rfl

/-- Key identifier, packet number and key of a group management key element. -/
def igtkPayload (key : Octets 16) (keyId : UInt16) (ipn : Nat) : Bytes :=
  putLe16 keyId ++ le 6 ipn ++ key.bytes

theorem igtkPayload_length (key : Octets 16) (keyId : UInt16) (ipn : Nat) :
    (igtkPayload key keyId ipn).length = 24 := by
  simp [igtkPayload]

theorem igtkPayload_key (key : Octets 16) (keyId : UInt16) (ipn : Nat) :
    Octets.of 16 (slice (igtkPayload key keyId ipn) 8 16) = key := by
  have field : slice (igtkPayload key keyId ipn) 8 16 = key.bytes := by
    unfold igtkPayload
    have before : (putLe16 keyId ++ le 6 ipn).length = 8 := by simp
    rw [slice_append_right (Nat.le_of_eq before), before, Nat.sub_self]
    exact List.take_of_length_le (Nat.le_of_eq key.length_bytes)
  rw [field, Octets.of_bytes]

theorem igtkKdeBuild_eq (key : Octets 16) (keyId : UInt16) (ipn : Nat) :
    igtkKdeBuild key keyId ipn = kdeOf rsnOui 9 (igtkPayload key keyId ipn) := by
  unfold kdeOf
  rw [igtkPayload_length]
  simp only [igtkKdeBuild, igtkPayload, List.append_assoc, List.cons_append, List.nil_append]
  rfl

theorem pmfBigtkKdeBuild_eq {cap : Nat} (room : 30 ≤ cap) (key : Octets 16) (keyId : UInt16)
    (bipn : Nat) :
    pmfBigtkKdeBuild cap key keyId bipn = some (kdeOf rsnOui 10 (igtkPayload key keyId bipn)) := by
  unfold pmfBigtkKdeBuild kdeOf
  rw [if_neg (Nat.not_lt.2 room), igtkPayload_length]
  simp only [igtkPayload, List.append_assoc, List.cons_append, List.nil_append]
  rfl

/-- The group key element stands first. -/
theorem gtkKdeFind_first (gtk : Octets 16) (rest : Bytes) :
    gtkKdeFind (gtkKdeBuild gtk 1 ++ rest) = some gtk := by
  have size : ([1, 0] ++ gtk.bytes).length = 18 := by simp
  obtain ⟨fuel, len⟩ : ∃ fuel, (gtkKdeBuild gtk 1 ++ rest).length = fuel + 1 :=
    ⟨_, List.length_cons⟩
  unfold gtkKdeFind
  rw [len, gtkKdeBuild_eq, gtkKdeFindLoop_kde rsnOui_length (by omega), if_pos ⟨size, rfl, rfl⟩]
  exact congrArg some (Octets.of_bytes gtk)

/-- The group management key element is found behind it. -/
theorem igtkKdeFind_second (gtk igtk : Octets 16) (rest : Bytes) :
    ∃ keyId ipn, igtkKdeFind (gtkKdeBuild gtk 1 ++ (igtkKdeBuild igtk 4 0 ++ rest)) =
      some (igtk, keyId, ipn) := by
  have size : ([1, 0] ++ gtk.bytes).length = 18 := by simp
  have size' := igtkPayload_length igtk 4 0
  obtain ⟨fuel, len⟩ : ∃ fuel, (gtkKdeBuild gtk 1 ++ (igtkKdeBuild igtk 4 0 ++ rest)).length =
      fuel + 1 + 1 := ⟨_, List.length_cons⟩
  unfold igtkKdeFind
  rw [len, gtkKdeBuild_eq, igtkKdeFindLoop_kde rsnOui_length (by omega), if_neg (by simp),
    igtkKdeBuild_eq, igtkKdeFindLoop_kde rsnOui_length (by omega), if_pos ⟨size', rfl, rfl⟩,
    igtkPayload_key]
  exact ⟨_, _, rfl⟩

/-- And the beacon key element behind both. -/
theorem pmfBigtkKdeFind_third (gtk igtk bigtk : Octets 16) (rest : Bytes) :
    ∃ keyId bipn, pmfBigtkKdeFind (gtkKdeBuild gtk 1 ++ (igtkKdeBuild igtk 4 0 ++
      (kdeOf rsnOui 10 (igtkPayload bigtk 6 0) ++ rest))) = some (bigtk, keyId, bipn) := by
  have size : ([1, 0] ++ gtk.bytes).length = 18 := by simp
  have size' := igtkPayload_length igtk 4 0
  have size'' := igtkPayload_length bigtk 6 0
  obtain ⟨fuel, len⟩ : ∃ fuel, (gtkKdeBuild gtk 1 ++ (igtkKdeBuild igtk 4 0 ++
      (kdeOf rsnOui 10 (igtkPayload bigtk 6 0) ++ rest))).length = fuel + 1 + 1 + 1 :=
    ⟨_, List.length_cons⟩
  unfold pmfBigtkKdeFind kdeFind
  rw [len, gtkKdeBuild_eq, kdeFindLoop_kde rsnOui_length (by omega), if_neg (by simp),
    igtkKdeBuild_eq, kdeFindLoop_kde rsnOui_length (by omega), if_neg (by simp),
    kdeFindLoop_kde rsnOui_length (by omega), if_pos ⟨by omega, rfl, rfl⟩]
  dsimp only
  rw [if_neg (not_not.2 size''), igtkPayload_key]
  exact ⟨_, _, rfl⟩

end Elements

section Build

variable (s : Sme)

/-- An element that is put in when it is called for. -/
def kdeIf (wanted : Bool) (kde : Bytes) : Bytes := if wanted then kde else []

theorem appendIe_kdeIf {wanted : Bool} {cap : Nat} {w kde : Bytes} {build : Nat → Option Bytes}
    (built : build (cap - w.length) = some kde) :
    (if wanted = true then appendIe cap w build else w) = w ++ kdeIf wanted kde := by
  unfold appendIe kdeIf
  rw [built, Option.getD_some]
  split
  · rfl
  · exact (List.append_nil w).symm

/-- The elements of the third message under management frame protection, as far as they follow
the group keys. -/
def m3Policy : Bytes :=
  kdeIf s.ocvEnabled ([0xdd, 7] ++ rsnOui ++ [13] ++ s.ociLocal.bytes) ++
    kdeIf s.tdAdvertise ([0xdd, 5] ++ wfaOui ++ [8, s.tdAdvertBitmap])

theorem m3Policy_length : (m3Policy s).length ≤ 16 := by
  unfold m3Policy kdeIf
  split <;> split <;> simp [PmfOci.bytes, rsnOui, wfaOui]

theorem padKeyData_prefix (kd : Bytes) : ∃ pad, padKeyData kd = kd ++ pad := by
  unfold padKeyData
  split
  · exact ⟨[], (List.append_nil kd).symm⟩
  · exact ⟨_, rfl⟩

theorem padKeyData_length (kd : Bytes) :
    (padKeyData kd).length % 8 = 0 ∧ kd.length ≤ (padKeyData kd).length ∧
      (padKeyData kd).length < kd.length + 8 := by
  unfold padKeyData
  split
  · omega
  · simp only [List.length_append, List.length_cons, List.length_replicate]
    omega

theorem m3KeyData_plain (inactive : s.mfpActive = false) : m3KeyData s = gtkKdeBuild s.gtk 1 := by
  unfold m3KeyData
  rw [inactive]
  rfl

theorem m3KeyData_mfp (active : s.mfpActive = true) :
    m3KeyData s = padKeyData (gtkKdeBuild s.gtk 1 ++ (igtkKdeBuild s.igtk.key 4 0 ++
      (kdeIf s.beaconProtEnabled (kdeOf rsnOui 10 (igtkPayload s.bigtk.key 6 0)) ++
        m3Policy s))) := by
  have gtk : (gtkKdeBuild s.gtk 1).length = 24 := by simp [gtkKdeBuild, rsnOui]
  have igtk : (igtkKdeBuild s.igtk.key 4 0).length = 30 := by simp [igtkKdeBuild, rsnOui]
  have bigtk : (kdeOf rsnOui 10 (igtkPayload s.bigtk.key 6 0)).length = 30 := by
    rw [kdeOf_length rsnOui_length, igtkPayload_length]
  have beacon (w : Bytes) (len : w.length = 54) :
      (if s.beaconProtEnabled = true then
        appendIe smeKdeMax w fun c => pmfBigtkKdeBuild c s.bigtk.key 6 0 else w) =
      w ++ kdeIf s.beaconProtEnabled (kdeOf rsnOui 10 (igtkPayload s.bigtk.key 6 0)) := by
    apply appendIe_kdeIf
    apply pmfBigtkKdeBuild_eq
    rw [len]
    decide
  have channel (w : Bytes) (len : w.length ≤ 84) :
      (if s.ocvEnabled = true then
        appendIe smeKdeMax w fun c => pmfOciKdeBuild c s.ociLocal else w) =
      w ++ kdeIf s.ocvEnabled ([0xdd, 7] ++ rsnOui ++ [13] ++ s.ociLocal.bytes) := by
    apply appendIe_kdeIf
    apply if_neg
    unfold smeKdeMax
    omega
  have transition (w : Bytes) (len : w.length ≤ 93) :
      (if s.tdAdvertise = true then
        appendIe smeKdeMax w fun c => pmfTdKdeBuild c s.tdAdvertBitmap else w) =
      w ++ kdeIf s.tdAdvertise ([0xdd, 5] ++ wfaOui ++ [8, s.tdAdvertBitmap]) := by
    apply appendIe_kdeIf
    apply if_neg
    unfold smeKdeMax
    omega
  have both : (gtkKdeBuild s.gtk 1 ++ igtkKdeBuild s.igtk.key 4 0).length = 54 := by
    rw [List.length_append, gtk, igtk]
  have three : ((gtkKdeBuild s.gtk 1 ++ igtkKdeBuild s.igtk.key 4 0) ++
      kdeIf s.beaconProtEnabled (kdeOf rsnOui 10 (igtkPayload s.bigtk.key 6 0))).length ≤ 84 := by
    unfold kdeIf
    split
    · rw [List.length_append]
      omega
    · rw [List.append_nil, both]
      omega
  have four : (((gtkKdeBuild s.gtk 1 ++ igtkKdeBuild s.igtk.key 4 0) ++
      kdeIf s.beaconProtEnabled (kdeOf rsnOui 10 (igtkPayload s.bigtk.key 6 0))) ++
      kdeIf s.ocvEnabled ([0xdd, 7] ++ rsnOui ++ [13] ++ s.ociLocal.bytes)).length ≤ 93 := by
    have oci : (kdeIf s.ocvEnabled ([0xdd, 7] ++ rsnOui ++ [13] ++ s.ociLocal.bytes)).length ≤ 9 := by
      unfold kdeIf
      split <;> simp [PmfOci.bytes, rsnOui]
    rw [List.length_append]
    omega
  unfold m3KeyData
  rw [active, if_neg (by decide)]
  dsimp only
  rw [beacon _ both, channel _ three, transition _ four]
  unfold m3Policy
  simp only [List.append_assoc]

/-- The key data is in whole blocks and leaves room for what the wrap adds. -/
theorem m3KeyData_fits :
    16 ≤ (m3KeyData s).length ∧ (m3KeyData s).length % 8 = 0 ∧
      (m3KeyData s).length + 8 ≤ smeKdeMax := by
  have gtk : (gtkKdeBuild s.gtk 1).length = 24 := by simp [gtkKdeBuild, rsnOui]
  unfold smeKdeMax
  cases active : s.mfpActive with
  | false =>
    rw [m3KeyData_plain s active]
    omega
  | true =>
    have igtk : (igtkKdeBuild s.igtk.key 4 0).length = 30 := by simp [igtkKdeBuild, rsnOui]
    have bigtk : (kdeIf s.beaconProtEnabled
        (kdeOf rsnOui 10 (igtkPayload s.bigtk.key 6 0))).length ≤ 30 := by
      unfold kdeIf
      split
      · exact Nat.le_of_eq (by rw [kdeOf_length rsnOui_length, igtkPayload_length])
      · exact Nat.zero_le _
    have policy := m3Policy_length s
    rw [m3KeyData_mfp s active]
    obtain ⟨whole, least, most⟩ := padKeyData_length (gtkKdeBuild s.gtk 1 ++
      (igtkKdeBuild s.igtk.key 4 0 ++ (kdeIf s.beaconProtEnabled
        (kdeOf rsnOui 10 (igtkPayload s.bigtk.key 6 0)) ++ m3Policy s)))
    simp only [List.length_append] at least most
    omega

/-- What the finders give back of the group keys. -/
theorem m3KeyData_found :
    gtkKdeFind (m3KeyData s) = some s.gtk ∧
      (s.mfpActive = true → ∃ keyId ipn, igtkKdeFind (m3KeyData s) = some (s.igtk.key, keyId, ipn)) ∧
      (s.mfpActive = true → s.beaconProtEnabled = true →
        ∃ keyId bipn, pmfBigtkKdeFind (m3KeyData s) = some (s.bigtk.key, keyId, bipn)) := by
  cases active : s.mfpActive with
  | false =>
    have first := gtkKdeFind_first s.gtk []
    rw [List.append_nil] at first
    rw [m3KeyData_plain s active]
    refine ⟨first, fun no => ?_, fun no => ?_⟩
    · cases no
    · cases no
  | true =>
    rw [m3KeyData_mfp s active]
    obtain ⟨pad, padded⟩ := padKeyData_prefix (gtkKdeBuild s.gtk 1 ++
      (igtkKdeBuild s.igtk.key 4 0 ++ (kdeIf s.beaconProtEnabled
        (kdeOf rsnOui 10 (igtkPayload s.bigtk.key 6 0)) ++ m3Policy s)))
    rw [padded]
    simp only [List.append_assoc]
    refine ⟨gtkKdeFind_first _ _, fun _ => igtkKdeFind_second _ _ _, fun _ beacon => ?_⟩
    rw [beacon]
    exact pmfBigtkKdeFind_third _ _ _ _

end Build

end Rf2a4m1
