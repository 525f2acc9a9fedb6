import Rf2a4m1.Crypto.KeyWrap
import Rf2a4m1.Sme.KeyData
import Rf2a4m1.Sme.Rx

/-!
# What the finders find

A list of key data elements with padding behind it: each finder returns the
first element it asks for, whatever the others carry. The third message is such
a list.
-/

set_option autoImplicit false

namespace Rf2a4m1

open ByteString

/-- A key data element. -/
structure Kde where
  oui : Bytes
  dt : UInt8
  payload : Bytes
  three : oui.length = 3
  short : payload.length ≤ 251

def Kde.bytes (e : Kde) : Bytes := kdeOf e.oui e.dt e.payload

def kdesBytes (es : List Kde) : Bytes := es.flatMap Kde.bytes

section Lists

variable {pad : Bytes}

theorem kdesBytes_length_le (es : List Kde) : es.length ≤ (kdesBytes es).length := by
  induction es with
  | nil => exact Nat.le_refl 0
  | cons e rest ih =>
    have size : e.bytes.length = 6 + e.payload.length := kdeOf_length e.three
    unfold kdesBytes at ih ⊢
    rw [List.flatMap_cons, List.length_append, List.length_cons]
    omega

/-- What the finder with a vendor, a type and a least length asks of an element. -/
def Kde.matches (oui : Bytes) (dt : UInt8) (minBody : Nat) (e : Kde) : Bool :=
  decide (4 + e.payload.length ≥ minBody ∧ e.oui = oui ∧ e.dt = dt)

theorem kdeFindLoop_kdes {oui : Bytes} {dt : UInt8} {minBody : Nat}
    (stops : ∀ fuel, kdeFindLoop fuel pad oui dt minBody = none) (es : List Kde) {fuel : Nat}
    (enough : es.length ≤ fuel) :
    kdeFindLoop fuel (kdesBytes es ++ pad) oui dt minBody =
      (es.find? (·.matches oui dt minBody)).map Kde.payload := by
  induction es generalizing fuel with
  | nil => exact stops fuel
  | cons e rest ih =>
    obtain ⟨fuel, rfl⟩ := Nat.exists_eq_add_of_le' (Nat.le_trans (Nat.le_add_left 1 _) enough)
    have others := ih (Nat.le_of_succ_le_succ enough)
    unfold kdesBytes at others ⊢
    rw [List.flatMap_cons, List.append_assoc, Kde.bytes, kdeFindLoop_kde e.three e.short,
      List.find?_cons, others]
    by_cases found : 4 + e.payload.length ≥ minBody ∧ e.oui = oui ∧ e.dt = dt
    · rw [if_pos found, Kde.matches, decide_eq_true found]
      rfl
    · rw [if_neg found, Kde.matches, decide_eq_false found]

/-- What a finder with a fixed length asks of an element. -/
def Kde.sized (n : Nat) (dt : UInt8) (e : Kde) : Bool :=
  decide (e.payload.length = n ∧ e.oui = rsnOui ∧ e.dt = dt)

theorem gtkKdeFindLoop_kdes (stops : ∀ fuel, gtkKdeFindLoop fuel pad = none) (es : List Kde)
    {fuel : Nat} (enough : es.length ≤ fuel) :
    gtkKdeFindLoop fuel (kdesBytes es ++ pad) =
      (es.find? (·.sized 18 1)).map fun e => Octets.of 16 (e.payload.drop 2) := by
  induction es generalizing fuel with
  | nil => exact stops fuel
  | cons e rest ih =>
    obtain ⟨fuel, rfl⟩ := Nat.exists_eq_add_of_le' (Nat.le_trans (Nat.le_add_left 1 _) enough)
    have others := ih (Nat.le_of_succ_le_succ enough)
    unfold kdesBytes at others ⊢
    rw [List.flatMap_cons, List.append_assoc, Kde.bytes, gtkKdeFindLoop_kde e.three e.short,
      List.find?_cons, others]
    by_cases found : e.payload.length = 18 ∧ e.oui = rsnOui ∧ e.dt = 1
    · rw [if_pos found, Kde.sized, decide_eq_true found]
      rfl
    · rw [if_neg found, Kde.sized, decide_eq_false found]

theorem igtkKdeFindLoop_kdes (stops : ∀ fuel, igtkKdeFindLoop fuel pad = none) (es : List Kde)
    {fuel : Nat} (enough : es.length ≤ fuel) :
    igtkKdeFindLoop fuel (kdesBytes es ++ pad) =
      (es.find? (·.sized 24 9)).map fun e =>
        (Octets.of 16 (slice e.payload 8 16), getLe16 e.payload 0, ofLe (slice e.payload 2 6)) := by
  induction es generalizing fuel with
  | nil => exact stops fuel
  | cons e rest ih =>
    obtain ⟨fuel, rfl⟩ := Nat.exists_eq_add_of_le' (Nat.le_trans (Nat.le_add_left 1 _) enough)
    have others := ih (Nat.le_of_succ_le_succ enough)
    unfold kdesBytes at others ⊢
    rw [List.flatMap_cons, List.append_assoc, Kde.bytes, igtkKdeFindLoop_kde e.three e.short,
      List.find?_cons, others]
    by_cases found : e.payload.length = 24 ∧ e.oui = rsnOui ∧ e.dt = 9
    · rw [if_pos found, Kde.sized, decide_eq_true found]
      rfl
    · rw [if_neg found, Kde.sized, decide_eq_false found]

end Lists

section Padding

/-- The padding of key data: nothing, or a marker and zeros. -/
def keyDataPad (kd : Bytes) : Bytes :=
  if kd.length % 8 = 0 then [] else 0xdd :: List.replicate (7 - kd.length % 8) 0x00

theorem padKeyData_eq (kd : Bytes) : padKeyData kd = kd ++ keyDataPad kd := by
  unfold padKeyData keyDataPad
  split
  · exact (List.append_nil kd).symm
  · rfl

/-- Padding is nothing, a lone marker, or a marker in front of at least one zero. -/
theorem keyDataPad_cases (kd : Bytes) :
    (keyDataPad kd).length < 2 ∨ ∃ n, keyDataPad kd = 0xdd :: 0x00 :: List.replicate n 0x00 := by
  unfold keyDataPad
  split
  · exact Or.inl (Nat.zero_lt_succ 1)
  · cases left : 7 - kd.length % 8 with
    | zero => exact Or.inl (Nat.lt_succ_self 1)
    | succ n => exact Or.inr ⟨n, rfl⟩

theorem kdeFindLoop_pad (kd oui : Bytes) (dt : UInt8) (minBody fuel : Nat) :
    kdeFindLoop fuel (keyDataPad kd) oui dt minBody = none := by
  cases fuel with
  | zero => rfl
  | succ fuel =>
    unfold kdeFindLoop
    rcases keyDataPad_cases kd with short | ⟨n, pad⟩
    · exact if_pos short
    · rw [pad]
      split
      · rfl
      · exact if_pos (Or.inr ⟨rfl, rfl⟩)

theorem zeros_head (n : Nat) (long : ¬(List.replicate n (0 : UInt8)).length < 2) :
    byteAt (List.replicate n (0 : UInt8)) 0 = 0 := by
  cases n with
  | zero => exact absurd (Nat.zero_lt_succ 1) long
  | succ n => rfl

theorem gtkKdeFindLoop_pad (kd : Bytes) (fuel : Nat) :
    gtkKdeFindLoop fuel (keyDataPad kd) = none := by
  have zeros (fuel n : Nat) : gtkKdeFindLoop fuel (List.replicate n 0x00) = none := by
    cases fuel with
    | zero => rfl
    | succ fuel =>
      unfold gtkKdeFindLoop
      split
      · rfl
      · rename_i long
        exact if_pos (zeros_head n long)
  cases fuel with
  | zero => rfl
  | succ fuel =>
    rcases keyDataPad_cases kd with short | ⟨n, pad⟩
    · unfold gtkKdeFindLoop
      exact if_pos short
    · rw [pad, gtkKdeFindLoop, if_neg (by simp)]
      dsimp only
      rw [if_neg (by simp [byteAt]), if_neg (by simp [byteAt])]
      exact zeros fuel n

theorem igtkKdeFindLoop_pad (kd : Bytes) (fuel : Nat) :
    igtkKdeFindLoop fuel (keyDataPad kd) = none := by
  have zeros (fuel n : Nat) : igtkKdeFindLoop fuel (List.replicate n 0x00) = none := by
    cases fuel with
    | zero => rfl
    | succ fuel =>
      unfold igtkKdeFindLoop
      split
      · rfl
      · rename_i long
        exact if_pos (zeros_head n long)
  cases fuel with
  | zero => rfl
  | succ fuel =>
    rcases keyDataPad_cases kd with short | ⟨n, pad⟩
    · unfold igtkKdeFindLoop
      exact if_pos short
    · rw [pad, igtkKdeFindLoop, if_neg (by simp)]
      dsimp only
      rw [if_neg (by simp [byteAt]), if_neg (by simp [byteAt])]
      exact zeros fuel n

end Padding

section Third

/-- The group key, and which one it is. -/
def gtkKde (gtk : Octets 16) : Kde :=
  { oui := rsnOui, dt := 1, payload := [1, 0] ++ gtk.bytes, three := rfl, short := by simp }

def managementKde (dt : UInt8) (key : Octets 16) (keyId : UInt16) : Kde :=
  { oui := rsnOui, dt := dt, payload := igtkPayload key keyId 0, three := rfl
    short := by rw [igtkPayload_length]; decide }

def ociKde (oci : PmfOci) : Kde :=
  { oui := rsnOui, dt := 13, payload := oci.bytes, three := rfl, short := by simp [PmfOci.bytes] }

def tdKde (bitmap : UInt8) : Kde :=
  { oui := wfaOui, dt := 8, payload := [bitmap], three := rfl, short := by simp }

/-- The elements of the third message, as the options call for them. -/
def m3Kdes (s : Sme) : List Kde :=
  gtkKde s.gtk ::
    if s.mfpActive then
      managementKde 9 s.igtk.key 4 ::
        ((if s.beaconProtEnabled then [managementKde 10 s.bigtk.key 6] else []) ++
          ((if s.ocvEnabled then [ociKde s.ociLocal] else []) ++
            (if s.tdAdvertise then [tdKde s.tdAdvertBitmap] else [])))
    else []

variable (s : Sme)

theorem kdesBytes_if (wanted : Bool) (e : Kde) :
    kdesBytes (if wanted = true then [e] else []) = kdeIf wanted e.bytes := by
  cases wanted with
  | false => rfl
  | true => exact List.append_nil e.bytes

/-- The key data of the third message is its elements and their padding. -/
theorem m3KeyData_eq : m3KeyData s = kdesBytes (m3Kdes s) ++ keyDataPad (kdesBytes (m3Kdes s)) := by
  rw [← padKeyData_eq]
  cases active : s.mfpActive with
  | false =>
    have single : kdesBytes (m3Kdes s) = gtkKdeBuild s.gtk 1 := by
      rw [gtkKdeBuild_eq, m3Kdes, active]
      exact List.append_nil _
    have whole : (gtkKdeBuild s.gtk 1).length % 8 = 0 := by simp [gtkKdeBuild, rsnOui]
    rw [m3KeyData_plain s active, single, padKeyData, if_pos whole]
  | true =>
    rw [m3KeyData_mfp s active, gtkKdeBuild_eq, igtkKdeBuild_eq, m3Kdes, active, if_pos rfl]
    unfold m3Policy
    have policy : kdesBytes ((if s.ocvEnabled = true then [ociKde s.ociLocal] else []) ++
        if s.tdAdvertise = true then [tdKde s.tdAdvertBitmap] else []) =
        kdeIf s.ocvEnabled (ociKde s.ociLocal).bytes ++
          kdeIf s.tdAdvertise (tdKde s.tdAdvertBitmap).bytes := by
      rw [← kdesBytes_if, ← kdesBytes_if]
      exact List.flatMap_append
    have beacon : kdesBytes ((if s.beaconProtEnabled = true then
        [managementKde 10 s.bigtk.key 6] else []) ++
        ((if s.ocvEnabled = true then [ociKde s.ociLocal] else []) ++
          if s.tdAdvertise = true then [tdKde s.tdAdvertBitmap] else [])) =
        kdeIf s.beaconProtEnabled (managementKde 10 s.bigtk.key 6).bytes ++
          (kdeIf s.ocvEnabled (ociKde s.ociLocal).bytes ++
            kdeIf s.tdAdvertise (tdKde s.tdAdvertBitmap).bytes) := by
      rw [← policy, ← kdesBytes_if]
      exact List.flatMap_append
    unfold kdesBytes at beacon ⊢
    rw [List.flatMap_cons, List.flatMap_cons, beacon]
    rfl

theorem m3Kdes_enough : (m3Kdes s).length ≤ (m3KeyData s).length := by
  rw [m3KeyData_eq, List.length_append]
  exact Nat.le_trans (kdesBytes_length_le _) (Nat.le_add_right _ _)

/-- An element that is called for and asked for. -/
def pickKde (p : Kde → Bool) (wanted : Bool) (e : Kde) : Option Kde :=
  if wanted && p e then some e else none

theorem find_pickKde (p : Kde → Bool) (wanted : Bool) (e : Kde) :
    (if wanted = true then [e] else []).find? p = pickKde p wanted e := by
  unfold pickKde
  cases wanted with
  | false => rfl
  | true =>
    rw [if_pos rfl, List.find?_cons, Bool.true_and]
    cases p e <;> rfl

theorem m3Kdes_find (p : Kde → Bool) :
    (m3Kdes s).find? p =
      (pickKde p true (gtkKde s.gtk)).or
        (if s.mfpActive then
          (pickKde p true (managementKde 9 s.igtk.key 4)).or
            ((pickKde p s.beaconProtEnabled (managementKde 10 s.bigtk.key 6)).or
              ((pickKde p s.ocvEnabled (ociKde s.ociLocal)).or
                (pickKde p s.tdAdvertise (tdKde s.tdAdvertBitmap))))
        else none) := by
  have front (e : Kde) (rest : List Kde) :
      (e :: rest).find? p = (pickKde p true e).or (rest.find? p) := by
    rw [← find_pickKde, ← List.find?_append]
    rfl
  unfold m3Kdes
  rw [front]
  cases s.mfpActive with
  | false => rfl
  | true =>
    rw [if_pos rfl, if_pos rfl, front, List.find?_append, List.find?_append, find_pickKde,
      find_pickKde, find_pickKde]

section Typed

variable {p : Kde → Bool} {dt : UInt8} (typed : ∀ e, p e = true → e.dt = dt) {e : Kde}
  {wanted : Bool}
include typed

theorem pickKde_other (other : e.dt ≠ dt) : pickKde p wanted e = none := by
  apply if_neg
  intro taken
  exact other (typed e (Bool.and_eq_true_iff.1 taken).2)

end Typed

theorem pickKde_found {p : Kde → Bool} {e : Kde} (found : p e = true) (wanted : Bool) :
    pickKde p wanted e = if wanted then some e else none := by
  rw [pickKde, found, Bool.and_true]

theorem matches_typed {oui : Bytes} {dt : UInt8} {minBody : Nat} (e : Kde)
    (found : e.matches oui dt minBody = true) : e.dt = dt :=
  (of_decide_eq_true found).2.2

theorem sized_typed {n : Nat} {dt : UInt8} (e : Kde) (found : e.sized n dt = true) : e.dt = dt :=
  (of_decide_eq_true found).2.2

theorem gtkKdeFind_m3 : gtkKdeFind (m3KeyData s) = some s.gtk := by
  have found := gtkKdeFindLoop_kdes (gtkKdeFindLoop_pad (kdesBytes (m3Kdes s))) (m3Kdes s)
    (m3Kdes_enough s)
  have mine : (gtkKde s.gtk).sized 18 1 = true := by
    apply decide_eq_true
    exact ⟨by simp [gtkKde], rfl, rfl⟩
  rw [← m3KeyData_eq, m3Kdes_find, pickKde_found mine] at found
  unfold gtkKdeFind
  rw [found]
  exact congrArg some (Octets.of_bytes s.gtk)

/-- Packet number and key identifier of a management key as it is built. -/
theorem igtkPayload_fields (key : Octets 16) (keyId : UInt16) :
    getLe16 (igtkPayload key keyId 0) 0 = keyId ∧ ofLe (slice (igtkPayload key keyId 0) 2 6) = 0 := by
  have identifier : slice (igtkPayload key keyId 0) 0 2 = le 2 keyId.toNat := by
    unfold igtkPayload
    rw [List.append_assoc]
    exact slice_append_left (putLe16_length keyId)
  have number : slice (igtkPayload key keyId 0) 2 6 = le 6 0 := by
    unfold igtkPayload
    rw [List.append_assoc, slice_append_right (Nat.le_of_eq (putLe16_length keyId)),
      putLe16_length]
    exact slice_append_left (le_length 6 0)
  have small : keyId.toNat % 256 ^ 2 = keyId.toNat := Nat.mod_eq_of_lt keyId.toNat_lt
  rw [getLe16, identifier, number, ofLe_le, ofLe_le, small]
  exact ⟨UInt16.ofNat_toNat, rfl⟩

theorem igtkKdeFind_m3 :
    igtkKdeFind (m3KeyData s) = if s.mfpActive then some (s.igtk.key, 4, 0) else none := by
  have found := igtkKdeFindLoop_kdes (igtkKdeFindLoop_pad (kdesBytes (m3Kdes s))) (m3Kdes s)
    (m3Kdes_enough s)
  have gtk : (gtkKde s.gtk).dt ≠ 9 := show (1 : UInt8) ≠ 9 by decide
  have mine : (managementKde 9 s.igtk.key 4).sized 24 9 = true := by
    apply decide_eq_true
    exact ⟨igtkPayload_length _ _ _, rfl, rfl⟩
  rw [← m3KeyData_eq, m3Kdes_find, pickKde_other sized_typed gtk, pickKde_found mine] at found
  unfold igtkKdeFind
  rw [found]
  obtain ⟨identifier, number⟩ := igtkPayload_fields s.igtk.key 4
  cases s.mfpActive with
  | false => rfl
  | true =>
    rw [if_pos rfl, if_pos rfl, if_pos rfl, Option.none_or, Option.some_or, Option.map_some]
    dsimp only [managementKde]
    rw [igtkPayload_key, identifier, number]

theorem kdeFind_m3 (oui : Bytes) (dt : UInt8) (minBody : Nat) :
    kdeFind (m3KeyData s) oui dt minBody =
      ((m3Kdes s).find? (·.matches oui dt minBody)).map Kde.payload := by
  have found := kdeFindLoop_kdes (kdeFindLoop_pad (kdesBytes (m3Kdes s)) oui dt minBody) (m3Kdes s)
    (m3Kdes_enough s)
  rw [← m3KeyData_eq] at found
  exact found

theorem kdeFind_bigtk :
    kdeFind (m3KeyData s) rsnOui 10 24 =
      if s.mfpActive && s.beaconProtEnabled then some (igtkPayload s.bigtk.key 6 0) else none := by
  have gtk : (gtkKde s.gtk).dt ≠ 10 := show (1 : UInt8) ≠ 10 by decide
  have igtk : (managementKde 9 s.igtk.key 4).dt ≠ 10 := show (9 : UInt8) ≠ 10 by decide
  have oci : (ociKde s.ociLocal).dt ≠ 10 := show (13 : UInt8) ≠ 10 by decide
  have td : (tdKde s.tdAdvertBitmap).dt ≠ 10 := show (8 : UInt8) ≠ 10 by decide
  have mine : (managementKde 10 s.bigtk.key 6).matches rsnOui 10 24 = true := by
    apply decide_eq_true
    exact ⟨by dsimp only [managementKde]; rw [igtkPayload_length]; decide, rfl, rfl⟩
  rw [kdeFind_m3, m3Kdes_find, pickKde_other matches_typed gtk, pickKde_other matches_typed igtk,
    pickKde_other matches_typed oci, pickKde_other matches_typed td, pickKde_found mine]
  cases s.mfpActive <;> cases s.beaconProtEnabled <;> rfl

theorem kdeFind_oci :
    kdeFind (m3KeyData s) rsnOui 13 7 =
      if s.mfpActive && s.ocvEnabled then some s.ociLocal.bytes else none := by
  have gtk : (gtkKde s.gtk).dt ≠ 13 := show (1 : UInt8) ≠ 13 by decide
  have igtk : (managementKde 9 s.igtk.key 4).dt ≠ 13 := show (9 : UInt8) ≠ 13 by decide
  have bigtk : (managementKde 10 s.bigtk.key 6).dt ≠ 13 := show (10 : UInt8) ≠ 13 by decide
  have td : (tdKde s.tdAdvertBitmap).dt ≠ 13 := show (8 : UInt8) ≠ 13 by decide
  have mine : (ociKde s.ociLocal).matches rsnOui 13 7 = true := by
    apply decide_eq_true
    exact ⟨Nat.le_refl 7, rfl, rfl⟩
  rw [kdeFind_m3, m3Kdes_find, pickKde_other matches_typed gtk, pickKde_other matches_typed igtk,
    pickKde_other matches_typed bigtk, pickKde_other matches_typed td, pickKde_found mine]
  cases s.mfpActive <;> cases s.ocvEnabled <;> rfl

theorem kdeFind_td :
    kdeFind (m3KeyData s) wfaOui 8 5 =
      if s.mfpActive && s.tdAdvertise then some [s.tdAdvertBitmap] else none := by
  have gtk : (gtkKde s.gtk).dt ≠ 8 := show (1 : UInt8) ≠ 8 by decide
  have igtk : (managementKde 9 s.igtk.key 4).dt ≠ 8 := show (9 : UInt8) ≠ 8 by decide
  have bigtk : (managementKde 10 s.bigtk.key 6).dt ≠ 8 := show (10 : UInt8) ≠ 8 by decide
  have oci : (ociKde s.ociLocal).dt ≠ 8 := show (13 : UInt8) ≠ 8 by decide
  have mine : (tdKde s.tdAdvertBitmap).matches wfaOui 8 5 = true := by
    apply decide_eq_true
    exact ⟨Nat.le_refl 5, rfl, rfl⟩
  rw [kdeFind_m3, m3Kdes_find, pickKde_other matches_typed gtk, pickKde_other matches_typed igtk,
    pickKde_other matches_typed bigtk, pickKde_other matches_typed oci, pickKde_found mine]
  cases s.mfpActive <;> cases s.tdAdvertise <;> rfl

theorem pmfBigtkKdeFind_m3 :
    pmfBigtkKdeFind (m3KeyData s) =
      if s.mfpActive && s.beaconProtEnabled then some (s.bigtk.key, 6, 0) else none := by
  obtain ⟨identifier, number⟩ := igtkPayload_fields s.bigtk.key 6
  unfold pmfBigtkKdeFind
  rw [kdeFind_bigtk]
  cases s.mfpActive && s.beaconProtEnabled with
  | false => rfl
  | true =>
    rw [if_pos rfl, if_pos rfl]
    dsimp only
    rw [if_neg (not_not.2 (igtkPayload_length _ _ _)), igtkPayload_key, identifier, number]

theorem pmfOciKdeFind_m3 :
    pmfOciKdeFind (m3KeyData s) = if s.mfpActive && s.ocvEnabled then some s.ociLocal else none := by
  unfold pmfOciKdeFind
  rw [kdeFind_oci]
  cases s.mfpActive && s.ocvEnabled <;> rfl

theorem pmfTdKdeFind_m3 :
    pmfTdKdeFind (m3KeyData s) =
      if s.mfpActive && s.tdAdvertise then some s.tdAdvertBitmap else none := by
  unfold pmfTdKdeFind
  rw [kdeFind_td]
  cases s.mfpActive && s.tdAdvertise <;> rfl

/-- The key data of the third message fits all the way, and what the station finds in it after
unwrapping is what the access point put in, for every option and nothing else. -/
theorem m3KeyData_roundtrip (kek : Octets 16) :
    ∃ wrapped kd, aesKeyWrap kek (m3KeyData s) smeKdeMax = some wrapped ∧
      (m3KeyData s).length ≤ smeKdeMax ∧ wrapped.length ≤ smeKdeMax ∧
      (∀ replay nonce, (smeEapolKeyEncode 288 smeKiM3 16 replay nonce wrapped).isSome = true) ∧
      smePfxLen + (eapolFixedLen + wrapped.length) ≤ smeRxViewMax ∧
      aesKeyUnwrap kek wrapped smeKdeMax = some kd ∧
      gtkKdeFind kd = some s.gtk ∧
      igtkKdeFind kd = (if s.mfpActive then some (s.igtk.key, 4, 0) else none) ∧
      pmfBigtkKdeFind kd =
        (if s.mfpActive && s.beaconProtEnabled then some (s.bigtk.key, 6, 0) else none) ∧
      pmfOciKdeFind kd = (if s.mfpActive && s.ocvEnabled then some s.ociLocal else none) ∧
      pmfTdKdeFind kd = if s.mfpActive && s.tdAdvertise then some s.tdAdvertBitmap else none := by
  obtain ⟨long, whole, room⟩ := m3KeyData_fits s
  obtain ⟨wrapped, made, length⟩ := @aesKeyWrap_length kek _ long whole _ room
  have short : wrapped.length ≤ 128 := by
    rw [length]
    exact room
  refine ⟨wrapped, m3KeyData s, made, by omega, short, ?_, ?_, ?_, gtkKdeFind_m3 s,
    igtkKdeFind_m3 s, pmfBigtkKdeFind_m3 s, pmfOciKdeFind_m3 s, pmfTdKdeFind_m3 s⟩
  · intro replay nonce
    unfold smeEapolKeyEncode eapolFixedLen
    rw [if_neg (by omega)]
    rfl
  · unfold smePfxLen eapolFixedLen smeRxViewMax
    omega
  · exact aesKeyUnwrap_wrap long whole (by omega) made

end Third

end Rf2a4m1
