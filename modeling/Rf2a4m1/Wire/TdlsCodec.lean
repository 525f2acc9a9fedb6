import Rf2a4m1.Wire.Tdls

/-!
# Direct link frames, built and parsed

The three elements of the handshake in their order, and what the MIC of a
frame is computed over.
-/

set_option autoImplicit false

namespace Rf2a4m1

open ByteString

section Elements

variable {rest : Bytes}

def tdlsLinkIdOf (l : TdlsLinkId) : Bytes :=
  [101, 18] ++ (l.bssid.bytes ++ (l.initAddr.bytes ++ l.respAddr.bytes))

def tdlsTieOf (keyLifetime : UInt32) : Bytes := [56, 5, 2] ++ putLe32 keyLifetime

def tdlsFtieOf (f : TdlsFtie) : Bytes :=
  [55, 82, 0, 0] ++ (f.mic.bytes ++ (f.anonce.bytes ++ f.snonce.bytes))

/-- The fields of an FTIE, cut from what is behind its length. -/
def tdlsFtieCut (body : Bytes) : TdlsFtie :=
  { mic := Octets.of 16 (slice body 2 16), anonce := Octets.of 32 (slice body 18 32)
    snonce := Octets.of 32 (slice body 50 32) }

/-- The elements of a frame of the handshake. -/
def tdlsElementsOf (f : TdlsFtie) (keyLifetime : UInt32) (l : TdlsLinkId) : Bytes :=
  tdlsFtieOf f ++ (tdlsTieOf keyLifetime ++ tdlsLinkIdOf l)

@[simp] theorem tdlsLinkIdOf_length (l : TdlsLinkId) : (tdlsLinkIdOf l).length = 20 := by
  simp [tdlsLinkIdOf]

@[simp] theorem tdlsTieOf_length (keyLifetime : UInt32) : (tdlsTieOf keyLifetime).length = 7 := by
  simp [tdlsTieOf]

@[simp] theorem tdlsFtieOf_length (f : TdlsFtie) : (tdlsFtieOf f).length = 84 := by
  simp [tdlsFtieOf]

theorem tdlsLinkIdBuild_eq {cap : Nat} (room : 20 ≤ cap) (l : TdlsLinkId) :
    tdlsLinkIdBuild cap l = some (tdlsLinkIdOf l) := by
  unfold tdlsLinkIdBuild tdlsLinkIdOf
  rw [if_neg (by omega), List.append_assoc, List.append_assoc]

theorem tdlsTieBuild_eq {cap : Nat} (room : 7 ≤ cap) (keyLifetime : UInt32) :
    tdlsTieBuild cap keyLifetime = some (tdlsTieOf keyLifetime) :=
  if_neg (by omega)

theorem tdlsFtieBuild_eq {cap : Nat} (room : 84 ≤ cap) (f : TdlsFtie) :
    tdlsFtieBuild cap f = some (tdlsFtieOf f) := by
  unfold tdlsFtieBuild tdlsFtieOf
  rw [if_neg (by omega), List.append_assoc, List.append_assoc]

/-- The elements are appended when there is room for all of them. -/
theorem tdlsElementsBuild_eq (cap : Nat) (w : Bytes) (f : TdlsFtie) (keyLifetime : UInt32)
    (l : TdlsLinkId) :
    tdlsElementsBuild cap w f keyLifetime l =
      if w.length + 111 ≤ cap then some (w ++ tdlsElementsOf f keyLifetime l) else none := by
  unfold tdlsElementsBuild tdlsAppend
  dsimp only
  by_cases first : w.length + 84 ≤ cap
  · have size : (w ++ tdlsFtieOf f).length = w.length + 84 := by
      rw [List.length_append, tdlsFtieOf_length]
    rw [tdlsFtieBuild_eq (by omega), Option.map_some, Option.bind_some, size]
    by_cases second : w.length + 84 + 7 ≤ cap
    · have size' : (w ++ tdlsFtieOf f ++ tdlsTieOf keyLifetime).length = w.length + 84 + 7 := by
        rw [List.length_append, size, tdlsTieOf_length]
      rw [tdlsTieBuild_eq (by omega), Option.map_some, Option.bind_some, size']
      by_cases third : w.length + 111 ≤ cap
      · rw [tdlsLinkIdBuild_eq (by omega), if_pos third]
        simp only [Option.map_some, tdlsElementsOf, List.append_assoc]
      · have refused : tdlsLinkIdBuild (cap - (w.length + 84 + 7)) l = none := if_pos (by omega)
        rw [refused, if_neg third]
        rfl
    · have refused : tdlsTieBuild (cap - (w.length + 84)) keyLifetime = none := if_pos (by omega)
      rw [refused, if_neg (by omega)]
      rfl
  · have refused : tdlsFtieBuild (cap - w.length) f = none := if_pos (by omega)
    rw [refused, if_neg (by omega)]
    rfl

theorem tdlsLinkIdParse_append (l : TdlsLinkId) :
    tdlsLinkIdParse (tdlsLinkIdOf l ++ rest) = some l := by
  have octets : tdlsLinkIdOf l ++ rest =
      101 :: 18 :: (l.bssid.bytes ++ (l.initAddr.bytes ++ (l.respAddr.bytes ++ rest))) := by
    simp [tdlsLinkIdOf]
  unfold tdlsLinkIdParse
  rw [octets]
  simp only [rdU8_cons]
  rw [rdBytes_append l.bssid.length_bytes]
  dsimp only
  rw [rdBytes_append l.initAddr.length_bytes]
  dsimp only
  rw [rdBytes_append l.respAddr.length_bytes]
  simp only [rdOk_init, Option.getD_some, Octets.of_bytes]
  rfl

/-- What is read as a link identifier is one. -/
theorem tdlsLinkIdParse_found {b : Bytes} {l : TdlsLinkId} (parsed : tdlsLinkIdParse b = some l) :
    ∃ rest, b = tdlsLinkIdOf l ++ rest := by
  unfold tdlsLinkIdParse at parsed
  dsimp only at parsed
  split at parsed
  · cases parsed
  rename_i ok
  obtain ⟨rest, read⟩ := rdOk_rest ok
  obtain ⟨respAddr, size₃, read⟩ := rdBytes_read read
  obtain ⟨initAddr, size₂, read⟩ := rdBytes_read read
  obtain ⟨bssid, size₁, read⟩ := rdBytes_read read
  obtain ⟨elen, read⟩ := rdU8_read read
  obtain ⟨eid, read⟩ := rdU8_read read
  obtain rfl := rdInit_inj read
  simp only [rdU8_cons, rdBytes_append size₁, rdBytes_append size₂, rdBytes_append size₃] at parsed
  split at parsed
  · cases parsed
  rename_i header
  obtain ⟨eid55, elen18⟩ := not_or.1 header
  rw [not_not] at eid55 elen18
  obtain rfl := Option.some.inj parsed
  refine ⟨rest, ?_⟩
  rw [eid55, elen18, tdlsLinkIdOf, Option.getD_some, Option.getD_some, Option.getD_some,
    Octets.of_bytes_of_length size₁, Octets.of_bytes_of_length size₂,
    Octets.of_bytes_of_length size₃, List.append_assoc, List.append_assoc, List.append_assoc]
  rfl

theorem rdLe32_put (v : UInt32) : rdLe32 (rdInit (putLe32 v ++ rest)) = (v, rdInit rest) := by
  have whole : slice (putLe32 v) 0 4 = le 4 v.toNat := by
    rw [slice, List.drop_zero, List.take_of_length_le (Nat.le_of_eq (putLe32_length v))]
    rfl
  have small : v.toNat % 256 ^ 4 = v.toNat := Nat.mod_eq_of_lt v.toNat_lt
  have value : getLe32 (putLe32 v) 0 = v := by
    rw [getLe32, whole, ofLe_le, small, UInt32.ofNat_toNat]
  unfold rdLe32
  rw [rdBytes_append (putLe32_length v)]
  simp [value]

theorem rdLe32_read {r : Rd} (read : (rdLe32 r).2 = rdInit rest) :
    ∃ v, r = rdInit (putLe32 v ++ rest) := by
  obtain ⟨a, size, front⟩ := rdBytes_read (r := r) (n := 4) read
  have whole : slice a 0 4 = a := List.take_of_length_le (Nat.le_of_eq size)
  have small : ofLe a < 2 ^ 32 := by
    have bound := ofLe_lt a
    rw [size] at bound
    exact bound
  have back := le_ofLe a
  rw [size] at back
  refine ⟨getLe32 a 0, ?_⟩
  rw [front, getLe32, putLe32, whole, UInt32.toNat_ofNat_of_lt' small, back]

theorem tdlsTieParse_append (keyLifetime : UInt32) :
    tdlsTieParse (tdlsTieOf keyLifetime ++ rest) = some keyLifetime := by
  have octets : tdlsTieOf keyLifetime ++ rest = 56 :: 5 :: 2 :: (putLe32 keyLifetime ++ rest) := by
    simp [tdlsTieOf]
  unfold tdlsTieParse
  rw [octets]
  simp only [rdU8_cons]
  rw [rdLe32_put]
  rfl

theorem tdlsTieParse_found {b : Bytes} {keyLifetime : UInt32}
    (parsed : tdlsTieParse b = some keyLifetime) :
    ∃ rest, b = tdlsTieOf keyLifetime ++ rest := by
  unfold tdlsTieParse at parsed
  dsimp only at parsed
  split at parsed
  · cases parsed
  rename_i ok
  obtain ⟨rest, read⟩ := rdOk_rest ok
  obtain ⟨value, read⟩ := rdLe32_read read
  obtain ⟨type, read⟩ := rdU8_read read
  obtain ⟨elen, read⟩ := rdU8_read read
  obtain ⟨eid, read⟩ := rdU8_read read
  obtain rfl := rdInit_inj read
  simp only [rdU8_cons, rdLe32_put] at parsed
  split at parsed
  · cases parsed
  rename_i header
  obtain ⟨eid56, elen5⟩ := not_or.1 header
  rw [not_not] at eid56 elen5
  split at parsed
  · cases parsed
  rename_i lifetime
  obtain rfl := Option.some.inj parsed
  exact ⟨rest, by rw [eid56, elen5, not_not.1 lifetime]; rfl⟩

/-- An element with this many octets behind its length, of which the first are fixed. -/
theorem tdlsFtieParse_raw {body : Bytes} {n : UInt8} (size : body.length = n.toNat)
    (fixed : 82 ≤ body.length) :
    tdlsFtieParse (55 :: n :: (body ++ rest)) = some (tdlsFtieCut body) := by
  have long : ¬n < 82 := by
    rw [UInt8.lt_iff_toNat_lt, ← size]
    exact Nat.not_lt.2 fixed
  unfold tdlsFtieParse
  simp only [rdU8_cons]
  rw [rdBytes_append size, if_neg (by simp), if_neg (not_or.2 ⟨by simp, long⟩)]
  rfl

/-- An FTIE as it came in: whatever its control octets are, and whatever follows its fields. -/
structure TdlsFtieRaw (b : Bytes) (f : TdlsFtie) (n : UInt8) (body behind : Bytes) : Prop where
  octets : b = 55 :: n :: (body ++ behind)
  size : body.length = n.toNat
  fixed : 82 ≤ body.length
  fields : f = tdlsFtieCut body

theorem TdlsFtieRaw.past {b : Bytes} {f : TdlsFtie} {n : UInt8} {body behind : Bytes}
    (raw : TdlsFtieRaw b f n body behind) : b.drop (2 + (byteAt b 1).toNat) = behind := by
  have length : byteAt b 1 = n := by
    rw [raw.octets]
    rfl
  rw [length, raw.octets, ← raw.size, ← List.drop_drop]
  exact List.drop_left' rfl

theorem tdlsFtieParse_found {b : Bytes} {f : TdlsFtie} (parsed : tdlsFtieParse b = some f) :
    ∃ n body behind, TdlsFtieRaw b f n body behind := by
  have shape := parsed
  unfold tdlsFtieParse at parsed
  dsimp only at parsed
  split at parsed
  · cases parsed
  rename_i ok
  obtain ⟨behind, read⟩ := rdOk_rest ok
  obtain ⟨elen, read⟩ := rdU8_read read
  obtain ⟨eid, read⟩ := rdU8_read read
  obtain rfl := rdInit_inj read
  simp only [rdU8_cons] at parsed
  split at parsed
  · cases parsed
  rename_i header
  obtain ⟨eid55, long⟩ := not_or.1 header
  rw [not_not] at eid55
  subst eid55
  rw [UInt8.lt_iff_toNat_lt, Nat.not_lt] at long
  obtain ⟨octets, took, -⟩ := Option.map_eq_some_iff.1 parsed
  have within : elen.toNat ≤ behind.length := by
    by_contra short
    have refused : rdBytes (rdInit behind) elen.toNat = (none, { rest := behind, err := true }) :=
      if_pos (.inr (Nat.lt_of_not_le short))
    rw [refused] at took
    cases took
  have size : (behind.take elen.toNat).length = elen.toNat := List.length_take_of_le within
  have fixed : 82 ≤ (behind.take elen.toNat).length := by
    rw [size]
    exact long
  have found := @tdlsFtieParse_raw (behind.drop elen.toNat) _ _ size fixed
  rw [List.take_append_drop, shape] at found
  exact ⟨elen, _, _, by rw [List.take_append_drop], size, fixed, Option.some.inj found⟩

/-- The fields behind two control octets. -/
theorem tdlsFtieCut_fields (c d : UInt8) (f : TdlsFtie) :
    tdlsFtieCut ([c, d] ++ (f.mic.bytes ++ (f.anonce.bytes ++ f.snonce.bytes))) = f := by
  have mic : slice ([c, d] ++ (f.mic.bytes ++ (f.anonce.bytes ++ f.snonce.bytes))) 2 16 =
      f.mic.bytes := slice_append_left f.mic.length_bytes
  have anonce : slice ([c, d] ++ (f.mic.bytes ++ (f.anonce.bytes ++ f.snonce.bytes))) 18 32 =
      f.anonce.bytes := by
    rw [slice_append_right (by simp), slice_append_right (by simp)]
    simpa using slice_append_left f.anonce.length_bytes
  have snonce : slice ([c, d] ++ (f.mic.bytes ++ (f.anonce.bytes ++ f.snonce.bytes))) 50 32 =
      f.snonce.bytes := by
    rw [slice_append_right (by simp), slice_append_right (by simp), slice_append_right (by simp)]
    simp [slice, List.take_of_length_le (Nat.le_of_eq f.snonce.length_bytes)]
  rw [tdlsFtieCut, mic, anonce, snonce, Octets.of_bytes, Octets.of_bytes, Octets.of_bytes]

theorem tdlsFtieFields_length (c d : UInt8) (f : TdlsFtie) :
    ([c, d] ++ (f.mic.bytes ++ (f.anonce.bytes ++ f.snonce.bytes))).length = 82 := by
  simp

/-- The elements are read one right after the other, behind an FTIE of any length. -/
theorem tdlsElements_raw {body : Bytes} {n : UInt8} (size : body.length = n.toNat)
    (fixed : 82 ≤ body.length) (keyLifetime : UInt32) (l : TdlsLinkId) :
    tdlsElements (55 :: n :: (body ++ (tdlsTieOf keyLifetime ++ (tdlsLinkIdOf l ++ rest)))) =
      some (tdlsFtieCut body, keyLifetime, l) := by
  have past (behind : Bytes) : (55 :: n :: (body ++ behind)).drop (2 + n.toNat) = behind := by
    rw [← size, ← List.drop_drop]
    exact List.drop_left' rfl
  have length (behind : Bytes) : byteAt (55 :: n :: (body ++ behind)) 1 = n := rfl
  unfold tdlsElements
  rw [tdlsFtieParse_raw size fixed, Option.bind_some]
  dsimp only
  rw [length, past, tdlsTieParse_append, Option.bind_some,
    List.drop_left' (tdlsTieOf_length keyLifetime), tdlsLinkIdParse_append]
  rfl

theorem tdlsElements_append (f : TdlsFtie) (keyLifetime : UInt32) (l : TdlsLinkId) :
    tdlsElements (tdlsElementsOf f keyLifetime l ++ rest) = some (f, keyLifetime, l) := by
  have size := tdlsFtieFields_length 0 0 f
  have elements := @tdlsElements_raw rest _ 82 size (Nat.le_of_eq size.symm)
    keyLifetime l
  rw [tdlsFtieCut_fields] at elements
  rw [← elements]
  simp [tdlsElementsOf, tdlsFtieOf]

theorem tdlsElements_found {b : Bytes} {f : TdlsFtie} {keyLifetime : UInt32} {l : TdlsLinkId}
    (parsed : tdlsElements b = some (f, keyLifetime, l)) :
    ∃ n body rest, TdlsFtieRaw b f n body (tdlsTieOf keyLifetime ++ (tdlsLinkIdOf l ++ rest)) := by
  unfold tdlsElements at parsed
  obtain ⟨ftie, first, parsed⟩ := Option.bind_eq_some_iff.1 parsed
  obtain ⟨lifetime, second, parsed⟩ := Option.bind_eq_some_iff.1 parsed
  obtain ⟨lid, third, same⟩ := Option.map_eq_some_iff.1 parsed
  cases same
  obtain ⟨n, body, behind, raw⟩ := tdlsFtieParse_found first
  rw [raw.past] at second third
  obtain ⟨behind, rfl⟩ := tdlsTieParse_found second
  rw [List.drop_left' (tdlsTieOf_length keyLifetime)] at third
  obtain ⟨rest, rfl⟩ := tdlsLinkIdParse_found third
  exact ⟨n, body, rest, raw⟩

end Elements

section Frames

/-- A request with these fields, as an initiator sends it. -/
def tdlsSetupReqOf (r : TdlsSetupReq) : Bytes :=
  tdlsEncHdr 0 ++ [r.dialogToken] ++ putLe16 r.capInfo ++ tdlsElementsOf r.ftie r.keyLifetime r.lid

theorem tdlsSetupReqParse_of (r : TdlsSetupReq) :
    tdlsSetupReqParse (tdlsSetupReqOf r) = some r := by
  have octets : tdlsSetupReqOf r = 0x02 :: 12 :: 0 :: r.dialogToken :: (putLe16 r.capInfo ++
      (tdlsElementsOf r.ftie r.keyLifetime r.lid ++ [])) := by
    simp [tdlsSetupReqOf, tdlsEncHdr]
  unfold tdlsSetupReqParse
  rw [octets]
  simp only [rdU8_cons, rdLe16_put]
  have elements := @tdlsElements_append [] r.ftie r.keyLifetime r.lid
  rw [if_neg (by simp), if_neg (by simp), rdInit, elements]
  rfl

theorem tdlsSetupRespBuild_eq (cap : Nat) (r : TdlsSetupResp) :
    tdlsSetupRespBuild cap r =
      if 119 ≤ cap then
        some (tdlsEncHdr 1 ++ putLe16 r.status ++ [r.dialogToken] ++ putLe16 r.capInfo ++
          tdlsElementsOf r.ftie r.keyLifetime r.lid)
      else none := by
  have size : (tdlsEncHdr 1 ++ putLe16 r.status ++ [r.dialogToken] ++ putLe16 r.capInfo).length =
      8 := by
    simp [tdlsEncHdr]
  unfold tdlsSetupRespBuild
  rw [tdlsElementsBuild_eq, size]
  by_cases short : cap < 3 + 5
  · rw [if_pos short, if_neg (by omega)]
  · rw [if_neg short]

theorem tdlsSetupRespParse_build (r : TdlsSetupResp) :
    tdlsSetupRespParse (tdlsEncHdr 1 ++ putLe16 r.status ++ [r.dialogToken] ++ putLe16 r.capInfo ++
      tdlsElementsOf r.ftie r.keyLifetime r.lid) = some r := by
  have octets : tdlsEncHdr 1 ++ putLe16 r.status ++ [r.dialogToken] ++ putLe16 r.capInfo ++
      tdlsElementsOf r.ftie r.keyLifetime r.lid =
      0x02 :: 12 :: 1 :: (putLe16 r.status ++ r.dialogToken :: (putLe16 r.capInfo ++
        (tdlsElementsOf r.ftie r.keyLifetime r.lid ++ []))) := by
    simp [tdlsEncHdr]
  unfold tdlsSetupRespParse
  rw [octets]
  simp only [rdU8_cons, rdLe16_put]
  have elements := @tdlsElements_append [] r.ftie r.keyLifetime r.lid
  rw [if_neg (by simp), if_neg (by simp), rdInit, elements]
  rfl

theorem tdlsSetupConfirmBuild_eq (cap : Nat) (c : TdlsSetupConfirm) :
    tdlsSetupConfirmBuild cap c =
      if 117 ≤ cap then
        some (tdlsEncHdr 2 ++ putLe16 c.status ++ [c.dialogToken] ++
          tdlsElementsOf c.ftie c.keyLifetime c.lid)
      else none := by
  have size : (tdlsEncHdr 2 ++ putLe16 c.status ++ [c.dialogToken]).length = 6 := by
    simp [tdlsEncHdr]
  unfold tdlsSetupConfirmBuild
  rw [tdlsElementsBuild_eq, size]
  by_cases short : cap < 3 + 3
  · rw [if_pos short, if_neg (by omega)]
  · rw [if_neg short]

theorem tdlsSetupConfirmParse_of (c : TdlsSetupConfirm) {e : Bytes}
    (elements : tdlsElements e = some (c.ftie, c.keyLifetime, c.lid)) :
    tdlsSetupConfirmParse (tdlsEncHdr 2 ++ putLe16 c.status ++ [c.dialogToken] ++ e) = some c := by
  have octets : tdlsEncHdr 2 ++ putLe16 c.status ++ [c.dialogToken] ++ e =
      0x02 :: 12 :: 2 :: (putLe16 c.status ++ c.dialogToken :: e) := by
    simp [tdlsEncHdr]
  unfold tdlsSetupConfirmParse
  rw [octets]
  simp only [rdU8_cons, rdLe16_put]
  rw [if_neg (by simp), if_neg (by simp), rdInit, elements]
  rfl

theorem tdlsSetupConfirmParse_build (c : TdlsSetupConfirm) :
    tdlsSetupConfirmParse (tdlsEncHdr 2 ++ putLe16 c.status ++ [c.dialogToken] ++
      tdlsElementsOf c.ftie c.keyLifetime c.lid) = some c := by
  have elements := @tdlsElements_append [] c.ftie c.keyLifetime c.lid
  rw [List.append_nil] at elements
  exact tdlsSetupConfirmParse_of c elements

variable {inp : Bytes}

theorem tdlsSetupRespParse_elements {r : TdlsSetupResp} (parsed : tdlsSetupRespParse inp = some r) :
    tdlsElements (inp.drop 8) = some (r.ftie, r.keyLifetime, r.lid) := by
  unfold tdlsSetupRespParse at parsed
  dsimp only at parsed
  split at parsed
  · cases parsed
  rename_i ok
  obtain ⟨rest, behind⟩ := rdOk_rest ok
  rw [behind] at parsed
  obtain ⟨cap, read⟩ := rdLe16_read behind
  obtain ⟨tok, read⟩ := rdU8_read read
  obtain ⟨st, read⟩ := rdLe16_read read
  obtain ⟨act, read⟩ := rdU8_read read
  obtain ⟨cat, read⟩ := rdU8_read read
  obtain ⟨pt, read⟩ := rdU8_read read
  obtain rfl := rdInit_inj read
  split at parsed
  · cases parsed
  obtain ⟨⟨f, keyLifetime, l⟩, elements, rfl⟩ := Option.map_eq_some_iff.1 parsed
  exact elements

theorem tdlsSetupConfirmParse_elements {c : TdlsSetupConfirm}
    (parsed : tdlsSetupConfirmParse inp = some c) :
    tdlsElements (inp.drop 6) = some (c.ftie, c.keyLifetime, c.lid) := by
  unfold tdlsSetupConfirmParse at parsed
  dsimp only at parsed
  split at parsed
  · cases parsed
  rename_i ok
  obtain ⟨rest, behind⟩ := rdOk_rest ok
  rw [behind] at parsed
  obtain ⟨tok, read⟩ := rdU8_read behind
  obtain ⟨st, read⟩ := rdLe16_read read
  obtain ⟨act, read⟩ := rdU8_read read
  obtain ⟨cat, read⟩ := rdU8_read read
  obtain ⟨pt, read⟩ := rdU8_read read
  obtain rfl := rdInit_inj read
  split at parsed
  · cases parsed
  obtain ⟨⟨f, keyLifetime, l⟩, elements, rfl⟩ := Option.map_eq_some_iff.1 parsed
  exact elements

/-- A teardown with an FTIE has the link identifier right behind it. -/
theorem tdlsTeardownParse_elements {td : TdlsTeardown} {f : TdlsFtie}
    (parsed : tdlsTeardownParse inp = some td) (bears : td.ftie = some f) :
    ∃ n body rest, TdlsFtieRaw (inp.drop 5) f n body (tdlsLinkIdOf td.lid ++ rest) := by
  unfold tdlsTeardownParse at parsed
  dsimp only at parsed
  split at parsed
  · cases parsed
  rename_i ok
  obtain ⟨rest, behind⟩ := rdOk_rest ok
  rw [behind] at parsed
  obtain ⟨rsn, read⟩ := rdLe16_read behind
  obtain ⟨act, read⟩ := rdU8_read read
  obtain ⟨cat, read⟩ := rdU8_read read
  obtain ⟨pt, read⟩ := rdU8_read read
  obtain rfl := rdInit_inj read
  split at parsed
  · cases parsed
  split at parsed
  · obtain ⟨ftie, first, parsed⟩ := Option.bind_eq_some_iff.1 parsed
    obtain ⟨lid, second, rfl⟩ := Option.map_eq_some_iff.1 parsed
    obtain rfl := Option.some.inj bears
    obtain ⟨n, body, behind, raw⟩ := tdlsFtieParse_found first
    have past : rest.drop (2 + (byteAt rest 1).toNat) = behind := raw.past
    rw [rdInit, past] at second
    obtain ⟨rest, rfl⟩ := tdlsLinkIdParse_found second
    exact ⟨n, body, rest, raw⟩
  · obtain ⟨lid, _, rfl⟩ := Option.map_eq_some_iff.1 parsed
    cases bears

end Frames

section Mic

/-- The confirmation key of a TPK. -/
def tpkKck (tpk : Octets 32) : Octets 16 := Octets.of 16 (slice tpk.bytes 0 16)

/-- What the MIC of a frame is computed over: the two ends, the number of the message, and the
elements rebuilt from their fields, with no MIC in them. -/
def tdlsMicInput (p : TdlsPeer) (f : TdlsFtie) (lid : TdlsLinkId) (keyLifetime : UInt32)
    (transSeq : UInt8) : Bytes :=
  p.lid.initAddr.bytes ++ p.lid.respAddr.bytes ++ [transSeq] ++ tdlsLinkIdOf lid ++
    tdlsTieOf keyLifetime ++ tdlsFtieOf { f with mic := Octets.zero 16 }

theorem tdlsFtieOf_blank (f : TdlsFtie) :
    splice (tdlsFtieOf f) 4 (List.replicate 16 0) =
      tdlsFtieOf { f with mic := Octets.zero 16 } := by
  have front : (tdlsFtieOf f).take 4 = [55, 82, 0, 0] := rfl
  have behind : (tdlsFtieOf f).drop (4 + 16) = f.anonce.bytes ++ f.snonce.bytes := by
    rw [← List.drop_drop]
    exact List.drop_left' f.mic.length_bytes
  rw [splice, front, List.length_replicate, behind, List.append_assoc]
  rfl

theorem tdlsFrameMic_eq (tpk : Octets 32) (p : TdlsPeer) (f : TdlsFtie) (lid : TdlsLinkId)
    (keyLifetime : UInt32) (transSeq : UInt8) :
    tdlsFrameMic tpk p f lid keyLifetime transSeq =
      aes128Cmac (tpkKck tpk) (tdlsMicInput p f lid keyLifetime transSeq) := by
  unfold tdlsFrameMic
  dsimp only
  rw [tdlsLinkIdBuild_eq (Nat.le_refl _), tdlsTieBuild_eq (Nat.le_refl _),
    tdlsFtieBuild_eq (Nat.le_refl _), Option.getD_some, Option.getD_some, Option.getD_some]
  unfold tdlsFtieMic
  rw [tdlsLinkIdOf_length, tdlsTieOf_length, tdlsFtieOf_length, if_neg (by omega),
    if_pos (by omega), tdlsFtieOf_blank]
  rfl

/-- The MIC an FTIE carries does not count. -/
theorem tdlsFrameMic_mic (tpk : Octets 32) (p : TdlsPeer) (f : TdlsFtie) (mic : Octets 16)
    (lid : TdlsLinkId) (keyLifetime : UInt32) (transSeq : UInt8) :
    tdlsFrameMic tpk p { f with mic := mic } lid keyLifetime transSeq =
      tdlsFrameMic tpk p f lid keyLifetime transSeq := by
  rw [tdlsFrameMic_eq, tdlsFrameMic_eq]
  rfl

/-- Of the peer only its link counts. -/
theorem tdlsFrameMic_peer {p q : TdlsPeer} (same : p.lid = q.lid) (tpk : Octets 32)
    (f : TdlsFtie) (lid : TdlsLinkId) (keyLifetime : UInt32) (transSeq : UInt8) :
    tdlsFrameMic tpk p f lid keyLifetime transSeq =
      tdlsFrameMic tpk q f lid keyLifetime transSeq := by
  rw [tdlsFrameMic_eq, tdlsFrameMic_eq, tdlsMicInput, tdlsMicInput, same]

end Mic

end Rf2a4m1
