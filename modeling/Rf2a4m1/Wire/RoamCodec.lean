import Rf2a4m1.Wire.QosCodec
import Rf2a4m1.Wire.Roam

/-!
# Fast transition elements, built and parsed

Every parser here takes its element off the front of what it is given, so the
round trips hold with anything behind the element.
-/

set_option autoImplicit false

namespace Rf2a4m1

open ByteString

section Splice

variable {b : Bytes} {off : Nat} {x y : Bytes}

/-- The later of two writes to one place is the one that shows. -/
theorem splice_splice (same : x.length = y.length) (inside : off + x.length ≤ b.length) :
    splice (splice b off x) off y = splice b off y := by
  have front : (b.take off).length = off := by
    rw [List.length_take]
    omega
  have head : (b.take off ++ x ++ b.drop (off + x.length)).take off = b.take off := by
    rw [List.append_assoc, List.take_append_of_le_length (by omega),
    List.take_of_length_le (by omega)]
  have tail : (b.take off ++ x ++ b.drop (off + x.length)).drop (off + y.length) =
      b.drop (off + x.length) := by
    have pre : (b.take off ++ x).length = off + y.length := by
      rw [List.length_append, front, same]
    rw [← pre, List.drop_left]
  unfold splice
  rw [head, tail, same]

end Splice

section Mde

variable (mdid : UInt16) (policy : UInt8)

def mdeOf : Bytes := [54, 3] ++ putLe16 mdid ++ [policy]

@[simp] theorem mdeOf_length : (mdeOf mdid policy).length = 5 := by
  simp [mdeOf]

theorem ftMdeBuild_eq {cap : Nat} (room : 5 ≤ cap) :
    ftMdeBuild cap mdid policy = some (mdeOf mdid policy) :=
  if_neg (by omega)

theorem ftMdeParse_append (rest : Bytes) :
    ftMdeParse (mdeOf mdid policy ++ rest) = some (mdid, policy) := by
  have octets : mdeOf mdid policy ++ rest = 54 :: 3 :: (putLe16 mdid ++ policy :: rest) := by
    simp [mdeOf]
  unfold ftMdeParse
  rw [octets]
  simp

end Mde

section Fte

/-- What the length octet of the element counts. -/
def fteBody (f : FtFte) : Bytes :=
  [0, f.elementCount] ++ (f.mic.bytes ++ (f.anonce.bytes ++ (f.snonce.bytes ++ fteSubelements f)))

def fteOf (f : FtFte) : Bytes := 55 :: UInt8.ofNat (fteBody f).length :: fteBody f

theorem fteBody_length (f : FtFte) : (fteBody f).length = 82 + (fteSubelements f).length := by
  simp only [fteBody, List.length_append, List.length_cons, List.length_nil, Octets.length_bytes]
  omega

/-- At most 58 octets of subelements. -/
theorem fteSubelements_length {f : FtFte} (ok : fteR0khOk f = true) :
    (fteSubelements f).length ≤ 58 := by
  obtain ⟨_, _, _, _, r1kh, r0kh⟩ := f
  have holder : ∀ id : Bytes, r0kh = some id → id.length ≤ 48 := by
    intro id named
    subst named
    exact (of_decide_eq_true ok).2
  unfold fteSubelements
  cases r1kh <;> cases r0kh
  · simp
  · have := holder _ rfl
    simp
    omega
  · simp
  · have := holder _ rfl
    simp
    omega

theorem fteBody_le {f : FtFte} (ok : fteR0khOk f = true) : (fteBody f).length ≤ 140 := by
  have := fteSubelements_length ok
  rw [fteBody_length]
  omega

theorem fteOf_length (f : FtFte) : (fteOf f).length = 2 + (fteBody f).length := by
  simp only [fteOf, List.length_cons]
  omega

/-- The length octet tells the length. -/
theorem fteOf_felen {f : FtFte} (ok : fteR0khOk f = true) :
    2 + (byteAt (fteOf f) 1).toNat = (fteOf f).length := by
  have small := fteBody_le ok
  have octet : byteAt (fteOf f) 1 = UInt8.ofNat (fteBody f).length := rfl
  rw [octet, fteOf_length, UInt8.toNat_ofNat', Nat.mod_eq_of_lt (by omega)]

theorem ftFteBuild_eq {f : FtFte} {cap : Nat} (ok : fteR0khOk f = true)
    (room : 2 + (fteBody f).length ≤ cap) : ftFteBuild cap f = some (fteOf f) := by
  have small := fteBody_le ok
  have body : [0, f.elementCount] ++ f.mic.bytes ++ f.anonce.bytes ++ f.snonce.bytes ++
      fteSubelements f = fteBody f := by
    simp only [fteBody, List.append_assoc]
  unfold ftFteBuild
  rw [ok]
  dsimp only
  rw [body, if_neg (by decide), if_neg (by omega)]
  rfl

section Parse

variable {f : FtFte} {rest : Bytes}

theorem fteSubelemLoop_nil (fuel : Nat) (f : FtFte) :
    fteSubelemLoop fuel f (rdInit []) = some f := by
  cases fuel <;> rfl

theorem fteSubelemLoop_cons (fuel : Nat) (f : FtFte) (sid : UInt8) {data : Bytes}
    (short : data.length < 256) :
    fteSubelemLoop (fuel + 1) f (rdInit (sid :: UInt8.ofNat data.length :: (data ++ rest))) =
      fteSubelemLoop fuel (fteSubelement f sid data) (rdInit rest) := by
  have len : (UInt8.ofNat data.length).toNat = data.length := by
    rw [UInt8.toNat_ofNat', Nat.mod_eq_of_lt short]
  rw [fteSubelemLoop, if_neg (by simp)]
  simp only [rdU8_cons]
  rw [len, rdBytes_append rfl]

/-- The subelements of the two key holders. -/
def fteR1khBytes : Option MacAddr → Bytes
  | none => []
  | some m => [1, 6] ++ m.bytes

def fteR0khBytes : Option Bytes → Bytes
  | none => []
  | some id => [3, UInt8.ofNat id.length] ++ id

theorem fteSubelements_eq (f : FtFte) :
    fteSubelements f = fteR1khBytes f.r1khId ++ fteR0khBytes f.r0khId := by
  obtain ⟨_, _, _, _, r1kh, r0kh⟩ := f
  cases r1kh <;> cases r0kh <;> rfl

theorem fteSubelemLoop_r0kh {g : FtFte} {r0kh : Option Bytes} (blank : g.r0khId = none)
    (ok : fteR0khOk { g with r0khId := r0kh } = true) (fuel : Nat) :
    fteSubelemLoop (fuel + 1) g (rdInit (fteR0khBytes r0kh)) = some { g with r0khId := r0kh } := by
  cases r0kh with
  | none =>
    have same : { g with r0khId := none } = g := by rw [← blank]
    rw [same]
    exact fteSubelemLoop_nil _ g
  | some id =>
    obtain ⟨named, short⟩ := of_decide_eq_true ok
    have one := @fteSubelemLoop_cons [] fuel g 3 id (by omega)
    rw [List.append_nil, fteSubelemLoop_nil] at one
    have other : ¬((3 : UInt8) = 1 ∧ id.length = 6) := fun h => absurd h.1 (by decide)
    refine one.trans ?_
    unfold fteSubelement
    rw [if_neg other, if_pos ⟨rfl, by omega, short⟩]

theorem fteSubelemLoop_r1kh {g : FtFte} (r1kh : Option MacAddr) (blank : g.r1khId = none)
    (fuel : Nat) :
    ∃ left, fuel ≤ left ∧ fteSubelemLoop (fuel + 1) g (rdInit (fteR1khBytes r1kh ++ rest)) =
      fteSubelemLoop left { g with r1khId := r1kh } (rdInit rest) := by
  cases r1kh with
  | none =>
    have same : { g with r1khId := none } = g := by rw [← blank]
    rw [same]
    exact ⟨fuel + 1, by omega, rfl⟩
  | some m =>
    have len : UInt8.ofNat m.bytes.length = 6 := by
      rw [Octets.length_bytes]
      rfl
    have one := @fteSubelemLoop_cons rest fuel g 1 m.bytes (by simp)
    rw [len] at one
    refine ⟨fuel, le_rfl, one.trans ?_⟩
    unfold fteSubelement
    rw [if_pos ⟨rfl, by simp⟩, Octets.of_bytes]

/-- The subelements put the two key holders back. -/
theorem fteSubelemLoop_build (ok : fteR0khOk f = true) {fuel : Nat} (enough : 2 ≤ fuel) :
    fteSubelemLoop fuel { f with r1khId := none, r0khId := none } (rdInit (fteSubelements f)) =
      some f := by
  obtain ⟨fuel, rfl⟩ := Nat.exists_eq_add_of_le' enough
  obtain ⟨left, more, first⟩ := @fteSubelemLoop_r1kh (fteR0khBytes f.r0khId)
    { f with r1khId := none, r0khId := none } f.r1khId rfl (fuel + 1)
  obtain ⟨left, rfl⟩ := Nat.exists_eq_add_of_le' (Nat.le_trans (Nat.le_add_left 1 fuel) more)
  rw [fteSubelements_eq]
  exact first.trans (fteSubelemLoop_r0kh (g := { f with r0khId := none }) rfl ok left)

/-- The fields in front of the subelements. -/
def fteHead (f : FtFte) : Bytes :=
  [0, f.elementCount] ++ (f.mic.bytes ++ (f.anonce.bytes ++ f.snonce.bytes))

theorem fteHead_length (f : FtFte) : (fteHead f).length = 82 := by
  simp [fteHead]

theorem fteBody_eq (f : FtFte) : fteBody f = fteHead f ++ fteSubelements f := by
  simp only [fteBody, fteHead, List.append_assoc]

theorem fteHead_fields (f : FtFte) :
    byteAt (fteBody f) 1 = f.elementCount ∧ slice (fteBody f) 2 16 = f.mic.bytes ∧
      slice (fteBody f) 18 32 = f.anonce.bytes ∧ slice (fteBody f) 50 32 = f.snonce.bytes := by
  unfold fteBody
  refine ⟨rfl, ?_, ?_, ?_⟩
  · rw [slice_append_right (by simp)]
    exact slice_append_left f.mic.length_bytes
  · rw [slice_append_right (by simp), slice_append_right (by simp)]
    simpa using slice_append_left f.anonce.length_bytes
  · rw [slice_append_right (by simp), slice_append_right (by simp), slice_append_right (by simp)]
    simpa using slice_append_left f.snonce.length_bytes

theorem ftFteParse_append (ok : fteR0khOk f = true) : ftFteParse (fteOf f ++ rest) = some f := by
  have small := fteBody_le ok
  have long := fteBody_length f
  have len : (UInt8.ofNat (fteBody f).length).toNat = (fteBody f).length := by
    rw [UInt8.toNat_ofNat', Nat.mod_eq_of_lt (by omega)]
  have octets : fteOf f ++ rest =
      55 :: UInt8.ofNat (fteBody f).length :: (fteBody f ++ rest) := rfl
  have room : ¬UInt8.ofNat (fteBody f).length < 82 := by
    rw [UInt8.lt_iff_toNat_lt, len]
    change ¬(fteBody f).length < 82
    omega
  have behind : rdSkip (rdInit (fteBody f)) 82 = rdInit (fteSubelements f) := by
    rw [fteBody_eq]
    exact rdSkip_append (fteHead_length f)
  obtain ⟨count, mic, anonce, snonce⟩ := fteHead_fields f
  unfold ftFteParse
  rw [octets]
  simp only [rdU8_cons]
  rw [len, rdBytes_append rfl, if_neg (by simp), if_neg (by simp), if_neg room]
  dsimp only
  rw [behind, count, mic, anonce, snonce, Octets.of_bytes, Octets.of_bytes, Octets.of_bytes]
  exact fteSubelemLoop_build ok (by omega)

end Parse

section Mic

variable {f : FtFte}

/-- The MIC is the field behind the four first octets. -/
theorem fteOf_mic (f : FtFte) (mic : Octets 16) :
    splice (fteOf f) 4 mic.bytes = fteOf { f with mic := mic } := by
  have octets (m : Octets 16) : fteBody { f with mic := m } = [0, f.elementCount] ++
      (m.bytes ++ (f.anonce.bytes ++ (f.snonce.bytes ++ fteSubelements f))) := rfl
  have same : (fteBody { f with mic := mic }).length = (fteBody f).length := by
    rw [fteBody_length, fteBody_length]
    rfl
  have behind : (fteOf f).drop (4 + mic.bytes.length) =
      f.anonce.bytes ++ (f.snonce.bytes ++ fteSubelements f) := by
    have front : fteOf f = [55, UInt8.ofNat (fteBody f).length, 0, f.elementCount] ++ f.mic.bytes ++
        (f.anonce.bytes ++ (f.snonce.bytes ++ fteSubelements f)) := by
      rw [fteOf, octets f.mic]
      simp
    rw [front]
    exact List.drop_left' (by simp)
  unfold splice
  rw [behind]
  unfold fteOf
  rw [same, octets mic]
  simp [fteBody]

/-- Whatever MIC the element carries, it is computed over the element without one. -/
theorem fteZeroMic_fteOf (f : FtFte) (mic : Octets 16) :
    fteZeroMic (fteOf { f with mic := mic }) = fteZeroMic (fteOf f) := by
  have long (g : FtFte) : (fteOf g).length ≥ 2 + 2 + 16 := by
    rw [fteOf_length, fteBody_length]
    omega
  unfold fteZeroMic
  rw [if_pos (long _), if_pos (long _), ← fteOf_mic]
  exact splice_splice (by simp) (by simpa using long f)

end Mic

end Fte

section Action

variable (sta target : MacAddr)

theorem ftActionReqBuild_eq {cap : Nat} {elems : Bytes} (short : elems.length ≤ 255)
    (room : 14 + elems.length ≤ cap) :
    ftActionReqBuild cap sta target elems = some ([6, 1] ++ sta.bytes ++ target.bytes ++ elems) :=
  if_neg (by omega)

theorem ftActionReqParse_append (elems : Bytes) :
    ftActionReqParse ([6, 1] ++ sta.bytes ++ target.bytes ++ elems) =
      some { staAddr := sta, targetAddr := target, elems := elems } := by
  have octets : [6, 1] ++ sta.bytes ++ target.bytes ++ elems =
      6 :: 1 :: (sta.bytes ++ (target.bytes ++ elems)) := by
    simp
  unfold ftActionReqParse
  rw [octets]
  simp only [rdU8_cons]
  rw [rdBytes_append sta.length_bytes]
  dsimp only
  rw [rdBytes_append target.length_bytes]
  simp only [rdOk_init, Option.getD_some, Octets.of_bytes]
  rfl

theorem ftActionRespBuild_eq {cap : Nat} {elems : Bytes} (status : UInt16)
    (short : elems.length ≤ 255) (room : 16 + elems.length ≤ cap) :
    ftActionRespBuild cap sta target status elems =
      some ([6, 2] ++ sta.bytes ++ target.bytes ++ putLe16 status ++ elems) :=
  if_neg (by omega)

theorem ftActionRespParse_append (status : UInt16) (elems : Bytes) :
    ftActionRespParse ([6, 2] ++ sta.bytes ++ target.bytes ++ putLe16 status ++ elems) =
      some { staAddr := sta, targetAddr := target, status := status, elems := elems } := by
  have octets : [6, 2] ++ sta.bytes ++ target.bytes ++ putLe16 status ++ elems =
      6 :: 2 :: (sta.bytes ++ (target.bytes ++ (putLe16 status ++ elems))) := by
    simp
  unfold ftActionRespParse
  rw [octets]
  simp only [rdU8_cons]
  rw [rdBytes_append sta.length_bytes]
  dsimp only
  rw [rdBytes_append target.length_bytes]
  dsimp only
  rw [rdLe16_put]
  simp only [rdOk_init, Option.getD_some, Octets.of_bytes]
  rfl

end Action

section Ric

variable {rest : Bytes}

def ricRdeOf (r : RicRde) : Bytes := [57, 4, r.rdieId, r.descCount] ++ putLe16 r.status

@[simp] theorem ricRdeOf_length (r : RicRde) : (ricRdeOf r).length = 6 := by
  simp [ricRdeOf]

theorem ricRdeBuild_some {cap : Nat} {r : RicRde} {w : Bytes} (built : ricRdeBuild cap r = some w) :
    w = ricRdeOf r := by
  unfold ricRdeBuild at built
  split at built
  · cases built
  · exact (Option.some.inj built).symm

theorem ricRdeParse_append (r : RicRde) : ricRdeParse (ricRdeOf r ++ rest) = some r := by
  have octets : ricRdeOf r ++ rest =
      57 :: 4 :: r.rdieId :: r.descCount :: (putLe16 r.status ++ rest) := by
    simp [ricRdeOf]
  unfold ricRdeParse
  rw [octets]
  simp

/-- The element of a specification. -/
def tspecOf (t : Tspec) : Bytes := [13, 55] ++ tspecBodyPut t

theorem tspecBuild_some {cap : Nat} {t : Tspec} {e : Bytes} (built : tspecBuild cap t = some e) :
    e = tspecOf t := by
  unfold tspecBuild at built
  split at built
  · cases built
  · exact (Option.some.inj built).symm

theorem tspecOf_length (t : Tspec) : (tspecOf t).length = 57 := by
  simp [tspecOf]

theorem ricTspec_append (t : Tspec) :
    ricTspec (rdInit (tspecOf t ++ rest)) = some (t.onAir, rdInit rest) := by
  have octets : tspecOf t ++ rest = 13 :: 55 :: (tspecBodyPut t ++ rest) := by
    simp only [tspecOf, List.cons_append, List.nil_append]
  have len : (55 : UInt8).toNat = 55 := rfl
  unfold ricTspec
  rw [octets, if_neg (by simp)]
  simp only [rdU8_cons]
  rw [len, rdBytes_append (tspecBodyPut_length t), if_neg (by simp)]
  dsimp only
  rw [Option.bind_some, tspecParse_body]
  rfl

theorem ricRequestLoop_some {cap : Nat} {w b : Bytes} {list : List Tspec}
    (built : ricRequestLoop cap w list = some b) : b = w ++ list.flatMap tspecOf := by
  induction list generalizing w with
  | nil =>
    cases built
    simp
  | cons t ts ih =>
    obtain ⟨e, element, built⟩ := Option.bind_eq_some_iff.1 built
    rw [ih built, tspecBuild_some element, List.flatMap_cons, List.append_assoc]

theorem ricRequestTspecs_append (list : List Tspec) :
    ricRequestTspecs list.length (rdInit (list.flatMap tspecOf ++ rest)) =
      some (list.map Tspec.onAir) := by
  induction list with
  | nil => rfl
  | cons t ts ih =>
    rw [List.length_cons, ricRequestTspecs, List.flatMap_cons, List.append_assoc, ricTspec_append]
    dsimp only [Option.bind_some]
    rw [ih]
    rfl

theorem ricCount {n : Nat} (few : n ≤ ricMaxResources) : (UInt8.ofNat n).toNat = n := by
  unfold ricMaxResources at few
  rw [UInt8.toNat_ofNat', Nat.mod_eq_of_lt (by omega)]

/-- A request is read back with anything behind it. -/
theorem ricRequestParse_append {cap : Nat} {rdieId : UInt8} {list : List Tspec} {b : Bytes}
    (built : ricRequestBuild cap rdieId list = some b) :
    ricRequestParse (b ++ rest) = some { rdieId := rdieId, tspecs := list.map Tspec.onAir } := by
  unfold ricRequestBuild at built
  split at built
  · cases built
  rename_i few
  obtain ⟨w, head, built⟩ := Option.bind_eq_some_iff.1 built
  have count := ricCount (Nat.le_of_not_lt few)
  unfold ricRequestParse
  rw [ricRequestLoop_some built, ricRdeBuild_some head, List.append_assoc, ricRdeParse_append]
  dsimp only
  rw [count, if_neg few, rdSkip_append (ricRdeOf_length _), ricRequestTspecs_append]
  rfl

theorem ricRequestTspecs_length {n : Nat} {r : Rd} {ts : List Tspec}
    (parsed : ricRequestTspecs n r = some ts) : ts.length = n := by
  induction n generalizing r ts with
  | zero =>
    cases parsed
    rfl
  | succ n ih =>
    obtain ⟨⟨t, r'⟩, _, rest⟩ := Option.bind_eq_some_iff.1 parsed
    obtain ⟨ts', parsed', rfl⟩ := Option.map_eq_some_iff.1 rest
    rw [List.length_cons, ih parsed']

/-- No more resources are read than there may be. -/
theorem ricRequestParse_few {inp : Bytes} {rq : RicRequest}
    (parsed : ricRequestParse inp = some rq) :
    rq.tspecs.length ≤ ricMaxResources := by
  unfold ricRequestParse at parsed
  cases head : ricRdeParse inp with
  | none =>
    rw [head] at parsed
    cases parsed
  | some rde =>
    rw [head] at parsed
    dsimp only at parsed
    split at parsed
    · cases parsed
    · rename_i few
      obtain ⟨ts, read, rfl⟩ := Option.map_eq_some_iff.1 parsed
      rw [ricRequestTspecs_length read]
      exact Nat.le_of_not_lt few

/-- What a response carries for a resource: its status and, when granted, its specification. -/
def ricResourceOf (r : Tspec × UInt16) : Bytes :=
  putLe16 r.2 ++ if r.2 = ricStatusSuccess then tspecOf r.1 else []

def ricAnswer (r : Tspec × UInt16) : UInt16 × Option Tspec :=
  (r.2, if r.2 = ricStatusSuccess then some r.1.onAir else none)

theorem ricResponseLoop_some {cap : Nat} {w b : Bytes} {list : List (Tspec × UInt16)}
    (built : ricResponseLoop cap w list = some b) : b = w ++ list.flatMap ricResourceOf := by
  induction list generalizing w with
  | nil =>
    cases built
    simp
  | cons r rs ih =>
    obtain ⟨t, status⟩ := r
    rw [ricResponseLoop] at built
    split at built
    · cases built
    dsimp only at built
    by_cases granted : status = ricStatusSuccess
    · rw [if_pos granted] at built
      obtain ⟨e, element, built⟩ := Option.bind_eq_some_iff.1 built
      rw [ih built, tspecBuild_some element, List.flatMap_cons, ricResourceOf, if_pos granted]
      simp only [List.append_assoc]
    · rw [if_neg granted] at built
      rw [ih built, List.flatMap_cons, ricResourceOf, if_neg granted]
      simp only [List.append_assoc, List.nil_append]

theorem ricResourceOf_length (r : Tspec × UInt16) :
    (ricResourceOf r).length = if r.2 = ricStatusSuccess then 59 else 2 := by
  rw [ricResourceOf, List.length_append, putLe16_length]
  split
  · rw [tspecOf_length]
  · rfl

/-- The resources are appended as long as there is room for all of them. -/
theorem ricResponseLoop_eq {cap : Nat} {w : Bytes} {list : List (Tspec × UInt16)}
    (room : w.length ≤ cap) :
    ricResponseLoop cap w list =
      if w.length + (list.flatMap ricResourceOf).length ≤ cap then
        some (w ++ list.flatMap ricResourceOf)
      else none := by
  induction list generalizing w with
  | nil =>
    rw [List.flatMap_nil, List.append_nil, List.length_nil, Nat.add_zero, if_pos room]
    rfl
  | cons r rs ih =>
    obtain ⟨t, status⟩ := r
    have size := ricResourceOf_length (t, status)
    rw [ricResponseLoop, List.flatMap_cons, List.length_append]
    by_cases granted : status = ricStatusSuccess
    · rw [if_pos granted] at size
      by_cases fits : w.length + 59 ≤ cap
      · have element : tspecBuild (cap - (w ++ putLe16 status).length) t = some (tspecOf t) := by
          apply tspecBuild_eq
          rw [List.length_append, putLe16_length]
          omega
        have next : (w ++ putLe16 status ++ tspecOf t).length = w.length + 59 := by
          simp only [List.length_append, putLe16_length, tspecOf_length]
        rw [if_neg (by omega)]
        dsimp only
        rw [if_pos granted, element, Option.bind_some, ih (by omega), next, size, ricResourceOf,
          if_pos granted]
        simp only [List.append_assoc, Nat.add_assoc]
      · rw [if_neg (by omega : ¬w.length + ((ricResourceOf (t, status)).length + _) ≤ cap)]
        by_cases short : w.length + 2 > cap
        · rw [if_pos short]
        · have element : tspecBuild (cap - (w ++ putLe16 status).length) t = none := by
            apply if_pos
            rw [List.length_append, putLe16_length]
            unfold tspecBodyLen
            omega
          rw [if_neg short]
          dsimp only
          rw [if_pos granted, element]
          rfl
    · rw [if_neg granted] at size
      by_cases fits : w.length + 2 ≤ cap
      · have next : (w ++ putLe16 status).length = w.length + 2 := by
          rw [List.length_append, putLe16_length]
        rw [if_neg (by omega)]
        dsimp only
        rw [if_neg granted, ih (by omega), next, size, ricResourceOf, if_neg granted]
        simp only [List.append_assoc, List.append_nil, Nat.add_assoc]
      · rw [if_pos (by omega), if_neg (by omega)]

theorem ricResponseResources_append (list : List (Tspec × UInt16)) :
    ricResponseResources list.length (rdInit (list.flatMap ricResourceOf ++ rest)) =
      some (list.map ricAnswer, rdInit rest) := by
  induction list with
  | nil => rfl
  | cons r rs ih =>
    obtain ⟨t, status⟩ := r
    have room (more : Bytes) : ¬rdRemaining (rdInit (putLe16 status ++ more)) < 2 := by
      rw [rdRemaining_init, List.length_append, putLe16_length]
      omega
    rw [List.length_cons, ricResponseResources, List.flatMap_cons, List.append_assoc, ricResourceOf,
      List.append_assoc, if_neg (room _), rdLe16_put]
    dsimp only
    by_cases granted : status = ricStatusSuccess
    · rw [if_pos granted, if_pos granted, ricTspec_append]
      dsimp only [Option.bind_some]
      rw [ih, List.map_cons, ricAnswer, if_pos granted]
      rfl
    · rw [if_neg granted, if_neg granted, List.nil_append, ih, List.map_cons, ricAnswer,
        if_neg granted]
      rfl

/-- A response is read back, with what is behind it as the rest. -/
theorem ricResponseParse_append {cap : Nat} {rdieId : UInt8} {list : List (Tspec × UInt16)}
    {b : Bytes} (built : ricResponseBuild cap rdieId list = some b) :
    ricResponseParse (b ++ rest) =
      some ({ rdieId := rdieId, resources := list.map ricAnswer }, rest) := by
  unfold ricResponseBuild at built
  split at built
  · cases built
  rename_i few
  obtain ⟨w, head, built⟩ := Option.bind_eq_some_iff.1 built
  have count := ricCount (Nat.le_of_not_lt few)
  unfold ricResponseParse
  rw [ricResponseLoop_some built, ricRdeBuild_some head, List.append_assoc, ricRdeParse_append]
  dsimp only
  rw [count, if_neg few, rdSkip_append (ricRdeOf_length _), ricResponseResources_append]
  rfl

theorem ricResponseBuild_length {cap : Nat} {rdieId : UInt8} {list : List (Tspec × UInt16)}
    {b : Bytes} (built : ricResponseBuild cap rdieId list = some b) :
    b.length = 6 + (list.flatMap ricResourceOf).length := by
  unfold ricResponseBuild at built
  split at built
  · cases built
  obtain ⟨w, head, built⟩ := Option.bind_eq_some_iff.1 built
  rw [ricResponseLoop_some built, ricRdeBuild_some head, List.length_append, ricRdeOf_length]

/-- A response is refused only for want of room. -/
theorem ricResponseBuild_eq_none_iff {cap : Nat} {rdieId : UInt8} {list : List (Tspec × UInt16)}
    (few : list.length ≤ ricMaxResources) (room : 6 ≤ cap) :
    ricResponseBuild cap rdieId list = none ↔
      cap < 6 + (list.flatMap ricResourceOf).length := by
  have head (r : RicRde) : ricRdeBuild cap r = some (ricRdeOf r) := if_neg (by omega)
  unfold ricResponseBuild
  rw [if_neg (Nat.not_lt.2 few)]
  dsimp only
  rw [head, Option.bind_some, ricResponseLoop_eq (by rw [ricRdeOf_length]; exact room),
    ricRdeOf_length]
  constructor
  · intro refused
    by_contra fits
    rw [if_pos (Nat.le_of_not_lt fits)] at refused
    cases refused
  · intro long
    exact if_neg (by omega)

theorem ricResponseBuild_le {cap : Nat} {rdieId : UInt8} {list : List (Tspec × UInt16)}
    {b : Bytes} (few : list.length ≤ ricMaxResources) (room : 6 ≤ cap)
    (built : ricResponseBuild cap rdieId list = some b) : b.length ≤ cap := by
  by_contra long
  rw [ricResponseBuild_length built, Nat.not_le, ← ricResponseBuild_eq_none_iff few room,
    built] at long
  cases long

/-- With one status for all resources they are all of one size. -/
theorem ricResources_length (status : UInt16) (ts : List Tspec) :
    ((ts.map fun t => (t, status)).flatMap ricResourceOf).length =
      ts.length * if status = ricStatusSuccess then 59 else 2 := by
  induction ts with
  | nil => simp
  | cons t ts ih =>
    rw [List.map_cons, List.flatMap_cons, List.length_append, ih, ricResourceOf_length,
      List.length_cons, Nat.succ_mul, Nat.add_comm]

end Ric

section Codecs

end Codecs

end Rf2a4m1
