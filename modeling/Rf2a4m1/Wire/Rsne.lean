import Rf2a4m1.Wire.Pmf

/-!
# The RSN element

Three counted lists come before what management frame protection is decided
by, and every field but the first may be missing with all that follow it.
-/

set_option autoImplicit false

namespace Rf2a4m1

open ByteString

/-- A list of suites or of key identifiers, behind its count. -/
def counted {width : Nat} (l : List (Octets width)) : Bytes :=
  putLe16 (UInt16.ofNat l.length) ++ l.flatMap Octets.bytes

structure RsneFields where
  version : UInt16
  group : Octets 4
  pairwise : List (Octets 4)
  akm : List (Octets 4)
  caps : UInt16
  pmkids : List (Octets 16)
  groupMgmt : Octets 4

/-- The last field that is written. -/
inductive RsneEnd where
  | version
  | group
  | pairwise
  | akm
  | caps
  | pmkids
  | groupMgmt
deriving DecidableEq

/-- How many fields are written. -/
def RsneEnd.fields : RsneEnd → Nat
  | version => 1
  | group => 2
  | pairwise => 3
  | akm => 4
  | caps => 5
  | pmkids => 6
  | groupMgmt => 7

def RsneFields.parts (f : RsneFields) : List Bytes :=
  [putLe16 f.version, f.group.bytes, counted f.pairwise, counted f.akm, putLe16 f.caps,
    counted f.pmkids, f.groupMgmt.bytes]

/-- The body of the element that ends with this field. -/
def RsneFields.body (f : RsneFields) (e : RsneEnd) : Bytes := (f.parts.take e.fields).flatten

/-- What an element that ends with this field tells. -/
def RsneFields.info (f : RsneFields) (e : RsneEnd) : RsneInfo :=
  { rsnCaps := if RsneEnd.caps.fields ≤ e.fields then f.caps else 0
    hasGroupMgmt := decide (e = .groupMgmt) }

/-- The element with this body. -/
def rsneElement (body : Bytes) : Bytes := [48, UInt8.ofNat body.length] ++ body

section Stages

def rsneInfoPlain : RsneInfo := { rsnCaps := 0, hasGroupMgmt := false }

/-- The parser from the capabilities on. -/
def rsneParseCaps (b : Bytes) : Option RsneInfo :=
  if b.length < 2 then some rsneInfoPlain else rsneParseTail (getLe16 b 0) (b.drop 2)

/-- The parser from a list of suites on. -/
def rsneParseList (next : Bytes → Option RsneInfo) (b : Bytes) : Option RsneInfo :=
  if b.length < 2 then some rsneInfoPlain else (rsneSkipList 4 b).bind next

/-- The parser, list by list. -/
theorem rsneParseBody_stages (b : Bytes) :
    rsneParseBody b =
      if b.length < 2 then none
      else if (b.drop 2).length < 4 then some rsneInfoPlain
      else rsneParseList (rsneParseList rsneParseCaps) ((b.drop 2).drop 4) := by
  unfold rsneParseBody rsneParseList
  dsimp only
  split
  · rfl
  split
  · rfl
  split
  · rfl
  cases rsneSkipList 4 ((b.drop 2).drop 4) with
  | none => rfl
  | some r =>
    dsimp only [Option.bind_some]
    split
    · rfl
    cases rsneSkipList 4 r <;> rfl

theorem counted_length {width : Nat} (l : List (Octets width)) :
    (counted l).length = 2 + l.length * width := by
  have flat : (l.flatMap Octets.bytes).length = l.length * width := by
    rw [List.length_flatMap]
    simp
  rw [counted, List.length_append, putLe16_length, flat]

theorem getLe16_put_append (v : UInt16) (rest : Bytes) : getLe16 (putLe16 v ++ rest) 0 = v := by
  have field : slice (putLe16 v ++ rest) 0 2 = putLe16 v := slice_append_left (putLe16_length v)
  have alone : slice (putLe16 v) 0 2 = putLe16 v := by
    rw [slice, List.drop_zero, List.take_of_length_le (Nat.le_of_eq (putLe16_length v))]
  have value := getLe16_put v
  rw [getLe16, alone] at value
  rw [getLe16, field, value]

/-- A list is skipped with all of its entries. -/
theorem rsneSkipList_counted {width : Nat} {l : List (Octets width)} (few : l.length < 65536)
    (rest : Bytes) : rsneSkipList width (counted l ++ rest) = some rest := by
  have count : (getLe16 (counted l ++ rest) 0).toNat = l.length := by
    rw [counted, List.append_assoc, getLe16_put_append, UInt16.toNat_ofNat']
    exact Nat.mod_eq_of_lt few
  have size : (counted l ++ rest).length = 2 + l.length * width + rest.length := by
    rw [List.length_append, counted_length]
  unfold rsneSkipList
  dsimp only
  rw [count, if_neg (by omega), List.drop_left' (counted_length l)]

/-- A count of more entries than there is room for. -/
theorem rsneSkipList_overrun {width : Nat} {n : UInt16} {r : Bytes}
    (overruns : n.toNat * width > r.length) : rsneSkipList width (putLe16 n ++ r) = none := by
  have size : (putLe16 n ++ r).length = 2 + r.length := by
    rw [List.length_append, putLe16_length]
  unfold rsneSkipList
  dsimp only
  rw [getLe16_put_append, if_pos (by omega)]

variable {next : Bytes → Option RsneInfo} {l : List (Octets 4)} {rest : Bytes}

theorem rsneParseList_counted (few : l.length < 65536) :
    rsneParseList next (counted l ++ rest) = next rest := by
  have size : (counted l ++ rest).length = 2 + l.length * 4 + rest.length := by
    rw [List.length_append, counted_length]
  unfold rsneParseList
  rw [if_neg (by omega), rsneSkipList_counted few, Option.bind_some]

theorem rsneParseList_overrun {n : UInt16} (overruns : n.toNat * 4 > rest.length) :
    rsneParseList next (putLe16 n ++ rest) = none := by
  have size : (putLe16 n ++ rest).length = 2 + rest.length := by
    rw [List.length_append, putLe16_length]
  unfold rsneParseList
  rw [if_neg (by omega), rsneSkipList_overrun overruns, Option.bind_none]

theorem rsneParseCaps_put (caps : UInt16) :
    rsneParseCaps (putLe16 caps ++ rest) = rsneParseTail caps rest := by
  have size : (putLe16 caps ++ rest).length = 2 + rest.length := by
    rw [List.length_append, putLe16_length]
  unfold rsneParseCaps
  rw [if_neg (by omega), getLe16_put_append, List.drop_left' (putLe16_length caps)]

theorem rsneParseTail_counted {pmkids : List (Octets 16)} (few : pmkids.length < 65536)
    (caps : UInt16) :
    rsneParseTail caps (counted pmkids ++ rest) =
      some { rsnCaps := caps, hasGroupMgmt := decide (rest.length ≥ 4) } := by
  have size : (counted pmkids ++ rest).length = 2 + pmkids.length * 16 + rest.length := by
    rw [List.length_append, counted_length]
  unfold rsneParseTail
  rw [if_neg (by omega), rsneSkipList_counted few, Option.map_some]

theorem rsneParseTail_overrun {n : UInt16} (overruns : n.toNat * 16 > rest.length)
    (caps : UInt16) : rsneParseTail caps (putLe16 n ++ rest) = none := by
  have size : (putLe16 n ++ rest).length = 2 + rest.length := by
    rw [List.length_append, putLe16_length]
  unfold rsneParseTail
  rw [if_neg (by omega), rsneSkipList_overrun overruns, Option.map_none]

/-- Behind version and group cipher come the lists. -/
theorem rsneParseBody_lists (version : UInt16) (group : Octets 4) :
    rsneParseBody (putLe16 version ++ (group.bytes ++ rest)) =
      rsneParseList (rsneParseList rsneParseCaps) rest := by
  have size : (putLe16 version ++ (group.bytes ++ rest)).length = 2 + (4 + rest.length) := by
    rw [List.length_append, List.length_append, putLe16_length, group.length_bytes]
  have behind : (group.bytes ++ rest).length = 4 + rest.length := by
    rw [List.length_append, group.length_bytes]
  rw [rsneParseBody_stages, if_neg (by omega), List.drop_left' (putLe16_length version),
    List.drop_left' group.length_bytes, if_neg (by omega)]

end Stages

section Written

variable (f : RsneFields)

/-- Lists that fit an element are short. -/
theorem RsneFields.few {f : RsneFields} {e : RsneEnd} (fits : (f.body e).length ≤ 255) :
    (RsneEnd.pairwise.fields ≤ e.fields → f.pairwise.length < 65536) ∧
    (RsneEnd.akm.fields ≤ e.fields → f.akm.length < 65536) ∧
    (RsneEnd.pmkids.fields ≤ e.fields → f.pmkids.length < 65536) := by
  cases e <;>
    simp [RsneFields.body, RsneFields.parts, RsneEnd.fields, counted_length] at fits ⊢ <;> omega

theorem rsneParseBody_written {e : RsneEnd} (fits : (f.body e).length ≤ 255) :
    rsneParseBody (f.body e) = some (f.info e) := by
  obtain ⟨pairwise, akm, pmkids⟩ := RsneFields.few fits
  have ended (next : Bytes → Option RsneInfo) : rsneParseList next [] = some rsneInfoPlain := rfl
  -- The fields are taken off in order, and the parser stops where they do.
  cases e with
  | version =>
    have whole : f.body .version = putLe16 f.version ++ [] := rfl
    rw [whole, List.append_nil, rsneParseBody_stages, putLe16_length, if_neg (by decide),
      List.drop_of_length_le (Nat.le_of_eq (putLe16_length _))]
    rfl
  | group =>
    have whole : f.body .group = putLe16 f.version ++ (f.group.bytes ++ []) := rfl
    rw [whole, rsneParseBody_lists, ended]
    rfl
  | pairwise =>
    have whole : f.body .pairwise =
        putLe16 f.version ++ (f.group.bytes ++ (counted f.pairwise ++ [])) := rfl
    rw [whole, rsneParseBody_lists, rsneParseList_counted (pairwise (by decide)), ended]
    rfl
  | akm =>
    have whole : f.body .akm =
        putLe16 f.version ++ (f.group.bytes ++ (counted f.pairwise ++ (counted f.akm ++ []))) := rfl
    rw [whole, rsneParseBody_lists, rsneParseList_counted (pairwise (by decide)),
      rsneParseList_counted (akm (by decide))]
    rfl
  | caps =>
    have whole : f.body .caps = putLe16 f.version ++ (f.group.bytes ++ (counted f.pairwise ++
        (counted f.akm ++ (putLe16 f.caps ++ [])))) := rfl
    rw [whole, rsneParseBody_lists, rsneParseList_counted (pairwise (by decide)),
      rsneParseList_counted (akm (by decide)), rsneParseCaps_put]
    rfl
  | pmkids =>
    have whole : f.body .pmkids = putLe16 f.version ++ (f.group.bytes ++ (counted f.pairwise ++
        (counted f.akm ++ (putLe16 f.caps ++ (counted f.pmkids ++ []))))) := rfl
    rw [whole, rsneParseBody_lists, rsneParseList_counted (pairwise (by decide)),
      rsneParseList_counted (akm (by decide)), rsneParseCaps_put,
      rsneParseTail_counted (pmkids (by decide))]
    rfl
  | groupMgmt =>
    have whole : f.body .groupMgmt = putLe16 f.version ++ (f.group.bytes ++ (counted f.pairwise ++
        (counted f.akm ++ (putLe16 f.caps ++ (counted f.pmkids ++
          (f.groupMgmt.bytes ++ [])))))) := rfl
    rw [whole, rsneParseBody_lists, rsneParseList_counted (pairwise (by decide)),
      rsneParseList_counted (akm (by decide)), rsneParseCaps_put,
      rsneParseTail_counted (pmkids (by decide)), List.append_nil, f.groupMgmt.length_bytes]
    rfl

/-- The element is found by its header, whatever follows it. -/
theorem pmfRsneParse_element {body : Bytes} (fits : body.length ≤ 255) (rest : Bytes) :
    pmfRsneParse (rsneElement body ++ rest) = rsneParseBody body := by
  have size : (rsneElement body ++ rest).length = 2 + body.length + rest.length := by
    rw [rsneElement, List.length_append, List.length_append]
    rfl
  have counts : (byteAt (rsneElement body ++ rest) 1).toNat = body.length := by
    have second : byteAt (rsneElement body ++ rest) 1 = UInt8.ofNat body.length := rfl
    rw [second, UInt8.toNat_ofNat']
    exact Nat.mod_eq_of_lt (Nat.lt_succ_of_le fits)
  have inner : slice (rsneElement body ++ rest) 2 body.length = body := slice_append_left rfl
  have id : byteAt (rsneElement body ++ rest) 0 = 48 := rfl
  unfold pmfRsneParse
  dsimp only
  rw [if_neg (not_or.2 ⟨by omega, not_not.2 id⟩), counts, if_neg (by omega), inner]

/-- A count that overruns: with `n` entries declared and `r` left of the element. -/
inductive Overrun : Bytes → Prop where
  | pairwise {version : UInt16} {group : Octets 4} {n : UInt16} {r : Bytes} :
      n.toNat * 4 > r.length → Overrun (putLe16 version ++ (group.bytes ++ (putLe16 n ++ r)))
  | akm {version : UInt16} {group : Octets 4} {pairwise : List (Octets 4)} {n : UInt16}
      {r : Bytes} : n.toNat * 4 > r.length →
      Overrun (putLe16 version ++ (group.bytes ++ (counted pairwise ++ (putLe16 n ++ r))))
  | pmkids {version : UInt16} {group : Octets 4} {pairwise akm : List (Octets 4)} {caps n : UInt16}
      {r : Bytes} : n.toNat * 16 > r.length →
      Overrun (putLe16 version ++ (group.bytes ++ (counted pairwise ++ (counted akm ++
        (putLe16 caps ++ (putLe16 n ++ r))))))

theorem rsneParseBody_overrun {body : Bytes} (fits : body.length ≤ 255)
    (overruns : Overrun body) : rsneParseBody body = none := by
  cases overruns with
  | pairwise many => rw [rsneParseBody_lists, rsneParseList_overrun many]
  | akm many =>
    simp only [List.length_append, counted_length] at fits
    rw [rsneParseBody_lists, rsneParseList_counted (by omega), rsneParseList_overrun many]
  | pmkids many =>
    simp only [List.length_append, counted_length] at fits
    rw [rsneParseBody_lists, rsneParseList_counted (by omega), rsneParseList_counted (by omega),
      rsneParseCaps_put, rsneParseTail_overrun many]

end Written

section Built

/-- The fields of the element that is built. -/
def rsneBuilt (caps : UInt16) (akm : UInt8) : RsneFields :=
  { version := 1
    group := Octets.of 4 (rsnOui ++ [4])
    pairwise := [Octets.of 4 (rsnOui ++ [4])]
    akm := [Octets.of 4 (rsnOui ++ [akm])]
    caps := caps
    pmkids := []
    groupMgmt := Octets.of 4 (rsnOui ++ [6]) }

def rsneBuiltEnd (caps : UInt16) : RsneEnd := if pmfCapsMfpc caps then .groupMgmt else .caps

theorem pmfRsneBuild_element (cap : Nat) (caps : UInt16) (akm : UInt8) :
    pmfRsneBuild cap caps akm =
      if cap < 2 + ((rsneBuilt caps akm).body (rsneBuiltEnd caps)).length then none
      else some (rsneElement ((rsneBuilt caps akm).body (rsneBuiltEnd caps))) := by
  have suite (x : UInt8) : (Octets.of 4 (rsnOui ++ [x])).bytes = rsnOui ++ [x] :=
    Octets.of_bytes_of_length rfl
  have body : putLe16 1 ++ rsnOui ++ [4] ++ putLe16 1 ++ rsnOui ++ [4] ++ putLe16 1 ++ rsnOui ++
      [akm] ++ putLe16 caps ++ (if pmfCapsMfpc caps then putLe16 0 ++ rsnOui ++ [6] else []) =
      (rsneBuilt caps akm).body (rsneBuiltEnd caps) := by
    unfold rsneBuiltEnd RsneFields.body RsneFields.parts rsneBuilt
    cases pmfCapsMfpc caps <;> simp [RsneEnd.fields, counted, suite]
  unfold pmfRsneBuild
  dsimp only
  rw [body]
  rfl

theorem rsneBuilt_length (caps : UInt16) (akm : UInt8) :
    ((rsneBuilt caps akm).body (rsneBuiltEnd caps)).length ≤ 26 := by
  unfold rsneBuiltEnd
  cases pmfCapsMfpc caps <;>
    simp [RsneFields.body, RsneFields.parts, rsneBuilt, RsneEnd.fields, counted_length]

end Built

section Reads

/-- A number of two octets, when both are inside. -/
def readLe16 (b : Bytes) (off : Nat) : Option UInt16 :=
  if off + 2 ≤ b.length then some (getLe16 b off) else none

/-- A counted list, by the pointer and the number of octets left. -/
def rsneListRead (width : Nat) (el : Bytes) (b rem : Nat) : Option (Option (Nat × Nat)) :=
  (readLe16 el b).map fun count =>
    if count.toNat * width > rem - 2 then none
    else some (b + 2 + count.toNat * width, rem - 2 - count.toNat * width)

def rsneCapsRead (el : Bytes) (b rem : Nat) : Option (Option RsneInfo) :=
  if rem < 2 then some (some rsneInfoPlain)
  else
    (readLe16 el b).bind fun caps =>
      if rem - 2 < 2 then some (some { rsnCaps := caps, hasGroupMgmt := false })
      else
        (rsneListRead 16 el (b + 2) (rem - 2)).map fun skipped =>
          skipped.map fun (_, rem) => { rsnCaps := caps, hasGroupMgmt := decide (rem ≥ 4) }

def rsneSuitesRead (next : Nat → Nat → Option (Option RsneInfo)) (el : Bytes) (b rem : Nat) :
    Option (Option RsneInfo) :=
  if rem < 2 then some (some rsneInfoPlain)
  else
    (rsneListRead 4 el b rem).bind fun skipped =>
      match skipped with
      | none => some none
      | some (b, rem) => next b rem

/-- The parser with its pointer and the number of octets left. Each read is checked against the
end of the element, and nothing comes of one outside. -/
def pmfRsneRead (ie : Bytes) : Option (Option RsneInfo) :=
  if ie.length < 2 then some none
  else
    ie[0]?.bind fun eid =>
      if eid ≠ 48 then some none
      else
        ie[1]?.bind fun dlen =>
          if 2 + dlen.toNat > ie.length then some none
          else
            let el := ie.take (2 + dlen.toNat)
            let rem := dlen.toNat
            if rem < 2 then some none
            else if rem - 2 < 4 then some (some rsneInfoPlain)
            else
              rsneSuitesRead (rsneSuitesRead (rsneCapsRead el) el) el (2 + 2 + 4) (rem - 2 - 4)

variable {el : Bytes} {b rem : Nat}

theorem readLe16_ahead (inside : b + 2 ≤ el.length) :
    readLe16 el b = some (getLe16 (el.drop b) 0) := by
  rw [readLe16, if_pos inside, getLe16, getLe16, slice, slice, List.drop_drop]
  rfl

/-- The pointer moves to where the list ends. -/
theorem rsneListRead_skip (width : Nat) (ends : b + rem = el.length) (holds : 2 ≤ rem) :
    (rsneListRead width el b rem = some none ∧ rsneSkipList width (el.drop b) = none) ∨
      ∃ b' rem', b' + rem' = el.length ∧ rsneListRead width el b rem = some (some (b', rem')) ∧
        rsneSkipList width (el.drop b) = some (el.drop b') := by
  have size : (el.drop b).length = rem := by
    rw [List.length_drop]
    omega
  unfold rsneListRead rsneSkipList
  rw [readLe16_ahead (by omega), Option.map_some, size]
  dsimp only
  by_cases overruns : (getLe16 (el.drop b) 0).toNat * width > rem - 2
  · rw [if_pos overruns, if_pos overruns]
    exact Or.inl ⟨rfl, rfl⟩
  · rw [if_neg overruns, if_neg overruns, List.drop_drop, ← Nat.add_assoc]
    exact Or.inr ⟨_, _, by omega, rfl, rfl⟩

theorem rsneCapsRead_parse (ends : b + rem = el.length) :
    rsneCapsRead el b rem = some (rsneParseCaps (el.drop b)) := by
  have size : (el.drop b).length = rem := by
    rw [List.length_drop]
    omega
  have size' : (el.drop (b + 2)).length = rem - 2 := by
    rw [List.length_drop]
    omega
  unfold rsneCapsRead rsneParseCaps rsneParseTail
  rw [size, List.drop_drop, size']
  by_cases short : rem < 2
  · rw [if_pos short, if_pos short]
  rw [if_neg short, if_neg short, readLe16_ahead (by omega), Option.bind_some]
  by_cases last : rem - 2 < 2
  · rw [if_pos last, if_pos last]
  rw [if_neg last, if_neg last]
  have behind : b + 2 + (rem - 2) = el.length := by omega
  obtain ⟨read, skips⟩ | ⟨b', rem', ends', read, skips⟩ :=
    rsneListRead_skip 16 behind (Nat.not_lt.1 last)
  · rw [read, skips]
    rfl
  · have left : (el.drop b').length = rem' := by
      rw [List.length_drop]
      omega
    rw [read, skips, Option.map_some, Option.map_some, Option.map_some, left]

theorem rsneSuitesRead_parse {next : Nat → Nat → Option (Option RsneInfo)}
    {next' : Bytes → Option RsneInfo}
    (agrees : ∀ b rem, b + rem = el.length → next b rem = some (next' (el.drop b)))
    (ends : b + rem = el.length) :
    rsneSuitesRead next el b rem = some (rsneParseList next' (el.drop b)) := by
  have size : (el.drop b).length = rem := by
    rw [List.length_drop]
    omega
  unfold rsneSuitesRead rsneParseList
  rw [size]
  by_cases short : rem < 2
  · rw [if_pos short, if_pos short]
  rw [if_neg short, if_neg short]
  obtain ⟨read, skips⟩ | ⟨b', rem', ends', read, skips⟩ :=
    rsneListRead_skip 4 ends (Nat.not_lt.1 short)
  · rw [read, skips]
    rfl
  · rw [read, skips]
    exact agrees b' rem' ends'

/-- The parser reads nothing outside the element. -/
theorem pmfRsneRead_parse (ie : Bytes) : pmfRsneRead ie = some (pmfRsneParse ie) := by
  unfold pmfRsneRead pmfRsneParse
  by_cases short : ie.length < 2
  · rw [if_pos short, if_pos (Or.inl short)]
  have octet {i : Nat} (inside : i < ie.length) : ie[i]? = some (byteAt ie i) := by
    rw [byteAt, List.getD_eq_getElem?_getD, List.getElem?_eq_getElem inside, Option.getD_some]
  rw [if_neg short, octet (by omega), octet (by omega), Option.bind_some]
  by_cases other : byteAt ie 0 ≠ 48
  · rw [if_pos other, if_pos (Or.inr other)]
  rw [if_neg other, if_neg (not_or.2 ⟨short, other⟩), Option.bind_some]
  dsimp only
  by_cases overrun : 2 + (byteAt ie 1).toNat > ie.length
  · rw [if_pos overrun, if_pos overrun]
  rw [if_neg overrun, if_neg overrun]
  generalize (byteAt ie 1).toNat = dlen at overrun
  have body : slice ie 2 dlen = (ie.take (2 + dlen)).drop 2 := by
    rw [slice, List.drop_take, Nat.add_sub_cancel_left]
  have whole : (ie.take (2 + dlen)).length = 2 + dlen := by
    rw [List.length_take]
    omega
  generalize ie.take (2 + dlen) = el at body whole
  have size : (el.drop 2).length = dlen := by
    rw [List.length_drop]
    omega
  rw [body, rsneParseBody_stages, List.length_drop (l := el.drop 2), size]
  by_cases none : dlen < 2
  · rw [if_pos none, if_pos none]
  rw [if_neg none, if_neg none]
  by_cases version : dlen - 2 < 4
  · rw [if_pos version, if_pos version]
  rw [if_neg version, if_neg version, List.drop_drop, List.drop_drop]
  apply rsneSuitesRead_parse
  · intro b rem ends
    exact rsneSuitesRead_parse (fun _ _ => rsneCapsRead_parse) ends
  · omega

/-- Written elements are parsed to what they carry, those with a count that overruns are refused,
nothing outside the element is read, and the element that is built tells its capabilities and has
a group management cipher exactly when it is MFP capable. -/
theorem rsne_parsed :
    (∀ (f : RsneFields) (e : RsneEnd) (rest : Bytes), (f.body e).length ≤ 255 →
      pmfRsneParse (rsneElement (f.body e) ++ rest) = some (f.info e)) ∧
    (∀ body rest : Bytes, body.length ≤ 255 → Overrun body →
      pmfRsneParse (rsneElement body ++ rest) = none) ∧
    (∀ ie : Bytes, pmfRsneRead ie = some (pmfRsneParse ie)) ∧
    (∀ (cap : Nat) (caps : UInt16) (akm : UInt8),
      (28 ≤ cap → (pmfRsneBuild cap caps akm).isSome) ∧
      ∀ ie, pmfRsneBuild cap caps akm = some ie →
        pmfRsneParse ie = some { rsnCaps := caps, hasGroupMgmt := pmfCapsMfpc caps }) := by
  refine ⟨?_, ?_, pmfRsneRead_parse, ?_⟩
  · intro f e rest fits
    rw [pmfRsneParse_element fits, rsneParseBody_written f fits]
  · intro body rest fits overruns
    rw [pmfRsneParse_element fits, rsneParseBody_overrun fits overruns]
  · intro cap caps akm
    rw [pmfRsneBuild_element]
    have size := rsneBuilt_length caps akm
    have fits := Nat.le_trans size (by decide : 26 ≤ 255)
    constructor
    · intro room
      rw [if_neg (by omega)]
      rfl
    · intro ie built
      split at built
      · cases built
      cases built
      have parsed := pmfRsneParse_element fits []
      rw [List.append_nil, rsneParseBody_written _ fits] at parsed
      rw [parsed]
      unfold rsneBuiltEnd RsneFields.info
      cases pmfCapsMfpc caps <;> rfl

/-- An element that ends with its pairwise suites. -/
theorem rsne_parsed_pairwise :
    pmfRsneParse (rsneElement ((rsneBuilt 0x80 2).body .pairwise) ++ [7]) =
      some { rsnCaps := 0, hasGroupMgmt := false } :=
  rsne_parsed.1 (rsneBuilt 0x80 2) .pairwise [7] (by decide)

end Reads

end Rf2a4m1
