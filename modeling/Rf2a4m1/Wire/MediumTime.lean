import Rf2a4m1.Lib.Runs
import Rf2a4m1.Wire.Admission

/-!
# The accounts of the admission table

Each access category has a total beside the slots. Over every sequence of
operations the total is what the slots in use add up to.
-/

set_option autoImplicit false

namespace Rf2a4m1

open Runs

section Shares

variable {α : Type} {l : List α} {f : α → Nat} {i : Nat} {old n : α}

theorem sum_share_set (at' : l[i]? = some old) :
    ((l.set i n).map f).sum + f old = (l.map f).sum + f n := by
  induction l generalizing i with
  | nil => cases at'
  | cons e rest ih =>
    cases i with
    | zero =>
      obtain rfl := Option.some.inj at'
      simp only [List.set_cons_zero, List.map_cons, List.sum_cons]
      omega
    | succ j =>
      have step := ih at'
      simp only [List.set_cons_succ, List.map_cons, List.sum_cons]
      omega

theorem sum_share_le {most : Nat} (bound : ∀ e ∈ l, f e ≤ most) :
    (l.map f).sum ≤ l.length * most := by
  induction l with
  | nil => simp
  | cons e rest ih =>
    have first := bound e List.mem_cons_self
    have others := ih fun g mem => bound g (List.mem_cons_of_mem e mem)
    simp only [List.map_cons, List.sum_cons, List.length_cons, Nat.succ_mul]
    omega

end Shares

/-- The medium time a slot takes of an access category. -/
def TsAdmission.share (ac : Nat) (e : TsAdmission) : Nat :=
  if e.inUse = true ∧ e.ac.toNat = ac then e.mediumTime.toNat else 0

def QosAdmission.admitted (a : QosAdmission) (ac : Nat) : Nat := (a.ts.map (TsAdmission.share ac)).sum

theorem share_unused {e : TsAdmission} (unused : e.inUse = false) (ac : Nat) : e.share ac = 0 := by
  apply if_neg
  rintro ⟨used, _⟩
  rw [unused] at used
  cases used

theorem share_le (e : TsAdmission) (ac : Nat) : e.share ac ≤ 65535 := by
  unfold TsAdmission.share
  split
  · exact Nat.le_of_lt_succ e.mediumTime.toNat_lt
  · exact Nat.zero_le _

/-- The books of a table are in order. -/
structure QosAdmission.Accounted (a : QosAdmission) : Prop where
  slots : a.ts.length = 8
  total : ∀ ac < qosAcCount, (a.acTotal ac).toNat = a.admitted ac
  tsids : ∀ e ∈ a.ts, e.inUse = true → e.tsid.toNat ≤ 15
  acs : ∀ e ∈ a.ts, e.inUse = true → e.ac.toNat < qosAcCount
  single : a.Single

theorem QosAdmission.Accounted.admitted_lt {a : QosAdmission} (books : a.Accounted) (ac : Nat) :
    a.admitted ac < 2 ^ 32 := by
  have bound := sum_share_le fun e (_ : e ∈ a.ts) => share_le e ac
  rw [books.slots] at bound
  unfold QosAdmission.admitted
  omega

theorem qosAdmissionInit_accounted : qosAdmissionInit.Accounted where
  slots := rfl
  total := by
    intro ac _
    unfold QosAdmission.admitted
    have free : TsAdmission.free.share ac = 0 := share_unused rfl ac
    show (0 : UInt32).toNat = ((List.replicate 8 TsAdmission.free).map (TsAdmission.share ac)).sum
    rw [List.map_replicate, free]
    rfl
  tsids := by
    intro e mem used
    rw [List.eq_of_mem_replicate mem] at used
    cases used
  acs := by
    intro e mem used
    rw [List.eq_of_mem_replicate mem] at used
    cases used
  single := free_single rfl

section Steps

variable {a : QosAdmission} {tsid ac direction : UInt8} {mediumTime : UInt16}

theorem setTotal_self (v : UInt32) : a.setTotal ac v ac.toNat = v := if_pos rfl

theorem setTotal_other {k : Nat} (other : k ≠ ac.toNat) (v : UInt32) :
    a.setTotal ac v k = a.acTotal k := if_neg other

theorem qosAdmissionRoom_toNat (a : QosAdmission) (ac : UInt8) :
    (qosAdmissionRoom a ac).toNat = (a.acLimit ac.toNat).toNat - (a.acTotal ac.toNat).toNat := by
  unfold qosAdmissionRoom
  split
  · rename_i room
    exact UInt32.toNat_sub_of_le _ _ room
  · rename_i full
    have below : (a.acLimit ac.toNat).toNat < (a.acTotal ac.toNat).toNat := by
      rw [ge_iff_le, UInt32.le_iff_toNat_le, Nat.not_le] at full
      exact full
    rw [Nat.sub_eq_zero_of_le (Nat.le_of_lt below)]
    rfl

/-- The slot an admission fills. -/
def TsAdmission.stream (tsid ac direction : UInt8) (mediumTime : UInt16) : TsAdmission :=
  { inUse := true, tsid := tsid, ac := ac, direction := direction, mediumTime := mediumTime }

theorem qosAdmissionAdmit_booked
    (ok : (qosAdmissionAdmit a tsid ac direction mediumTime).2 = .ok) :
    tsid.toNat ≤ 15 ∧ ac.toNat < qosAcCount ∧ ¬a.Holds tsid ∧
      mediumTime.toNat ≤ (a.acLimit ac.toNat).toNat - (a.acTotal ac.toNat).toNat ∧
      ∃ i old, a.ts[i]? = some old ∧ old.inUse = false ∧
        (qosAdmissionAdmit a tsid ac direction mediumTime).1 =
          { a with
            ts := a.ts.set i (TsAdmission.stream tsid ac direction mediumTime)
            acTotal := a.setTotal ac (a.acTotal ac.toNat + mediumTime.toUInt32) } := by
  revert ok
  unfold qosAdmissionAdmit
  split
  · intro ok
    cases ok
  rename_i range
  rw [not_or, UInt8.not_lt, Nat.not_le] at range
  split
  · intro ok
    cases ok
  rename_i unheld
  split
  · intro ok
    cases ok
  rename_i room
  split
  · intro ok
    cases ok
  rename_i i found
  intro _
  obtain ⟨bound, test, _⟩ := List.findIdx?_eq_some_iff_getElem.1 found
  refine ⟨range.1, range.2, admFind_none.1 (Option.not_isSome_iff_eq_none.1 unheld), ?_, i, _,
    List.getElem?_eq_getElem bound, by simpa using test, rfl⟩
  rw [gt_iff_lt, UInt32.not_lt, UInt32.le_iff_toNat_le, qosAdmissionRoom_toNat] at room
  exact room

theorem qosAdmissionAdmit_admits (range : tsid.toNat ≤ 15 ∧ ac.toNat < qosAcCount)
    (unheld : ¬a.Holds tsid) (slot : ∃ e ∈ a.ts, e.inUse = false)
    (room : mediumTime.toNat ≤ (a.acLimit ac.toNat).toNat - (a.acTotal ac.toNat).toNat) :
    (qosAdmissionAdmit a tsid ac direction mediumTime).2 = .ok := by
  have inside : ¬(tsid > 0x0f ∨ ac.toNat ≥ qosAcCount) := by
    rintro (high | high)
    · exact absurd (UInt8.lt_iff_toNat_lt.1 high) (Nat.not_lt.2 range.1)
    · exact absurd range.2 (Nat.not_lt.2 high)
  have fits : ¬mediumTime.toUInt32 > qosAdmissionRoom a ac := by
    rw [gt_iff_lt, UInt32.not_lt, UInt32.le_iff_toNat_le, qosAdmissionRoom_toNat]
    exact room
  unfold qosAdmissionAdmit
  rw [if_neg inside, admFind_none.2 unheld, Option.isSome_none, if_neg Bool.false_ne_true,
    if_neg fits]
  split
  · rename_i full
    obtain ⟨e, mem, unused⟩ := slot
    have taken := List.findIdx?_eq_none_iff.1 full e mem
    rw [unused] at taken
    cases taken
  · rfl

/-- An admission adds its medium time to its own category. -/
theorem qosAdmissionAdmit_accounted (books : a.Accounted) :
    (qosAdmissionAdmit a tsid ac direction mediumTime).1.Accounted := by
  by_cases ok : (qosAdmissionAdmit a tsid ac direction mediumTime).2 = .ok
  · have single := @qosAdmissionAdmit_single a tsid ac direction mediumTime books.single
    obtain ⟨low, category, _, _, i, old, at', unused, booked⟩ := qosAdmissionAdmit_booked ok
    rw [booked] at single ⊢
    have mem {e : TsAdmission}
        (mem : e ∈ a.ts.set i (TsAdmission.stream tsid ac direction mediumTime)) :
        e ∈ a.ts ∨ e = TsAdmission.stream tsid ac direction mediumTime :=
      List.mem_or_eq_of_mem_set mem
    have length : (a.ts.set i (TsAdmission.stream tsid ac direction mediumTime)).length = 8 :=
      List.length_set.trans books.slots
    refine ⟨length, ?_, ?_, ?_, single⟩
    · intro k category
      have sum := sum_share_set (f := TsAdmission.share k)
        (n := TsAdmission.stream tsid ac direction mediumTime) at'
      have bound := sum_share_le fun e
        (_ : e ∈ a.ts.set i (TsAdmission.stream tsid ac direction mediumTime)) => share_le e k
      rw [length] at bound
      rw [share_unused unused] at sum
      have before := books.total k category
      unfold QosAdmission.admitted at before ⊢
      by_cases same : k = ac.toNat
      · subst same
        have new : (TsAdmission.stream tsid ac direction mediumTime).share ac.toNat =
            mediumTime.toNat := if_pos ⟨rfl, rfl⟩
        rw [new] at sum
        dsimp only
        rw [setTotal_self, UInt32.toNat_add, before, UInt16.toNat_toUInt32]
        omega
      · have new : (TsAdmission.stream tsid ac direction mediumTime).share k = 0 :=
          if_neg fun mine => same mine.2.symm
        rw [new] at sum
        dsimp only
        rw [setTotal_other same, before]
        omega
    · intro e held used
      rcases mem held with old | rfl
      · exact books.tsids e old used
      · exact low
    · intro e held used
      rcases mem held with old | rfl
      · exact books.acs e old used
      · exact category
  · rcases qosAdmissionAdmit_cases a tsid ac direction mediumTime with ⟨_, same⟩ | ⟨done, _⟩
    · rw [same]
      exact books
    · exact absurd done ok

/-- What a release leaves in the slot. -/
def TsAdmission.released (e : TsAdmission) : TsAdmission :=
  { e with inUse := false, mediumTime := 0 }

theorem qosAdmissionRelease_none (unheld : ¬a.Holds tsid) :
    qosAdmissionRelease a tsid = (a, false) := by
  unfold qosAdmissionRelease
  rw [admFind_none.2 unheld]

/-- A release in a table whose books are in order takes exactly the stream's time back. -/
theorem qosAdmissionRelease_some {i : Nat} {e : TsAdmission} (found : admFind a tsid = some i)
    (get : a.ts[i]? = some e) (category : e.ac.toNat < qosAcCount)
    (covered : e.mediumTime.toNat ≤ (a.acTotal e.ac.toNat).toNat) :
    qosAdmissionRelease a tsid =
      ({ a with
         ts := a.ts.set i e.released
         acTotal := a.setTotal e.ac (a.acTotal e.ac.toNat - e.mediumTime.toUInt32) }, true) := by
  have slot : a.ts.getD i TsAdmission.free = e := by
    rw [List.getD_eq_getElem?_getD, get]
    rfl
  have masked : e.ac &&& 0x03 = e.ac := by
    apply UInt8.toNat_inj.1
    rw [UInt8.toNat_and]
    exact (Nat.and_two_pow_sub_one_eq_mod _ 2).trans (Nat.mod_eq_of_lt category)
  have enough : a.acTotal e.ac.toNat ≥ e.mediumTime.toUInt32 := by
    rw [ge_iff_le, UInt32.le_iff_toNat_le, UInt16.toNat_toUInt32]
    exact covered
  unfold qosAdmissionRelease
  rw [found]
  dsimp only
  rw [slot, masked, if_pos enough]
  rfl

theorem QosAdmission.Accounted.covered (books : a.Accounted) {i : Nat} {e : TsAdmission}
    (get : a.ts[i]? = some e) (used : e.inUse = true) :
    e.mediumTime.toNat ≤ (a.acTotal e.ac.toNat).toNat := by
  have mem := List.mem_of_getElem? get
  have sum := sum_share_set (f := TsAdmission.share e.ac.toNat) (n := TsAdmission.free) get
  have mine : e.share e.ac.toNat = e.mediumTime.toNat := if_pos ⟨used, rfl⟩
  rw [mine, share_unused rfl] at sum
  rw [books.total _ (books.acs e mem used)]
  unfold QosAdmission.admitted
  omega

theorem qosAdmissionRelease_accounted (books : a.Accounted) :
    (qosAdmissionRelease a tsid).1.Accounted := by
  have single := @qosAdmissionRelease_single a tsid books.single
  cases found : admFind a tsid with
  | none =>
    rw [qosAdmissionRelease_none (admFind_none.1 found)]
    exact books
  | some i =>
    obtain ⟨e, get, used, rfl⟩ := admFind_some found
    have category := books.acs e (List.mem_of_getElem? get) used
    have covered := books.covered get used
    rw [qosAdmissionRelease_some found get category covered] at single ⊢
    have others {f : TsAdmission}
        (mem : f ∈ a.ts.set i e.released)
        (inUse : f.inUse = true) : f ∈ a.ts := by
      rcases List.mem_or_eq_of_mem_set mem with old | rfl
      · exact old
      · cases inUse
    refine ⟨List.length_set.trans books.slots, ?_, ?_, ?_, single⟩
    · intro k inside
      have sum := sum_share_set (f := TsAdmission.share k)
        (n := e.released) get
      rw [share_unused (rfl : e.released.inUse = false)] at sum
      have before := books.total k inside
      unfold QosAdmission.admitted at before ⊢
      dsimp only
      by_cases same : k = e.ac.toNat
      · subst same
        have mine : e.share e.ac.toNat = e.mediumTime.toNat := if_pos ⟨used, rfl⟩
        have enough : e.mediumTime.toUInt32 ≤ a.acTotal e.ac.toNat := by
          rw [UInt32.le_iff_toNat_le, UInt16.toNat_toUInt32]
          exact covered
        rw [mine] at sum
        rw [setTotal_self, UInt32.toNat_sub_of_le _ _ enough, UInt16.toNat_toUInt32, before]
        omega
      · have mine : e.share k = 0 := if_neg fun mine => same mine.2.symm
        rw [mine] at sum
        rw [setTotal_other same, before]
        omega
    · intro f mem inUse
      exact books.tsids f (others mem inUse) inUse
    · intro f mem inUse
      exact books.acs f (others mem inUse) inUse

/-- A release right after the admission empties the slot that was filled. -/
theorem qosAdmissionRelease_admitted (books : a.Accounted)
    (ok : (qosAdmissionAdmit a tsid ac direction mediumTime).2 = .ok) :
    ∃ i old, a.ts[i]? = some old ∧ old.inUse = false ∧
      qosAdmissionRelease (qosAdmissionAdmit a tsid ac direction mediumTime).1 tsid =
        ({ a with ts := a.ts.set i (TsAdmission.stream tsid ac direction mediumTime).released },
          true) := by
  have after := @qosAdmissionAdmit_accounted a tsid ac direction mediumTime books
  obtain ⟨_, category, _, _, i, old, at', unused, booked⟩ := qosAdmissionAdmit_booked ok
  refine ⟨i, old, at', unused, ?_⟩
  rw [booked] at after ⊢
  have bound : i < a.ts.length := (List.getElem?_eq_some_iff.1 at').1
  have filled : (a.ts.set i (TsAdmission.stream tsid ac direction mediumTime))[i]? =
      some (TsAdmission.stream tsid ac direction mediumTime) := List.getElem?_set_self bound
  cases found : admFind
      { a with
        ts := a.ts.set i (TsAdmission.stream tsid ac direction mediumTime)
        acTotal := a.setTotal ac (a.acTotal ac.toNat + mediumTime.toUInt32) } tsid with
  | none =>
    refine absurd ?_ (admFind_none.1 found)
    apply holds_iff.2
    exact ⟨TsAdmission.stream tsid ac direction mediumTime, List.mem_of_getElem? filled, rfl, rfl⟩
  | some j =>
    obtain ⟨e, get, used, mine⟩ := admFind_some found
    obtain rfl := after.single j i e _ get filled used rfl mine
    obtain rfl := Option.some.inj (get.symm.trans filled)
    rw [qosAdmissionRelease_some found get category (after.covered get rfl)]
    have totals : QosAdmission.setTotal
        { a with
          ts := a.ts.set j (TsAdmission.stream tsid ac direction mediumTime)
          acTotal := a.setTotal ac (a.acTotal ac.toNat + mediumTime.toUInt32) }
        ac (a.setTotal ac (a.acTotal ac.toNat + mediumTime.toUInt32) ac.toNat -
          mediumTime.toUInt32) = a.acTotal := by
      funext k
      rw [setTotal_self, UInt32.add_sub_cancel]
      by_cases same : k = ac.toNat
      · subst same
        exact setTotal_self _
      · rw [setTotal_other same]
        exact setTotal_other same _
    refine Prod.ext ?_ rfl
    refine QosAdmission.mk.injEq .. ▸ ⟨List.set_set .., totals, rfl⟩

theorem inUse_mem_set {l : List TsAdmission} {i : Nat} {old n e : TsAdmission}
    (at' : l[i]? = some old) (before : old.inUse = false) (after : n.inUse = false)
    (used : e.inUse = true) : e ∈ l.set i n ↔ e ∈ l := by
  constructor
  · intro mem
    rcases List.mem_or_eq_of_mem_set mem with kept | rfl
    · exact kept
    · rw [after] at used
      cases used
  · intro mem
    obtain ⟨j, get⟩ := List.mem_iff_getElem?.1 mem
    refine List.mem_iff_getElem?.2 ⟨j, ?_⟩
    rw [List.getElem?_set_ne, get]
    rintro rfl
    obtain rfl := Option.some.inj (at'.symm.trans get)
    rw [before] at used
    cases used

end Steps

section Calls

/-- A call on the table; a description that is not there is `none`. -/
inductive AdmissionCall where
  | setLimit (ac : UInt8) (limit : UInt32)
  | admission (tsid ac direction : UInt8) (mediumTime : UInt16)
  | admitTspec (granted : Option Tspec)
  | release (tsid : UInt8)
  | releaseTs (ts : Option TsInfo)

def admissionStep (a : QosAdmission) : AdmissionCall → QosAdmission
  | .setLimit ac limit => qosAdmissionSetLimit a ac limit
  | .admission tsid ac direction mediumTime => (qosAdmissionAdmit a tsid ac direction mediumTime).1
  | .admitTspec none => a
  | .admitTspec (some granted) => (qosAdmissionAdmitTspec a granted).1
  | .release tsid => (qosAdmissionRelease a tsid).1
  | .releaseTs none => a
  | .releaseTs (some ts) => (qosAdmissionReleaseTs a ts).1

/-- The calls that answer no; a limit has no answer and is refused by its category. -/
def AdmissionRefused (a : QosAdmission) : AdmissionCall → Prop
  | .setLimit ac _ => qosAcCount ≤ ac.toNat
  | .admission tsid ac direction mediumTime =>
    (qosAdmissionAdmit a tsid ac direction mediumTime).2 ≠ .ok
  | .admitTspec none => True
  | .admitTspec (some granted) => (qosAdmissionAdmitTspec a granted).2 ≠ .ok
  | .release tsid => (qosAdmissionRelease a tsid).2 = false
  | .releaseTs none => True
  | .releaseTs (some ts) => (qosAdmissionReleaseTs a ts).2 = false

variable {a : QosAdmission}

theorem qosAdmissionAdmit_refused {tsid ac direction : UInt8} {mediumTime : UInt16}
    (refused : (qosAdmissionAdmit a tsid ac direction mediumTime).2 ≠ .ok) :
    (qosAdmissionAdmit a tsid ac direction mediumTime).1 = a := by
  rcases qosAdmissionAdmit_cases a tsid ac direction mediumTime with ⟨_, same⟩ | ⟨ok, _⟩
  · exact same
  · exact absurd ok refused

theorem qosAdmissionRelease_refused {tsid : UInt8}
    (refused : (qosAdmissionRelease a tsid).2 = false) : (qosAdmissionRelease a tsid).1 = a := by
  cases found : admFind a tsid with
  | none => rw [qosAdmissionRelease_none (admFind_none.1 found)]
  | some i =>
    unfold qosAdmissionRelease at refused
    rw [found] at refused
    cases refused

theorem admissionStep_refused {call : AdmissionCall} (refused : AdmissionRefused a call) :
    admissionStep a call = a := by
  cases call with
  | setLimit ac limit => exact if_pos refused
  | admission tsid ac direction mediumTime => exact qosAdmissionAdmit_refused refused
  | admitTspec granted =>
    cases granted with
    | none => rfl
    | some granted => exact qosAdmissionAdmit_refused refused
  | release tsid => exact qosAdmissionRelease_refused refused
  | releaseTs ts =>
    cases ts with
    | none => rfl
    | some ts => exact qosAdmissionRelease_refused refused

theorem qosAdmissionSetLimit_accounted {ac : UInt8} {limit : UInt32} (books : a.Accounted) :
    (qosAdmissionSetLimit a ac limit).Accounted := by
  unfold qosAdmissionSetLimit
  split
  · exact books
  · exact ⟨books.slots, books.total, books.tsids, books.acs, books.single⟩

theorem admissionStep_accounted (call : AdmissionCall) (books : a.Accounted) :
    (admissionStep a call).Accounted := by
  cases call with
  | setLimit ac limit => exact qosAdmissionSetLimit_accounted books
  | admission tsid ac direction mediumTime => exact qosAdmissionAdmit_accounted books
  | admitTspec granted =>
    cases granted with
    | none => exact books
    | some granted => exact qosAdmissionAdmit_accounted books
  | release tsid => exact qosAdmissionRelease_accounted books
  | releaseTs ts =>
    cases ts with
    | none => exact books
    | some ts => exact qosAdmissionRelease_accounted books

theorem admission_accounted (run : Reach admissionStep qosAdmissionInit a) : a.Accounted :=
  run.invariant _ qosAdmissionInit_accounted fun _ call books _ =>
    admissionStep_accounted call books

/-- Whatever is called in whatever order: the totals are what the slots add up to, an
admission is granted exactly when there is room for it, and nothing else moves the books. -/
theorem admission_accounting (run : Reach admissionStep qosAdmissionInit a) :
    (∀ ac < qosAcCount, (a.acTotal ac).toNat = a.admitted ac ∧ a.admitted ac < 2 ^ 32) ∧
    a.Single ∧ (∀ e ∈ a.ts, e.inUse = true → e.tsid.toNat ≤ 15) ∧
    (∀ tsid ac direction mediumTime,
      (qosAdmissionAdmit a tsid ac direction mediumTime).2 = .ok ↔
        (tsid.toNat ≤ 15 ∧ ac.toNat < qosAcCount) ∧ ¬a.Holds tsid ∧
          (∃ e ∈ a.ts, e.inUse = false) ∧
          mediumTime.toNat ≤ (a.acLimit ac.toNat).toNat - (a.acTotal ac.toNat).toNat) ∧
    (∀ call, AdmissionRefused a call → admissionStep a call = a) ∧
    ∀ tsid ac direction mediumTime,
      (qosAdmissionAdmit a tsid ac direction mediumTime).2 = .ok →
        ∃ b, qosAdmissionRelease (qosAdmissionAdmit a tsid ac direction mediumTime).1 tsid =
            (b, true) ∧
          b.acTotal = a.acTotal ∧ b.acLimit = a.acLimit ∧
          ∀ e : TsAdmission, e.inUse = true → (e ∈ b.ts ↔ e ∈ a.ts) := by
  have books := admission_accounted run
  refine ⟨fun ac inside => ⟨books.total ac inside, books.admitted_lt ac⟩, books.single,
    books.tsids, ?_, fun call refused => admissionStep_refused refused, ?_⟩
  · intro tsid ac direction mediumTime
    constructor
    · intro ok
      obtain ⟨low, category, unheld, room, i, old, at', unused, _⟩ := qosAdmissionAdmit_booked ok
      exact ⟨⟨low, category⟩, unheld, ⟨old, List.mem_of_getElem? at', unused⟩, room⟩
    · rintro ⟨range, unheld, slot, room⟩
      exact qosAdmissionAdmit_admits range unheld slot room
  · intro tsid ac direction mediumTime ok
    obtain ⟨i, old, at', unused, released⟩ := qosAdmissionRelease_admitted books ok
    exact ⟨_, released, rfl, rfl, fun e used => inUse_mem_set at' unused rfl used⟩

/-- A stream of the video category, then a ceiling under what it takes. -/
def lowered : List AdmissionCall := [.admission 3 2 0 100, .setLimit 2 50]

theorem admission_accounting_lowered :
    ((lowered.foldl admissionStep qosAdmissionInit).acTotal 2).toNat = 100 ∧
      (lowered.foldl admissionStep qosAdmissionInit).admitted 2 = 100 := by
  have total : ((lowered.foldl admissionStep qosAdmissionInit).acTotal 2).toNat = 100 := by decide
  have accounts := (admission_accounting (Run.reach lowered)).1 2 (by decide)
  exact ⟨total, accounts.1.symm.trans total⟩

end Calls

end Rf2a4m1
