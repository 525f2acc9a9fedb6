import Rf2a4m1.Lib.Runs
import Rf2a4m1.Sme.Admission
import Rf2a4m1.Sme.Demo

/-!
# Reservations of two ends

A station asks an AP for medium time and gives it back, over a network that
loses, repeats and reorders frames. No frame says which call it belongs to, so
one that comes late is taken for one that is due.
-/

set_option autoImplicit false

namespace Rf2a4m1

open ByteString Runs

/-- A call of the station that was accepted. -/
inductive TsCall where
  | addts (tsid ac direction : UInt8) (mediumTime : UInt16)
  | delts (tsid : UInt8)
deriving DecidableEq

/-- A frame in flight, with the number of the call behind it. -/
structure Letter where
  call : Nat
  frame : Bytes

/--
The two ends. Calls are numbered from the first one, and `heard` are those the AP
heard of; `owner` is the request that created a reservation there, and `answer`
what the station recorded last for a request.
-/
structure Bookers where
  sta : Sme
  ap : Sme
  calls : List TsCall
  heard : List Nat
  owner : UInt8 → Option Nat
  answer : Nat → Option UInt16

/-- The two ends and the frames in flight. -/
structure Booking extends Bookers where
  toAp : List Letter
  toSta : List Letter

inductive BookingOp where
  | addts (tsid ac direction : UInt8) (mediumTime : UInt16)
  | delts (tsid : UInt8)
  | repeatToAp (i : Nat)
  | repeatToSta (i : Nat)
  | loseToAp (i : Nat)
  | loseToSta (i : Nat)
  | hearAp (sib : Siblings) (i : Nat)
  | hearSta (sib : Siblings) (i : Nat)

namespace Booking

def start (sta ap : Sme) : Booking :=
  { sta := sta, ap := ap, calls := [], toAp := [], toSta := [], heard := []
    owner := fun _ => none, answer := fun _ => none }

/-- The station makes a call; what it sends is in flight under the number of the call. -/
def called (c : Booking) (call : TsCall) (r : Sme × S8021xStatus) : Booking :=
  { c with
    sta := r.1
    calls := if r.2 = .ok then c.calls ++ [call] else c.calls
    toAp := c.toAp ++ (newSent c.sta r.1).map (Letter.mk c.calls.length) }

/-- The AP hears a frame; a stream that is new in its table belongs to the call behind it. -/
def heardBy (c : Booking) (call : Nat) (ap : Sme) : Booking :=
  { c with
    ap := ap
    toSta := c.toSta ++ (newSent c.ap ap).map (Letter.mk call)
    heard := call :: c.heard
    owner := fun tsid =>
      if admFind c.ap.admission tsid = none ∧ admFind ap.admission tsid ≠ none then some call
      else c.owner tsid }

def answered (c : Booking) (call : Nat) (sta : Sme) : Booking :=
  { c with
    sta := sta
    answer := fun n => if n = call then some sta.addtsLastStatus else c.answer n }

/-- Any frame in flight may be heard next, lost or repeated. -/
def step (env : Env) (c : Booking) : BookingOp → Booking
  | .addts tsid ac direction mediumTime =>
    c.called (.addts tsid ac direction mediumTime)
      (smeAddtsRequest c.sta tsid ac direction mediumTime)
  | .delts tsid => c.called (.delts tsid) (smeDelts c.sta tsid)
  | .repeatToAp i => { c with toAp := c.toAp ++ c.toAp[i]?.toList }
  | .repeatToSta i => { c with toSta := c.toSta ++ c.toSta[i]?.toList }
  | .loseToAp i => { c with toAp := c.toAp.eraseIdx i }
  | .loseToSta i => { c with toSta := c.toSta.eraseIdx i }
  | .hearAp sib i =>
    match c.toAp[i]? with
    | none => c
    | some l => { c with toAp := c.toAp.eraseIdx i }.heardBy l.call (smeRx env sib c.ap l.frame).1
  | .hearSta sib i =>
    match c.toSta[i]? with
    | none => c
    | some l =>
      { c with toSta := c.toSta.eraseIdx i }.answered l.call (smeRx env sib c.sta l.frame).1

/-- Nothing is in flight, and every teardown was heard. -/
def Quiet (c : Booking) : Prop :=
  c.toAp = [] ∧ c.toSta = [] ∧ ∀ n tsid, c.calls[n]? = some (.delts tsid) → n ∈ c.heard

end Booking

/-- The tables agree, and what was refused is not reserved. -/
structure Agreed (c : Booking) : Prop where
  recorded : ∀ tsid ac mediumTime, c.sta.admission.Recorded tsid ac mediumTime →
    c.ap.admission.Recorded tsid ac mediumTime
  refused : ∀ n status, c.answer n = some status → status ≠ 0 →
    ∀ tsid, c.owner tsid = some n → ¬c.ap.admission.Holds tsid

/-- A station and an AP that are connected, with tables that agree. -/
structure Booked (sta ap : Sme) : Prop where
  roles : sta.role = .sta ∧ ap.role = .ap
  up : sta.state = .connected ∧ ap.state = .connected
  single : sta.admission.Single ∧ ap.admission.Single
  recorded : ∀ tsid ac mediumTime, sta.admission.Recorded tsid ac mediumTime →
    ap.admission.Recorded tsid ac mediumTime

/-- Every teardown of a stream was called before call `n`. -/
def DeltsBefore (calls : List TsCall) (tsid : UInt8) (n : Nat) : Prop :=
  ∀ m, calls[m]? = some (.delts tsid) → m < n

/-- The answer that a frame carries admits the stream. -/
def admits (frame : Bytes) : Bool :=
  (addtsRspParse (frameBody frame)).any fun r => r.2.1 = 0

/--
A request is heard once, no teardown is heard after a newer reservation of the
stream, and no admission after a newer teardown.
-/
def InTime (c : Booking) : BookingOp → Prop
  | .hearAp _ i => ∀ l, c.toAp[i]? = some l →
      (∀ tsid ac direction mediumTime,
        c.calls[l.call]? = some (.addts tsid ac direction mediumTime) → l.call ∉ c.heard) ∧
      ∀ tsid, c.calls[l.call]? = some (.delts tsid) → c.ap.admission.Holds tsid →
        ∀ n, c.owner tsid = some n → n < l.call
  | .hearSta _ i => ∀ l, c.toSta[i]? = some l → admits l.frame = true →
      ∀ tsid ac direction mediumTime,
        c.calls[l.call]? = some (.addts tsid ac direction mediumTime) →
        DeltsBefore c.calls tsid l.call
  | _ => True

/-- A frame for the AP is a request or a teardown of the station. -/
inductive Posted (calls : List TsCall) (l : Letter) : Prop where
  | addts (tsid ac direction : UInt8) (mediumTime : UInt16) (src : MacAddr) (dialog : UInt8)
    (small : ¬tsid > 0x0f) (call : calls[l.call]? = some (.addts tsid ac direction mediumTime))
    (frame : l.frame = addtsReqFrame src dialog (addtsTspec tsid ac direction mediumTime)) :
    Posted calls l
  | delts (tsid : UInt8) (src : MacAddr) (small : ¬tsid > 0x0f)
    (call : calls[l.call]? = some (.delts tsid))
    (frame : l.frame = deltsFrame src { TsInfo.empty with tsid := tsid }) : Posted calls l

/-- No reservation of the AP was created by a request. -/
def Bookers.Unowned (b : Bookers) (n : Nat) : Prop :=
  ∀ tsid, b.owner tsid = some n → ¬b.ap.admission.Holds tsid

/-- A frame for the station is an answer of the AP, and what it admits is reserved until then. -/
inductive Replied (b : Bookers) (l : Letter) : Prop where
  | admitted (tsid ac direction : UInt8) (mediumTime : UInt16) (src : MacAddr) (dialog : UInt8)
    (small : ¬tsid > 0x0f) (call : b.calls[l.call]? = some (.addts tsid ac direction mediumTime))
    (frame : l.frame = addtsRspFrame src dialog 0 (addtsTspec tsid ac direction mediumTime))
    (heard : l.call ∈ b.heard)
    (kept : DeltsBefore b.calls tsid l.call →
      b.ap.admission.Recorded tsid (qosUpToAc (addtsAcUp ac)) mediumTime ∧
        b.owner tsid = some l.call) : Replied b l
  | refused (src : MacAddr) (dialog : UInt8) (t : Tspec)
    (frame : l.frame = addtsRspFrame src dialog 37 t) (heard : l.call ∈ b.heard)
    (unowned : b.Unowned l.call) : Replied b l

/-- What is recorded at the station is reserved by a request newer than any teardown. -/
structure BookersInv (b : Bookers) : Prop where
  roles : b.sta.role = .sta ∧ b.ap.role = .ap
  up : b.sta.state = .connected ∧ b.ap.state = .connected
  single : b.sta.admission.Single ∧ b.ap.admission.Single
  recorded : ∀ tsid ac mediumTime, b.sta.admission.Recorded tsid ac mediumTime →
    b.ap.admission.Recorded tsid ac mediumTime ∧
      ∀ m, b.calls[m]? = some (.delts tsid) → ∃ n, b.owner tsid = some n ∧ m < n
  answers : ∀ n status, b.answer n = some status →
    n ∈ b.heard ∧ (status ≠ 0 → b.Unowned n)
  owners : ∀ tsid n, b.owner tsid = some n → n ∈ b.heard

structure BookingInv (c : Booking) : Prop where
  ends : BookersInv c.toBookers
  posted : ∀ l ∈ c.toAp, Posted c.calls l
  replied : ∀ l ∈ c.toSta, Replied c.toBookers l

section Network

variable {c : Booking}

theorem BookingInv.toAp (inv : BookingInv c) {q : List Letter} (sub : ∀ l ∈ q, l ∈ c.toAp) :
    BookingInv { c with toAp := q } where
  ends := inv.ends
  posted := fun l mem => inv.posted l (sub l mem)
  replied := inv.replied

theorem BookingInv.toSta (inv : BookingInv c) {q : List Letter} (sub : ∀ l ∈ q, l ∈ c.toSta) :
    BookingInv { c with toSta := q } where
  ends := inv.ends
  posted := inv.posted
  replied := fun l mem => inv.replied l (sub l mem)

theorem mem_repeated {q : List Letter} {i : Nat} : ∀ l ∈ q ++ q[i]?.toList, l ∈ q := by
  intro l mem
  rcases List.mem_append.1 mem with old | new
  · exact old
  · exact List.mem_of_getElem? (Option.mem_toList.1 new)

end Network

section Call

variable {calls : List TsCall} {call : TsCall}

theorem calls_old {n : Nat} {x : TsCall} (at' : calls[n]? = some x) :
    (calls ++ [call])[n]? = some x :=
  (List.getElem?_append_left (List.getElem?_eq_some_iff.1 at').1).trans at'

theorem calls_delts {n : Nat} {tsid : UInt8} (other : call ≠ .delts tsid)
    (at' : (calls ++ [call])[n]? = some (.delts tsid)) : calls[n]? = some (.delts tsid) := by
  rw [List.getElem?_append] at at'
  split at at'
  · exact at'
  · have last := List.mem_of_getElem? at'
    exact absurd (List.mem_singleton.1 last).symm other

theorem Posted.later {l : Letter} (posted : Posted calls l) : Posted (calls ++ [call]) l := by
  cases posted with
  | addts tsid ac direction mediumTime src dialog small at' frame =>
    exact .addts tsid ac direction mediumTime src dialog small (calls_old at') frame
  | delts tsid src small at' frame => exact .delts tsid src small (calls_old at') frame

/-- A call of the station changes nothing of the answers in flight. -/
theorem Replied.later {b : Bookers} {sta : Sme} {l : Letter} (replied : Replied b l) :
    Replied { b with sta := sta, calls := b.calls ++ [call] } l := by
  cases replied with
  | admitted tsid ac direction mediumTime src dialog small at' frame heard kept =>
    exact .admitted tsid ac direction mediumTime src dialog small (calls_old at') frame heard
      fun before => kept fun m delts => before m (calls_old delts)
  | refused src dialog t frame heard unowned =>
    exact .refused src dialog t frame heard unowned

variable {c : Booking}

/-- A call that is accepted, when the teardowns it adds are of streams no longer recorded. -/
theorem BookingInv.called (inv : BookingInv c) {r : Sme × S8021xStatus} (ok : r.2 = .ok)
    (stays : StaysUp c.sta r.1) (single : r.1.admission.Single)
    (recorded : ∀ tsid ac mediumTime, r.1.admission.Recorded tsid ac mediumTime →
      call ≠ .delts tsid ∧ c.sta.admission.Recorded tsid ac mediumTime)
    (sent : ∀ f ∈ newSent c.sta r.1,
      Posted (c.calls ++ [call]) { call := c.calls.length, frame := f }) :
    BookingInv (c.called call r) := by
  have ends := inv.ends
  unfold Booking.called
  rw [if_pos ok]
  refine { ends := ?_, posted := ?_, replied := fun l mem => (inv.replied l mem).later }
  · refine { roles := ?_, up := ?_, single := ?_, recorded := ?_, answers := ends.answers
             owners := ends.owners }
    · exact ⟨stays.role.trans ends.roles.1, ends.roles.2⟩
    · exact ⟨stays.up.trans ends.up.1, ends.up.2⟩
    · exact ⟨single, ends.single.2⟩
    · intro tsid ac mediumTime rec
      obtain ⟨other, old⟩ := recorded tsid ac mediumTime rec
      obtain ⟨reserved, newer⟩ := ends.recorded tsid ac mediumTime old
      exact ⟨reserved, fun m delts => newer m (calls_delts other delts)⟩
  · intro l mem
    rcases List.mem_append.1 mem with old | new
    · exact (inv.posted l old).later
    · obtain ⟨f, isNew, rfl⟩ := List.mem_map.1 new
      exact sent f isNew

theorem called_refused {r : Sme × S8021xStatus} (refused : r.2 ≠ .ok) (same : r.1 = c.sta) :
    c.called call r = c := by
  unfold Booking.called
  rw [if_neg refused, same, newSent_same rfl, List.map_nil, List.append_nil]

theorem BookingInv.addts (inv : BookingInv c) (tsid ac direction : UInt8) (mediumTime : UInt16) :
    BookingInv (c.called (.addts tsid ac direction mediumTime)
      (smeAddtsRequest c.sta tsid ac direction mediumTime)) := by
  rcases smeAddtsRequest_sends c.sta tsid ac direction mediumTime with
    ⟨refused, same⟩ | ⟨ok, small, stays, table, sent⟩
  · rw [called_refused refused same]
    exact inv
  · refine inv.called ok stays ?_ ?_ ?_
    · rw [table]
      exact inv.ends.single.1
    · rw [table]
      exact fun _ _ _ rec => ⟨TsCall.noConfusion, rec⟩
    · intro f new
      exact .addts tsid ac direction mediumTime c.sta.self _ small List.getElem?_concat_length
        (sent f new)

theorem BookingInv.delts (inv : BookingInv c) (tsid : UInt8) :
    BookingInv (c.called (.delts tsid) (smeDelts c.sta tsid)) := by
  rcases smeDelts_sends c.sta tsid with ⟨refused, same⟩ | ⟨ok, small, stays, table, sent⟩
  · rw [called_refused refused same]
    exact inv
  · refine inv.called ok stays ?_ ?_ ?_
    · rw [table]
      exact qosAdmissionRelease_single inv.ends.single.1
    · rw [table]
      intro t ac mediumTime rec
      obtain ⟨other, old⟩ := (qosAdmissionRelease_recorded inv.ends.single.1 t ac mediumTime).1 rec
      exact ⟨fun same => other (TsCall.delts.inj same).symm, old⟩
    · intro f new
      exact .delts tsid c.sta.self small List.getElem?_concat_length (sent f new)

end Call

section Ap

variable {c : Booking} {n : Nat} {ap : Sme}

theorem heardBy_owner_same {tsid : UInt8}
    (same : c.ap.admission.Holds tsid ∨ ¬ap.admission.Holds tsid) :
    (c.heardBy n ap).owner tsid = c.owner tsid := by
  refine if_neg fun new => ?_
  rcases same with held | unheld
  · exact admFind_none.1 new.1 held
  · exact new.2 (admFind_none.2 unheld)

theorem heardBy_owner_new {tsid : UInt8} (unheld : ¬c.ap.admission.Holds tsid)
    (held : ap.admission.Holds tsid) : (c.heardBy n ap).owner tsid = some n :=
  if_pos ⟨admFind_none.2 unheld, fun none => admFind_none.1 none held⟩

/-- What an earlier request created stays gone when the AP hears of another call. -/
theorem heardBy_unowned {m : Nat} (unowned : c.Unowned m)
    (new : ∀ tsid, ap.admission.Holds tsid → c.ap.admission.Holds tsid ∨ n ≠ m) :
    (c.heardBy n ap).Unowned m := by
  intro tsid owner now
  have held : ap.admission.Holds tsid := now
  by_cases before : c.ap.admission.Holds tsid
  · rw [heardBy_owner_same (Or.inl before)] at owner
    exact unowned tsid owner before
  · rw [heardBy_owner_new before held] at owner
    exact (new tsid held).resolve_left before (Option.some.inj owner)

/-- The AP hears of a call; the streams that the station counts on are still there. -/
theorem BookingInv.heardBy (inv : BookingInv c) (stays : StaysUp c.ap ap)
    (single : ap.admission.Single)
    (fresh : ∀ tsid, ap.admission.Holds tsid → c.ap.admission.Holds tsid ∨ n ∉ c.heard)
    (kept : ∀ tsid ac mediumTime m, c.ap.admission.Recorded tsid ac mediumTime →
      c.owner tsid = some m → DeltsBefore c.calls tsid m →
      ap.admission.Recorded tsid ac mediumTime)
    (undisturbed : ∀ tsid ac mediumTime, c.sta.admission.Recorded tsid ac mediumTime →
      c.ap.admission.Recorded tsid ac mediumTime → ap.admission.Recorded tsid ac mediumTime)
    (replies : ∀ f ∈ newSent c.ap ap,
      Replied (c.heardBy n ap).toBookers { call := n, frame := f }) :
    BookingInv (c.heardBy n ap) := by
  have ends := inv.ends
  have gone {m : Nat} (heard : m ∈ c.heard) (unowned : c.Unowned m) :
      (c.heardBy n ap).Unowned m := by
    refine heardBy_unowned unowned fun tsid held => ?_
    refine (fresh tsid held).imp_right fun unheard same => ?_
    exact unheard (same ▸ heard)
  refine { ends := ?_, posted := inv.posted, replied := ?_ }
  · refine { roles := ?_, up := ?_, single := ?_, recorded := ?_, answers := ?_, owners := ?_ }
    · exact ⟨ends.roles.1, stays.role.trans ends.roles.2⟩
    · exact ⟨ends.up.1, stays.up.trans ends.up.2⟩
    · exact ⟨ends.single.1, single⟩
    · intro tsid ac mediumTime rec
      obtain ⟨reserved, newer⟩ := ends.recorded tsid ac mediumTime rec
      refine ⟨undisturbed tsid ac mediumTime rec reserved, fun m delts => ?_⟩
      rw [heardBy_owner_same (Or.inl reserved.holds)]
      exact newer m delts
    · intro m status answer
      obtain ⟨heard, unowned⟩ := ends.answers m status answer
      exact ⟨List.mem_cons_of_mem n heard, fun refused => gone heard (unowned refused)⟩
    · intro tsid m owner
      by_cases new : admFind c.ap.admission tsid = none ∧ admFind ap.admission tsid ≠ none
      · have owner' : some n = some m := (if_pos new).symm.trans owner
        rw [← Option.some.inj owner']
        exact List.mem_cons_self
      · have owner' : c.owner tsid = some m := (if_neg new).symm.trans owner
        exact List.mem_cons_of_mem n (ends.owners tsid m owner')
  · intro l mem
    rcases List.mem_append.1 mem with old | new
    · cases inv.replied l old with
      | admitted tsid ac direction mediumTime src dialog small call frame heard kept' =>
        refine .admitted tsid ac direction mediumTime src dialog small call frame
          (List.mem_cons_of_mem n heard) fun before => ?_
        obtain ⟨reserved, owner⟩ := kept' before
        refine ⟨kept tsid _ mediumTime l.call reserved owner before, ?_⟩
        rw [heardBy_owner_same (Or.inl reserved.holds)]
        exact owner
      | refused src dialog t frame heard unowned =>
        exact .refused src dialog t frame (List.mem_cons_of_mem n heard) (gone heard unowned)
    · obtain ⟨f, isNew, rfl⟩ := List.mem_map.1 new
      exact replies f isNew

variable {env : Env} {sib : Siblings} {tsid ac direction : UInt8} {mediumTime : UInt16}

/-- The AP answers a request that it hears of for the first time. -/
theorem BookingInv.hearReq (inv : BookingInv c) (small : ¬tsid > 0x0f)
    (call : c.calls[n]? = some (.addts tsid ac direction mediumTime)) (src : MacAddr)
    (dialog : UInt8) (unheard : n ∉ c.heard) :
    BookingInv (c.heardBy n (smeRx env sib c.ap
      (addtsReqFrame src dialog (addtsTspec tsid ac direction mediumTime))).1) := by
  obtain ⟨stays, single, outcome⟩ := smeRx_addtsReq_cases inv.ends.up.2 inv.ends.roles.2
    inv.ends.single.2 small src dialog ac direction mediumTime
  generalize (smeRx env sib c.ap _).1 = ap at stays single outcome ⊢
  have old (t a : UInt8) (m : UInt16) (rec : c.ap.admission.Recorded t a m) :
      ap.admission.Recorded t a m := by
    rcases outcome with ⟨same, _⟩ | ⟨_, grown, _⟩
    · rw [same]
      exact rec
    · exact (grown t a m).2 (Or.inr rec)
  refine inv.heardBy stays single (fun _ _ => Or.inr unheard) (fun t a m _ rec _ _ => old t a m rec)
    (fun t a m _ rec => old t a m rec) ?_
  intro f new
  rcases outcome with ⟨same, sent⟩ | ⟨unheld, grown, sent⟩
  · obtain ⟨t, frame⟩ := sent f new
    refine .refused c.ap.self dialog t frame List.mem_cons_self ?_
    intro t' owner
    rw [heardBy_owner_same (by rw [same]; exact Classical.em _)] at owner
    exact absurd (inv.ends.owners t' n owner) unheard
  · have reserved := (grown tsid _ mediumTime).2 (Or.inl ⟨rfl, rfl, rfl⟩)
    exact .admitted tsid ac direction mediumTime c.ap.self dialog small call (sent f new)
      List.mem_cons_self fun _ => ⟨reserved, heardBy_owner_new unheld reserved.holds⟩

/-- The AP hears of a teardown that no newer reservation stands against. -/
theorem BookingInv.hearDelts (inv : BookingInv c) (small : ¬tsid > 0x0f)
    (call : c.calls[n]? = some (.delts tsid)) (src : MacAddr)
    (inTime : c.ap.admission.Holds tsid → ∀ m, c.owner tsid = some m → m < n) :
    BookingInv (c.heardBy n (smeRx env sib c.ap
      (deltsFrame src { TsInfo.empty with tsid := tsid })).1) := by
  have ends := inv.ends
  obtain ⟨stays, table, silent⟩ :=
    @smeRx_delts_cases env sib _ _ ends.up.2 ends.roles.2 small src
  generalize (smeRx env sib c.ap _).1 = ap at stays table silent ⊢
  have released (t a : UInt8) (m : UInt16) : ap.admission.Recorded t a m ↔
      t ≠ tsid ∧ c.ap.admission.Recorded t a m := by
    rw [table]
    exact qosAdmissionRelease_recorded ends.single.2 t a m
  refine inv.heardBy stays ?_ ?_ ?_ ?_ ?_
  · rw [table]
    exact qosAdmissionRelease_single ends.single.2
  · rintro t ⟨a, m, rec⟩
    exact Or.inl ((released t a m).1 rec).2.holds
  · intro t a m k rec owner before
    refine (released t a m).2 ⟨?_, rec⟩
    rintro rfl
    have newer := inTime rec.holds k owner
    have older := before n call
    omega
  · intro t a m atSta rec
    refine (released t a m).2 ⟨?_, rec⟩
    rintro rfl
    obtain ⟨k, owner, newer⟩ := (ends.recorded t a m atSta).2 n call
    have older := inTime rec.holds k owner
    omega
  · rw [silent]
    exact fun _ none => absurd none List.not_mem_nil

end Ap

section Sta

variable {c : Booking} {env : Env} {sib : Siblings} {l : Letter}

theorem admits_rsp (src : MacAddr) (dialog : UInt8) (t : Tspec) :
    admits (addtsRspFrame src dialog 0 t) = true := by
  unfold admits addtsRspFrame
  rw [frameBody_smePfx, addtsRsp_roundtrip]
  rfl

/-- The station takes an answer; a stream it records anew is one that the AP keeps. -/
theorem BookingInv.answered (inv : BookingInv c) {sta : Sme} (stays : StaysUp c.sta sta)
    (single : sta.admission.Single)
    (recorded : ∀ tsid ac mediumTime, sta.admission.Recorded tsid ac mediumTime →
      c.sta.admission.Recorded tsid ac mediumTime ∨
        c.ap.admission.Recorded tsid ac mediumTime ∧ c.owner tsid = some l.call ∧
          DeltsBefore c.calls tsid l.call)
    (heard : l.call ∈ c.heard) (unowned : sta.addtsLastStatus ≠ 0 → c.Unowned l.call) :
    BookingInv (c.answered l.call sta) := by
  have ends := inv.ends
  refine { ends := ?_, posted := inv.posted, replied := ?_ }
  · refine { roles := ?_, up := ?_, single := ?_, recorded := ?_, answers := ?_
             owners := ends.owners }
    · exact ⟨stays.role.trans ends.roles.1, ends.roles.2⟩
    · exact ⟨stays.up.trans ends.up.1, ends.up.2⟩
    · exact ⟨single, ends.single.2⟩
    · intro tsid ac mediumTime rec
      rcases recorded tsid ac mediumTime rec with old | ⟨reserved, owner, before⟩
      · exact ends.recorded tsid ac mediumTime old
      · exact ⟨reserved, fun m delts => ⟨l.call, owner, before m delts⟩⟩
    · intro n status answer
      by_cases this : n = l.call
      · subst this
        have now : some sta.addtsLastStatus = some status := (if_pos rfl).symm.trans answer
        rw [← Option.some.inj now]
        exact ⟨heard, unowned⟩
      · exact ends.answers n status ((if_neg this).symm.trans answer)
  · intro l' mem
    cases inv.replied l' mem with
    | admitted tsid ac direction mediumTime src dialog small call frame heard kept =>
      exact .admitted tsid ac direction mediumTime src dialog small call frame heard kept
    | refused src dialog t frame heard unowned =>
      exact .refused src dialog t frame heard unowned

/-- The station takes an answer that no newer teardown stands against. -/
theorem BookingInv.hearRsp (inv : BookingInv c) (replied : Replied c.toBookers l)
    (inTime : admits l.frame = true → ∀ tsid ac direction mediumTime,
      c.calls[l.call]? = some (.addts tsid ac direction mediumTime) →
      DeltsBefore c.calls tsid l.call) :
    BookingInv (c.answered l.call (smeRx env sib c.sta l.frame).1) := by
  have ends := inv.ends
  cases replied with
  | admitted tsid ac direction mediumTime src dialog small call frame heard kept =>
    rw [frame] at inTime ⊢
    have before := inTime (admits_rsp src dialog _) tsid ac direction mediumTime call
    obtain ⟨reserved, owner⟩ := kept before
    obtain ⟨stays, last, single, recorded⟩ := @smeRx_addtsRsp_cases env sib _
      ends.up.1 ends.roles.1 ends.single.1 src dialog 0 (addtsTspec tsid ac direction mediumTime)
    rw [addtsTspec_onAir small] at recorded
    refine inv.answered stays single (fun t a m rec => ?_) heard fun refused => absurd last refused
    refine (recorded t a m rec).imp_right ?_
    rintro ⟨_, rfl, rfl, rfl⟩
    exact ⟨reserved, owner, before⟩
  | refused src dialog t frame heard unowned =>
    rw [frame]
    obtain ⟨stays, last, single, recorded⟩ := @smeRx_addtsRsp_cases env sib _
      ends.up.1 ends.roles.1 ends.single.1 src dialog 37 t
    refine inv.answered stays single (fun t a m rec => ?_) heard fun _ => unowned
    refine (recorded t a m rec).imp_right ?_
    rintro ⟨granted, _⟩
    exact absurd granted (by decide)

end Sta

section Run

variable {env : Env} {c : Booking}

theorem bookingInv_start {sta ap : Sme} (booked : Booked sta ap) :
    BookingInv (Booking.start sta ap) where
  ends :=
    { roles := booked.roles
      up := booked.up
      single := booked.single
      recorded := fun tsid ac mediumTime rec =>
        ⟨booked.recorded tsid ac mediumTime rec, fun _ none => nomatch none⟩
      answers := fun _ _ none => nomatch none
      owners := fun _ _ none => nomatch none }
  posted := fun _ none => absurd none List.not_mem_nil
  replied := fun _ none => absurd none List.not_mem_nil

theorem bookingInv_step {op : BookingOp} (inv : BookingInv c) (inTime : InTime c op) :
    BookingInv (c.step env op) := by
  cases op with
  | addts tsid ac direction mediumTime => exact inv.addts tsid ac direction mediumTime
  | delts tsid => exact inv.delts tsid
  | repeatToAp i => exact inv.toAp mem_repeated
  | repeatToSta i => exact inv.toSta mem_repeated
  | loseToAp i => exact inv.toAp fun l mem => List.mem_of_mem_eraseIdx mem
  | loseToSta i => exact inv.toSta fun l mem => List.mem_of_mem_eraseIdx mem
  | hearAp sib i =>
    simp only [Booking.step]
    cases at' : c.toAp[i]? with
    | none => exact inv
    | some l =>
      have rest := inv.toAp (q := c.toAp.eraseIdx i) fun l mem => List.mem_of_mem_eraseIdx mem
      obtain ⟨once, older⟩ := inTime l at'
      dsimp only
      cases inv.posted l (List.mem_of_getElem? at') with
      | addts tsid ac direction mediumTime src dialog small call frame =>
        rw [frame]
        exact rest.hearReq small call src dialog (once tsid ac direction mediumTime call)
      | delts tsid src small call frame =>
        rw [frame]
        exact rest.hearDelts small call src (older tsid call)
  | hearSta sib i =>
    simp only [Booking.step]
    cases at' : c.toSta[i]? with
    | none => exact inv
    | some l =>
      have rest := inv.toSta (q := c.toSta.eraseIdx i) fun l mem => List.mem_of_mem_eraseIdx mem
      exact rest.hearRsp (inv.replied l (List.mem_of_getElem? at')) (inTime l at')

/-- As long as frames are heard in time the ends agree, even while some are in flight. -/
theorem agreed_run {sta ap : Sme} (booked : Booked sta ap)
    (run : Run (Booking.step env) InTime (Booking.start sta ap) c) : Agreed c := by
  have inv : BookingInv c :=
    run.invariant BookingInv (bookingInv_start booked) fun _ _ inv inTime =>
      bookingInv_step inv inTime
  refine { recorded := ?_, refused := ?_ }
  · intro tsid ac mediumTime rec
    exact (inv.ends.recorded tsid ac mediumTime rec).1
  · intro n status answer refused
    exact (inv.ends.answers n status answer).2 refused

/-- The elements of an end with quality of service. -/
def demoWmm : Bytes := (wmmParamBuild 26 edcaDefaults).getD [] ++ (wmmInfoBuild 9 0).getD []

def bookedSta : Sme := runOps demoStaInit (demoStaOps .disabled demoWmm)

def bookedAp : Sme := runOps demoApInit (demoApOps .disabled demoWmm)

theorem booked_demo :
    Booked bookedSta bookedAp ∧ bookedSta.qosEnabled = true ∧ bookedAp.qosEnabled = true := by
  have both : (bookedSta.role = .sta ∧ bookedAp.role = .ap) ∧
      (bookedSta.state = .connected ∧ bookedAp.state = .connected) ∧
      (bookedSta.qosEnabled = true ∧ bookedAp.qosEnabled = true) := by
    decide +kernel
  have free : bookedSta.admission.ts.all (fun e => !e.inUse) = true ∧
      bookedAp.admission.ts.all (fun e => !e.inUse) = true := by
    decide +kernel
  refine ⟨{ roles := both.1, up := both.2.1, single := ?_, recorded := ?_ }, both.2.2⟩
  · exact ⟨free_single free.1, free_single free.2⟩
  · exact fun tsid ac mediumTime rec =>
      absurd rec (free_unrecorded free.1 tsid ac mediumTime)

@[irreducible] def runBooking (ops : List BookingOp) : Booking :=
  ops.foldl (Booking.step demoEnv) (Booking.start bookedSta bookedAp)

/-- A check that suffices for `InTime`. -/
def inTimeCheck (c : Booking) : BookingOp → Bool
  | .hearAp _ i => (c.toAp[i]?).all fun (l : Letter) =>
      match c.calls[l.call]? with
      | some (.addts _ _ _ _) => l.call ∉ c.heard
      | some (.delts tsid) => (c.owner tsid).all fun n => n < l.call
      | none => true
  | .hearSta _ i => (c.toSta[i]?).all fun (l : Letter) =>
      match c.calls[l.call]? with
      | some (.addts tsid _ _ _) => (List.range c.calls.length).all fun m =>
          c.calls[m]? ≠ some (.delts tsid) || m < l.call
      | _ => true
  | _ => true

theorem inTime_of_check {op : BookingOp} (check : inTimeCheck c op = true) : InTime c op := by
  cases op with
  | hearAp sib i =>
    intro l at'
    simp only [inTimeCheck, at', Option.all_some] at check
    refine ⟨fun tsid ac direction mediumTime call => ?_, fun tsid call _ n owner => ?_⟩
    · simpa only [call, decide_eq_true_eq] using check
    · simpa only [call, owner, Option.all_some, decide_eq_true_eq] using check
  | hearSta sib i =>
    intro l at' _ tsid ac direction mediumTime call m delts
    simp only [inTimeCheck, at', Option.all_some, call, List.all_eq_true, List.mem_range] at check
    have bound := (List.getElem?_eq_some_iff.1 delts).1
    simpa only [delts, ne_eq, not_true_eq_false, decide_false, Bool.false_or,
      decide_eq_true_eq] using check m bound
  | addts => trivial
  | delts => trivial
  | repeatToAp => trivial
  | repeatToSta => trivial
  | loseToAp => trivial
  | loseToSta => trivial

/-- Two streams are asked for and the answers overtake each other; the first is given back. -/
def demoBookings : List BookingOp :=
  [.addts 3 3 0 100, .addts 4 2 0 50, .hearAp noSiblings 0, .hearAp noSiblings 0, .repeatToSta 0,
    .hearSta noSiblings 1, .hearSta noSiblings 0, .hearSta noSiblings 0, .delts 3, .repeatToAp 0,
    .hearAp noSiblings 0, .hearAp noSiblings 0]

theorem agreed_run_demo :
    Agreed (runBooking demoBookings) ∧
      (runBooking demoBookings).ap.admission.ts.head?.map TsAdmission.inUse = some false ∧
      (admFind (runBooking demoBookings).sta.admission 4).isSome = true := by
  have run : Run (Booking.step demoEnv) InTime (Booking.start bookedSta bookedAp)
      (runBooking demoBookings) := by
    unfold runBooking
    apply Run.of_allAlong fun _ _ => inTime_of_check
    decide +kernel
  exact ⟨agreed_run booked_demo.1 run, by decide +kernel⟩

/-- Each request is for a stream that is not in the table of the station. -/
def Asked (c : Booking) : BookingOp → Prop
  | .addts tsid _ _ _ => ¬c.sta.admission.Holds tsid
  | _ => True

def askedCheck (c : Booking) : BookingOp → Bool
  | .addts tsid _ _ _ => (admFind c.sta.admission tsid).isNone
  | _ => true

theorem asked_of_check {op : BookingOp} (check : askedCheck c op = true) : Asked c op := by
  cases op with
  | addts tsid ac direction mediumTime => exact admFind_none.1 (Option.isNone_iff_eq_none.1 check)
  | _ => trivial

/-- The station gives a stream back while it is being admitted. -/
def crossedOps : List BookingOp :=
  [.addts 3 3 0 100, .hearAp noSiblings 0, .delts 3, .hearAp noSiblings 0, .hearSta noSiblings 0]

/-- The answer is recorded after the stream was given back, and the AP no longer has it. -/
theorem agreed_crossed :
    ¬∀ (env : Env) (sta ap : Sme) (c : Booking), Booked sta ap → sta.qosEnabled = true →
      ap.qosEnabled = true → Run (Booking.step env) Asked (Booking.start sta ap) c → c.Quiet →
      Agreed c := by
  intro all
  have run : Run (Booking.step demoEnv) Asked (Booking.start bookedSta bookedAp)
      (runBooking crossedOps) := by
    unfold runBooking
    apply Run.of_allAlong fun _ _ => asked_of_check
    decide +kernel
  have outcome : ((runBooking crossedOps).toAp.length = 0 ∧
      (runBooking crossedOps).toSta.length = 0) ∧
      ((runBooking crossedOps).calls = [.addts 3 3 0 100, .delts 3] ∧
        (runBooking crossedOps).heard = [1, 0]) ∧
      (runBooking crossedOps).sta.admission.ts.head? =
        some { inUse := true, tsid := 3, ac := 3, direction := 0, mediumTime := 100 } ∧
      (runBooking crossedOps).ap.admission.ts.all (fun e => !e.inUse) = true := by
    decide +kernel
  obtain ⟨⟨toAp, toSta⟩, ⟨calls, heard⟩, sta, ap⟩ := outcome
  have quiet : (runBooking crossedOps).Quiet := by
    refine ⟨List.length_eq_zero_iff.1 toAp, List.length_eq_zero_iff.1 toSta, ?_⟩
    intro n tsid delts
    rw [calls] at delts
    rw [heard]
    match n, delts with
    | 1, _ => exact List.mem_cons_self
  obtain ⟨booked, qosSta, qosAp⟩ := booked_demo
  have agreed := all demoEnv bookedSta bookedAp _ booked qosSta qosAp run quiet
  have recorded : (runBooking crossedOps).sta.admission.Recorded 3 3 100 :=
    ⟨_, List.mem_of_head? sta, rfl, rfl, rfl, rfl⟩
  exact free_unrecorded ap 3 3 100 (agreed.recorded 3 3 100 recorded)

end Run

end Rf2a4m1
