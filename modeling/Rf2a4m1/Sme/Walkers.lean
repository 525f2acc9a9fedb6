import Rf2a4m1.Sme.Auth
import Rf2a4m1.Sme.Ft
import Rf2a4m1.Wire.Elements

/-!
# The element loops

Four loops walk element lists with cursors of their own: an offset, a pointer
with the number of octets left, and a position in a region. With every read
checked, each of them looks at what repeated reading yields, and no further.
-/

set_option autoImplicit false

namespace Rf2a4m1

open ByteString

section Cursors

variable (b : Bytes)

/-- The octets of a span, when all of it is inside. -/
def readSpan (off n : Nat) : Option Bytes :=
  if off + n ≤ b.length then some (slice b off n) else none

/-- The offset of the search for the OWE parameter. -/
def offsetNext (o : Nat) : Option (Option (IeSpan × Nat)) :=
  if o + 2 ≤ b.length then
    match b[o]?, b[o + 1]? with
    | some id, some ln =>
      if o + 2 + ln.toNat > b.length then some none
      else some (some ({ off := o, id := id, len := ln.toNat }, o + (2 + ln.toNat)))
    | _, _ => none
  else some none

/-- A pointer, and the number of octets left. -/
structure IePtr where
  p : Nat
  rem : Nat

/-- The pointer of the QoS and of the PMF scan. -/
def ptrNext (c : IePtr) : Option (Option (IeSpan × IePtr)) :=
  if c.rem ≥ 2 then
    match b[c.p]?, b[c.p + 1]? with
    | some eid, some elen =>
      if 2 + elen.toNat > c.rem then some none
      else
        some (some ({ off := c.p, id := eid, len := elen.toNat },
          { p := c.p + (2 + elen.toNat), rem := c.rem - (2 + elen.toNat) }))
    | _, _ => none
  else some none

/-- The position of the search for a resource request. -/
def posNext (pos : Nat) : Option (Option (IeSpan × Nat)) :=
  if pos + 2 ≤ b.length then
    match b[pos]?, b[pos + 1]? with
    | some eid, some elen =>
      if 2 + elen.toNat > b.length - pos then some none
      else some (some ({ off := pos, id := eid, len := elen.toNat }, pos + (2 + elen.toNat)))
    | _, _ => none
  else some none

end Cursors

section Loops

/-- The loop of the QoS scan. -/
def qosScanIesLoop (ies : Bytes) (fuel : Nat) : Option (List IeSpan × QosScan) :=
  Walk.loop (ptrNext ies)
    (fun found e =>
      (readSpan ies (e.off + 2) e.len).map fun body => (qosScanElement found e.id body, false))
    fuel { p := 0, rem := ies.length } { sawWmmInfo := false, edca := none }

/-- What an RSN element does to the scan: one that can be parsed decides. -/
def rsneDecides (s : Sme) (found : Sme × UInt16) (ie : Bytes) : (Sme × UInt16) × Bool :=
  match pmfRsneParse ie with
  | some i =>
    let (st, active) := pmfNegotiate s.pmfMode i.rsnCaps
    (({ s with pmfPeerCaps := i.rsnCaps, mfpActive := active }, st), true)
  | none => (found, false)

/-- The loop of the PMF scan, which returns at the first RSN element that can be parsed. -/
def pmfNegotiateIesLoop (s : Sme) (ies : Bytes) (fuel : Nat) :
    Option (List IeSpan × (Sme × UInt16)) :=
  Walk.loop (ptrNext ies)
    (fun found e =>
      if e.id = 48 then
        (readSpan ies e.off (2 + e.len)).map fun ie => rsneDecides s found ie
      else some (found, false))
    fuel { p := 0, rem := ies.length } (s, pmfStatusSuccess)

/-- The loop of the search for the OWE parameter. The octets of an element are only read when its
id and its length are right. -/
def smeOweDhFindLoop (ies : Bytes) (fuel : Nat) :
    Option (List IeSpan × Option (UInt16 × Bytes)) :=
  Walk.loop (offsetNext ies)
    (fun found e =>
      if e.id = 255 ∧ e.len ≥ 35 then
        ies[e.off + 2]?.bind fun ext =>
          if ext = 32 then
            (readSpan ies (e.off + 3) 2).bind fun group =>
              (readSpan ies (e.off + 5) (e.len - 3)).map fun pubX =>
                (some (getLe16 group 0, pubX), true)
          else some (found, false)
      else some (found, false))
    fuel 0 none

/-- The loop of the search for a resource request, which returns at the first one, parsed or
not. -/
def ftApRicLoop (region : Bytes) (fuel : Nat) : Option (List IeSpan × Option RicRequest) :=
  Walk.loop (posNext region)
    (fun found e =>
      if e.id = 57 then
        (readSpan region e.off (region.length - e.off)).map fun ahead =>
          ((ricRequestParse ahead).filter fun rq => rq.tspecs.length ≥ 1, true)
      else some (found, false))
    fuel 0 none

end Loops

section Reads

variable {b : Bytes}

theorem getElem?_byteAt {i : Nat} (inside : i < b.length) : b[i]? = some (byteAt b i) := by
  rw [byteAt, List.getD_eq_getElem?_getD, List.getElem?_eq_getElem inside, Option.getD_some]

theorem readSpan_inside {off n : Nat} (inside : off + n ≤ b.length) :
    readSpan b off n = some (slice b off n) :=
  if_pos inside

/-- The pointer of a reader. -/
def IeReader.ptr (r : IeReader) : IePtr := { p := r.pos, rem := r.buf.length - r.pos }

theorem offsetNext_reader (r : IeReader) :
    offsetNext r.buf r.pos = some (r.next.map fun (e, r') => (e, r'.pos)) := by
  unfold offsetNext IeReader.next
  by_cases header : r.pos + 2 ≤ r.buf.length
  · rw [if_pos header, if_neg (by omega), getElem?_byteAt (by omega), getElem?_byteAt (by omega)]
    dsimp only
    split
    · rfl
    · rw [Nat.add_assoc]
      rfl
  · rw [if_neg header, if_pos (by omega)]
    rfl

theorem ptrNext_reader {r : IeReader} (within : r.pos ≤ r.buf.length) :
    ptrNext r.buf r.ptr = some (r.next.map fun (e, r') => (e, r'.ptr)) := by
  unfold ptrNext IeReader.next IeReader.ptr
  dsimp only
  by_cases header : r.buf.length - r.pos ≥ 2
  · rw [if_pos header, if_neg (by omega), getElem?_byteAt (by omega), getElem?_byteAt (by omega)]
    dsimp only
    by_cases overrun : 2 + (byteAt r.buf (r.pos + 1)).toNat > r.buf.length - r.pos
    · rw [if_pos overrun, if_pos (by omega)]
      rfl
    · rw [if_neg overrun, if_neg (by omega), Nat.add_assoc, Nat.sub_sub]
      rfl
  · rw [if_neg header, if_pos (by omega)]
    rfl

theorem posNext_reader (r : IeReader) :
    posNext r.buf r.pos = some (r.next.map fun (e, r') => (e, r'.pos)) := by
  unfold posNext IeReader.next
  by_cases header : r.pos + 2 ≤ r.buf.length
  · rw [if_pos header, if_neg (by omega), getElem?_byteAt (by omega), getElem?_byteAt (by omega)]
    dsimp only
    by_cases overrun : 2 + (byteAt r.buf (r.pos + 1)).toNat > r.buf.length - r.pos
    · rw [if_pos overrun, if_pos (by omega)]
      rfl
    · rw [if_neg overrun, if_neg (by omega), Nat.add_assoc]
      rfl
  · rw [if_neg header, if_pos (by omega)]
    rfl

end Reads

section Scans

variable {β : Type} {b : Bytes} {plain : β → IeSpan → β × Bool}

/-- Reading keeps the octets, and the position inside. -/
theorem reader_keeps (r : IeReader) (e : IeSpan) (r' : IeReader)
    (within : r.buf = b ∧ r.pos ≤ b.length) (taken : ieWalk.next r = some (e, r')) :
    r'.buf = b ∧ r'.pos ≤ b.length := by
  obtain ⟨rfl, within⟩ := within
  obtain ⟨-, rfl, inside⟩ := IeReader.next_taken taken
  exact ⟨rfl, inside⟩

/-- The loops of the handlers, which drop what they have looked at, give what the scan finds. -/
theorem scan_ahead {L : Nat → β → Bytes → β} {K : β → Prop}
    (out : ∀ found ahead, K found → L 0 found ahead = found)
    (step : ∀ n found (r : IeReader), r.buf = b → K found → L (n + 1) found (r.buf.drop r.pos) =
      match r.next with
      | none => found
      | some (e, r') =>
        if (plain found e).2 then (plain found e).1
        else L n (plain found e).1 (r'.buf.drop r'.pos))
    (keeps : ∀ found e, K found → (plain found e).2 = false → K (plain found e).1)
    {r : IeReader} (same : r.buf = b) {fuel : Nat} (enough : ieWalk.size r ≤ fuel) {found : β}
    (start : K found) :
    L fuel found (r.buf.drop r.pos) = (Walk.scan plain (ieWalk.items r) found).2 := by
  induction r using ieWalk.induct generalizing fuel found with
  | stopped r stopped =>
    rw [Walk.items_stopped stopped]
    cases fuel with
    | zero => exact out found _ start
    | succ fuel =>
      have none : r.next = none := stopped
      rw [step fuel found r same start, none]
      rfl
  | taken r e r' taken ih =>
    have smaller := ieWalk.shrinks taken
    obtain ⟨fuel, rfl⟩ : ∃ k, fuel = k + 1 := ⟨fuel - 1, by omega⟩
    have one : r.next = some (e, r') := taken
    have same' : r'.buf = b := by
      obtain ⟨-, rfl, -⟩ := IeReader.next_taken taken
      exact same
    rw [step fuel found r same start, one, Walk.items_taken taken, Walk.scan]
    dsimp only
    cases returns : (plain found e).2 with
    | true => rfl
    | false => exact ih same' (by omega) (keeps found e start returns)

end Scans

section Handlers

variable (b : Bytes)

def qosVisit (found : QosScan) (e : IeSpan) : QosScan × Bool :=
  (qosScanElement found e.id (e.data b), false)

/-- The element with its header. -/
def IeSpan.whole (e : IeSpan) : Bytes := slice b e.off (2 + e.len)

/-- The element at which the PMF scan returns. -/
def rsneReturns (e : IeSpan) : Bool := decide (e.id = 48) && (pmfRsneParse (e.whole b)).isSome

def rsneVisit (s : Sme) (found : Sme × UInt16) (e : IeSpan) : (Sme × UInt16) × Bool :=
  if e.id = 48 then rsneDecides s found (e.whole b) else (found, false)

/-- The element at which the search for the OWE parameter returns. -/
def oweDhReturns (e : IeSpan) : Bool :=
  decide (e.id = 255 ∧ e.len ≥ 35 ∧ byteAt b (e.off + 2) = 32)

def oweDhVisit (found : Option (UInt16 × Bytes)) (e : IeSpan) : Option (UInt16 × Bytes) × Bool :=
  if oweDhReturns b e then (some (getLe16 b (e.off + 3), slice b (e.off + 5) (e.len - 3)), true)
  else (found, false)

/-- The element at which the search for a resource request returns. -/
def rdeReturns (e : IeSpan) : Bool := decide (e.id = 57)

def rdeVisit (found : Option RicRequest) (e : IeSpan) : Option RicRequest × Bool :=
  if rdeReturns e then
    ((ricRequestParse (b.drop e.off)).filter fun rq => rq.tspecs.length ≥ 1, true)
  else (found, false)

variable {b}

theorem slice_drop (b : Bytes) (p off n : Nat) :
    slice (b.drop p) off n = slice b (p + off) n := by
  rw [slice, slice, List.drop_drop]

/-- Reading, told by the octets ahead. -/
theorem IeReader.next_ahead (r : IeReader) :
    r.next =
      if (r.buf.drop r.pos).length < 2 then none
      else if 2 + (byteAt (r.buf.drop r.pos) 1).toNat > (r.buf.drop r.pos).length then none
      else
        some ({ off := r.pos, id := byteAt (r.buf.drop r.pos) 0
                len := (byteAt (r.buf.drop r.pos) 1).toNat },
          { r with pos := r.pos + (2 + (byteAt (r.buf.drop r.pos) 1).toNat) }) := by
  rw [List.length_drop, byteAt_drop, byteAt_drop, IeReader.next]
  by_cases header : r.pos + 2 > r.buf.length
  · rw [if_pos header, if_pos (by omega)]
  have ahead : ¬r.buf.length - r.pos < 2 := by omega
  rw [if_neg header, if_neg ahead]
  dsimp only
  by_cases overrun : r.pos + 2 + (byteAt r.buf (r.pos + 1)).toNat > r.buf.length
  · rw [if_pos overrun, if_pos (by omega)]
  · rw [if_neg overrun, if_neg (by omega), Nat.add_assoc]
    rfl

theorem qosScanLoop_step (n : Nat) (found : QosScan) (r : IeReader) (same : r.buf = b) :
    qosScanLoop (n + 1) found (r.buf.drop r.pos) =
      match r.next with
      | none => found
      | some (e, r') =>
        if (qosVisit b found e).2 then (qosVisit b found e).1
        else qosScanLoop n (qosVisit b found e).1 (r'.buf.drop r'.pos) := by
  subst same
  rw [qosScanLoop, r.next_ahead]
  by_cases header : (r.buf.drop r.pos).length < 2
  · rw [if_pos header, if_pos header]
  rw [if_neg header, if_neg header]
  dsimp only
  by_cases overrun : 2 + (byteAt (r.buf.drop r.pos) 1).toNat > (r.buf.drop r.pos).length
  · rw [if_pos overrun, if_pos overrun]
  rw [if_neg overrun, if_neg overrun, slice_drop, List.drop_drop]
  rfl

theorem pmfNegotiateLoop_step (s : Sme) (n : Nat) (r : IeReader) (same : r.buf = b) :
    pmfNegotiateLoop (n + 1) s (r.buf.drop r.pos) =
      match r.next with
      | none => (s, pmfStatusSuccess)
      | some (e, r') =>
        if (rsneVisit b s (s, pmfStatusSuccess) e).2 then (rsneVisit b s (s, pmfStatusSuccess) e).1
        else pmfNegotiateLoop n s (r'.buf.drop r'.pos) := by
  subst same
  rw [pmfNegotiateLoop, r.next_ahead]
  by_cases header : (r.buf.drop r.pos).length < 2
  · rw [if_pos header, if_pos header]
  rw [if_neg header, if_neg header]
  dsimp only
  by_cases overrun : 2 + (byteAt (r.buf.drop r.pos) 1).toNat > (r.buf.drop r.pos).length
  · rw [if_pos overrun, if_pos overrun]
  rw [if_neg overrun, if_neg overrun, List.drop_drop]
  dsimp only
  unfold rsneVisit rsneDecides IeSpan.whole slice
  dsimp only
  by_cases rsne : byteAt (r.buf.drop r.pos) 0 = 48
  · rw [if_pos rsne, if_pos rsne]
    cases pmfRsneParse ((r.buf.drop r.pos).take (2 + (byteAt (r.buf.drop r.pos) 1).toNat)) <;> rfl
  · rw [if_neg rsne, if_neg rsne]
    rfl

theorem oweDhFindLoop_step (n : Nat) (r : IeReader) (same : r.buf = b) :
    oweDhFindLoop (n + 1) (r.buf.drop r.pos) =
      match r.next with
      | none => none
      | some (e, r') =>
        if (oweDhVisit b none e).2 then (oweDhVisit b none e).1
        else oweDhFindLoop n (r'.buf.drop r'.pos) := by
  subst same
  rw [oweDhFindLoop, r.next_ahead]
  by_cases header : (r.buf.drop r.pos).length < 2
  · rw [if_pos header, if_pos header]
  rw [if_neg header, if_neg header]
  dsimp only
  by_cases overrun : 2 + (byteAt (r.buf.drop r.pos) 1).toNat > (r.buf.drop r.pos).length
  · rw [if_pos overrun, if_pos overrun]
  rw [if_neg overrun, if_neg overrun, List.drop_drop, byteAt_drop r.buf r.pos 2, slice_drop]
  dsimp only
  unfold oweDhVisit oweDhReturns getLe16
  dsimp only
  rw [slice_drop]
  split
  · rename_i fits
    rw [decide_eq_true fits]
    rfl
  · rename_i fits
    rw [decide_eq_false fits]
    rfl

theorem ricScan_step (n : Nat) (r : IeReader) (same : r.buf = b) :
    ricScan (n + 1) (r.buf.drop r.pos) =
      match r.next with
      | none => none
      | some (e, r') =>
        if (rdeVisit b none e).2 then (rdeVisit b none e).1
        else ricScan n (r'.buf.drop r'.pos) := by
  subst same
  rw [ricScan, r.next_ahead]
  by_cases header : (r.buf.drop r.pos).length < 2
  · rw [if_pos header, if_pos header]
  rw [if_neg header, if_neg header]
  dsimp only
  by_cases overrun : 2 + (byteAt (r.buf.drop r.pos) 1).toNat > (r.buf.drop r.pos).length
  · rw [if_pos overrun, if_pos overrun]
  rw [if_neg overrun, if_neg overrun, List.drop_drop]
  dsimp only
  unfold rdeVisit rdeReturns
  dsimp only
  split
  · rename_i request
    rw [decide_eq_true request]
    rfl
  · rename_i request
    rw [decide_eq_false request]
    rfl

/-- The loop ends without a read outside. It has looked at what repeated reading yields, up to
the element at which it returns, and found this. -/
def WalksElements {β : Type} (b : Bytes) (returns : IeSpan → Bool)
    (loop : Nat → Option (List IeSpan × β)) (found : β) : Prop :=
  ∀ fuel, b.length < fuel →
    loop fuel = some ((ieSpans b).take ((ieSpans b).findIdx returns + 1), found)

/-- A checked loop with a cursor of the reader, whose visits are inside. -/
theorem walks_of_scan {β τ : Type} {next : τ → Option (Option (IeSpan × τ))}
    {visit : β → IeSpan → Option (β × Bool)} {returns : IeSpan → Bool} (cursor : IeReader → τ)
    (plain : β → IeSpan → β × Bool)
    (agree : ∀ r : IeReader, r.buf = b ∧ r.pos ≤ b.length →
      next (cursor r) = some (r.next.map fun (e, r') => (e, cursor r')))
    (inside : ∀ e, e.off + 2 + e.len ≤ b.length → ∀ found, visit found e = some (plain found e))
    (only : ∀ found e, (plain found e).2 = returns e) {start found : β}
    (finds : found = (Walk.scan plain (ieSpans b) start).2) :
    WalksElements b returns
      (fun fuel => Walk.loop next visit fuel (cursor (IeReader.init b)) start) found := by
  intro fuel enough
  have scans : Walk.loop next visit fuel (cursor (IeReader.init b)) start =
      some (Walk.scan plain (ieSpans b) start) :=
    Walk.loop_scan (I := fun r : IeReader => r.buf = b ∧ r.pos ≤ b.length) agree reader_keeps
      ⟨rfl, Nat.zero_le _⟩ (fun e among => inside e (ieSpans_inside b among)) enough start
  rw [finds]
  exact scans.trans (congrArg some (Prod.ext (Walk.scan_seen only _ _) rfl))

/-- A search finds nothing at the elements it passes. -/
theorem search_keeps {β : Type} {returns : Bool} {at_ found start : β} (same : found = start)
    (goes : (if returns then (at_, true) else (found, false)).2 = false) :
    (if returns then (at_, true) else (found, false)).1 = start := by
  cases returns with
  | true => cases goes
  | false => exact same

theorem qosScanIes_walks (b : Bytes) :
    WalksElements b (fun _ => false) (qosScanIesLoop b) (qosScanIes b) := by
  apply walks_of_scan IeReader.ptr (qosVisit b)
  · rintro r ⟨rfl, within⟩
    exact ptrNext_reader within
  · intro e inside found
    rw [readSpan_inside inside]
    rfl
  · exact fun _ _ => rfl
  · exact scan_ahead (L := qosScanLoop) (K := fun _ => True) (r := IeReader.init b)
      (fun _ _ _ => rfl) (fun n found r same _ => qosScanLoop_step n found r same)
      (fun _ _ _ _ => trivial) rfl (Nat.le_refl _) trivial

theorem pmfNegotiateIes_walks (s : Sme) (b : Bytes) :
    WalksElements b (rsneReturns b) (pmfNegotiateIesLoop s b) (pmfNegotiateIes s b) := by
  have outcome (found : Sme × UInt16) (e : IeSpan) :
      (rsneVisit b s found e).2 = rsneReturns b e ∧
        (rsneReturns b e = false → (rsneVisit b s found e).1 = found) := by
    unfold rsneVisit rsneReturns rsneDecides
    by_cases rsne : e.id = 48
    · rw [if_pos rsne, decide_eq_true rsne]
      cases pmfRsneParse (e.whole b) with
      | none => exact ⟨rfl, fun _ => rfl⟩
      | some i => exact ⟨rfl, fun none => by cases none⟩
    · rw [if_neg rsne, decide_eq_false rsne]
      exact ⟨rfl, fun _ => rfl⟩
  apply walks_of_scan IeReader.ptr (rsneVisit b s)
  · rintro r ⟨rfl, within⟩
    exact ptrNext_reader within
  · intro e inside found
    unfold rsneVisit IeSpan.whole
    rw [readSpan_inside (by omega)]
    split <;> rfl
  · exact fun found e => (outcome found e).1
  · apply scan_ahead (L := fun n _ ahead => pmfNegotiateLoop n s ahead)
      (K := fun found => found = (s, pmfStatusSuccess)) (r := IeReader.init b)
    · exact fun found ahead start => start.symm
    · rintro n found r same rfl
      exact pmfNegotiateLoop_step s n r same
    · intro found e start goes
      rw [(outcome found e).1] at goes
      rw [(outcome found e).2 goes, start]
    · rfl
    · exact Nat.le_refl _
    · rfl

theorem smeOweDhFind_walks (b : Bytes) :
    WalksElements b (oweDhReturns b) (smeOweDhFindLoop b) (smeOweDhFind b) := by
  have kept {found : Option (UInt16 × Bytes)} {e : IeSpan} (passes : oweDhReturns b e = false) :
      oweDhVisit b found e = (found, false) := by
    unfold oweDhVisit
    rw [passes]
    rfl
  apply walks_of_scan IeReader.pos (oweDhVisit b)
  · rintro r ⟨rfl, -⟩
    exact offsetNext_reader r
  · intro e inside found
    by_cases long : e.id = 255 ∧ e.len ≥ 35
    · have next : e.off + 2 < b.length := by omega
      rw [if_pos long, getElem?_byteAt next, Option.bind_some]
      by_cases ext : byteAt b (e.off + 2) = 32
      · have group : getLe16 (slice b (e.off + 3) 2) 0 = getLe16 b (e.off + 3) :=
          getLe16_slice (Nat.le_refl 2)
        have returns : oweDhReturns b e = true := decide_eq_true ⟨long.1, long.2, ext⟩
        unfold oweDhVisit
        rw [if_pos ext, readSpan_inside (by omega), readSpan_inside (by omega), returns,
          Option.bind_some, Option.map_some, group]
        rfl
      · rw [if_neg ext, kept (decide_eq_false fun all => ext all.2.2)]
    · rw [if_neg long, kept (decide_eq_false fun all => long ⟨all.1, all.2.1⟩)]
  · intro found e
    unfold oweDhVisit
    cases oweDhReturns b e <;> rfl
  · apply scan_ahead (L := fun n _ ahead => oweDhFindLoop n ahead)
      (K := fun found => found = none) (r := IeReader.init b)
    · exact fun found ahead start => start.symm
    · rintro n found r same rfl
      exact oweDhFindLoop_step n r same
    · exact fun found e start goes => search_keeps start goes
    · rfl
    · exact Nat.le_refl _
    · rfl

theorem ftApRic_walks (b : Bytes) :
    WalksElements b rdeReturns (ftApRicLoop b) (ricScan b.length b) := by
  apply walks_of_scan IeReader.pos (rdeVisit b)
  · rintro r ⟨rfl, -⟩
    exact posNext_reader r
  · intro e inside found
    have ahead : slice b e.off (b.length - e.off) = b.drop e.off :=
      List.take_of_length_le (Nat.le_of_eq List.length_drop)
    unfold rdeVisit rdeReturns
    by_cases request : e.id = 57
    · rw [if_pos request, readSpan_inside (by omega), ahead, decide_eq_true request]
      rfl
    · rw [if_neg request, decide_eq_false request]
      rfl
  · intro found e
    unfold rdeVisit
    cases rdeReturns e <;> rfl
  · apply scan_ahead (L := fun n _ ahead => ricScan n ahead) (K := fun found => found = none)
      (r := IeReader.init b)
    · exact fun found ahead start => start.symm
    · rintro n found r same rfl
      exact ricScan_step n r same
    · exact fun found e start goes => search_keeps start goes
    · rfl
    · exact Nat.le_refl _
    · rfl

/-- Each of the four loops looks at the elements that repeated reading yields, in that order and
up to the one at which it returns, without a read outside; and it finds what its handler works
with. -/
theorem element_loops_agree (s : Sme) (b : Bytes) :
    WalksElements b (fun _ => false) (qosScanIesLoop b) (qosScanIes b) ∧
    WalksElements b (rsneReturns b) (pmfNegotiateIesLoop s b) (pmfNegotiateIes s b) ∧
    WalksElements b (oweDhReturns b) (smeOweDhFindLoop b) (smeOweDhFind b) ∧
    WalksElements b rdeReturns (ftApRicLoop b) (ricScan b.length b) :=
  ⟨qosScanIes_walks b, pmfNegotiateIes_walks s b, smeOweDhFind_walks b, ftApRic_walks b⟩

end Handlers

end Rf2a4m1
