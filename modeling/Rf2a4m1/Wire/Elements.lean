import Rf2a4m1.Lib.Walk
import Rf2a4m1.Wire.Mgmt

/-!
# Element lists

The reader and the writer with their positions, as the code has them. What is
written is read back, and what is read from any octets lies inside them.
-/

set_option autoImplicit false

namespace Rf2a4m1

open ByteString

/-- An element to be written. One octet counts its data. -/
structure Element where
  id : UInt8
  data : Bytes
  short : data.length ≤ 255

def Element.bytes (e : Element) : Bytes := e.id :: UInt8.ofNat e.data.length :: e.data

def elementsBytes (es : List Element) : Bytes := es.flatMap Element.bytes

/-- An element that was read: where its header lies, and how many octets of data follow it. -/
structure IeSpan where
  off : Nat
  id : UInt8
  len : Nat
deriving DecidableEq

/-- The data of an element of the buffer. -/
def IeSpan.data (b : Bytes) (e : IeSpan) : Bytes := slice b (e.off + 2) e.len

structure IeReader where
  buf : Bytes
  pos : Nat

def IeReader.init (b : Bytes) : IeReader := { buf := b, pos := 0 }

/-- A length that overruns the buffer stops the reader where it is. -/
def IeReader.next (r : IeReader) : Option (IeSpan × IeReader) :=
  if r.pos + 2 > r.buf.length then none
  else
    let elen := (byteAt r.buf (r.pos + 1)).toNat
    if r.pos + 2 + elen > r.buf.length then none
    else
      some ({ off := r.pos, id := byteAt r.buf r.pos, len := elen },
        { r with pos := r.pos + 2 + elen })

structure IeWriter where
  buf : Bytes
  pos : Nat
  within : pos ≤ buf.length

def IeWriter.init (buf : Bytes) : IeWriter := { buf := buf, pos := 0, within := Nat.zero_le _ }

/-- What has been written so far. -/
def IeWriter.written (w : IeWriter) : Bytes := w.buf.take w.pos

theorem Element.bytes_length (e : Element) : e.bytes.length = 2 + e.data.length :=
  Nat.add_comm e.data.length 2

theorem splice_length {b d : Bytes} {off : Nat} (within : off + d.length ≤ b.length) :
    (splice b off d).length = b.length := by
  simp only [splice, List.length_append, List.length_take, List.length_drop]
  omega

/-- Whether the element was written. -/
def IeWriter.write (w : IeWriter) (e : Element) : IeWriter × Bool :=
  if full : w.pos + 2 + e.data.length > w.buf.length then (w, false)
  else
    have size : w.pos + e.bytes.length ≤ w.buf.length := by
      rw [e.bytes_length]
      omega
    ({ buf := splice w.buf w.pos e.bytes, pos := w.pos + 2 + e.data.length
       within := by
         rw [splice_length size]
         omega }, true)

section Reader

variable {r r' : IeReader} {e : IeSpan}

/-- What was read lies in the buffer, behind the position the reader had. -/
theorem IeReader.next_taken (taken : r.next = some (e, r')) :
    e = { off := r.pos, id := byteAt r.buf r.pos, len := (byteAt r.buf (r.pos + 1)).toNat } ∧
      r' = { r with pos := r.pos + 2 + e.len } ∧ r.pos + 2 + e.len ≤ r.buf.length := by
  unfold IeReader.next at taken
  split at taken
  · cases taken
  dsimp only at taken
  split at taken
  · cases taken
  rename_i inside
  cases taken
  exact ⟨rfl, rfl, Nat.not_lt.1 inside⟩

/-- Reading an element list to its end. -/
def ieWalk : Walk IeReader IeSpan where
  next := IeReader.next
  size r := r.buf.length - r.pos
  shrinks := by
    intro r r' e taken
    obtain ⟨-, rfl, inside⟩ := IeReader.next_taken taken
    dsimp only
    omega

/-- All that repeated reading yields. -/
def ieSpans (b : Bytes) : List IeSpan := ieWalk.items (IeReader.init b)

/-- Every element lies between the position of the reader and the end of the buffer. -/
theorem ieWalk_inside (r : IeReader) :
    ∀ e ∈ ieWalk.items r, r.pos ≤ e.off ∧ e.off + 2 + e.len ≤ r.buf.length := by
  apply Walk.items_all (I := fun s : IeReader => s.buf = r.buf ∧ r.pos ≤ s.pos)
    (P := fun e : IeSpan => r.pos ≤ e.off ∧ e.off + 2 + e.len ≤ r.buf.length)
  · rintro s e s' ⟨same, behind⟩ taken
    obtain ⟨is, rfl, inside⟩ := IeReader.next_taken taken
    have place : e.off = s.pos := congrArg IeSpan.off is
    rw [same] at inside
    exact ⟨⟨by omega, by omega⟩, same, by dsimp only; omega⟩
  · exact ⟨rfl, Nat.le_refl _⟩

theorem ieSpans_inside (b : Bytes) {e : IeSpan} (among : e ∈ ieSpans b) :
    e.off + 2 + e.len ≤ b.length :=
  (ieWalk_inside (IeReader.init b) e among).2

end Reader

section RoundTrip

variable {pre rest : Bytes}

end RoundTrip

section Writer

variable {w : IeWriter} {e : Element}

/-- An element that fits is put behind what was written before. -/
theorem IeWriter.write_fits (fits : w.pos + 2 + e.data.length ≤ w.buf.length) :
    (w.write e).2 = true ∧ (w.write e).1.written = w.written ++ e.bytes ∧
      (w.write e).1.pos = w.pos + e.bytes.length ∧ (w.write e).1.buf.length = w.buf.length := by
  have size : w.pos + e.bytes.length ≤ w.buf.length := by
    rw [e.bytes_length]
    omega
  have behind : (w.buf.take w.pos ++ e.bytes).length = w.pos + 2 + e.data.length := by
    rw [List.length_append, List.length_take, e.bytes_length]
    omega
  unfold IeWriter.write
  rw [dif_neg (Nat.not_lt.2 fits)]
  refine ⟨rfl, ?_, ?_, splice_length size⟩
  · unfold IeWriter.written splice
    dsimp only
    rw [← behind, List.take_left]
  · have counted := e.bytes_length
    dsimp only
    omega

/-- The writer of the frame builders, which keep what was written and not the buffer. -/
theorem IeWriter.write_ieWrite (w : IeWriter) (e : Element) :
    ieWrite w.buf.length w.written e.id e.data =
      if (w.write e).2 then some (w.write e).1.written else none := by
  have size : w.written.length = w.pos := by
    rw [IeWriter.written, List.length_take]
    exact Nat.min_eq_left w.within
  unfold ieWrite
  rw [size]
  by_cases full : w.pos + 2 + e.data.length > w.buf.length
  · have refused : (w.write e).2 = false := by
      unfold IeWriter.write
      rw [dif_pos full]
    rw [if_pos full, refused]
    rfl
  · obtain ⟨ok, put, -, -⟩ := IeWriter.write_fits (Nat.not_lt.1 full)
    rw [if_neg full, ok, put]
    rfl

end Writer

section Bss

/-- What a BSS tells of itself. Numbers of rates and of RSN octets are single octets. -/
structure BssBody where
  timestamp : Nat
  beaconInt : UInt16
  capInfo : UInt16
  ssid : Bytes
  ssidShort : ssid.length ≤ 32
  channel : UInt8
  rates : Bytes
  ratesShort : rates.length ≤ 255
  rsn : Bytes
  rsnShort : rsn.length ≤ 255

variable (bss : BssBody)

def BssBody.elements : List Element :=
  { id := 0, data := bss.ssid, short := Nat.le_trans bss.ssidShort (by decide) } ::
    ((if bss.rates.length = 0 then []
      else [{ id := 1, data := bss.rates, short := bss.ratesShort }]) ++
    { id := 3, data := [bss.channel], short := (by decide : 1 ≤ 255) } ::
    { id := 5, data := [0x00, 0x01, 0x00, 0x00], short := by decide } ::
    if bss.rsn.length = 0 then [] else [{ id := 48, data := bss.rsn, short := bss.rsnShort }])

def BssBody.fixed : Bytes := le 8 bss.timestamp ++ putLe16 bss.beaconInt ++ putLe16 bss.capInfo

def BssBody.info : BeaconInfo :=
  { cap := bss.capInfo, channel := bss.channel, ssid := bss.ssid
    hasRsn := decide (bss.rsn ≠ []) }

/-- The frames that carry the body, when there is room for it. -/
def BssBody.frame (hdr : Bytes) (cap : Nat) : Option Bytes :=
  if 24 + (12 + (elementsBytes bss.elements).length) ≤ cap then
    some (hdr ++ (bss.fixed ++ elementsBytes bss.elements)) else none

end Bss

end Rf2a4m1
