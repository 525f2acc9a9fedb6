import Rf2a4m1.Safety.Bridging

/-!
# Replayed data frames on the two decryption paths

Software decryption counts a packet number once. A frame that the chip has
decrypted goes to the stack without a look at the replay context, so it may
have been there before, and its number does not count afterwards either.
-/

set_option autoImplicit false

namespace Rf2a4m1

open ByteString Runs Replay

/-- A frame that arrives: its octets as received, the packet number it was sent with, and whether
the chip decrypted it. -/
structure Arrival where
  alloc : RxAlloc
  data : Bytes
  pn : Nat
  hwDecrypted : Bool

/-- What tells the transmitted frames under one key apart: TID and packet number. -/
def Arrival.id (a : Arrival) : Nat × Nat := (pnReplayTid a.data, a.pn)

/-- A protected data frame. Unless the chip decrypted it, its packet number can be read from it. -/
structure Arrival.Sound (k : Ieee80211) (a : Arrival) : Prop where
  data : k.isData (getLe16 a.data 0) = true
  isProtected : k.hasProtected (getLe16 a.data 0) = true
  pn : a.hwDecrypted = false → a.pn = ccmpPn a.data (k.hdrlen (getLe16 a.data 0))

def Dev.arrive (k : Ieee80211) (dev : Dev) (a : Arrival) : Dev :=
  (rxToNetdev k a.alloc dev a.data a.hwDecrypted).2

/-- The transmitted frame of an arrival, when it is given to the stack. -/
def Dev.delivered (k : Ieee80211) (dev : Dev) (a : Arrival) : Option (Nat × Nat) :=
  if (dev.arrive k a).stack = dev.stack then none else some a.id

/-- Whether an arrival is bridged: it is complete, it decrypts to data for the stack and, in
software, its packet number is new. -/
def Dev.passes (k : Ieee80211) (dev : Dev) (a : Arrival) : Bool :=
  let hdrlen := k.hdrlen (getLe16 a.data 0)
  dev.ndev && a.data.length ≥ k.hdrSize && a.data.length ≥ hdrlen && a.alloc.skb &&
    if a.hwDecrypted then bridgeable (hwPlain (a.data.drop hdrlen))
    else
      dev.sme.dataKeyValid && a.alloc.decbuf && pnReplayOk dev.sme.dataRxReplay a.id.1 a.id.2 &&
        ((ccmpDecrypt a.data hdrlen dev.sme.installedTk a.data.length).map
          fun plain => bridgeable plain.1) = some true

def Dev.passing (k : Ieee80211) (dev : Dev) (a : Arrival) : Option Arrival :=
  if dev.passes k a then some a else none

section Step

variable {k : Ieee80211} {dev : Dev} {a : Arrival}

/-- What an arrival does to stack and replay context. -/
inductive ArrivalStep (k : Ieee80211) (dev : Dev) (a : Arrival) : Prop where
  | hardware (passes : dev.passes k a = true) (hw : a.hwDecrypted = true) (eth : Bytes)
    (stack : (dev.arrive k a).stack = eth :: dev.stack)
    (replay : (dev.arrive k a).sme.dataRxReplay = dev.sme.dataRxReplay)
  | software (passes : dev.passes k a = true) (eth : Bytes)
    (stack : (dev.arrive k a).stack = eth :: dev.stack)
    (fresh : pnReplayOk dev.sme.dataRxReplay a.id.1 a.id.2 = true)
    (replay : (dev.arrive k a).sme.dataRxReplay =
      pnReplayCommit dev.sme.dataRxReplay a.id.1 a.id.2)
  | counted (stops : dev.passes k a = false) (stack : (dev.arrive k a).stack = dev.stack)
    (fresh : pnReplayOk dev.sme.dataRxReplay a.id.1 a.id.2 = true)
    (replay : (dev.arrive k a).sme.dataRxReplay =
      pnReplayCommit dev.sme.dataRxReplay a.id.1 a.id.2)
  | ignored (stops : dev.passes k a = false) (stack : (dev.arrive k a).stack = dev.stack)
    (replay : (dev.arrive k a).sme.dataRxReplay = dev.sme.dataRxReplay)

/-- The length checks that come first. -/
def Arrival.Complete (k : Ieee80211) (dev : Dev) (a : Arrival) : Prop :=
  dev.ndev = true ∧ k.hdrSize ≤ a.data.length ∧ k.hdrlen (getLe16 a.data 0) ≤ a.data.length

theorem arrive_incomplete (short : ¬a.Complete k dev) :
    dev.arrive k a = dev ∧ dev.passes k a = false := by
  constructor
  · unfold Dev.arrive rxToNetdev
    by_cases first : !dev.ndev ∨ a.data.length < k.hdrSize
    · rw [if_pos first]
    · have second : a.data.length < k.hdrlen (getLe16 a.data 0) := by
        rw [not_or, Nat.not_lt] at first
        by_contra long
        exact short ⟨by simpa using first.1, first.2, Nat.le_of_not_lt long⟩
      rw [if_neg first, if_pos (Or.inr second)]
  · unfold Dev.passes
    by_contra passes
    simp only [Bool.not_eq_false, Bool.and_eq_true, decide_eq_true_eq] at passes
    exact short ⟨passes.1.1.1.1, passes.1.1.1.2, passes.1.1.2⟩

/-- A complete protected data frame is decrypted and then bridged, dropped or left to the SME. -/
theorem arrive_complete (sound : a.Sound k) (complete : a.Complete k dev) :
    dev.arrive k a =
      match rxNetdevBody k a.alloc dev a.data a.hwDecrypted with
      | (.clear body, dev) =>
        if !bridgeable body then dev
        else if !a.alloc.skb then dev.dropFrame
        else dev.netifRx (ethFrame k a.data body)
      | (_, dev) => dev := by
  obtain ⟨up, size, long⟩ := complete
  unfold Dev.arrive rxToNetdev
  rw [if_neg (by simp [up, Nat.not_lt.2 size]), if_neg (by simp [sound.data, Nat.not_lt.2 long])]
  split
  · rename_i found
    rw [found]
  · rename_i found
    rw [found]
  · rename_i found
    rw [found]
    dsimp only
    split
    · rfl
    · split <;> rfl

theorem arrivalStep (sound : a.Sound k) : ArrivalStep k dev a := by
  by_cases complete : a.Complete k dev
  swap
  · obtain ⟨same, stops⟩ := arrive_incomplete complete
    exact .ignored stops (by rw [same]) (by rw [same])
  have eq := arrive_complete sound complete
  obtain ⟨up, size, long⟩ := complete
  unfold rxNetdevBody at eq
  dsimp only at eq
  rw [if_pos sound.isProtected] at eq
  cases hw : a.hwDecrypted with
  | true =>
    rw [hw, if_pos rfl] at eq
    dsimp only at eq
    cases bridged : bridgeable (hwPlain (a.data.drop (k.hdrlen (getLe16 a.data 0)))) with
    | false =>
      rw [bridged, if_pos (by simp)] at eq
      exact .ignored (by simp [Dev.passes, hw, bridged]) (by rw [eq]) (by rw [eq])
    | true =>
      rw [bridged, if_neg (by simp)] at eq
      cases skb : a.alloc.skb with
      | false =>
        rw [skb, if_pos (by simp)] at eq
        exact .ignored (by simp [Dev.passes, skb]) (by rw [eq]; rfl) (by rw [eq]; rfl)
      | true =>
        rw [skb, if_neg (by simp)] at eq
        exact .hardware (by simp [Dev.passes, up, size, long, skb, hw, bridged]) hw _
          (by rw [eq]; rfl) (by rw [eq]; rfl)
  | false =>
    rw [hw, if_neg (by simp)] at eq
    cases valid : dev.sme.dataKeyValid with
    | false =>
      rw [valid, if_pos (by simp)] at eq
      exact .ignored (by simp [Dev.passes, hw, valid]) (by rw [eq]) (by rw [eq])
    | true =>
    rw [valid, if_neg (by simp)] at eq
    cases decbuf : a.alloc.decbuf with
    | false =>
      rw [decbuf, if_pos (by simp)] at eq
      exact .ignored (by simp [Dev.passes, hw, decbuf]) (by rw [eq]; rfl) (by rw [eq]; rfl)
    | true =>
    rw [decbuf, if_neg (by simp)] at eq
    unfold ccmpDecryptRx at eq
    cases plain : ccmpDecrypt a.data (k.hdrlen (getLe16 a.data 0)) dev.sme.installedTk
        a.data.length with
    | none =>
      rw [plain] at eq
      exact .ignored (by simp [Dev.passes, hw, plain]) (by rw [eq]; rfl) (by rw [eq]; rfl)
    | some found =>
    obtain ⟨body, pn⟩ := found
    have number : pn = a.pn := by
      rw [sound.pn hw, (ccmpDecrypt_some plain).2.1]
    rw [plain] at eq
    dsimp only at eq
    rw [number] at eq
    cases fresh : pnReplayOk dev.sme.dataRxReplay (pnReplayTid a.data) a.pn with
    | false =>
      rw [fresh, if_pos (by simp)] at eq
      exact .ignored (by simp [Dev.passes, hw, Arrival.id, fresh]) (by rw [eq]; rfl)
        (by rw [eq]; rfl)
    | true =>
    rw [fresh, if_neg (by simp)] at eq
    dsimp only at eq
    cases bridged : bridgeable body with
    | false =>
      rw [bridged, if_pos (by simp)] at eq
      exact .counted (by simp [Dev.passes, hw, plain, bridged]) (by rw [eq]; rfl) fresh
        (by rw [eq]; rfl)
    | true =>
    rw [bridged, if_neg (by simp)] at eq
    cases skb : a.alloc.skb with
    | false =>
      rw [skb, if_pos (by simp)] at eq
      exact .counted (by simp [Dev.passes, skb]) (by rw [eq]; rfl) fresh (by rw [eq]; rfl)
    | true =>
      rw [skb, if_neg (by simp)] at eq
      exact .software
        (by simp [Dev.passes, up, size, long, skb, hw, valid, decbuf, Arrival.id, fresh, plain, bridged])
        _ (by rw [eq]; rfl) fresh (by rw [eq]; rfl)

end Step

section Run

variable {k : Ieee80211} {as : List Arrival}

/-- The frames that reach the stack are those of the arrivals that are bridged. -/
theorem delivered_eq (sound : ∀ a ∈ as, a.Sound k) (dev : Dev) :
    observed (Dev.arrive k) (Dev.delivered k) dev as =
      (observed (Dev.arrive k) (Dev.passing k) dev as).map Arrival.id := by
  induction as generalizing dev with
  | nil => rfl
  | cons a rest ih =>
    have here : (dev.delivered k a).toList = (dev.passing k a).toList.map Arrival.id := by
      unfold Dev.delivered Dev.passing
      cases @arrivalStep _ dev _ (sound a (List.mem_cons_self ..)) with
      | hardware passes hw eth stack replay =>
        rw [stack, if_neg (by simp), if_pos passes]
        rfl
      | software passes eth stack fresh replay =>
        rw [stack, if_neg (by simp), if_pos passes]
        rfl
      | counted stops stack fresh replay =>
        rw [if_pos stack, stops]
        rfl
      | ignored stops stack replay =>
        rw [if_pos stack, stops]
        rfl
    rw [observed, observed, List.map_append, here,
      ih (fun b later => sound b (List.mem_cons_of_mem _ later))]

/-- What the window admits after an arrival, it admitted before. -/
theorem arrive_admits {dev : Dev} {a : Arrival} (sound : a.Sound k) {slot pn : Nat}
    (later : (replayWindow (dev.arrive k a).sme.dataRxReplay).admits slot pn) :
    (replayWindow dev.sme.dataRxReplay).admits slot pn := by
  cases @arrivalStep _ dev _ sound with
  | hardware passes hw eth stack replay => rwa [replay] at later
  | software passes eth stack fresh replay =>
    obtain ⟨valid, admitted⟩ := pnReplayOk_admits fresh
    rw [replay, replayWindow_commit valid] at later
    exact Window.admits_of_take admitted later
  | counted stops stack fresh replay =>
    obtain ⟨valid, admitted⟩ := pnReplayOk_admits fresh
    rw [replay, replayWindow_commit valid] at later
    exact Window.admits_of_take admitted later
  | ignored stops stack replay => rwa [replay] at later

/-- Every packet number that software is still going to pass is new to the window. -/
theorem passing_admitted (sound : ∀ a ∈ as, a.Sound k) (dev : Dev) {b : Arrival}
    (later : b ∈ observed (Dev.arrive k) (Dev.passing k) dev as) (soft : b.hwDecrypted = false) :
    (replayWindow dev.sme.dataRxReplay).admits b.id.1 b.id.2 := by
  induction as generalizing dev with
  | nil => exact absurd later List.not_mem_nil
  | cons a rest ih =>
    have first := sound a (List.mem_cons_self ..)
    rcases List.mem_append.1 later with now | later
    · unfold Dev.passing at now
      split at now
      · rename_i passing
        obtain rfl := List.mem_singleton.1 now
        cases @arrivalStep _ dev _ first with
        | hardware passes hw eth stack replay => rw [soft] at hw; cases hw
        | software passes eth stack fresh replay => exact (pnReplayOk_admits fresh).2
        | counted stops stack fresh replay => rw [stops] at passing; cases passing
        | ignored stops stack replay => rw [stops] at passing; cases passing
      · exact absurd now List.not_mem_nil
    · exact arrive_admits first
        (ih (fun b later => sound b (List.mem_cons_of_mem _ later)) (dev.arrive k a) later)

/-- Software bridges no transmitted frame twice. -/
theorem software_distinct (sound : ∀ a ∈ as, a.Sound k) (dev : Dev) :
    (observed (Dev.arrive k) (Dev.passing k) dev as).Pairwise fun a b =>
      a.hwDecrypted = false → b.hwDecrypted = false → a.id ≠ b.id := by
  induction as generalizing dev with
  | nil => exact List.Pairwise.nil
  | cons a rest ih =>
    have first := sound a (List.mem_cons_self ..)
    have others : ∀ b ∈ rest, b.Sound k := fun b later => sound b (List.mem_cons_of_mem _ later)
    refine List.pairwise_append.2 ⟨?_, ih others (dev.arrive k a), ?_⟩
    · unfold Dev.passing
      split
      · exact List.pairwise_singleton ..
      · exact List.Pairwise.nil
    intro a' now b later soft soft' same
    unfold Dev.passing at now
    split at now
    swap
    · exact absurd now List.not_mem_nil
    rename_i passing
    obtain rfl := List.mem_singleton.1 now
    have admitted := passing_admitted others (dev.arrive k a') later soft'
    cases @arrivalStep _ dev _ first with
    | hardware passes hw eth stack replay => rw [soft] at hw; cases hw
    | software passes eth stack fresh replay =>
      -- the window now ends at the number of the frame itself
      rw [replay, replayWindow_commit (pnReplayOk_admits fresh).1, ← same] at admitted
      exact Nat.lt_irrefl _ (admitted _ (if_pos rfl))
    | counted stops stack fresh replay => rw [stops] at passing; cases passing
    | ignored stops stack replay => rw [stops] at passing; cases passing

end Run

/-- Every transmitted frame reaches the stack at most once exactly when none that the chip has
decrypted is bridged besides another arrival of it. -/
theorem delivered_once_iff (k : Ieee80211) (dev : Dev) (as : List Arrival)
    (sound : ∀ a ∈ as, a.Sound k) :
    (observed (Dev.arrive k) (Dev.delivered k) dev as).Nodup ↔
      (observed (Dev.arrive k) (Dev.passing k) dev as).Pairwise fun a b =>
        a.hwDecrypted = true ∨ b.hwDecrypted = true → a.id ≠ b.id := by
  rw [delivered_eq sound dev, List.Nodup, List.pairwise_map]
  constructor
  · intro once
    exact once.imp fun {_ _} distinct => fun _ => distinct
  · intro mixed
    refine (mixed.and (software_distinct sound dev)).imp ?_
    rintro a b ⟨hard, soft⟩ same
    cases hw : a.hwDecrypted with
    | true => exact hard (Or.inl hw) same
    | false =>
      cases hw' : b.hwDecrypted with
      | true => exact hard (Or.inr hw') same
      | false => exact soft hw hw' same

section Demo

/-- An arrival of a frame sealed under a key: as it was on the air, or as the chip gives it, with
the CCMP header retained. -/
structure Arrival.Genuine (k : Ieee80211) (key : Octets 16) (a : Arrival) : Prop
    extends a.Sound k where
  air : a.hwDecrypted = false → ∃ outCap hdr payload keyId,
    ccmpEncrypt outCap hdr payload key keyId a.pn = some a.data
  chip : a.hwDecrypted = true → ∃ (hdr payload : Bytes) (keyId : UInt8),
    hdr.length = k.hdrlen (getLe16 a.data 0) ∧ a.pn < 2 ^ 48 ∧
      a.data = hdr.modify 1 (· ||| 0x40) ++ ccmpHeader keyId a.pn ++ payload

def demoDataHdr : Bytes :=
  [0x08, 0x02, 0, 0] ++ demoStaMac.bytes ++ demoApMac.bytes ++ demoApMac.bytes ++ [0, 0]

def demoSnap : Bytes := [0xaa, 0xaa, 0x03, 0, 0, 0, 0x08, 0x00, 1, 2, 3]

/-- A data frame with an IPv4 ethertype, decrypted by the chip. -/
def demoArrival (pn : Nat) : Arrival where
  alloc := demoAlloc
  data := demoDataHdr.modify 1 (· ||| 0x40) ++ ccmpHeader 0 pn ++ demoSnap
  pn := pn
  hwDecrypted := true

/-- Two frames with different packet numbers reach the stack once each. -/
theorem delivered_once_iff_demo :
    (observed (Dev.arrive demoKernel) (Dev.delivered demoKernel) (demoDev demoApUp)
      [demoArrival 1, demoArrival 2]).Nodup := by
  have passing : (observed (Dev.arrive demoKernel) (Dev.passing demoKernel) (demoDev demoApUp)
      [demoArrival 1, demoArrival 2]).map Arrival.id = [(16, 1), (16, 2)] := by
    decide +kernel
  refine (delivered_once_iff demoKernel (demoDev demoApUp) [demoArrival 1, demoArrival 2] ?_).2 ?_
  · intro a member
    rcases List.mem_pair.1 member with rfl | rfl
    · exact ⟨by decide, by decide, fun hw => (nomatch hw)⟩
    · exact ⟨by decide, by decide, fun hw => (nomatch hw)⟩
  · have distinct : [(16, 1), (16, 2)].Pairwise (fun i j : Nat × Nat => i ≠ j) := by decide
    rw [← passing, List.pairwise_map] at distinct
    exact distinct.imp fun {_ _} differ => fun _ => differ

/-- One frame that the chip decrypts twice reaches the stack twice. -/
theorem replay_delivered :
    ¬∀ (role : SmeRole) (self : MacAddr) (pmk : Octets 32) (salt : UInt64) (config : SmeConfig)
        (s : Sme) (as : List Arrival),
      Reach (smeStep demoEnv) (smeConfigure (smeInit role self pmk salt) config) s →
      s.dataKeyValid = true → (∀ a ∈ as, a.Genuine demoKernel s.installedTk) →
      (observed (Dev.arrive demoKernel) (Dev.delivered demoKernel) (demoDev s) as).Nodup := by
  intro all
  have valid : demoApUp.dataKeyValid = true := by
    decide +kernel
  have delivered : observed (Dev.arrive demoKernel) (Dev.delivered demoKernel) (demoDev demoApUp)
      [demoArrival 1, demoArrival 1] = [(16, 1), (16, 1)] := by
    decide +kernel
  have once := all .ap demoApMac demoPmk 7 .plain demoApUp [demoArrival 1, demoArrival 1]
    (runOps_reach _ _) valid (fun a member => by
      have same : a = demoArrival 1 := by simpa using member
      subst same
      exact ⟨⟨by decide, by decide, fun hw => (nomatch hw)⟩, fun hw => (nomatch hw),
        fun _ => ⟨demoDataHdr, demoSnap, 0, by decide, by decide, rfl⟩⟩)
  rw [delivered] at once
  revert once
  decide

end Demo

end Rf2a4m1
