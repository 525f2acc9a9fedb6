import Rf2a4m1.Lib.Counter
import Rf2a4m1.Sme.Demo
import Rf2a4m1.Sme.Effect

/-!
# Packet numbers of data frames

The entity is a keyed sender in the sense of `Counter`, with the installed
temporal key as the key in use, as long as data is only sent under that key and
a key that is installed anew has not protected data before.
-/

set_option autoImplicit false

namespace Rf2a4m1

open ByteString Runs Counter

/-- The entity as a sender: the key counts when it is installed. -/
def SmeCore.sender (c : SmeCore) : Sender (Octets 16) where
  key := if c.dataKeyValid then some c.installedTk else none
  count := c.tx.dataTxPn
  used := c.tx.log

/-- The key that would protect the next data frame is the installed one. -/
def SmeCore.UsesInstalled (c : SmeCore) : Prop :=
  c.dataKeyValid = true ∧ c.installedTk = tk c.ptk

/-- Installing the pairwise key now does not bring back a key that protected data. -/
def SmeCore.FreshKey (c : SmeCore) : Prop :=
  c.UsesInstalled ∨ ∀ pn, (tk c.ptk, pn) ∉ c.tx.log

/-- Data is sent under the installed key, and keys that are installed are fresh. -/
def KeepsCount (env : Env) (s : Sme) (e : SmeEvent) : Prop :=
  match e with
  | .send => s.state = .connected → s.core.UsesInstalled
  | .handle .data inp => s.state = .connected → carriesTdls inp = true → s.core.UsesInstalled
  | .handle .m4 inp => s.role = .ap → apAcceptsM4 env s (frameBody inp) = true → s.core.FreshKey
  | .handle .m3 inp => s.role = .sta → staAcceptsM3 env s (frameBody inp) = true → s.core.FreshKey
  | .handle .ftReassocReq inp =>
    s.role = .ap → s.ftEnabled = true → ftApAcceptsReassoc env s (frameBody inp) = true →
      s.core.FreshKey
  | .handle .ftReassocResp inp =>
    s.role = .sta → s.ftR0Valid = true → ftStaReassocMicOk env s (frameBody inp) = true →
      s.core.FreshKey
  | _ => True

/-- The sender is sound, and has not counted beyond the data frames there were. -/
structure CountInv (c : SmeCore) : Prop where
  sound : c.sender.Sound
  counted : c.tx.dataTxPn ≤ c.tx.dataFrames
  bounded : ∀ k pn, (k, pn) ∈ c.tx.log → pn ≤ c.tx.dataFrames

section Step

variable {env : Env} {s : Sme} {e : SmeEvent} {c d : SmeCore}

theorem sender_send (bound : Bool) :
    (c.send bound).sender = c.sender.advance (tk c.ptk) bound := rfl

/-- Installing the key that is in use already changes nothing; any other key starts anew. -/
theorem sender_install :
    c.install.sender = c.sender ∧ c.UsesInstalled ∨
      c.install.sender = c.sender.rekey (tk c.ptk) ∧ ¬c.UsesInstalled := by
  by_cases installed : c.UsesInstalled
  · left
    refine ⟨?_, installed⟩
    simp [SmeCore.sender, SmeCore.install, installed.1, installed.2]
  · right
    refine ⟨?_, installed⟩
    have other : ¬(c.dataKeyValid && decide (c.installedTk = tk c.ptk)) = true := by
      simpa [SmeCore.UsesInstalled] using installed
    simp [SmeCore.sender, SmeCore.install, other, Sender.rekey]

namespace CountInv

theorem congr (inv : CountInv c) (valid : d.dataKeyValid = c.dataKeyValid)
    (key : d.installedTk = c.installedTk) (tx : d.tx = c.tx) : CountInv d := by
  have same : d.sender = c.sender := by
    unfold SmeCore.sender
    rw [valid, key, tx]
  exact ⟨same ▸ inv.sound, tx ▸ inv.counted, tx ▸ inv.bounded⟩

theorem send (inv : CountInv c) (installed : c.UsesInstalled) (bound : Bool) :
    CountInv (c.send bound) where
  sound := by
    rw [sender_send]
    refine inv.sound.advance ?_ bound
    unfold SmeCore.sender
    rw [installed.1, installed.2]
    rfl
  counted := Nat.succ_le_succ inv.counted
  bounded := by
    intro k pn used
    have old : (k, pn) ∈ c.tx.log → pn ≤ c.tx.dataFrames + 1 := fun used =>
      Nat.le_succ_of_le (inv.bounded k pn used)
    cases bound with
    | false => exact old used
    | true =>
      rcases List.mem_cons.1 used with new | before
      · obtain ⟨_, rfl⟩ := Prod.mk.inj new
        exact Nat.succ_le_succ inv.counted
      · exact old before

theorem install (inv : CountInv c) (fresh : c.FreshKey) : CountInv c.install := by
  have log : c.install.tx.log = c.tx.log ∧ c.install.tx.dataFrames = c.tx.dataFrames ∧
      c.install.tx.dataTxPn ≤ c.tx.dataTxPn := by
    unfold SmeCore.install
    dsimp only
    split <;> simp
  refine ⟨?_, ?_, ?_⟩
  · rcases sender_install (c := c) with ⟨same, _⟩ | ⟨rekeyed, other⟩
    · rw [same]
      exact inv.sound
    · rw [rekeyed]
      apply inv.sound.rekey
      rcases fresh with installed | unused
      · exact absurd installed other
      · exact unused
  · rw [log.2.1]
    exact Nat.le_trans log.2.2 inv.counted
  · rw [log.1, log.2.1]
    exact inv.bounded

end CountInv

theorem countInv_effect (inv : CountInv s.core) (keeps : KeepsCount env s e)
    (effect : Effect env s e c) : CountInv c := by
  have installed {c : SmeCore} (inv : CountInv c) (fresh : c.FreshKey) : CountInv c.connect :=
    (inv.install fresh).congr rfl rfl rfl
  cases effect with
  | apM4 role accepts valid => exact (installed inv (keeps role accepts)).congr rfl rfl rfl
  | apFtReassoc role enabled accepts gtk =>
    exact installed (inv.congr rfl rfl rfl) (keeps role enabled accepts)
  | staM3 role replay gtk kde igtk taken accepts kept valid =>
    exact (installed (inv.congr rfl rfl rfl) (keeps role accepts)).congr rfl rfl rfl
  | staFtReassoc role valid mic gtk =>
    exact installed (inv.congr rfl rfl rfl) (keeps role valid mic)
  | answered up direct => exact inv.send (keeps up direct) s.halBound
  | sent up => exact inv.send (keeps up) s.halBound
  | _ => exact inv.congr rfl rfl rfl

end Step

section Run

variable {env : Env}

/-- Key and 48-bit packet number of every data frame handed to the HAL, newest first. -/
def protectedPairs (s : Sme) : List (Octets 16 × Nat) :=
  (s.sent.filterMap TxFrame.prot).map fun p => (p.1, p.2 % 2 ^ 48)

theorem countInv_init (role : SmeRole) (self : MacAddr) (pmk : Octets 32) (salt : UInt64)
    (config : SmeConfig) : CountInv (smeConfigure (smeInit role self pmk salt) config).core where
  sound := ⟨List.nodup_nil, fun _ _ _ used => absurd used List.not_mem_nil⟩
  counted := Nat.le_refl 0
  bounded := fun _ _ used => absurd used List.not_mem_nil

/-- With fewer than 2^48 data frames, no pair of key and packet number is used twice. -/
theorem protectedPairs_nodup_run {role : SmeRole} {self : MacAddr} {pmk : Octets 32}
    {salt : UInt64} {config : SmeConfig} {s : Sme}
    (run : Run (smeStep env) (fun s op => KeepsCount env s (smeEvent s op))
      (smeConfigure (smeInit role self pmk salt) config) s)
    (few : s.dataFrames < 2 ^ 48) : (protectedPairs s).Nodup := by
  have inv : CountInv s.core := run.invariant (fun t => CountInv t.core)
    (countInv_init role self pmk salt config)
    fun t op inv keeps => countInv_effect inv keeps (smeStep_effect env t op)
  have nodup : (s.sent.filterMap TxFrame.prot).Nodup := inv.sound.nodup
  refine (List.nodup_map_iff_inj_on nodup).2 ?_
  intro p hp q hq same
  have small (r : Octets 16 × Nat) (hr : r ∈ s.sent.filterMap TxFrame.prot) :
      r.2 % 2 ^ 48 = r.2 := by
    have le : r.2 ≤ s.dataFrames := inv.bounded r.1 r.2 hr
    exact Nat.mod_eq_of_lt (Nat.lt_of_le_of_lt le few)
  obtain ⟨key, pn⟩ := Prod.mk.inj same
  rw [small p hp, small q hq] at pn
  exact Prod.ext key pn

/-- A check that suffices for `KeepsCount`. -/
def keepsCountCheck (s : Sme) (op : SmeOp) : Bool :=
  match smeEvent s op with
  | .send | .handle .data _ => s.dataKeyValid && s.installedTk = tk s.ptk
  | .handle .m4 _ | .handle .m3 _ | .handle .ftReassocReq _ | .handle .ftReassocResp _ =>
    s.core.tx.log.isEmpty
  | _ => true

theorem keepsCount_of_check {s : Sme} {op : SmeOp} (h : keepsCountCheck s op = true) :
    KeepsCount env s (smeEvent s op) := by
  have unused (h : s.core.tx.log.isEmpty = true) : s.core.FreshKey := by
    refine Or.inr fun pn used => ?_
    rw [List.isEmpty_iff.1 h] at used
    exact absurd used List.not_mem_nil
  have installed (h : (s.dataKeyValid && s.installedTk = tk s.ptk) = true) :
      s.core.UsesInstalled := by
    obtain ⟨valid, key⟩ := Bool.and_eq_true_iff.1 h
    exact ⟨valid, of_decide_eq_true key⟩
  unfold keepsCountCheck at h
  unfold KeepsCount
  split at h
  · exact fun _ => installed h
  · exact fun _ _ => installed h
  · exact fun _ _ => unused h
  · exact fun _ _ => unused h
  · exact fun _ _ _ => unused h
  · exact fun _ _ _ => unused h
  · trivial

/-- The station of the demonstration connects and sends two data frames. -/
def demoStaSends : List SmeOp := demoStaOps .disabled [] ++ [.dataTx [1], .dataTx [2]]

theorem protectedPairs_nodup_run_demo :
    (protectedPairs (runOps demoStaInit demoStaSends)).Nodup ∧
      (protectedPairs (runOps demoStaInit demoStaSends)).length = 2 := by
  have run : Run (smeStep demoEnv) (fun s op => KeepsCount demoEnv s (smeEvent s op)) demoStaInit
      (runOps demoStaInit demoStaSends) :=
    runOps_run keepsCountCheck (fun _ _ => keepsCount_of_check) (by decide +kernel)
  exact ⟨protectedPairs_nodup_run run (by decide +kernel), by decide +kernel⟩

/--
A PMK-R1 is pushed to the connected AP, which sends data under the new key with
the count of the old one. The link goes down and is set up again.
-/
def pushedOps : List SmeOp :=
  demoApOps .disabled [] ++
    [.set (.ft 1 [65] [66]),
      .dsPush demoStaMac demoApMac (Octets.zero 32) (Octets.zero 32) (Octets.zero 16),
      .dataTx [1], .rx noSiblings (putHdr .deauth demoApMac demoStaMac demoApMac 0 ++ putLe16 3),
      rxInt .assocReq demoStaMac []]

/-- The fourth message of a station that holds the key of the AP. -/
def fourthMessage (ap : Sme) : SmeOp :=
  let pdu := (smeEapolKeyEncode 288 0x030a 0 ap.replay (Octets.zero 32) []).getD []
  rxInt .m4 demoStaMac (splice pdu eoMic (demoEnv.mic (kck ap.ptk) pdu).bytes)

/-- With it the key is installed, the count starts anew, and the next frame repeats the pair. -/
theorem pair_reused :
    ¬∀ (role : SmeRole) (self : MacAddr) (pmk : Octets 32) (salt : UInt64) (config : SmeConfig)
        (s : Sme), Reach (smeStep demoEnv) (smeConfigure (smeInit role self pmk salt) config) s →
      s.dataFrames < 2 ^ 48 → (protectedPairs s).Nodup := by
  intro all
  let s := runOps demoApInit (pushedOps ++ [fourthMessage (runOps demoApInit pushedOps), .dataTx [2]])
  have repeated : s.dataFrames < 2 ^ 48 ∧ ¬(protectedPairs s).Nodup := by
    decide +kernel
  exact repeated.2 (all .ap demoApMac demoPmk 7 .plain s (runOps_reach _ _) repeated.1)

end Run

end Rf2a4m1
