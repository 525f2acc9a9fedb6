import Mathlib.Data.List.Basic

/-!
# Registers of two halves

A memory of half words in which a register of one word takes two neighbouring
cells. Registers that share no cell do not see each other's writes.
-/

set_option autoImplicit false

namespace Halves

abbrev Memory := UInt16 → UInt16

def write (c : Memory) (off val : UInt16) : Memory := fun o => if o = off then val else c o

/-- The register at an offset. -/
def get (c : Memory) (off : UInt16) : UInt32 :=
  (c off).toUInt32 ||| ((c (off + 2)).toUInt32 <<< 16)

def put (c : Memory) (off : UInt16) (v : UInt32) : Memory :=
  write (write c off v.toUInt16) (off + 2) (v >>> 16).toUInt16

def putAll (l : List (UInt16 × UInt32)) (c : Memory) : Memory :=
  l.foldl (fun c w => put c w.1 w.2) c

/-- Two registers share no cell. -/
def Apart (a b : UInt16) : Prop := a ≠ b ∧ a + 2 ≠ b ∧ a ≠ b + 2

instance (a b : UInt16) : Decidable (Apart a b) := inferInstanceAs (Decidable (_ ∧ _))

theorem Apart.symm {a b : UInt16} (apart : Apart a b) : Apart b a :=
  ⟨apart.1.symm, apart.2.2.symm, apart.2.1.symm⟩

section Cells

variable {c : Memory} {off o x : UInt16} {val : UInt16} {v : UInt32}

@[simp] theorem write_same : write c off val off = val := if_pos rfl

theorem write_other (other : o ≠ off) : write c off val o = c o := if_neg other

theorem write_write : write (write c off val) off val = write c off val := by
  funext o
  by_cases same : o = off
  · rw [same, write_same, write_same]
  · rw [write_other same]

theorem next_ne (off : UInt16) : off ≠ off + 2 := by
  intro same
  have zero : off + 2 - off = off - off := congrArg (· - off) same.symm
  rw [UInt16.sub_self, UInt16.add_comm, UInt16.add_sub_cancel] at zero
  exact absurd zero (by decide)

theorem put_other (low : x ≠ off) (high : x ≠ off + 2) : put c off v x = c x := by
  rw [put, write_other high, write_other low]

/-- The two halves of a word. -/
theorem halves (v : UInt32) :
    v.toUInt16.toUInt32 ||| ((v >>> 16).toUInt16.toUInt32 <<< 16) = v := by
  apply UInt32.toNat_inj.1
  have small := v.toNat_lt
  have low : v.toUInt16.toUInt32.toNat = v.toNat % 2 ^ 16 := by
    rw [UInt16.toNat_toUInt32, UInt32.toNat_toUInt16]
  have high : ((v >>> 16).toUInt16.toUInt32 <<< 16).toNat = (v.toNat / 2 ^ 16) <<< 16 := by
    rw [UInt32.toNat_shiftLeft, UInt16.toNat_toUInt32, UInt32.toNat_toUInt16,
      UInt32.toNat_shiftRight, Nat.shiftRight_eq_div_pow, Nat.shiftLeft_eq, Nat.shiftLeft_eq]
    change v.toNat / 2 ^ 16 % 2 ^ 16 * 2 ^ 16 % 2 ^ 32 = v.toNat / 2 ^ 16 * 2 ^ 16
    omega
  rw [UInt32.toNat_or, low, high, Nat.or_comm,
    ← Nat.shiftLeft_add_eq_or_of_lt (Nat.mod_lt _ (by decide)), Nat.shiftLeft_eq]
  omega

theorem get_put : get (put c off v) off = v := by
  rw [get, put, write_same, write_other (next_ne off), write_same]
  exact halves v

theorem get_put_apart (apart : Apart o off) : get (put c off v) o = get c o := by
  obtain ⟨same, high, low⟩ := apart
  have both : o + 2 ≠ off + 2 := fun eq => same (UInt16.add_left_inj 2 |>.1 eq)
  rw [get, get, put_other same low, put_other high both]

end Cells

section Lists

variable {c : Memory} {l : List (UInt16 × UInt32)} {o x : UInt16} {v : UInt32}

/-- Writes to registers that are apart, in two parts. -/
theorem apart_append {k : List (UInt16 × UInt32)}
    (apart : ((l ++ k).map Prod.fst).Pairwise fun a b => Apart a b) :
    ((l.map Prod.fst).Pairwise fun a b => Apart a b) ∧
      ((k.map Prod.fst).Pairwise fun a b => Apart a b) ∧
      ∀ w ∈ l, ∀ r ∈ k.map Prod.fst, Apart w.1 r := by
  rw [List.map_append, List.pairwise_append] at apart
  obtain ⟨front, rear, across⟩ := apart
  exact ⟨front, rear, fun w mem => across w.1 (List.mem_map_of_mem mem)⟩

/-- The register that is written last is apart from those before it. -/
theorem apart_last (apart : ((l ++ [(o, v)]).map Prod.fst).Pairwise fun a b => Apart a b) :
    ∀ r ∈ l.map Prod.fst, Apart o r := by
  rw [List.map_append, List.pairwise_append] at apart
  intro r mem
  exact (apart.2.2 r mem o (List.mem_singleton.2 rfl)).symm

theorem putAll_append (l k : List (UInt16 × UInt32)) (c : Memory) :
    putAll (l ++ k) c = putAll k (putAll l c) :=
  List.foldl_append

theorem get_putAll_apart (apart : ∀ r ∈ l.map Prod.fst, Apart o r) :
    get (putAll l c) o = get c o := by
  induction l generalizing c with
  | nil => rfl
  | cons w rest ih =>
    exact (ih fun r mem => apart r (List.mem_cons_of_mem _ mem)).trans
      (get_put_apart (apart w.1 List.mem_cons_self))

/-- Of writes to registers that are apart every one is found. -/
theorem get_putAll (apart : (l.map Prod.fst).Pairwise fun a b => Apart a b) (mem : (o, v) ∈ l) :
    get (putAll l c) o = v := by
  induction l generalizing c with
  | nil => cases mem
  | cons w rest ih =>
    rw [List.map_cons, List.pairwise_cons] at apart
    rcases List.mem_cons.1 mem with rfl | mem
    · exact (get_putAll_apart apart.1).trans get_put
    · exact ih apart.2 mem

end Lists

end Halves
