import Chip8.Headless
import Chip8.Proofs.KeyWait
import Chip8.Proofs.Stutter
import Mathlib.Combinatorics.Colex

/-! What a program sees of the keypad is the set of the keys that are held. The keypad computes with
bits, the instructions that skip on a key test one of them, and the instruction that waits counts
them from the lowest. All of them come to the same finite set of numbers below sixteen, whatever was
done to the keypad; numbers that name no key are in no such set. -/

namespace Chip8

namespace Keypad

/-! ### The set of a word -/

/-- The numbers of the powers of two that add up to the word. -/
def members (mask : UInt16) : Finset Nat := mask.toNat.bitIndices.toFinset

variable {mask : UInt16} {key n : Nat}

theorem mem_members : key ∈ members mask ↔ holds mask key = true := by
  rw [members, List.mem_toFinset, Nat.mem_bitIndices, holds]

theorem sum_members (mask : UInt16) : ∑ key ∈ members mask, 2 ^ key = mask.toNat :=
  Finset.sum_toFinset_bitIndices_two_pow _

theorem lt_of_mem_members (h : key ∈ members mask) : key < 16 := by
  by_contra hkey
  rw [mem_members, holds_of_ge mask (Nat.not_lt.mp hkey)] at h
  cases h

theorem members_eq_empty_iff : members mask = ∅ ↔ mask = 0 := by
  constructor
  · intro h
    refine ext_holds fun key _ => ?_
    rw [holds_zero, Bool.eq_false_iff, Ne, ← mem_members, h]
    exact Finset.notMem_empty key
  · rintro rfl
    rfl

theorem members_insert {bit : UInt16} (h : bit? n = some bit) (mask : UInt16) :
    members (mask ||| bit) = insert n (members mask) := by
  ext key
  rw [mem_members, holds_insert h, Bool.or_eq_true, decide_eq_true_iff, Finset.mem_insert,
    mem_members, or_comm, eq_comm]

theorem members_remove {bit : UInt16} (h : bit? n = some bit) (mask : UInt16) :
    members (mask &&& ~~~bit) = (members mask).erase n := by
  ext key
  rw [mem_members, holds_remove h, Bool.and_eq_true, Bool.not_eq_true', decide_eq_false_iff_not,
    Finset.mem_erase, mem_members, and_comm, eq_comm]

theorem decide_mem_members : decide (key ∈ members mask) = holds mask key := by
  rw [Bool.eq_iff_iff, decide_eq_true_iff, mem_members]

/-! ### Histories -/

/-- What a host does to its keypad. -/
inductive Change where
  | press (key : Nat)
  | release (key : Nat)
  | releaseAll
  | replace (mask : UInt16)

def after (k : Keypad) : Change → Keypad
  | .press key => (k.press key).2
  | .release key => (k.release key).2
  | .releaseAll => k.releaseAll
  | .replace mask => k.set mask

def afterAll (k : Keypad) (changes : List Change) : Keypad := changes.foldl after k

/-- What the change does to a set of keys. There is no key above fifteen. -/
def Change.applyTo (keys : Finset Nat) : Change → Finset Nat
  | .press key => if key < 16 then insert key keys else keys
  | .release key => keys.erase key
  | .releaseAll => ∅
  | .replace mask => members mask

/-- The keys that are held after changes to a keypad on which none was held. -/
def heldAfter (changes : List Change) : Finset Nat := changes.foldl Change.applyTo ∅

theorem members_after (k : Keypad) (c : Change) :
    members (k.after c).mask = c.applyTo (members k.mask) := by
  cases c with
  | press key =>
    rw [after, Change.applyTo]
    by_cases h : key < 16
    · rw [if_pos h, k.press_bit (bit?_of_lt h)]
      exact members_insert (bit?_of_lt h) k.mask
    · rw [if_neg h, (k.refused (Nat.not_lt.mp h)).1]
  | release key =>
    rw [after, Change.applyTo]
    by_cases h : key < 16
    · rw [k.release_bit (bit?_of_lt h)]
      exact members_remove (bit?_of_lt h) k.mask
    · rw [(k.refused (Nat.not_lt.mp h)).2.1,
        Finset.erase_eq_of_notMem fun hmem => h (lt_of_mem_members hmem)]
  | releaseAll => rfl
  | replace mask => rfl

theorem members_afterAll (changes : List Change) :
    members (Keypad.empty.afterAll changes).mask = heldAfter changes := by
  induction changes using List.reverseRecOn with
  | nil => rfl
  | append_singleton changes c ih =>
    have hafter : Keypad.empty.afterAll (changes ++ [c]) =
        (Keypad.empty.afterAll changes).after c := List.foldl_concat ..
    have hheld : heldAfter (changes ++ [c]) = c.applyTo (heldAfter changes) := List.foldl_concat ..
    rw [hafter, hheld, members_after, ih]

/-- A key that is pressed changes the set unless it was in it, one that is released if it was. -/
theorem press_eq (k : Keypad) (h : key < 16) :
    k.press key =
      (.ok (decide (insert key (members k.mask) ≠ members k.mask)), k.after (.press key)) := by
  have hchanged : decide (insert key (members k.mask) ≠ members k.mask) = !holds k.mask key := by
    rw [← decide_mem_members, ← decide_not, decide_eq_decide, Ne, Finset.insert_eq_self]
  rw [hchanged, after, k.press_bit (bit?_of_lt h)]

theorem release_eq (k : Keypad) (h : key < 16) :
    k.release key =
      (.ok (decide ((members k.mask).erase key ≠ members k.mask)), k.after (.release key)) := by
  have hchanged : decide ((members k.mask).erase key ≠ members k.mask) = holds k.mask key := by
    rw [← decide_mem_members, decide_eq_decide, Ne, Finset.erase_eq_self, not_not]
  rw [hchanged, after, k.release_bit (bit?_of_lt h)]

end Keypad

namespace Cpu

/-! ### Instructions that ask for keys -/

variable {σ : Type} [Host σ] {cpu : Cpu} {host : σ} {x : Nat}

theorem toNat_pc_skipIf (cpu : Cpu) (b : Bool) :
    (cpu.skipIf b).pc.toNat = (cpu.pc.toNat + if b then 4 else 2) % 0x1000 := by
  cases b with
  | false =>
    simp only [skipIf, advance, following, Bool.false_eq_true, if_false, UInt16.toNat_mod,
      UInt16.toNat_add, UInt16.reduceToNat]
    omega
  | true =>
    simp only [skipIf, advance, following, if_true, UInt16.toNat_mod, UInt16.toNat_add,
      UInt16.reduceToNat]
    omega

/-- The guard against numbers that name no key makes no difference to whether the key is held. -/
theorem skipOnKey_skips (cpu : Cpu) (host : σ) (x : Nat) (held : Bool) :
    (cpu.skipOnKey host x held).cpu =
      cpu.skipIf (Keypad.holds (Host.keys host).1 (cpu.v.get x).toNat == held) := by
  rw [skipOnKey, isKeyHeld_eq]
  by_cases h : (cpu.v.get x).toNat < 16
  · rw [if_pos h]
    rfl
  · rw [if_neg h, Keypad.holds_of_ge _ (Nat.not_lt.mp h)]
    rfl

theorem tick_skipOnKey (held : Bool) {i : Instruction} (hp : cpu.flags.paused = false)
    (hi : Instruction.decode ⟨cpu.fetch⟩ = some i) (hf : cpu.faultOf i = none)
    (he : cpu.countCycle.execute host i = cpu.countCycle.skipOnKey host x held) :
    (cpu.tick host).cpu.pc.toNat = (cpu.pc.toNat +
      if ((cpu.v.get x).toNat ∈ Keypad.members (Host.keys host).1 ↔ held = true) then 4 else 2) %
        0x1000 := by
  obtain ⟨paused, result, ht, -⟩ := tick_of_decode host hp hi hf
  have hheld : (Keypad.holds (Host.keys host).1 (cpu.v.get x).toNat == held) = true ↔
      ((cpu.v.get x).toNat ∈ Keypad.members (Host.keys host).1 ↔ held = true) := by
    rw [Keypad.mem_members, beq_iff_eq, Bool.eq_iff_iff]
  rw [ht, he, skipOnKey_skips]
  simp only [toNat_pc_skipIf, ← hheld]
  rfl

theorem AtWait.tick_stays (h : cpu.AtWait x) (hp : cpu.flags.paused = false)
    (hk : Keypad.members (Host.keys host).1 = ∅) :
    let next := (cpu.tick host).cpu
    next.pc = cpu.pc ∧ next.v = cpu.v ∧ next.flags.awaitingKey = true := by
  obtain ⟨paused, result, ht, -⟩ := tick_of_decode host hp h rfl
  rw [ht, Cpu.execute, waitForKey_unheld _ x (Keypad.members_eq_empty_iff.mp hk)]
  exact ⟨rfl, rfl, rfl⟩

theorem AtWait.tick_takes_min (h : cpu.AtWait x) (hp : cpu.flags.paused = false)
    (hk : (Keypad.members (Host.keys host).1).Nonempty) :
    let next := (cpu.tick host).cpu
    next.pc.toNat = (cpu.pc.toNat + 2) % 0x1000 ∧
      next.v = cpu.v.set x (UInt8.ofNat ((Keypad.members (Host.keys host).1).min' hk)) ∧
      next.flags.awaitingKey = false := by
  have hne : (Host.keys host).1 ≠ 0 := fun h0 =>
    hk.ne_empty (Keypad.members_eq_empty_iff.mpr h0)
  obtain ⟨⟨key, -, hheld, hless, hv⟩, hawaiting, hpc, -⟩ := h.tick_takes_least hp hne
  have hmin : (Keypad.members (Host.keys host).1).min' hk = key := by
    refine le_antisymm (Finset.min'_le _ key (Keypad.mem_members.mpr hheld)) ?_
    refine Finset.le_min' _ hk key fun other hother => Nat.not_lt.mp fun hlt => ?_
    rw [Keypad.mem_members, hless other hlt] at hother
    cases hother
  rw [hmin]
  exact ⟨hpc, hv, hawaiting⟩

end Cpu

/-- Whatever is done to a keypad, it holds the set of keys that the changes lead to; pressing and
releasing tell whether the set changed, and what names no key is refused. On a host that answers
with this keypad a processor skips on a key by whether the value of the register is in the set, and
one that waits goes on exactly if the set is not empty, with its least element. -/
theorem Keypad.heldAfter_seen (changes : List Change) :
    let k := Keypad.empty.afterAll changes
    let keys := heldAfter changes
    ((∀ key ∈ keys, key < 16) ∧ k.mask.toNat = ∑ key ∈ keys, 2 ^ key) ∧
    (∀ key, k.isPressed key = decide (key ∈ keys)) ∧
    (∀ key < 16,
      k.press key = (.ok (decide (insert key keys ≠ keys)), k.after (.press key)) ∧
      k.release key = (.ok (decide (keys.erase key ≠ keys)), k.after (.release key))) ∧
    (∀ key, 16 ≤ key →
      k.press key = (.error (.invalidKey key), k) ∧
      k.release key = (.error (.invalidKey key), k) ∧
      k.after (.press key) = k ∧ k.after (.release key) = k) ∧
    ∀ {σ : Type} [Host σ] (host : σ), (Host.keys host).1 = k.mask →
      ∀ cpu : Cpu, cpu.flags.paused = false →
        let next := (cpu.tick host).cpu
        (∀ x, Instruction.decode ⟨cpu.fetch⟩ = some (.sek x) →
          next.pc.toNat =
            (cpu.pc.toNat + if (cpu.v.get x).toNat ∈ keys then 4 else 2) % 0x1000) ∧
        (∀ x, Instruction.decode ⟨cpu.fetch⟩ = some (.snek x) →
          next.pc.toNat =
            (cpu.pc.toNat + if (cpu.v.get x).toNat ∈ keys then 2 else 4) % 0x1000) ∧
        ∀ x, Instruction.decode ⟨cpu.fetch⟩ = some (.waitk x) →
          (keys = ∅ → next.pc = cpu.pc ∧ next.v = cpu.v ∧ next.flags.awaitingKey = true) ∧
          ∀ h : keys.Nonempty, next.pc.toNat = (cpu.pc.toNat + 2) % 0x1000 ∧
            next.v = cpu.v.set x (UInt8.ofNat (keys.min' h)) ∧
            next.flags.awaitingKey = false := by
  intro k keys
  have hkeys : members k.mask = keys := members_afterAll changes
  rw [← hkeys]
  refine ⟨⟨fun key => lt_of_mem_members, (sum_members k.mask).symm⟩,
    fun key => (k.isPressed_eq key).trans decide_mem_members.symm,
    fun key h => ⟨k.press_eq h, k.release_eq h⟩,
    fun key h => ?_, fun host hmask cpu hp => ?_⟩
  · obtain ⟨hpress, hrelease, -⟩ := k.refused h
    exact ⟨hpress, hrelease, congrArg Prod.snd hpress, congrArg Prod.snd hrelease⟩
  · rw [← hmask]
    refine ⟨fun x hx => ?_, fun x hx => ?_, fun x hx => ⟨?_, ?_⟩⟩
    · rw [Cpu.tick_skipOnKey (x := x) true hp hx rfl rfl]
      simp only [iff_true]
    · rw [Cpu.tick_skipOnKey (x := x) false hp hx rfl rfl]
      simp only [Bool.false_eq_true, iff_false, ite_not]
    · exact Cpu.AtWait.tick_stays hx hp
    · exact Cpu.AtWait.tick_takes_min hx hp

/-- Keys five and ten are held, and a number that agrees with ten in its low bits names neither of
them: it is refused by the keypad, and not found held by the program. -/
theorem Keypad.heldAfter_seen_high :
    let changes := [.press 0x3, .press 0x1a, .replace 0x0408, .release 0x3, .press 0x5]
    let keypad := Keypad.empty.afterAll changes
    let host : Headless := { Headless.seeded 0 with keypad }
    let fresh (program : List UInt8) := (Cpu.ofProgram program [] .none).toOption.getD .initial
    let cpu (program : List UInt8) := { fresh program with v := .ofList [0x1a, 0xa] }
    heldAfter changes = {0x5, 0xa} ∧
      keypad.press 0x1a = (.error (.invalidKey 0x1a), keypad) ∧
      ((cpu [0xe0, 0x9e]).tick host).cpu.pc.toNat = 0x202 ∧
      ((cpu [0xe1, 0x9e]).tick host).cpu.pc.toNat = 0x204 ∧
      ((cpu [0xe0, 0xa1]).tick host).cpu.pc.toNat = 0x204 ∧
      ((cpu [0xf2, 0x0a]).tick host).cpu.v.get 2 = 0x5 := by
  intro changes keypad host fresh cpu
  obtain ⟨-, -, -, hrefused, hseen⟩ := heldAfter_seen changes
  have hkeys : heldAfter changes = {0x5, 0xa} := by decide +kernel
  rw [hkeys] at hseen
  have hseen (program : List UInt8) := hseen host rfl (cpu program)
  obtain ⟨hmissed, -⟩ := hseen [0xe0, 0x9e] rfl
  obtain ⟨hskipped, -⟩ := hseen [0xe1, 0x9e] rfl
  obtain ⟨-, hfree, -⟩ := hseen [0xe0, 0xa1] rfl
  obtain ⟨-, -, hwaited⟩ := hseen [0xf2, 0x0a] rfl
  obtain ⟨-, htaken⟩ := hwaited 2 (by decide +kernel)
  obtain ⟨-, hv, -⟩ := htaken (by decide)
  refine ⟨hkeys, (hrefused 0x1a (by decide)).1, ?_, ?_, ?_, ?_⟩
  · rw [hmissed 0 (by decide +kernel)]
    rfl
  · rw [hskipped 1 (by decide +kernel)]
    rfl
  · rw [hfree 0 (by decide +kernel)]
    rfl
  · rw [hv]
    rfl

end Chip8
