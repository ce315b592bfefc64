import Chip8.Proofs.Keypad
import Chip8.Session.Keyboard

/-! Reading the keyboard. As long as no key is a command, the keys that went up and down since the
last reading bring the keypad from the set of the keys held then to the set of those held now. -/

namespace Chip8

namespace Key

theorem hex?_lt {k : Key} {n : Nat} (h : k.hex? = some n) : n < 16 := by
  unfold hex? at h
  split at h <;> simp at h <;> omega

/-- No two keys of the keyboard are the same key of the keypad. -/
theorem hex?_inj {a b : Key} {n : Nat} (ha : a.hex? = some n) (hb : b.hex? = some n) : a = b := by
  unfold hex? at ha hb
  split at ha <;> cases ha <;> split at hb <;> cases hb <;> rfl

/-- The keys of the keypad among some keys of the keyboard. -/
def hexes (keys : List Key) : List Nat := keys.filterMap hex?

theorem mem_hexes {keys : List Key} {n : Nat} : n ∈ hexes keys ↔ ∃ k ∈ keys, k.hex? = some n :=
  List.mem_filterMap

/-- Turning a key and then others is turning all of them. -/
theorem turned_cons (key : Key) (keys : List Key) (n : Nat) (down held : Bool) :
    (if n ∈ hexes (key :: keys) then down else held) =
      if n ∈ hexes keys then down else if key.hex? = some n then down else held := by
  simp only [mem_hexes, List.mem_cons, exists_eq_or_imp]
  by_cases hn : ∃ k ∈ keys, k.hex? = some n
  · simp [hn]
  · simp [hn]

/-- A key that tells its place on the keypad is held if its place is. -/
theorem mem_hexes_iff {keys : List Key} {k : Key} {n : Nat} (h : k.hex? = some n) :
    n ∈ hexes keys ↔ k ∈ keys := by
  rw [mem_hexes]
  constructor
  · rintro ⟨k', hk', hn⟩
    rwa [hex?_inj h hn]
  · intro hk
    exact ⟨k, hk, h⟩

/-- The keys of the keyboard that are held, as a set of keys of the keypad. -/
def mask (keys : List Key) : UInt16 := Keypad.setOf (hexes keys)

theorem holds_mask (keys : List Key) (n : Nat) :
    Keypad.holds (mask keys) n = decide (n ∈ hexes keys) := by
  apply Keypad.holds_setOf
  intro m hm
  obtain ⟨k, _, hk⟩ := mem_hexes.mp hm
  exact hex?_lt hk

end Key

namespace Session

theorem turnKey_eq {change : Keypad → Nat → Except Error Bool × Keypad} {down : Bool}
    (h : Keypad.Turns change down) (s : Session) (key : Key) :
    ∃ mask, s.turnKey change key = (.goOn, { s with host.keypad := ⟨mask⟩ }) ∧
      ∀ n, Keypad.holds mask n =
        if key.hex? = some n then down else Keypad.holds s.host.keypad.mask n := by
  cases hk : key.hex? with
  | none => exact ⟨_, by rw [turnKey, hk], fun n => by simp⟩
  | some n =>
    obtain ⟨was, mask, hc, hm⟩ := h s.host.keypad n (Key.hex?_lt hk)
    refine ⟨mask, ?_, fun m => ?_⟩
    · simp only [turnKey, hk, hc]
    · rw [hm]
      simp only [Option.some.injEq]

/-- A key that goes down is a command, which is obeyed, or one of the keypad, or means nothing. -/
theorem press_cases (s : Session) (key : Key) :
    (∃ c, key.command? = some c ∧ s.press key = s.obey c) ∨
      key.command? = none ∧ ∃ mask, s.press key = (.goOn, { s with host.keypad := ⟨mask⟩ }) ∧
        ∀ n, Keypad.holds mask n =
          if key.hex? = some n then true else Keypad.holds s.host.keypad.mask n := by
  unfold press
  cases key.command? with
  | some c => exact .inl ⟨c, rfl, rfl⟩
  | none => exact .inr ⟨rfl, turnKey_eq Keypad.press_turns s key⟩

/-- Handling keys one after the other brings all of them up or down. -/
theorem handleAll_eq {change : Keypad → Nat → Except Error Bool × Keypad} {down : Bool}
    (h : Keypad.Turns change down) {handle : Session → Key → Reply × Session} {keys : List Key}
    (hh : ∀ s, ∀ key ∈ keys, handle s key = s.turnKey change key) (s : Session) :
    ∃ mask, handleAll handle s keys = (.goOn, { s with host.keypad := ⟨mask⟩ }) ∧
      ∀ n, Keypad.holds mask n =
        if n ∈ Key.hexes keys then down else Keypad.holds s.host.keypad.mask n := by
  induction keys generalizing s with
  | nil => exact ⟨_, rfl, fun n => rfl⟩
  | cons key keys ih =>
    obtain ⟨mask, he, hm⟩ := turnKey_eq h s key
    obtain ⟨mask', he', hm'⟩ := ih (fun s k hk => hh s k (List.mem_cons_of_mem _ hk))
      { s with host.keypad := ⟨mask⟩ }
    refine ⟨mask', ?_, fun n => ?_⟩
    · rw [handleAll, hh s key List.mem_cons_self, he]
      exact he'
    · rw [hm', hm, Key.turned_cons]

/-- Up with the keys that are no longer held, then down with the new ones. -/
theorem mask_turned {held keys : List Key} {up down : UInt16}
    (hup : ∀ n, Keypad.holds up n =
      if n ∈ Key.hexes (held.filter (· ∉ keys)) then false else Keypad.holds (Key.mask held) n)
    (hdown : ∀ n, Keypad.holds down n =
      if n ∈ Key.hexes (keys.filter (· ∉ held)) then true else Keypad.holds up n) :
    down = Key.mask keys := by
  apply Keypad.ext_holds
  intro n _
  rw [hdown, hup, Key.holds_mask, Key.holds_mask]
  by_cases hn : ∃ k : Key, k.hex? = some n
  · obtain ⟨k, hk⟩ := hn
    simp only [Key.mem_hexes_iff hk, List.mem_filter, decide_eq_true_eq]
    by_cases hheld : k ∈ held
    · by_cases hkeys : k ∈ keys
      · simp [hheld, hkeys]
      · simp [hheld, hkeys]
    · by_cases hkeys : k ∈ keys
      · simp [hheld, hkeys]
      · simp [hheld, hkeys]
  · have hnone (keys : List Key) : n ∉ Key.hexes keys := by
      intro hm
      obtain ⟨k, _, hk⟩ := Key.mem_hexes.mp hm
      exact hn ⟨k, hk⟩
    simp [hnone]

/-- Without a command among the keys, reading the keyboard makes the keypad out of it. -/
theorem readKeys_eq {s : Session} (hs : s.host.keypad.mask = Key.mask s.host.keyboard)
    (hc : ∀ key ∈ s.host.window.readKeys.1, key.command? = none) :
    s.readKeys = (.goOn, { s with
      host.window := s.host.window.readKeys.2
      host.keyboard := s.host.window.readKeys.1
      host.keypad := ⟨Key.mask s.host.window.readKeys.1⟩ }) := by
  let read : Session := { s with host.window := s.host.window.readKeys.2 }
  let keys := s.host.window.readKeys.1
  let held := s.host.keyboard
  have hrelease (t : Session) (key : Key) (_ : key ∈ held.filter (· ∉ keys)) :
      t.release key = t.turnKey Keypad.release key := rfl
  obtain ⟨up, hup, hu⟩ := handleAll_eq Keypad.release_turns hrelease read
  have hpress (t : Session) (key : Key) (hk : key ∈ keys.filter (· ∉ held)) :
      t.press key = t.turnKey Keypad.press key := by
    rw [press, hc key (List.mem_filter.mp hk).1]
  obtain ⟨down, hdown, hd⟩ :=
    handleAll_eq Keypad.press_turns hpress { read with host.keypad := ⟨up⟩ }
  have hmask : down = Key.mask keys := by
    apply mask_turned _ hd
    rw [← hs]
    exact hu
  have hr : s.readKeys = (.goOn, { read with host.keyboard := keys, host.keypad := ⟨down⟩ }) := by
    simp only [readKeys]
    rw [hup]
    simp only
    rw [hdown]
  rw [hr, hmask]

end Session

end Chip8
