import Chip8.Command.Play
import Chip8.Proofs.Fault
import Chip8.Proofs.Turn

/-! The keypad mirrors the keyboard. It is never made anew: with each reading the keys go up that are no
longer held, then the new ones go down, with commands among them. Still, after every reading that goes
through, exactly those keys of the keypad are held that have a held key on the keyboard. -/

namespace Chip8

/-- A command is no key of the keypad. -/
theorem Key.hex?_of_command {key : Key} {c : Command} (h : key.command? = some c) :
    key.hex? = none := by
  unfold command? at h
  split at h
  all_goals first | rfl | cases h

/-! ### No key is refused -/

theorem Cpu.tick_ne_invalidKey {σ : Type} [Host σ] (cpu : Cpu) (host : σ) (n : Nat) :
    (cpu.tick host).result ≠ .error (.invalidKey n) := by
  intro h
  obtain hf | ⟨_, _, he⟩ := tick_error_cases h
  · obtain he | he | he := pendingFault_cases hf
    · cases he
    · cases he
    · cases he
  · cases he

theorem WindowHost.stepOnce_ne_invalidKey (cpu : Cpu) (host : WindowHost) (n : Nat) :
    (cpu.stepOnce host).result ≠ .error (.invalidKey n) := by
  have ht : (cpu.stepTick host).result ≠ .error (.invalidKey n) :=
    Cpu.tick_ne_invalidKey { cpu with flags.paused := false } host n
  cases hf : Cpu.faulted (cpu.stepTick host) with
  | true => rwa [Cpu.stepOnce_of_fault hf]
  | false =>
    rw [Cpu.stepOnce_of_not_fault hf]
    generalize cpu.stepTick host = run at ht
    cases hd : run.cpu.flags.dirty with
    | false => rwa [Cpu.present_clean hd]
    | true =>
      have hp : Host.present run.host = run.host.present := rfl
      rw [Cpu.present_dirty hd, hp]
      cases hs : run.host.window.current.failure with
      | none =>
        rw [present_shown hs]
        exact ht
      | some reason =>
        rw [present_failed hs]
        nofun

namespace Session

theorem obey_ne_invalidKey (s : Session) (c : Key.Command) (n : Nat) :
    (s.obey c).1 ≠ .fail (.invalidKey n) := by
  cases c with
  | step =>
    obtain ⟨output, notes, he⟩ := s.step_eq
    have hstep := WindowHost.stepOnce_ne_invalidKey s.cpu s.host n
    simp only [obey, he]
    generalize (s.cpu.stepOnce s.host).result = result at hstep
    cases result with
    | ok => rintro ⟨⟩
    | error e =>
      rintro ⟨⟩
      exact hstep rfl
  | saveScreen =>
    obtain ⟨reply, files, notes, he, rfl | ⟨cause, rfl⟩⟩ := s.saveScreen_eq
    · simp [obey, he]
    · simp [obey, he]
  | _ => rintro ⟨⟩

theorem press_ne_invalidKey (s : Session) (key : Key) (n : Nat) :
    (s.press key).1 ≠ .fail (.invalidKey n) := by
  obtain ⟨c, -, he⟩ | ⟨-, mask, he, -⟩ := s.press_cases key
  · rw [he]
    exact s.obey_ne_invalidKey c n
  · rw [he]
    nofun

theorem readKeys_ne_invalidKey (s : Session) (n : Nat) :
    s.readKeys.1 ≠ .fail (.invalidKey n) := by
  rw [readKeys_reply, Ne, handleAll_stops_iff Reply.noConfusion]
  rintro ⟨_, key, _, t, _, _, hk⟩
  exact t.press_ne_invalidKey key n hk

/-! ### One reading -/

theorem press_keys (s : Session) (key : Key) :
    (s.press key).2.host.keyboard = s.host.keyboard ∧
      ∀ n, Keypad.holds (s.press key).2.host.keypad.mask n =
        if key.hex? = some n then true else Keypad.holds s.host.keypad.mask n := by
  obtain ⟨c, hc, he⟩ | ⟨-, mask, he, hm⟩ := s.press_cases key
  · have hu := s.obey_sameUser c
    rw [he, hu.keyboard, hu.keypad]
    exact ⟨rfl, fun n => by simp [Key.hex?_of_command hc]⟩
  · rw [he]
    exact ⟨rfl, hm⟩

theorem handleAll_press {s t : Session} {keys : List Key}
    (h : handleAll press s keys = (.goOn, t)) :
    t.host.keyboard = s.host.keyboard ∧
      ∀ n, Keypad.holds t.host.keypad.mask n =
        if n ∈ Key.hexes keys then true else Keypad.holds s.host.keypad.mask n := by
  induction keys generalizing s with
  | nil =>
    obtain rfl : s = t := congrArg Prod.snd h
    exact ⟨rfl, fun n => rfl⟩
  | cons key keys ih =>
    by_cases hr : (s.press key).1 = .goOn
    · rw [handleAll_cons_goOn (Prod.ext hr rfl)] at h
      obtain ⟨hkeyboard, hholds⟩ := ih h
      obtain ⟨hkeyboard', hholds'⟩ := s.press_keys key
      exact ⟨hkeyboard.trans hkeyboard', fun n => by rw [hholds, hholds', Key.turned_cons]⟩
    · rw [handleAll_cons_stop hr] at h
      exact absurd (congrArg Prod.fst h) hr

theorem holds_released (s : Session) (n : Nat) :
    Keypad.holds s.released.host.keypad.mask n =
      if n ∈ Key.hexes (s.host.keyboard.filter (· ∉ s.host.window.readKeys.1)) then false
      else Keypad.holds s.host.keypad.mask n := by
  let read : Session := { s with host.window := s.host.window.readKeys.2 }
  let up := s.host.keyboard.filter (· ∉ s.host.window.readKeys.1)
  have hrelease (t : Session) (key : Key) (_ : key ∈ up) :
      t.release key = t.turnKey Keypad.release key := rfl
  obtain ⟨mask, he, hm⟩ := handleAll_eq Keypad.release_turns hrelease read
  rw [released, he]
  exact hm n

/-- The keypad holds what the keyboard did when it was last read. -/
def KeysAgree (s : Session) : Prop := s.host.keypad.mask = Key.mask s.host.keyboard

theorem KeysAgree.readKeys {s t : Session} (h : s.KeysAgree) (hr : s.readKeys = (.goOn, t)) :
    t.host.keyboard = s.host.window.readKeys.1 ∧ t.KeysAgree := by
  rw [readKeys_eq_pressed] at hr
  split at hr
  case h_1 u hu =>
    obtain ⟨_, rfl⟩ := Prod.mk.inj hr
    -- a key that is still held is in neither list, so it is not released by mistake
    refine ⟨rfl, mask_turned (fun n => ?_) (handleAll_press hu).2⟩
    rw [holds_released, h]
  case h_2 hstop => exact absurd hr (hstop t)

/-! ### A course of readings -/

/-- What a session can come to while every reading of its keyboard goes through, if the processor may
be used in any way in between. A reading that does not go through is the last. -/
inductive Course (start : Session) : Session → Prop
  | start : Course start start
  | read {s t : Session} : Course start s → s.readKeys = (.goOn, t) → Course start t
  | operate {s : Session} (op : Operation) (output notes : String) : Course start s →
      Course start { s with
        cpu := (s.cpu.perform s.host op).cpu
        host := (s.cpu.perform s.host op).host
        output, notes }
  | finish {s : Session} : Course start s → Course start s.finishFrame.2

namespace Course

variable {start s : Session}

theorem keysAgree (h : Course start s) (hs : start.KeysAgree) : s.KeysAgree := by
  induction h with
  | start => exact hs
  | read _ hr ih => exact (ih.readKeys hr).2
  | @operate s op _ _ _ ih =>
    have hu : (s.cpu.perform s.host op).host.SameUser s.host :=
      s.cpu.perform_keeps (WindowHost.sameUser_keeps s.host) ⟨rfl, rfl, rfl, rfl⟩ op
    unfold KeysAgree
    rw [hu.keyboard, hu.keypad]
    exact ih
  | @finish s _ ih =>
    obtain ⟨window, presented, hf, _⟩ := s.finishFrame_eq
    rw [hf]
    exact ih

theorem runInstructions (h : Course start s) : Course start s.runInstructions.2 := by
  obtain he | ⟨output, notes, he⟩ := s.runInstructions_session
  · rwa [he]
  · rw [he]
    exact h.operate (.frame s.speed) output notes

/-- The turns of the loop are such a course. -/
theorem turn (h : Course start s) (ho : s.next.1 = some (.ok ())) : Course start s.turn := by
  obtain ⟨t, u, hr, hi, -, he⟩ := next_ok ho
  have hu := (h.read hr).runInstructions
  rw [hi] at hu
  rw [he]
  exact hu.finish

theorem turns {n : Nat} (hn : ∀ k < n, (Session.turn^[k] start).next.1 = some (.ok ())) :
    Course start (Session.turn^[n] start) := by
  induction n with
  | zero => exact .start
  | succ n ih =>
    rw [Function.iterate_succ_apply']
    exact (ih fun k hk => hn k (Nat.lt_succ_of_lt hk)).turn (hn n (Nat.lt_succ_self n))

end Course

end Session

namespace Play

/-- Whatever the user does, a reading of the keyboard that goes through leaves those keys of the keypad
held that have a key among those just read, and none is refused as a key that is not there. So it is
in every course of a session, and the turns that the program's loop makes are one. -/
theorem newSession_holds_read (seeded : UInt64 → Entropy) (settings : Settings) (cpu : Cpu)
    (window : Window) (unseeded : Entropy) :
    let start := newSession seeded settings cpu window unseeded
    (∀ s t, start.Course s → s.readKeys = (.goOn, t) → ∀ n,
      Keypad.holds t.host.keypad.mask n = true ↔
        ∃ key ∈ s.host.window.readKeys.1, key.hex? = some n) ∧
    (∀ s : Session, ∀ n, s.readKeys.1 ≠ .fail (.invalidKey n)) ∧
    ∀ n, (∀ k < n, (Session.turn^[k] start).next.1 = some (.ok ())) →
      start.Course (Session.turn^[n] start) := by
  intro start
  refine ⟨fun s t hs hr n => ?_, Session.readKeys_ne_invalidKey, fun n => Session.Course.turns⟩
  have hstart : start.KeysAgree := rfl
  obtain ⟨hkeyboard, hagree⟩ := (hs.keysAgree hstart).readKeys hr
  rw [hagree, hkeyboard, Key.holds_mask, decide_eq_true_eq, Key.mem_hexes]

/-- The machine is paused while two keys go down, and in the pause it makes a step and is restarted
while one of them goes up and another down. -/
theorem newSession_holds_read_paused :
    let cpu := (Cpu.ofProgram [0x12, 0x00] [] .none).toOption.getD .initial
    let script : List Moment := [⟨[.function 5, .letter 'Q', .letter 'W'], false, none⟩,
      ⟨[.letter 'X', .function 6, .letter 'W', .letter 'X', .function 9], false, none⟩]
    let window := Window.opened windowTitle Screen.standardWidth Screen.standardHeight script
    let start := newSession Entropy.seeded commandLine.initial cpu window (.repeating [])
    (∀ k < 1, (Session.turn^[k] start).next.1 = some (.ok ())) ∧
      start.turn.readKeys.1 = .goOn ∧ start.Course start.turn ∧
      ∀ n, Keypad.holds start.turn.readKeys.2.host.keypad.mask n = true ↔ n = 0x5 ∨ n = 0x0 := by
  intro cpu script window start
  obtain ⟨hholds, _, hcourse⟩ :=
    newSession_holds_read Entropy.seeded commandLine.initial cpu window (.repeating [])
  have hturn : ∀ k < 1, (Session.turn^[k] start).next.1 = some (.ok ()) := by decide +kernel
  have hread : start.turn.readKeys.1 = .goOn := by decide +kernel
  have hc : start.Course start.turn := hcourse 1 hturn
  refine ⟨hturn, hread, hc, fun n => ?_⟩
  have hkeys : start.turn.host.window.readKeys.1 =
      [.letter 'X', .function 6, .letter 'W', .letter 'X', .function 9] := by
    decide +kernel
  rw [hholds _ _ hc (Prod.ext hread rfl) n, hkeys]
  simp [Key.hex?, eq_comm, or_comm]

end Play

end Chip8
