import Chip8.Command.Play
import Chip8.Proofs.Keyboard
import Chip8.Proofs.Picture
import Chip8.Proofs.Reachable
import Mathlib.Control.Monad.Basic
import Mathlib.Logic.Function.Iterate

/-! One turn of the loop in a window, by its parts: the keys that went up, the keys that went down one
after the other, the instructions of a frame, and the end of the frame. Each turn takes one moment
off the script. A breakpoint ends a turn, and with it the loop, if a single step comes to it; the
instructions of a frame only tell of it. -/

namespace Chip8

namespace WindowHost

/-- Nothing that is asked of the host changes the user. -/
theorem sameUser_keeps (start : WindowHost) : Host.Keeps fun h : WindowHost => h.SameUser start where
  randomByte h := ⟨h.keyboard, h.keypad, h.current, h.coming⟩
  keys h := h
  clear h := ⟨h.keyboard, h.keypad, h.current, h.coming⟩
  blit _ _ _ h := ⟨h.keyboard, h.keypad, h.current, h.coming⟩
  present {host} h := by
    have hp : Host.present host = host.present := rfl
    rw [hp]
    cases hs : host.window.current.failure with
    | none =>
      rw [present_shown hs]
      exact ⟨h.keyboard, h.keypad, h.current, h.coming⟩
    | some reason =>
      rw [present_failed hs]
      exact ⟨h.keyboard, h.keypad, h.current, h.coming⟩

end WindowHost

namespace Session

/-- The session after a turn, however the turn ended. -/
def turn (s : Session) : Session := s.next.2

/-! ### Handling keys -/

section HandleAll

variable {handle : Session → Key → Reply × Session} {keys : List Key} {s t : Session}
  {P : Session → Prop}

theorem handleAll_cons_goOn {key : Key} (h : handle s key = (.goOn, t)) :
    handleAll handle s (key :: keys) = handleAll handle t keys := by
  rw [handleAll, h]

theorem handleAll_cons_stop {key : Key} (h : (handle s key).1 ≠ .goOn) :
    handleAll handle s (key :: keys) = handle s key := by
  rw [handleAll]
  split
  case h_1 t ht => exact absurd (congrArg Prod.fst ht) h
  case h_2 => rfl

/-- What each key keeps, all of them keep, also if one of them stops the others. -/
theorem handleAll_keeps (h : ∀ s, ∀ key ∈ keys, P s → P (handle s key).2) (hs : P s) :
    P (handleAll handle s keys).2 := by
  induction keys generalizing s with
  | nil => exact hs
  | cons key keys ih =>
    have hk := h s key List.mem_cons_self hs
    by_cases hr : (handle s key).1 = .goOn
    · rw [handleAll_cons_goOn (Prod.ext hr rfl)]
      exact ih (fun s k hk => h s k (List.mem_cons_of_mem _ hk)) hk
    · rw [handleAll_cons_stop hr]
      exact hk

/-- What each key keeps that lets the handling go on, all of them keep if it goes on to the end. -/
theorem handleAll_goOn (h : ∀ s t, ∀ key ∈ keys, handle s key = (.goOn, t) → P s → P t) (hs : P s)
    (ht : handleAll handle s keys = (.goOn, t)) : P t := by
  induction keys generalizing s with
  | nil =>
    obtain rfl : s = t := congrArg Prod.snd ht
    exact hs
  | cons key keys ih =>
    by_cases hr : (handle s key).1 = .goOn
    · have hk : handle s key = (.goOn, (handle s key).2) := Prod.ext hr rfl
      rw [handleAll_cons_goOn hk] at ht
      exact ih (fun s t k hk => h s t k (List.mem_cons_of_mem _ hk))
        (h s _ key List.mem_cons_self hk hs) ht
    · rw [handleAll_cons_stop hr] at ht
      exact absurd (congrArg Prod.fst ht) hr

/-- The handling stops at a key whose reply stops it, after others whose replies did not. -/
theorem handleAll_stops_iff {r : Reply} (hr : r ≠ .goOn) :
    (handleAll handle s keys).1 = r ↔ ∃ before key after t, keys = before ++ key :: after ∧
      handleAll handle s before = (.goOn, t) ∧ (handle t key).1 = r := by
  induction keys generalizing s with
  | nil => simp [handleAll, hr.symm]
  | cons key keys ih =>
    simp only [List.cons_eq_append_iff]
    by_cases hk : (handle s key).1 = .goOn
    · have hgo (keys : List Key) : handleAll handle s (key :: keys) = handleAll handle _ keys :=
        handleAll_cons_goOn (Prod.ext hk rfl)
      rw [hgo, ih]
      constructor
      · rintro ⟨before, last, after, t, rfl, hb, hl⟩
        exact ⟨key :: before, last, after, t, .inr ⟨before, rfl, rfl⟩, (hgo before).trans hb, hl⟩
      · rintro ⟨_, last, after, t, ⟨rfl, he⟩ | ⟨before, rfl, rfl⟩, hb, hl⟩
        · obtain ⟨rfl, rfl⟩ := List.cons.inj he
          obtain rfl : s = t := congrArg Prod.snd hb
          exact absurd (hl.symm.trans hk) hr
        · exact ⟨before, last, after, t, rfl, (hgo before).symm.trans hb, hl⟩
    · have hstop (keys : List Key) : handleAll handle s (key :: keys) = handle s key :=
        handleAll_cons_stop hk
      rw [hstop]
      constructor
      · intro hl
        exact ⟨[], key, keys, s, .inl ⟨rfl, rfl⟩, rfl, hl⟩
      · rintro ⟨_, last, after, t, ⟨rfl, he⟩ | ⟨before, rfl, rfl⟩, hb, hl⟩
        · obtain ⟨rfl, rfl⟩ := List.cons.inj he
          obtain rfl : s = t := congrArg Prod.snd hb
          exact hl
        · rw [hstop] at hb
          exact absurd (congrArg Prod.fst hb) hk

end HandleAll

/-! ### Reading the keyboard -/

/-- The keys that go down with the next reading. -/
def pressed (s : Session) : List Key := s.host.window.readKeys.1.filter (· ∉ s.host.keyboard)

/-- Keys that go up are keys of the keypad or nothing at all. -/
theorem handleAll_release (s : Session) (keys : List Key) :
    ∃ keypad, handleAll release s keys = (.goOn, { s with host.keypad := keypad }) := by
  have hrelease (t : Session) (key : Key) (_ : key ∈ keys) :
      t.release key = t.turnKey Keypad.release key := rfl
  obtain ⟨mask, he, _⟩ := handleAll_eq Keypad.release_turns hrelease s
  exact ⟨⟨mask⟩, he⟩

/-- The session with the keyboard read, and the keys handled that went up. -/
def released (s : Session) : Session :=
  (handleAll release { s with host.window := s.host.window.readKeys.2 }
    (s.host.keyboard.filter (· ∉ s.host.window.readKeys.1))).2

theorem released_eq (s : Session) : ∃ keypad, s.released =
    { s with host := { s.host with window := s.host.window.readKeys.2, keypad } } := by
  obtain ⟨keypad, he⟩ := handleAll_release { s with host.window := s.host.window.readKeys.2 }
    (s.host.keyboard.filter (· ∉ s.host.window.readKeys.1))
  exact ⟨keypad, by rw [released, he]⟩

/-- The reading goes as far as the keys that go down let it. -/
theorem readKeys_eq_pressed (s : Session) :
    s.readKeys = match handleAll press s.released s.pressed with
      | (.goOn, t) => (.goOn, { t with host.keyboard := s.host.window.readKeys.1 })
      | stopped => stopped := by
  obtain ⟨keypad, he⟩ := handleAll_release { s with host.window := s.host.window.readKeys.2 }
    (s.host.keyboard.filter (· ∉ s.host.window.readKeys.1))
  unfold readKeys released pressed
  dsimp only
  generalize handleAll release _ _ = r at he ⊢
  subst he
  rfl

theorem readKeys_reply (s : Session) :
    s.readKeys.1 = (handleAll press s.released s.pressed).1 := by
  rw [readKeys_eq_pressed]
  split
  case h_1 h => rw [h]
  case h_2 => rfl

/-! ### Keys that go down -/

theorem after_eq (s : Session) (run : Run WindowHost) :
    ∃ output, s.after run = (run.result, { s with cpu := run.cpu, host := run.host, output }) :=
  ⟨_, rfl⟩

/-- A run that ended well lets the reading go on. -/
def Reply.ofResult : Except Error Unit → Reply
  | .ok () => .goOn
  | .error e => .fail e

theorem step_eq (s : Session) : ∃ output notes, s.step =
    (.ofResult (s.cpu.stepOnce s.host).result, { s with
      cpu := (s.cpu.stepOnce s.host).cpu
      host := (s.cpu.stepOnce s.host).host
      output, notes }) := by
  obtain ⟨output, he⟩ := (s.note "Step").after_eq (s.cpu.stepOnce s.host)
  have hs : (s.note "Step").after ((s.note "Step").cpu.stepOnce (s.note "Step").host) = _ := he
  refine ⟨output, (s.note "Step").notes, ?_⟩
  simp only [step, hs]
  cases (s.cpu.stepOnce s.host).result <;> rfl

/-- A step after which the reading goes on has not failed. -/
theorem step_goOn {s t : Session} (h : s.step = (.goOn, t)) :
    Cpu.faulted (s.cpu.stepOnce s.host) = false := by
  obtain ⟨output, notes, he⟩ := s.step_eq
  have hr : Reply.ofResult (s.cpu.stepOnce s.host).result = .goOn :=
    congrArg Prod.fst (he.symm.trans h)
  refine Cpu.faulted_eq_false fun e he => ?_
  rw [he] at hr
  cases hr

theorem saveScreen_eq (s : Session) : ∃ reply files notes, s.saveScreen =
    (reply, { s with files, notes }) ∧ (reply = .goOn ∨ ∃ cause, reply = .fail (.io cause)) := by
  unfold saveScreen
  dsimp only
  split
  · exact ⟨_, _, _, rfl, .inl rfl⟩
  · exact ⟨_, s.files, s.notes, rfl, .inr ⟨_, rfl⟩⟩

/-- What a command does to the host: only steps and resets do anything. -/
theorem obey_host (s : Session) (c : Key.Command) : (s.obey c).2.host = match c with
    | .step => (s.cpu.stepOnce s.host).host
    | .restart | .reset => s.host.clear
    | _ => s.host := by
  cases c with
  | step =>
    obtain ⟨output, notes, he⟩ := s.step_eq
    simp only [obey, he]
  | saveScreen =>
    obtain ⟨reply, files, notes, he, _⟩ := s.saveScreen_eq
    simp only [obey, he]
  | _ => rfl

/-- No command changes the keys. -/
theorem obey_sameUser (s : Session) (c : Key.Command) : (s.obey c).2.host.SameUser s.host := by
  rw [obey_host]
  cases c with
  | step => exact s.cpu.stepOnce_keeps (WindowHost.sameUser_keeps s.host) ⟨rfl, rfl, rfl, rfl⟩
  | _ => exact ⟨rfl, rfl, rfl, rfl⟩

theorem obey_dirty (s : Session) (c : Key.Command) : (s.obey c).2.cpu.flags.dirty = match c with
    | .step => (s.cpu.stepOnce s.host).cpu.flags.dirty
    | .reset => false
    | _ => s.cpu.flags.dirty := by
  cases c with
  | step =>
    obtain ⟨output, notes, he⟩ := s.step_eq
    simp only [obey, he]
  | saveScreen =>
    obtain ⟨reply, files, notes, he, _⟩ := s.saveScreen_eq
    simp only [obey, he]
  | addBreakpoint =>
    obtain ⟨breakpoints, he⟩ := s.cpu.addBreakpoint_eq s.cpu.pc
    simp only [obey, addBreakpoint, note, he]
  | _ => rfl

theorem obey_fail_breakpoint_iff {s : Session} {c : Key.Command} {addr next : UInt16} :
    (s.obey c).1 = .fail (.breakpointHit addr next) ↔
      c = .step ∧ (s.cpu.stepOnce s.host).result = .error (.breakpointHit addr next) := by
  cases c with
  | step =>
    obtain ⟨output, notes, he⟩ := s.step_eq
    simp only [obey, he]
    cases (s.cpu.stepOnce s.host).result <;> simp [Reply.ofResult]
  | saveScreen =>
    obtain ⟨reply, files, notes, he, rfl | ⟨cause, rfl⟩⟩ := s.saveScreen_eq
    · simp [obey, he]
    · simp [obey, he]
  | _ => simp [obey]

theorem press_fail_breakpoint_iff {s : Session} {key : Key} {addr next : UInt16} :
    (s.press key).1 = .fail (.breakpointHit addr next) ↔ key.command? = some .step ∧
      (s.cpu.stepOnce s.host).result = .error (.breakpointHit addr next) := by
  obtain ⟨c, hc, he⟩ | ⟨hc, mask, he, -⟩ := s.press_cases key
  · rw [he, hc, obey_fail_breakpoint_iff, Option.some_inj]
  · simp [he, hc]

/-- What each key that goes down keeps, a reading keeps that goes through, up to the keyboard that it
remembers. -/
theorem readKeys_goOn {P : Session → Prop} {s t : Session} (ht : s.readKeys = (.goOn, t))
    (hp : ∀ u v, ∀ key ∈ s.pressed, u.press key = (.goOn, v) → P u → P v) (hs : P s.released) :
    ∃ u, P u ∧ t = { u with host.keyboard := s.host.window.readKeys.1 } := by
  rw [readKeys_eq_pressed] at ht
  split at ht
  case h_1 u hu => exact ⟨u, handleAll_goOn hp hs hu, (congrArg Prod.snd ht).symm⟩
  case h_2 hstop => exact absurd ht (hstop t)

/-! ### The script -/

theorem press_coming (s : Session) (key : Key) :
    (s.press key).2.host.window.coming = s.host.window.coming := by
  obtain ⟨c, -, he⟩ | ⟨-, mask, he, -⟩ := s.press_cases key
  · rw [he, (s.obey_sameUser c).coming]
  · rw [he]

theorem readKeys_coming (s : Session) :
    s.readKeys.2.host.window.coming = s.host.window.coming.tail := by
  have hw : s.host.window.readKeys.2.coming = s.host.window.coming.tail := by
    unfold Window.readKeys
    cases s.host.window.coming <;> simp
  obtain ⟨keypad, hr⟩ := s.released_eq
  have hp : (handleAll press s.released s.pressed).2.host.window.coming =
      s.host.window.coming.tail := by
    apply handleAll_keeps (P := fun t => t.host.window.coming = s.host.window.coming.tail)
    · intro t key _ ht
      rw [press_coming, ht]
    · rw [hr, ← hw]
  rw [readKeys_eq_pressed]
  split
  case h_1 t ht =>
    rw [ht] at hp
    exact hp
  case h_2 => exact hp

/-- The instructions of a frame are run and told about, unless a pause leaves them out. -/
theorem runInstructions_session (s : Session) : s.runInstructions.2 = s ∨
    ∃ output notes, s.runInstructions.2 = { s with
      cpu := (s.cpu.runFrame s.host s.speed).cpu
      host := (s.cpu.runFrame s.host s.speed).host
      output, notes } := by
  obtain ⟨output, he⟩ := s.after_eq (s.cpu.runFrame s.host s.speed)
  unfold runInstructions
  split
  · exact .inl rfl
  · rw [he]
    split
    case h_1 h =>
      obtain ⟨_, rfl⟩ := Prod.mk.inj h
      exact .inr ⟨_, _, rfl⟩
    case h_2 => exact .inr ⟨_, _, rfl⟩

/-- Where they end well, they have not failed. -/
theorem runInstructions_ok {s t : Session} (ht : s.runInstructions = (.ok (), t)) : t = s ∨
    Cpu.faulted (s.cpu.runFrame s.host s.speed) = false ∧ ∃ output notes, t = { s with
      cpu := (s.cpu.runFrame s.host s.speed).cpu
      host := (s.cpu.runFrame s.host s.speed).host
      output, notes } := by
  obtain ⟨output, he⟩ := s.after_eq (s.cpu.runFrame s.host s.speed)
  unfold runInstructions at ht
  split at ht
  · exact .inl (congrArg Prod.snd ht).symm
  · rw [he] at ht
    split at ht
    case h_1 addr word u hu =>
      obtain ⟨hr, rfl⟩ := Prod.mk.inj hu
      have hf : Cpu.faulted (s.cpu.runFrame s.host s.speed) = false :=
        Cpu.faulted_eq_false (by simp [hr, Error.isBreakpoint])
      exact .inr ⟨hf, _, _, (congrArg Prod.snd ht).symm⟩
    case h_2 =>
      obtain ⟨hr, rfl⟩ := Prod.mk.inj ht
      have hf : Cpu.faulted (s.cpu.runFrame s.host s.speed) = false :=
        Cpu.faulted_eq_false (by simp [hr])
      exact .inr ⟨hf, _, _, rfl⟩

theorem runInstructions_coming (s : Session) :
    s.runInstructions.2.host.window.coming = s.host.window.coming := by
  have hframe : (s.cpu.runFrame s.host s.speed).host.SameUser s.host :=
    s.cpu.runFrame_keeps (WindowHost.sameUser_keeps s.host) s.speed ⟨rfl, rfl, rfl, rfl⟩
  obtain he | ⟨output, notes, he⟩ := s.runInstructions_session
  · rw [he]
  · rw [he]
    exact hframe.coming

/-- The end of a frame asks the window for no picture. -/
theorem finishFrame_eq (s : Session) : ∃ window presented,
    s.finishFrame =
      (s.host.window.isOpen, { s with host := { s.host with window, presented } }) ∧
    window.current = s.host.window.current ∧ window.coming = s.host.window.coming ∧
    window.pictures = s.host.window.pictures := by
  have ht : (s.host.window.setTitle s.title).isOpen = s.host.window.isOpen := rfl
  have htitle := s.host.window.setTitle_pictures s.title
  simp only [finishFrame, ht]
  cases s.host.window.isOpen with
  | false => exact ⟨_, _, rfl, rfl, rfl, htitle⟩
  | true =>
    cases s.host.presented with
    | true => exact ⟨_, false, rfl, rfl, rfl, htitle⟩
    | false => exact ⟨_, false, rfl, rfl, rfl, (Window.update_pictures _).trans htitle⟩

/-! ### The turn -/

/-- A turn ends with the keys, with the instructions or with the end of the frame. -/
theorem next_cases (s : Session) :
    (∃ t, s.readKeys = (.quit, t) ∧ s.next = (none, t)) ∨
    (∃ e t, s.readKeys = (.fail e, t) ∧ s.next = (some (.error e), t)) ∨
    (∃ e t u, s.readKeys = (.goOn, t) ∧ t.runInstructions = (.error e, u) ∧
      s.next = (some (.error e), u)) ∨
    ∃ t u, s.readKeys = (.goOn, t) ∧ t.runInstructions = (.ok (), u) ∧
      s.next = (if u.finishFrame.1 then some (.ok ()) else none, u.finishFrame.2) := by
  unfold next
  rcases hr : s.readKeys with ⟨_ | _ | e, t⟩
  · rcases hi : t.runInstructions with ⟨e | _, u⟩
    · exact .inr (.inr (.inl ⟨e, t, u, rfl, hi, by simp only [hi]⟩))
    · refine .inr (.inr (.inr ⟨t, u, rfl, hi, ?_⟩))
      simp only [hi]
      rcases u.finishFrame with ⟨_ | _, v⟩ <;> rfl
  · exact .inl ⟨t, rfl, rfl⟩
  · exact .inr (.inl ⟨e, t, rfl, rfl⟩)

/-- A turn that ends well has gone through all its parts. -/
theorem next_ok {s : Session} (ho : s.next.1 = some (.ok ())) : ∃ t u,
    s.readKeys = (.goOn, t) ∧ t.runInstructions = (.ok (), u) ∧ u.host.window.isOpen = true ∧
      s.turn = u.finishFrame.2 := by
  obtain ⟨t, hr, hn⟩ | ⟨e, t, hr, hn⟩ | ⟨e, t, u, hr, hi, hn⟩ | ⟨t, u, hr, hi, hn⟩ :=
    s.next_cases
  · simp [hn] at ho
  · simp [hn] at ho
  · simp [hn] at ho
  · obtain ⟨window, presented, hf, -⟩ := u.finishFrame_eq
    refine ⟨t, u, hr, hi, ?_, congrArg Prod.snd hn⟩
    by_contra hclosed
    simp [hn, hf, hclosed] at ho

/-- A turn takes a moment off the script, however it ends. -/
theorem turn_coming (s : Session) : s.turn.host.window.coming = s.host.window.coming.tail := by
  have hk := s.readKeys_coming
  unfold turn
  obtain ⟨t, hr, hn⟩ | ⟨e, t, hr, hn⟩ | ⟨e, t, u, hr, hi, hn⟩ | ⟨t, u, hr, hi, hn⟩ :=
    s.next_cases
  · rw [hr] at hk
    rw [hn, hk]
  · rw [hr] at hk
    rw [hn, hk]
  · have hu := t.runInstructions_coming
    rw [hr] at hk
    rw [hi] at hu
    rw [hn, hu, hk]
  · have hu := t.runInstructions_coming
    rw [hr] at hk
    rw [hi] at hu
    obtain ⟨window, presented, hf, _, hcoming, _⟩ := u.finishFrame_eq
    rw [hn, hf, hcoming, hu, hk]

/-- So many turns take so many moments off the script. -/
theorem turns_coming (s : Session) (n : Nat) :
    (turn^[n] s).host.window.coming = s.host.window.coming.drop n := by
  induction n with
  | zero => rfl
  | succ n ih => rw [Function.iterate_succ_apply', turn_coming, ih, List.tail_drop]

end Session

end Chip8
