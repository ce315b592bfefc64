import Chip8.Command.Play
import Chip8.Proofs.Turn

/-! When a breakpoint ends the loop of a session. The instructions of a frame come to breakpoints
without any harm, but a single step that comes to one fails like a step that faults, and the loop
ends with it. -/

namespace Chip8

namespace Session

/-- With the next reading a step key goes down, after others that let the reading go on, and its step
comes to a breakpoint. -/
def StepsOnto (s : Session) (addr word : UInt16) : Prop :=
  ∃ before key after t, s.pressed = before ++ key :: after ∧
    handleAll press s.released before = (.goOn, t) ∧ key.command? = some .step ∧
    (t.cpu.stepOnce t.host).result = .error (.breakpointHit addr word)

theorem readKeys_breakpoint_iff {s : Session} {addr word : UInt16} :
    s.readKeys.1 = .fail (.breakpointHit addr word) ↔ s.StepsOnto addr word := by
  rw [readKeys_reply, handleAll_stops_iff Reply.noConfusion]
  simp only [press_fail_breakpoint_iff]
  rfl

theorem runInstructions_ne_breakpoint (s : Session) (addr word : UInt16) :
    s.runInstructions.1 ≠ .error (.breakpointHit addr word) := by
  unfold runInstructions
  split
  · nofun
  · split
    case h_1 => nofun
    case h_2 h =>
      intro he
      exact h addr word _ (Prod.ext he rfl)

/-- A turn ends with a breakpoint if a step key comes to one, and in no other way. -/
theorem next_breakpoint_iff (s : Session) (addr word : UInt16) :
    s.next.1 = some (.error (.breakpointHit addr word)) ↔ s.StepsOnto addr word := by
  rw [← readKeys_breakpoint_iff]
  obtain ⟨t, hr, hn⟩ | ⟨e, t, hr, hn⟩ | ⟨e, t, u, hr, hi, hn⟩ | ⟨t, u, hr, hi, hn⟩ :=
    s.next_cases
  · simp [hr, hn]
  · simp [hr, hn]
  · have hne := t.runInstructions_ne_breakpoint addr word
    rw [hi] at hne
    simpa [hr, hn] using hne
  · simp only [hr, hn]
    split <;> simp

/-- Whatever goes down is held in the next moment of the script. -/
theorem exists_moment_of_mem_pressed {s : Session} {key : Key} (h : key ∈ s.pressed) :
    ∃ m ∈ s.host.window.coming, key ∈ m.keys := by
  have hk : key ∈ s.host.window.readKeys.1 := (List.mem_filter.mp h).1
  unfold Window.readKeys at hk
  split at hk
  case h_1 m rest hc =>
    rw [hc]
    exact ⟨m, List.mem_cons_self, hk⟩
  case h_2 => cases hk

/-- A breakpoint ends a turn of the loop exactly if a step key comes to it: the instructions of a
frame never do, and without step keys in its script a session is never ended by a breakpoint. -/
theorem breakpoint_ends_iff (s : Session) :
    (∀ n addr word, (turn^[n] s).next.1 = some (.error (.breakpointHit addr word)) ↔
      (turn^[n] s).StepsOnto addr word) ∧
    ((∀ m ∈ s.host.window.coming, ∀ key ∈ m.keys, key.command? ≠ some .step) →
      ∀ n addr word, (turn^[n] s).next.1 ≠ some (.error (.breakpointHit addr word))) := by
  refine ⟨fun n => (turn^[n] s).next_breakpoint_iff, fun hkeys n addr word h => ?_⟩
  obtain ⟨before, key, after, t, hp, _, hstep, _⟩ := (next_breakpoint_iff _ addr word).mp h
  have hmem : key ∈ (turn^[n] s).pressed := by
    rw [hp]
    exact List.mem_append_right before List.mem_cons_self
  obtain ⟨m, hm, hk⟩ := exists_moment_of_mem_pressed hmem
  rw [turns_coming] at hm
  exact hkeys m (List.mem_of_mem_drop hm) key hk hstep

end Session

namespace Play

/-- A frame that comes to the breakpoint pauses the machine, and the session goes on. -/
theorem newSession_breakpoint_told :
    let settings := { commandLine.initial with breakpoints := [0x202] }
    let cpu := (Cpu.ofProgram [0x00, 0xe0, 0x12, 0x02] settings.breakpoints settings.flags).toOption
    let script := [⟨[], false, none⟩, ⟨[], false, none⟩]
    let window := Window.opened windowTitle Screen.standardWidth Screen.standardHeight script
    let session := newSession Entropy.seeded settings (cpu.getD .initial) window (.repeating [])
    (∀ m ∈ session.host.window.coming, ∀ key ∈ m.keys, key.command? ≠ some .step) ∧
      session.turn.cpu.flags.paused = true ∧
      ∀ n addr word, (Session.turn^[n] session).next.1 ≠
        some (.error (.breakpointHit addr word)) := by
  intro settings cpu script window session
  have hkeys : ∀ m ∈ session.host.window.coming, ∀ key ∈ m.keys, key.command? ≠ some .step := by
    decide +kernel
  obtain ⟨_, hnever⟩ := session.breakpoint_ends_iff
  exact ⟨hkeys, by decide +kernel, hnever hkeys⟩

/-- A step over the first instruction of a program, onto the breakpoint that the user has set at the
second, is the end of the session. -/
theorem newSession_breakpoint_ends :
    let settings := { commandLine.initial with breakpoints := [0x202] }
    let window := Window.opened windowTitle Screen.standardWidth Screen.standardHeight
      [⟨[.function 6], false, none⟩]
    (Cpu.ofProgram [0x00, 0xe0, 0x12, 0x02] settings.breakpoints settings.flags).map
        (fun cpu => (newSession Entropy.seeded settings cpu window (.repeating [])).next.1) =
      .ok (some (.error (.breakpointHit 0x202 0x1202))) := by
  decide +kernel

end Play

end Chip8
