import Chip8.Proofs.Reachable
import Chip8.Proofs.Turn

/-! A program played in a window is the program run frame by frame without one. The window finds out
which keys go up and down, and skips the frames of a pause; without a window the keypad is set anew
for every frame, and every frame is run. -/

namespace Chip8

/-- How a run ended, if to come to a breakpoint is to end well. -/
def Run.outcome {σ : Type} (run : Run σ) : Except Error Unit :=
  match run.result with
  | .ok () => .ok ()
  | .error e => if e.isBreakpoint then .ok () else .error e

/-- Some keys are held, and nothing goes wrong with the window. -/
def Moment.holding (keys : List Key) : Moment := ⟨keys, false, none⟩

namespace Machine

/-- A frame of so many instructions, with some keys held. -/
def frameHolding (speed : Nat) (m : Machine Headless) (keys : List Key) : Run Headless :=
  m.cpu.runFrame { m.host with keypad := m.host.keypad.set (Key.mask keys) } speed

/-- Frame after frame, each with its own keys held. -/
def frames (speed : Nat) (m : Machine Headless) (script : List (List Key)) : Machine Headless :=
  script.foldl (fun m keys => (frameHolding speed m keys).machine) m

end Machine

namespace Session

/-- What a session and a machine have in common between two frames. -/
structure Mirrors (s : Session) (m : Machine Headless) : Prop where
  cpu : s.cpu = m.cpu
  host : s.host.Mirrors m.host
  keypad : s.host.keypad = ⟨Key.mask s.host.keyboard⟩
  uncounted : s.cpu.flags.countPaused = false
  clean : s.cpu.flags.paused = true → s.cpu.flags.dirty = false

/-- The instructions of a frame are a frame, also those that a pause leaves out. -/
theorem runInstructions_eq {s : Session} {t : Headless} (hh : s.host.Mirrors t)
    (hs : s.host.window.current.failure = none) (hc : s.cpu.flags.countPaused = false)
    (hd : s.cpu.flags.paused = true → s.cpu.flags.dirty = false) :
    ∃ host output notes, s.runInstructions =
        ((s.cpu.runFrame t s.speed).outcome,
          { s with cpu := (s.cpu.runFrame t s.speed).cpu, host, output, notes }) ∧
      host.Mirrors (s.cpu.runFrame t s.speed).host ∧ host.SameUser s.host := by
  have hsame : s.host.SameUser s.host := ⟨rfl, rfl, rfl, rfl⟩
  cases hp : s.cpu.flags.paused with
  | true =>
    rw [Cpu.runFrame_idle t s.speed hp hc (hd hp)]
    exact ⟨s.host, s.output, s.notes, if_pos hp, hh, hsame⟩
  | false =>
    obtain ⟨hcpu, ⟨hm, hu⟩, _, hr⟩ :=
      s.cpu.runFrame_agree (WindowHost.simulation hs) s.speed ⟨hh, hsame⟩
    generalize hw : s.cpu.runFrame s.host s.speed = run at hcpu hm hu hr
    generalize s.cpu.runFrame t s.speed = run' at hcpu hm hr
    obtain ⟨cpu, host, trace, result⟩ := run
    obtain ⟨cpu', t', trace', result'⟩ := run'
    obtain rfl : cpu = cpu' := hcpu
    obtain rfl : result = result' := hr
    have hi : s.runInstructions = _ := if_neg (by simp [hp])
    rw [hi, hw]
    cases result with
    | ok => exact ⟨host, _, _, rfl, hm, hu⟩
    | error e =>
      cases e with
      | breakpointHit a w => exact ⟨host, _, _, rfl, hm, hu⟩
      | _ => exact ⟨host, _, _, rfl, hm, hu⟩

/-- One turn is one frame. -/
theorem Mirrors.next {s : Session} {m : Machine Headless} (h : s.Mirrors m) {keys : List Key}
    {rest : List Moment} (hw : s.host.window.coming = .holding keys :: rest)
    (hk : ∀ key ∈ keys, key.command? = none) :
    s.next.1 = some (m.frameHolding s.speed keys).outcome ∧
      s.next.2.Mirrors (m.frameHolding s.speed keys).machine ∧
      s.next.2.host.window.coming = rest ∧ s.next.2.speed = s.speed := by
  let window : Window := { s.host.window with current := .holding keys, coming := rest }
  have hr : s.host.window.readKeys = (keys, window) := by
    rw [Window.readKeys, hw]
    rfl
  let read : Session :=
    { s with host := { s.host with window, keyboard := keys, keypad := ⟨Key.mask keys⟩ } }
  have hread : s.readKeys = (.goOn, read) := by
    rw [readKeys_eq (by rw [h.keypad]) (by rw [hr]; exact hk), hr]
  have hh : read.host.Mirrors { m.host with keypad := ⟨Key.mask keys⟩ } :=
    ⟨rfl, h.host.screen, h.host.entropy, h.host.shows⟩
  obtain ⟨host, output, notes, hrun, hm, hu⟩ :=
    runInstructions_eq hh rfl h.uncounted h.clean
  have hframe : read.cpu.runFrame { m.host with keypad := ⟨Key.mask keys⟩ } read.speed =
      m.frameHolding s.speed keys := by
    rw [Machine.frameHolding, Keypad.set, ← h.cpu]
  rw [hframe] at hrun hm
  let ran : Session :=
    { read with cpu := (m.frameHolding s.speed keys).cpu, host, output, notes }
  have hran : ran.Mirrors (m.frameHolding s.speed keys).machine := by
    refine ⟨rfl, hm, ?_, ?_, ?_⟩
    · exact hu.keypad.trans (by rw [hu.keyboard])
    · rw [← h.uncounted, h.cpu]
      exact Cpu.runFrame_countPaused _ _ _
    · exact Cpu.runFrame_paused_clean _ _ _
  cases ho : (m.frameHolding s.speed keys).outcome with
  | error e =>
    have hn : s.next = (some (.error e), ran) := by
      simp only [Session.next, hread, hrun, ho]
      rfl
    rw [hn]
    exact ⟨rfl, hran, hu.coming, rfl⟩
  | ok =>
    have hopen : ran.host.window.isOpen = true := by
      have hc : ran.host.window.current = .holding keys := hu.current
      rw [Window.isOpen, hc]
      rfl
    obtain ⟨window', presented, hf, _, hcoming, hpictures⟩ := ran.finishFrame_eq
    rw [hopen] at hf
    have hshows : window'.shows = ran.host.window.shows := by
      rw [Window.shows_eq_length, Window.shows_eq_length, hpictures]
    have hn : s.next =
        (some (.ok ()), { ran with host := { ran.host with window := window', presented } }) := by
      simp only [Session.next, hread, hrun, ho]
      rw [hf]
    rw [hn]
    refine ⟨rfl, ⟨rfl, ?_, hran.keypad, hran.uncounted, hran.clean⟩, hcoming.trans hu.coming, rfl⟩
    exact ⟨hm.keypad, hm.screen, hm.entropy, hshows.trans hm.shows⟩

/-- So many turns are so many frames. -/
theorem Mirrors.turns {s : Session} {m : Machine Headless} (h : s.Mirrors m)
    {script : List (List Key)} (hw : s.host.window.coming = script.map .holding)
    (hk : ∀ keys ∈ script, ∀ key ∈ keys, key.command? = none) {n : Nat} (hn : n ≤ script.length) :
    (turn^[n] s).Mirrors (m.frames s.speed (script.take n)) ∧
      (turn^[n] s).host.window.coming = (script.drop n).map .holding ∧
      (turn^[n] s).speed = s.speed := by
  induction n with
  | zero => exact ⟨h, hw, rfl⟩
  | succ n ih =>
    obtain ⟨hm, hcoming, hspeed⟩ := ih (by omega)
    rw [List.drop_eq_getElem_cons hn, List.map_cons] at hcoming
    obtain ⟨_, hm', hcoming', hspeed'⟩ := hm.next hcoming (hk _ (List.getElem_mem hn))
    rw [Function.iterate_succ_apply', ← List.take_append_getElem hn, Machine.frames,
      List.foldl_append]
    rw [hspeed] at hm'
    exact ⟨hm', hcoming', hspeed'.trans hspeed⟩

end Session

namespace Play

/-- A session that has just begun is a machine that has just been made. -/
theorem newSession_mirrors (seeded : UInt64 → Entropy) {settings : Settings} {seed : UInt64}
    (hseed : settings.seed = some seed) {cpu : Cpu} (hc : cpu.flags = settings.flags)
    (script : List Moment) (unseeded : Entropy) :
    (newSession seeded settings cpu
      (Window.opened windowTitle Screen.standardWidth Screen.standardHeight script)
      unseeded).Mirrors ⟨cpu, Headless.ofEntropy (seeded seed)⟩ where
  cpu := rfl
  host := by
    refine ⟨rfl, rfl, ?_, rfl⟩
    rw [newSession, hseed]
    rfl
  keypad := rfl
  uncounted := by
    rw [newSession, hc]
    rfl
  clean _ := by
    rw [newSession, hc]
    rfl

/-- As long as nothing is commanded and the window stays open, the program in the window is the
program without it: the same processor, pixels and shown pictures after any number of turns, and
the same end of each. This is so for every way to make a source of random bytes from a seed, if both
use the same. -/
theorem newSession_plays (seeded : UInt64 → Entropy) {settings : Settings} {seed : UInt64}
    (hseed : settings.seed = some seed) {program : List UInt8}
    (hfits : program.length ≤ Memory.programRoom)
    {script : List (List Key)} (hkeys : ∀ keys ∈ script, ∀ key ∈ keys, key.command? = none)
    (unseeded : Entropy) :
    ∃ cpu, Cpu.ofProgram program settings.breakpoints settings.flags = .ok cpu ∧
      let window := Window.opened windowTitle Screen.standardWidth Screen.standardHeight
        (script.map .holding)
      let turns (n : Nat) := Session.turn^[n] (newSession seeded settings cpu window unseeded)
      let frames (n : Nat) :=
        Machine.frames settings.speed ⟨cpu, Headless.ofEntropy (seeded seed)⟩ (script.take n)
      (∀ n ≤ script.length,
        (turns n).cpu = (frames n).cpu ∧
        (turns n).host.screen.pixels = (frames n).host.screen.pixels ∧
        (turns n).host.window.shows = (frames n).host.frames) ∧
      ∀ (n : Nat) (hn : n < script.length),
        (turns n).next.1 = some ((frames n).frameHolding settings.speed script[n]).outcome := by
  obtain ⟨memory, hcpu⟩ := Cpu.ofProgram_fits hfits settings.breakpoints settings.flags
  let cpu : Cpu :=
    { Cpu.initial with memory, breakpoints := settings.breakpoints, flags := settings.flags }
  have hflags : cpu.flags = settings.flags := rfl
  refine ⟨cpu, hcpu, ?_⟩
  intro window turns frames
  have hstart := newSession_mirrors seeded hseed hflags (script.map .holding) unseeded
  constructor
  · intro n hn
    obtain ⟨hm, _, _⟩ := hstart.turns rfl hkeys hn
    exact ⟨hm.cpu, congrArg Screen.pixels hm.host.screen, hm.host.shows⟩
  · intro n hn
    obtain ⟨hm, hcoming, hspeed⟩ := hstart.turns rfl hkeys (Nat.le_of_lt hn)
    rw [List.drop_eq_getElem_cons hn, List.map_cons] at hcoming
    obtain ⟨hnext, _⟩ := hm.next hcoming (hkeys _ (List.getElem_mem hn))
    rw [hspeed] at hnext
    exact hnext

/-- A program that waits for a key and draws its glyph, while keys are pressed and released. -/
theorem newSession_plays_glyph :
    let settings := { commandLine.initial with seed := some 8 }
    let program := [0xf0, 0x0a, 0xf0, 0x29, 0xd1, 0x15]
    let script := [[], [Key.letter 'W'], [Key.letter 'W', Key.digit 7], []]
    ∃ cpu, Cpu.ofProgram program settings.breakpoints settings.flags = .ok cpu ∧
      let window := Window.opened windowTitle Screen.standardWidth Screen.standardHeight
        (script.map .holding)
      let turns (n : Nat) :=
        Session.turn^[n] (newSession Entropy.seeded settings cpu window (.repeating []))
      let frames (n : Nat) :=
        Machine.frames settings.speed ⟨cpu, Headless.seeded 8⟩ (script.take n)
      ∀ n ≤ script.length,
        (turns n).cpu = (frames n).cpu ∧
        (turns n).host.screen.pixels = (frames n).host.screen.pixels ∧
        (turns n).host.window.shows = (frames n).host.frames := by
  intro settings program script
  have hseed : settings.seed = some 8 := rfl
  have hfits : program.length ≤ Memory.programRoom := by decide
  have hkeys : ∀ keys ∈ script, ∀ key ∈ keys, key.command? = none := by decide
  obtain ⟨cpu, hcpu, hturns, _⟩ := newSession_plays Entropy.seeded hseed hfits hkeys (.repeating [])
  exact ⟨cpu, hcpu, hturns⟩

end Play

end Chip8
