import Chip8.Command.Play
import Chip8.Proofs.Turn

/-! What the window shows after a turn of the loop. As a rule the last picture is a picture of the
screen. The exception is a screen that the user has cleared by a restart or a reset: these leave no
mark, so the dark screen is not shown before the program draws again. -/

namespace Chip8

/-- The key clears the screen. -/
def Key.Clears (key : Key) : Prop := key.command? = some .restart ∨ key.command? = some .reset

instance (key : Key) : Decidable key.Clears := inferInstanceAs (Decidable (_ ∨ _))

namespace Session

variable {P Q : List FrameBuffer → Prop} {s t : Session}

/-- Nothing is marked, and so the last picture is up to date, or the screen dark. -/
structure Settled (P : List FrameBuffer → Prop) (s : Session) : Prop where
  framed : s.host.Framed
  upToDate : s.host.UpToDateOr P
  dirty : s.cpu.flags.dirty = false

theorem Settled.marks (h : s.Settled P) : s.cpu.Marks P s.host := ⟨h.framed, fun _ => h.upToDate⟩

theorem Settled.of_host {host : WindowHost} (hf : host.Framed) (hu : host.UpToDateOr P)
    (hh : t.host = host) (hd : t.cpu.flags.dirty = false) : t.Settled P := by
  subst hh
  exact ⟨hf, hu, hd⟩

/-- A session with the same screen, the same pictures and the same mark is settled too. -/
theorem Settled.alike (h : s.Settled P) (hs : t.host.screen = s.host.screen)
    (hp : t.host.picture = s.host.picture)
    (hw : t.host.window.pictures = s.host.window.pictures)
    (hd : t.cpu.flags.dirty = s.cpu.flags.dirty) : t.Settled P where
  framed := ⟨by rw [hp, hs, h.framed.size], by rw [hp, h.framed.format]⟩
  upToDate := h.upToDate.of_pictures hs hw
  dirty := hd.trans h.dirty

theorem Settled.imp (h : s.Settled P)
    (hPQ : P s.host.window.pictures → Q s.host.window.pictures) : s.Settled Q :=
  ⟨h.framed, h.upToDate.imp hPQ, h.dirty⟩

/-- A reset finds nothing marked, leaves nothing marked, and leaves the screen dark. -/
theorem Settled.obey (h : s.Settled P) {c : Key.Command}
    (hc : c = .restart ∨ c = .reset → ∀ pictures, P pictures) (ho : s.obey c = (.goOn, t)) :
    t.Settled P := by
  have hh := s.obey_host c
  have hd := s.obey_dirty c
  rw [ho] at hh hd
  have hcleared (hP : ∀ pictures, P pictures) (hh : t.host = s.host.clear)
      (hd : t.cpu.flags.dirty = false) : t.Settled P :=
    .of_host (WindowHost.framed_keeps.clear h.framed) (WindowHost.clear_upToDateOr (hP _)) hh hd
  cases c with
  | step =>
    obtain ⟨hm, hclean⟩ := Cpu.stepOnce_marks h.marks (step_goOn ho)
    exact .of_host hm.framed (hm.upToDate hclean) hh (hd.trans hclean)
  | restart => exact hcleared (hc (.inl rfl)) hh (hd.trans h.dirty)
  | reset => exact hcleared (hc (.inr rfl)) hh hd
  | _ => exact .of_host h.framed h.upToDate hh (hd.trans h.dirty)

theorem Settled.press (h : s.Settled P) {key : Key} (hk : key.Clears → ∀ pictures, P pictures)
    (ht : s.press key = (.goOn, t)) : t.Settled P := by
  obtain ⟨c, hc, he⟩ | ⟨-, mask, he, -⟩ := s.press_cases key
  · rw [he] at ht
    refine h.obey (fun hclears => hk ?_) ht
    unfold Key.Clears
    rw [hc]
    exact hclears.imp (congrArg some) (congrArg some)
  · obtain rfl := congrArg Prod.snd (he.symm.trans ht)
    exact h.alike rfl rfl rfl rfl

theorem Settled.released (h : s.Settled P) : s.released.Settled P := by
  obtain ⟨keypad, he⟩ := s.released_eq
  rw [he]
  exact h.alike rfl rfl s.host.window.readKeys_pictures rfl

theorem Settled.readKeys (h : s.Settled P)
    (hk : ∀ key ∈ s.pressed, key.Clears → ∀ pictures, P pictures)
    (ht : s.readKeys = (.goOn, t)) : t.Settled P := by
  obtain ⟨u, hu, rfl⟩ :=
    readKeys_goOn ht (fun s t key hkey ht hs => hs.press (hk key hkey) ht) h.released
  exact hu.alike rfl rfl rfl rfl

/-- The instructions of a frame settle what they draw, up to a breakpoint or to their end. -/
theorem Settled.runInstructions (h : s.Settled P) (ht : s.runInstructions = (.ok (), t)) :
    t.Settled P := by
  obtain rfl | ⟨hf, output, notes, rfl⟩ := runInstructions_ok ht
  · exact h
  · obtain ⟨hm, hclean⟩ := Cpu.runFrame_marks h.marks hf
    exact ⟨hm.framed, hm.upToDate hclean, hclean⟩

theorem Settled.finishFrame (h : s.Settled P) : s.finishFrame.2.Settled P := by
  obtain ⟨window, presented, hf, _, _, hpictures⟩ := s.finishFrame_eq
  rw [hf]
  exact h.alike rfl rfl hpictures rfl

/-- A turn that ends well leaves the session settled. Only keys that clear the screen have to be
accounted for. -/
theorem Settled.turn (h : s.Settled P)
    (hk : ∀ key ∈ s.pressed, key.Clears → ∀ pictures, P pictures)
    (ho : s.next.1 = some (.ok ())) : s.turn.Settled P := by
  obtain ⟨t, u, hr, hi, -, he⟩ := next_ok ho
  rw [he]
  exact ((h.readKeys hk hr).runInstructions hi).finishFrame

/-- The user has cleared the screen in one of so many turns, and the pictures are still those at the
end of that turn. -/
def Stale (s : Session) (n : Nat) (pictures : List FrameBuffer) : Prop :=
  ∃ j < n, (∃ key ∈ (turn^[j] s).pressed, key.Clears) ∧
    (turn^[j + 1] s).host.window.pictures = pictures

theorem Settled.turns (h : s.Settled fun _ => False) {n : Nat}
    (hn : ∀ k < n, (Session.turn^[k] s).next.1 = some (.ok ())) :
    (Session.turn^[n] s).Settled (s.Stale n) := by
  induction n with
  | zero => exact h.imp False.elim
  | succ n ih =>
    have ih := ih fun k hk => hn k (Nat.lt_succ_of_lt hk)
    have ho := hn n (Nat.lt_succ_self n)
    rw [Function.iterate_succ_apply']
    by_cases hk : ∃ key ∈ (Session.turn^[n] s).pressed, key.Clears
    · have hany : (Session.turn^[n] s).Settled fun _ => True := ih.imp fun _ => trivial
      refine (hany.turn (fun _ _ _ _ => trivial) ho).imp fun _ => ?_
      exact ⟨n, Nat.lt_succ_self n, hk, by rw [Function.iterate_succ_apply']⟩
    · have ht := ih.turn (fun key hkey hc => absurd ⟨key, hkey, hc⟩ hk) ho
      exact ht.imp fun ⟨j, hj, hpressed⟩ => ⟨j, Nat.lt_succ_of_lt hj, hpressed⟩

/-! ### A screen that is cleared unseen -/

theorem press_of_clears (s : Session) {key : Key} (h : key.Clears) : ∃ t,
    s.press key = (.goOn, t) ∧ t.cpu.flags.paused = s.cpu.flags.paused ∧
      t.host = s.host.clear := by
  unfold Session.press
  obtain h | h := h
  · rw [h]
    exact ⟨s.restart, rfl, rfl, rfl⟩
  · rw [h]
    exact ⟨s.reset, rfl, rfl, rfl⟩

/-- A restart or a reset during a pause darkens the screen, and the window goes on showing what it
showed before. -/
theorem turn_of_clears {key : Key} (hp : s.cpu.flags.paused = true) (hk : s.pressed = [key])
    (hc : key.Clears) :
    s.turn.host.screen.lit = 0 ∧ s.turn.host.window.pictures = s.host.window.pictures := by
  obtain ⟨keypad, hr⟩ := s.released_eq
  obtain ⟨t, ht, hpaused, hhost⟩ := s.released.press_of_clears hc
  have hread : s.readKeys =
      (.goOn, { t with host.keyboard := s.host.window.readKeys.1 }) := by
    rw [readKeys_eq_pressed, hk, handleAll_cons_goOn ht]
    rfl
  have hrun (keyboard : List Key) :
      ({ t with host.keyboard := keyboard } : Session).runInstructions =
        (.ok (), { t with host.keyboard := keyboard }) := by
    refine if_pos (hpaused.trans ?_)
    rw [hr]
    exact hp
  obtain ⟨window, presented, hf, _, _, hpictures⟩ :=
    ({ t with host.keyboard := s.host.window.readKeys.1 } : Session).finishFrame_eq
  have hturn : s.turn =
      { t with host := { t.host with keyboard := s.host.window.readKeys.1, window, presented } } := by
    simp only [turn, next, hread, hrun, hf]
    cases t.host.window.isOpen <;> rfl
  rw [hturn]
  refine ⟨?_, hpictures.trans ?_⟩
  · rw [hhost]
    exact Screen.clear_lit _
  · rw [hhost, hr]
    exact s.host.window.readKeys_pictures

end Session

namespace Play

theorem newSession_settled (seeded : UInt64 → Entropy) {settings : Settings} {cpu : Cpu}
    (hc : cpu.flags = settings.flags) (script : List Moment) (unseeded : Entropy) :
    (newSession seeded settings cpu
      (Window.opened windowTitle Screen.standardWidth Screen.standardHeight script)
      unseeded).Settled fun _ => False where
  framed := by
    refine ⟨?_, rfl⟩
    simp only [newSession, WindowHost.ofWindow, FrameBuffer.blank, Screen.standard, Screen.blank,
      Array.size_replicate]
    rfl
  upToDate := .inl nofun
  dirty := by
    rw [newSession, hc]
    rfl

/-- After any turns that ended well, the last picture in the window is a picture of the screen, unless
the user has cleared the screen by a restart or a reset in one of the turns: then the screen may be
dark, with the picture still the last one of that turn. -/
theorem newSession_depicts (seeded : UInt64 → Entropy) {settings : Settings}
    {program : List UInt8} {cpu : Cpu}
    (hcpu : Cpu.ofProgram program settings.breakpoints settings.flags = .ok cpu)
    (script : List Moment) (unseeded : Entropy) :
    let window :=
      Window.opened windowTitle Screen.standardWidth Screen.standardHeight script
    let turns (n : Nat) := Session.turn^[n] (newSession seeded settings cpu window unseeded)
    ∀ n, (∀ k < n, (turns k).next.1 = some (.ok ())) →
      ∀ picture, (turns n).host.window.pictures.getLast? = some picture →
        picture.Depicts (turns n).host.screen ∨
        (turns n).host.screen.lit = 0 ∧ ∃ j < n, (∃ key ∈ (turns j).pressed, key.Clears) ∧
          (turns (j + 1)).host.window.pictures = (turns n).host.window.pictures := by
  intro window turns n hn picture hlast
  have hflags : cpu.flags = settings.flags := by
    obtain ⟨memory, he⟩ := Cpu.ofProgram_ok hcpu
    rw [he]
  have hstart := newSession_settled seeded hflags script unseeded
  obtain hup | hdark := (hstart.turns hn).upToDate
  · exact .inl (hup picture hlast)
  · exact .inr hdark

/-- A glyph that is drawn at the start of a program is on the screen and in the window. -/
theorem newSession_depicts_glyph :
    let settings := { commandLine.initial with speed := 1 }
    let program := [0xd0, 0x15, 0x12, 0x02]
    let cpu := (Cpu.ofProgram program settings.breakpoints settings.flags).toOption.getD .initial
    let script := [⟨[], false, none⟩]
    let window := Window.opened windowTitle Screen.standardWidth Screen.standardHeight script
    let turns (n : Nat) :=
      Session.turn^[n] (newSession Entropy.seeded settings cpu window (.repeating []))
    (∀ k < 1, (turns k).next.1 = some (.ok ())) ∧
      (turns 1).host.screen.pixels[0]? = some 1 ∧
      ∃ picture, (turns 1).host.window.pictures.getLast? = some picture ∧
        picture.Depicts (turns 1).host.screen := by
  intro settings program cpu script window turns
  have hcpu : Cpu.ofProgram program settings.breakpoints settings.flags = .ok cpu := rfl
  have hn : ∀ k < 1, (turns k).next.1 = some (.ok ()) := by decide +kernel
  have hlit : (turns 1).host.screen.pixels[0]? = some 1 := by decide +kernel
  have hshown : (turns 1).host.window.pictures ≠ [] := by decide +kernel
  have hlast := List.getLast?_eq_some_getLast hshown
  refine ⟨hn, hlit, _, hlast, ?_⟩
  obtain hd | ⟨_, j, hj, ⟨key, hkey, hc⟩, _⟩ :=
    newSession_depicts Entropy.seeded hcpu script (.repeating []) 1 hn _ hlast
  · exact hd
  · have hclears : ∀ j < 1, ∀ key ∈ (turns j).pressed, ¬ key.Clears := by decide +kernel
    exact absurd hc (hclears j hj key hkey)

/-- The same glyph after a pause and a restart: it is gone from the screen, but not from the window,
though each turn has ended well. -/
theorem newSession_restart_undepicted :
    let settings := { commandLine.initial with speed := 1 }
    let program := [0xd0, 0x15, 0x12, 0x02]
    let cpu := (Cpu.ofProgram program settings.breakpoints settings.flags).toOption.getD .initial
    let script := [⟨[], false, none⟩, ⟨[.function 5], false, none⟩, ⟨[.function 9], false, none⟩]
    let window := Window.opened windowTitle Screen.standardWidth Screen.standardHeight script
    let turns (n : Nat) :=
      Session.turn^[n] (newSession Entropy.seeded settings cpu window (.repeating []))
    (∀ k < 3, (turns k).next.1 = some (.ok ())) ∧
      ∃ picture, (turns 3).host.window.pictures.getLast? = some picture ∧
        ¬ picture.Depicts (turns 3).host.screen := by
  intro settings program cpu script window turns
  have hn : ∀ k < 3, (turns k).next.1 = some (.ok ()) := by decide +kernel
  have hclears : ∀ j < 2, ∀ key ∈ (turns j).pressed, ¬ key.Clears := by decide +kernel
  have hpaused : (turns 2).cpu.flags.paused = true := by decide +kernel
  have hpressed : (turns 2).pressed = [.function 9] := by decide +kernel
  have hlit : (turns 2).host.screen.pixels[0]? = some 1 := by decide +kernel
  have hshown : (turns 2).host.window.pictures ≠ [] := by decide +kernel
  have hlast := List.getLast?_eq_some_getLast hshown
  have hthree : turns 3 = (turns 2).turn := Function.iterate_succ_apply' _ 2 _
  obtain ⟨hdark, hsame⟩ := Session.turn_of_clears hpaused hpressed (.inl rfl)
  refine ⟨hn, ?_⟩
  rw [hthree, hsame]
  refine ⟨_, hlast, fun hd => ?_⟩
  have hstart : (newSession Entropy.seeded settings cpu window (.repeating [])).Settled
      fun _ => False :=
    newSession_settled Entropy.seeded rfl script (.repeating [])
  obtain hup | ⟨_, j, hj, ⟨key, hkey, hc⟩, _⟩ :=
    (hstart.turns (n := 2) fun k hk => hn k (Nat.lt_succ_of_lt hk)).upToDate
  · have hnone := ((hup _ hlast).lit_eq hd).trans hdark
    rw [Screen.lit, Array.countP_eq_zero] at hnone
    exact hnone 1 (Array.mem_of_getElem? hlit) rfl
  · exact hclears j hj key hkey hc

end Play

end Chip8
