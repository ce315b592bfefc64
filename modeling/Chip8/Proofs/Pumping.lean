import Chip8.Command.Play
import Chip8.Proofs.Turn

/-! What a turn of the loop asks of the window. It sets the title once, and sees to it that the
window hears from the program: either a picture was shown, by a single step or by the instructions
of the frame, or the window is asked to see to itself, once. The mark that tells the two apart is
set where a picture is shown, however often, and taken at the end of the frame. -/

namespace Chip8

namespace Window

theorem readKeys_requests (w : Window) : w.readKeys.2.requests = w.requests := by
  unfold readKeys
  split <;> rfl

theorem log_requests (w : Window) (r : Request) :
    (w.log r).requests.toList = w.requests.toList ++ [r] :=
  Array.toList_push

end Window

/-! ### The mark of a shown picture -/

namespace WindowHost

/-- After these requests only pictures were shown, and the mark tells whether there were any. -/
def OnlyShown (before : List Request) (h : WindowHost) : Prop :=
  ∃ pictures : List FrameBuffer,
    h.window.requests.toList = before ++ pictures.map .shown ∧
      h.presented = !pictures.isEmpty

variable {before : List Request}

theorem OnlyShown.of_unmarked {h : WindowHost} (hm : h.presented = false) :
    h.OnlyShown h.window.requests.toList :=
  ⟨[], (List.append_nil _).symm, hm⟩

/-- An instruction asks nothing of the window. -/
theorem onlyShown_lockstep (before : List Request) :
    Host.Lockstep fun s t : WindowHost => s = t ∧ t.OnlyShown before where
  randomByte := by
    rintro s _ ⟨rfl, h⟩
    exact ⟨rfl, rfl, h⟩
  keys := by
    rintro s _ ⟨rfl, h⟩
    exact ⟨rfl, rfl, h⟩
  clear := by
    rintro s _ ⟨rfl, h⟩
    exact ⟨rfl, h⟩
  blit := by
    rintro s _ sprite x y ⟨rfl, h⟩
    exact ⟨rfl, rfl, h⟩

/-- A picture that the window shows is one more, and marks the host. -/
theorem OnlyShown.present {h : WindowHost} (ho : h.OnlyShown before)
    (hs : h.window.current.failure = none) : h.present.2.OnlyShown before := by
  obtain ⟨pictures, hrequests, -⟩ := ho
  refine ⟨pictures ++ [h.picture.render h.screen.takeDirty.2], ?_, ?_⟩
  · rw [present_shown hs, Window.log_requests, hrequests, List.map_append, List.append_assoc]
    rfl
  · rw [present_shown hs]
    simp

end WindowHost

namespace Cpu

variable {before : List Request} {host : WindowHost}

theorem ticks_onlyShown (cpu : Cpu) (h : host.OnlyShown before) (n : Nat) (trace : Array String) :
    (ticks n cpu host trace).host.OnlyShown before :=
  (ticks_agree (WindowHost.onlyShown_lockstep before) n cpu ⟨rfl, h⟩ trace).host.2

theorem stepTick_onlyShown (cpu : Cpu) (h : host.OnlyShown before) :
    (cpu.stepTick host).host.OnlyShown before :=
  (stepTick_agree (WindowHost.onlyShown_lockstep before) cpu ⟨rfl, h⟩).host.2

/-- A window that fails to show a picture leaves a mark without one, but then the run has failed. -/
theorem present_onlyShown {run : Run WindowHost} (h : run.host.OnlyShown before)
    (hf : faulted (present run) = false) : (present run).host.OnlyShown before := by
  cases hd : run.cpu.flags.dirty with
  | false => rwa [present_clean hd]
  | true =>
    rw [present_dirty hd]
    exact h.present (failure_of_present hd hf)

theorem runFrame_onlyShown {cpu : Cpu} (h : host.OnlyShown before) {n : Nat}
    (hf : faulted (cpu.runFrame host n) = false) :
    (cpu.runFrame host n).host.OnlyShown before := by
  have he := runFrame_of_not_fault (faulted_ticks_of_runFrame hf)
  rw [he] at hf ⊢
  exact present_onlyShown (ticks_onlyShown cpu h n #[]) hf

theorem stepOnce_onlyShown {cpu : Cpu} (h : host.OnlyShown before)
    (hf : faulted (cpu.stepOnce host) = false) : (cpu.stepOnce host).host.OnlyShown before := by
  have he := stepOnce_of_not_fault (faulted_stepTick_of_stepOnce hf)
  rw [he] at hf ⊢
  exact present_onlyShown (stepTick_onlyShown cpu h) hf

end Cpu

/-! ### A turn that ends well -/

namespace Session

variable {before : List Request} {s t : Session}

theorem obey_onlyShown (h : s.host.OnlyShown before) {c : Key.Command}
    (ho : s.obey c = (.goOn, t)) : t.host.OnlyShown before := by
  have hh := s.obey_host c
  rw [ho] at hh
  cases c with
  | step => exact hh ▸ Cpu.stepOnce_onlyShown h (step_goOn ho)
  | _ => exact hh ▸ h

theorem press_onlyShown (h : s.host.OnlyShown before) {key : Key}
    (ht : s.press key = (.goOn, t)) : t.host.OnlyShown before := by
  obtain ⟨c, -, he⟩ | ⟨-, mask, he, -⟩ := s.press_cases key
  · rw [he] at ht
    exact obey_onlyShown h ht
  · obtain rfl := congrArg Prod.snd (he.symm.trans ht)
    exact h

theorem readKeys_onlyShown (h : s.host.OnlyShown before) (ht : s.readKeys = (.goOn, t)) :
    t.host.OnlyShown before := by
  have hreleased : s.released.host.OnlyShown before := by
    obtain ⟨keypad, he⟩ := s.released_eq
    obtain ⟨pictures, hrequests, hpresented⟩ := h
    rw [he]
    refine ⟨pictures, ?_, hpresented⟩
    rw [← hrequests, ← s.host.window.readKeys_requests]
  obtain ⟨u, hu, rfl⟩ := readKeys_goOn (P := fun s => s.host.OnlyShown before) ht
    (fun s t key _ ht hs => press_onlyShown hs ht) hreleased
  exact hu

theorem runInstructions_onlyShown (h : s.host.OnlyShown before)
    (ht : s.runInstructions = (.ok (), t)) : t.host.OnlyShown before := by
  obtain rfl | ⟨hf, output, notes, rfl⟩ := runInstructions_ok ht
  · exact h
  · exact Cpu.runFrame_onlyShown h hf

/-- All that a turn asks of the window: pictures, the title, and to see to itself if there was no
picture. -/
def asked (pictures : List FrameBuffer) (title : String) : List Request :=
  pictures.map .shown ++ .titled title :: if pictures = [] then [.updated] else []

/-- The end of a frame looks at the mark and takes it. -/
theorem finishFrame_of_open (ho : s.host.window.isOpen = true) :
    s.finishFrame.2.host.presented = false ∧
      s.finishFrame.2.host.window.requests.toList = s.host.window.requests.toList ++
        .titled s.title :: if s.host.presented then [] else [.updated] := by
  have ht : (s.host.window.setTitle s.title).isOpen = true := ho
  have htitled := s.host.window.log_requests (.titled s.title)
  simp only [finishFrame, ht]
  cases hp : s.host.presented with
  | true => exact ⟨rfl, htitled⟩
  | false =>
    have hupdated := (s.host.window.setTitle s.title).log_requests .updated
    refine ⟨rfl, hupdated.trans ?_⟩
    rw [Window.setTitle, htitled, List.append_assoc]
    rfl

theorem finishFrame_onlyShown (h : s.host.OnlyShown before)
    (ho : s.host.window.isOpen = true) :
    s.finishFrame.2.host.presented = false ∧ ∃ pictures title,
      s.finishFrame.2.host.window.requests.toList = before ++ asked pictures title := by
  obtain ⟨htaken, hend⟩ := s.finishFrame_of_open ho
  obtain ⟨pictures, hrequests, hpresented⟩ := h
  refine ⟨htaken, pictures, s.title, ?_⟩
  rw [hend, hrequests, hpresented, asked, List.append_assoc]
  cases pictures <;> rfl

/-- A turn that ends well begins and ends without the mark. -/
theorem turn_asked (h : s.host.presented = false) (ho : s.next.1 = some (.ok ())) :
    s.turn.host.presented = false ∧ ∃ pictures title,
      s.turn.host.window.requests.toList =
        s.host.window.requests.toList ++ asked pictures title := by
  obtain ⟨t, u, hr, hi, hopen, he⟩ := next_ok ho
  have ht := readKeys_onlyShown (.of_unmarked h) hr
  rw [he]
  exact finishFrame_onlyShown (runInstructions_onlyShown ht hi) hopen

/-- Between turns that end well the mark is not set. -/
theorem turns_unmarked (h : s.host.presented = false) {n : Nat}
    (hn : ∀ k < n, (turn^[k] s).next.1 = some (.ok ())) :
    (turn^[n] s).host.presented = false := by
  induction n with
  | zero => exact h
  | succ n ih =>
    have hunmarked := ih fun k hk => hn k (Nat.lt_succ_of_lt hk)
    rw [Function.iterate_succ_apply']
    exact (turn_asked hunmarked (hn n (Nat.lt_succ_self n))).1

/-- Either a picture is in what a turn asks for, or the window is asked once to see to itself. -/
theorem count_asked (pictures : List FrameBuffer) (title : String) :
    (asked pictures title).count .updated =
      if (asked pictures title).any Request.isShown then 0 else 1 := by
  cases pictures with
  | nil => simp [asked, Request.isShown]
  | cons picture pictures =>
    have hnone : .updated ∉ asked (picture :: pictures) title := by simp [asked]
    rw [List.count_eq_zero.mpr hnone]
    simp [asked, Request.isShown]

theorem updated_or_shown_mem_asked (pictures : List FrameBuffer) (title : String) :
    .updated ∈ asked pictures title ∨ ∃ picture, .shown picture ∈ asked pictures title := by
  cases pictures with
  | nil => exact .inl (by simp [asked])
  | cons picture pictures => exact .inr ⟨picture, by simp [asked]⟩

end Session

namespace Play

/-- In each turn of the loop that ends well, the window is asked to see to itself exactly if no
picture was shown in the turn, and then once. So it hears from the program in every such turn.
Between the turns the mark of a shown picture is not set. The loop goes on to a turn only if all
turns before it have ended well. -/
theorem newSession_pumps (seeded : UInt64 → Entropy) (settings : Settings) (cpu : Cpu)
    (script : List Moment) (unseeded : Entropy) :
    let window :=
      Window.opened windowTitle Screen.standardWidth Screen.standardHeight script
    let turns (n : Nat) := Session.turn^[n] (newSession seeded settings cpu window unseeded)
    ∀ n, (∀ k < n, (turns k).next.1 = some (.ok ())) →
      (turns n).host.presented = false ∧
      ((turns n).next.1 = some (.ok ()) → ∃ added,
        (turns (n + 1)).host.window.requests.toList =
          (turns n).host.window.requests.toList ++ added ∧
        added.count .updated = (if added.any Request.isShown then 0 else 1) ∧
        (.updated ∈ added ∨ ∃ picture, .shown picture ∈ added)) := by
  intro window turns n hn
  have hunmarked : (turns n).host.presented = false :=
    Session.turns_unmarked (s := newSession seeded settings cpu window unseeded) rfl hn
  refine ⟨hunmarked, fun ho => ?_⟩
  obtain ⟨-, pictures, title, hasked⟩ := Session.turn_asked hunmarked ho
  have hnext : turns (n + 1) = (turns n).turn := Function.iterate_succ_apply' ..
  rw [hnext]
  exact ⟨Session.asked pictures title, hasked, Session.count_asked pictures title,
    Session.updated_or_shown_mem_asked pictures title⟩

/-- In a pause the window is asked to see to itself, but not in a turn in which a single step draws
a glyph and shows it. -/
theorem newSession_pumps_step :
    let settings := { commandLine.initial with pause := true }
    let program := [0xd0, 0x15, 0x12, 0x02]
    let cpu := (Cpu.ofProgram program settings.breakpoints settings.flags).toOption.getD .initial
    let script := [⟨[], false, none⟩, ⟨[.function 6], false, none⟩]
    let window := Window.opened windowTitle Screen.standardWidth Screen.standardHeight script
    let turns (n : Nat) :=
      Session.turn^[n] (newSession Entropy.seeded settings cpu window (.repeating []))
    (∀ k < 2, (turns k).next.1 = some (.ok ())) ∧
      (turns 1).host.window.requests.toList.count .updated = 1 ∧
      (turns 2).host.presented = false ∧ ∃ added,
        (turns 2).host.window.requests.toList =
          (turns 1).host.window.requests.toList ++ added ∧
        .updated ∉ added ∧ ∃ picture, .shown picture ∈ added := by
  intro settings program cpu script window turns
  have hn : ∀ k < 2, (turns k).next.1 = some (.ok ()) := by decide +kernel
  have hone : (turns 1).host.window.requests.toList.count .updated = 1 := by decide +kernel
  have htwo : (turns 2).host.window.requests.toList.count .updated = 1 := by decide +kernel
  have hpumps := newSession_pumps Entropy.seeded settings cpu script (.repeating [])
  obtain ⟨-, hadded⟩ := hpumps 1 fun k hk => hn k (by omega)
  obtain ⟨added, hrequests, -, hhears⟩ := hadded (hn 1 (by omega))
  have hnone : .updated ∉ added := by
    rw [hrequests, List.count_append, hone] at htwo
    exact List.count_eq_zero.mp (by omega)
  exact ⟨hn, hone, (hpumps 2 hn).1, added, hrequests, hnone, hhears.resolve_left hnone⟩

end Play

end Chip8
