import Chip8.Proofs.Collision
import Chip8.Proofs.Footprint
import Chip8.Window.Host

/-! The instruction that draws, from memory and registers to screen and flag. What it does is undone
by doing it again, so long as neither of its coordinates is in the flag register, which it writes.
Of the two drawings one collides, unless there was nothing to draw: the first where it comes down on
lit pixels, the second where the first came down on dark ones. -/

namespace Chip8

namespace Screen

variable {s : Screen} {width height : Nat} {sprite : List UInt8}

/-! ### Sprites that have room -/

/-- A sprite that has room turns over the pixels that it comes down on. -/
theorem OfSize.get_blit_of_room (h : s.OfSize width height) (hw : 8 ≤ width)
    (hh : sprite.length ≤ height) {px py : Nat} (hx : px < width) (hy : py < height)
    (x y : UInt8) :
    (s.blit sprite x y).2.get px py =
      (s.get px py ^^ decide (0 < hits width height px py x.toNat y.toNat sprite)) := by
  have hone := hits_le_one hw hh px py x.toNat y.toNat
  have hodd : Odd (hits width height px py x.toNat y.toNat sprite) ↔
      0 < hits width height px py x.toNat y.toNat sprite := by
    rw [Nat.odd_iff]
    omega
  rw [h.get_blit hx hy, decide_eq_decide.mpr hodd]

/-- It collides exactly if it turns a lit pixel off. -/
theorem OfSize.blit_fst_iff_turnsOff (h : s.OfSize width height) (hw : 8 ≤ width)
    (hpos : 0 < height) (hh : sprite.length ≤ height) (x y : UInt8) :
    (s.blit sprite x y).1 = true ↔ ∃ px < width, ∃ py < height,
      s.get px py = true ∧ (s.blit sprite x y).2.get px py = false := by
  rw [h.blit_fst_iff_of_room hw hpos hh]
  constructor
  · rintro ⟨px, hx, py, hy, hlit, hhit⟩
    refine ⟨px, hx, py, hy, hlit, ?_⟩
    rw [h.get_blit_of_room hw hh hx hy, hlit, decide_eq_true hhit]
    rfl
  · rintro ⟨px, hx, py, hy, hlit, hoff⟩
    refine ⟨px, hx, py, hy, hlit, ?_⟩
    rw [h.get_blit_of_room hw hh hx hy, hlit, Bool.true_xor, Bool.not_eq_false'] at hoff
    exact of_decide_eq_true hoff

/-- Drawn a second time, it collides exactly where the first time it lit a dark pixel. -/
theorem OfSize.blit_blit_fst_iff (h : s.OfSize width height) (hw : 8 ≤ width)
    (hpos : 0 < height) (hh : sprite.length ≤ height) (x y : UInt8) :
    ((s.blit sprite x y).2.blit sprite x y).1 = true ↔ ∃ px < width, ∃ py < height,
      s.get px py = false ∧ 0 < hits width height px py x.toNat y.toNat sprite := by
  rw [(h.blit sprite x y).blit_fst_iff_of_room hw hpos hh]
  constructor
  · rintro ⟨px, hx, py, hy, hlit, hhit⟩
    rw [h.get_blit_of_room hw hh hx hy, decide_eq_true hhit, Bool.xor_true] at hlit
    exact ⟨px, hx, py, hy, by simpa using hlit, hhit⟩
  · rintro ⟨px, hx, py, hy, hdark, hhit⟩
    refine ⟨px, hx, py, hy, ?_, hhit⟩
    rw [h.get_blit_of_room hw hh hx hy, decide_eq_true hhit, hdark]
    rfl

/-- On every screen the second drawing restores what was there before the first. -/
theorem OfSize.blit_blit_pixels (h : s.OfSize width height) (sprite : List UInt8) (x y : UInt8) :
    ((s.blit sprite x y).2.blit sprite x y).2.pixels = s.pixels := by
  have hfirst := h.blit sprite x y
  refine (hfirst.blit sprite x y).pixels_ext h fun px hx py hy => ?_
  rw [hfirst.get_blit hx hy, h.get_blit hx hy, Bool.xor_assoc, Bool.xor_self, Bool.xor_false]

/-- A row that is not empty sets a column. -/
theorem exists_column {line : UInt8} (h : line ≠ 0) :
    ∃ column < 8, line &&& 0x80 >>> UInt8.ofNat column ≠ 0 := by
  have hall : ∀ n < 256, UInt8.ofNat n = 0 ∨
      ∃ column < 8, UInt8.ofNat n &&& 0x80 >>> UInt8.ofNat column ≠ 0 := by decide +kernel
  have hline := hall line.toNat line.toNat_lt
  rw [UInt8.ofNat_toNat] at hline
  exact hline.resolve_left h

/-- A sprite that is not empty comes down somewhere. -/
theorem exists_hit {line : UInt8} (hmem : line ∈ sprite) (hne : line ≠ 0) (hw : 0 < width)
    (hh : 0 < height) (x y : Nat) :
    ∃ px < width, ∃ py < height, 0 < hits width height px py x y sprite := by
  obtain ⟨row, hrow, rfl⟩ := List.getElem_of_mem hmem
  obtain ⟨column, hcolumn, hset⟩ := exists_column hne
  refine ⟨_, Nat.mod_lt (x + column) hw, _, Nat.mod_lt (y + row) hh, ?_⟩
  rw [hits, Finset.card_pos]
  refine ⟨(row, column), ?_⟩
  simp [hrow, hcolumn, hset]

end Screen

/-! ### The instruction -/

/-- Drawing on the host is drawing on a screen that it has. -/
def Host.HasScreen {σ : Type} [Host σ] (screen : σ → Screen) : Prop :=
  ∀ host sprite x y, ((Host.blit host sprite x y).1, screen (Host.blit host sprite x y).2) =
    (screen host).blit sprite x y

theorem Headless.hasScreen : Host.HasScreen Headless.screen := fun _ _ _ _ => rfl

theorem WindowHost.hasScreen : Host.HasScreen WindowHost.screen := fun _ _ _ _ => rfl

/-- The flag register is one or zero, and tells whether something is so. -/
structure Registers.FlagTells (v : Registers) (p : Prop) : Prop where
  one : p → v.get flag = 1
  zero : ¬p → v.get flag = 0

theorem Registers.flagTells_setFlag (v : Registers) {b : Bool} {p : Prop} (h : b = true ↔ p) :
    (v.setFlag b).FlagTells p := by
  have hget : (v.setFlag b).get flag = b.toUInt8 := by
    rw [setFlag, get_set, if_pos ⟨rfl, by decide⟩]
  constructor
  · intro hp
    rw [hget, h.mpr hp]
    rfl
  · intro hp
    rw [hget, Bool.eq_false_iff.mpr (mt h.mp hp)]
    rfl

namespace Cpu

variable {σ : Type} [Host σ]

/-- The bytes from `I` on; the byte after the last of memory is the first. -/
def spriteAt (cpu : Cpu) (n : Nat) : List UInt8 :=
  (List.range n).map fun k => cpu.memory.read ((cpu.i.toNat + k) % 0x1000)

theorem readBytes_eq (cpu : Cpu) (n : Nat) :
    cpu.memory.readBytes cpu.i.toNat n = cpu.spriteAt n := by
  simp [Memory.readBytes, spriteAt]

theorem length_spriteAt (cpu : Cpu) (n : Nat) : (cpu.spriteAt n).length = n := by
  simp [spriteAt]

/-- What a tick on the instruction does, said by the host's drawing. -/
theorem tick_draw {cpu : Cpu} (hp : cpu.flags.paused = false) {x y n : Nat} (hx : x < 16)
    (hy : y < 16) (hn : n < 16)
    (hw : cpu.wordAtPc.word = Instruction.wordOfRegisters 0xd x y n) (host : σ) :
    let drawn := Host.blit host (cpu.spriteAt n) (cpu.v.get x) (cpu.v.get y)
    let next := cpu.tick host
    (∀ e, next.result = .error e → e.isBreakpoint = true) ∧ next.host = drawn.2 ∧
      next.cpu.v = cpu.v.setFlag drawn.1 ∧ next.cpu.i = cpu.i ∧ next.cpu.memory = cpu.memory := by
  obtain ⟨digit, rfl⟩ : ∃ digit : UInt8, n = digit.toNat := by
    refine ⟨UInt8.ofNat n, ?_⟩
    rw [UInt8.toNat_ofNat']
    omega
  have hi : (Instruction.draw x y digit).InRange := ⟨by omega, by omega, by omega⟩
  obtain ⟨paused, result, ht, hresult⟩ := tick_of_decode host hp (decode_fetch hi hw) rfl
  rw [ht, ← readBytes_eq]
  exact ⟨hresult, rfl, rfl, rfl, rfl⟩

/-- What it does to the host's screen. -/
theorem tick_draw_screen {cpu : Cpu} (hp : cpu.flags.paused = false) {x y n : Nat} (hx : x < 16)
    (hy : y < 16) (hn : n < 16)
    (hw : cpu.wordAtPc.word = Instruction.wordOfRegisters 0xd x y n)
    {screen : σ → Screen} (hscreen : Host.HasScreen screen) (host : σ) :
    let drawn := (screen host).blit (cpu.spriteAt n) (cpu.v.get x) (cpu.v.get y)
    let next := cpu.tick host
    (∀ e, next.result = .error e → e.isBreakpoint = true) ∧ screen next.host = drawn.2 ∧
      next.cpu.v = cpu.v.setFlag drawn.1 ∧ next.cpu.i = cpu.i ∧ next.cpu.memory = cpu.memory := by
  obtain ⟨hresult, hhost, hv, hi, hmemory⟩ := tick_draw hp hx hy hn hw host
  have hblit := hscreen host (cpu.spriteAt n) (cpu.v.get x) (cpu.v.get y)
  refine ⟨hresult, ?_, ?_, hi, hmemory⟩
  · rw [hhost, ← hblit]
  · rw [hv, ← hblit]

/-- The instruction draws the bytes from `I` on at the two registers as they were before it, and its
flag tells whether it turned a lit pixel off. Where the flag register is none of the two, the same
instruction restores the screen when it is executed again, and its flag tells whether the first
drawing came down on a dark pixel. So one of the flags is set if there was something to draw. -/
theorem tick_draw_twice {cpu : Cpu} (hp : cpu.flags.paused = false) {x y n : Nat} (hx : x < 16)
    (hy : y < 16) (hn : n < 16)
    (hw : cpu.wordAtPc.word = Instruction.wordOfRegisters 0xd x y n)
    {screen : σ → Screen} (hscreen : Host.HasScreen screen) {host : σ} {width height : Nat}
    (hs : (screen host).OfSize width height) (hwide : 8 ≤ width) (hhigh : 15 ≤ height) :
    let sprite := cpu.spriteAt n
    let covered px py :=
      0 < Screen.hits width height px py (cpu.v.get x).toNat (cpu.v.get y).toNat sprite
    let first := cpu.tick host
    let before := (screen host).get
    let after := (screen first.host).get
    (∀ e, first.result = .error e → e.isBreakpoint = true) ∧
    screen first.host = ((screen host).blit sprite (cpu.v.get x) (cpu.v.get y)).2 ∧
    (∀ px < width, ∀ py < height, after px py = (before px py ^^ decide (covered px py))) ∧
    (∀ r, r ≠ Registers.flag → first.cpu.v.get r = cpu.v.get r) ∧
    first.cpu.v.FlagTells
      (∃ px < width, ∃ py < height, before px py = true ∧ after px py = false) ∧
    (x ≠ Registers.flag → y ≠ Registers.flag → ∀ (again : Cpu) (host' : σ) (mark : Bool),
      again.flags.paused = false →
      again.wordAtPc.word = Instruction.wordOfRegisters 0xd x y n →
      again.v = first.cpu.v → again.i = first.cpu.i → again.memory = first.cpu.memory →
      screen host' = { screen first.host with dirty := mark } →
        let second := again.tick host'
        (∀ e, second.result = .error e → e.isBreakpoint = true) ∧
        (screen second.host).pixels = (screen host).pixels ∧
        second.cpu.v.FlagTells
          (∃ px < width, ∃ py < height, before px py = false ∧ covered px py) ∧
        ((∃ line ∈ sprite, line ≠ 0) →
          first.cpu.v.get Registers.flag = 1 ∨ second.cpu.v.get Registers.flag = 1)) := by
  intro sprite covered first before after
  have hroom : sprite.length ≤ height := by
    rw [length_spriteAt]
    omega
  have hpos : 0 < height := by omega
  obtain ⟨hresult, hdrawn, hv, hi, hmemory⟩ := tick_draw_screen hp hx hy hn hw hscreen host
  have hpixels : ∀ px < width, ∀ py < height,
      after px py = (before px py ^^ decide (covered px py)) := by
    intro px hpx py hpy
    simp only [after, first, hdrawn]
    exact hs.get_blit_of_room hwide hroom hpx hpy _ _
  have hflag : first.cpu.v.FlagTells
      (∃ px < width, ∃ py < height, before px py = true ∧ after px py = false) := by
    rw [hv]
    apply Registers.flagTells_setFlag
    simp only [after, first, hdrawn]
    exact hs.blit_fst_iff_turnsOff hwide hpos hroom _ _
  refine ⟨hresult, hdrawn, hpixels, ?_, hflag, ?_⟩
  · intro r hr
    rw [hv]
    exact cpu.v.get_set_of_ne hr.symm _
  · intro hxf hyf again host' mark hp' hw' hv' hi' hmemory' hscreen' second
    -- the second drawing finds the same sprite, at the same place
    obtain ⟨hresult', hdrawn', hflag', -, -⟩ := tick_draw_screen hp' hx hy hn hw' hscreen host'
    have hsprite : again.spriteAt n = sprite := by
      simp only [spriteAt, sprite, hi', hmemory', first, hi, hmemory]
    have hsame {r : Nat} (hr : r ≠ Registers.flag) : again.v.get r = cpu.v.get r := by
      rw [hv', hv]
      exact cpu.v.get_set_of_ne hr.symm _
    rw [hsprite, hsame hxf, hsame hyf, hscreen', hdrawn, Screen.blit_withDirty] at hdrawn' hflag'
    have htells : second.cpu.v.FlagTells
        (∃ px < width, ∃ py < height, before px py = false ∧ covered px py) := by
      rw [hflag']
      apply Registers.flagTells_setFlag
      exact hs.blit_blit_fst_iff hwide hpos hroom _ _
    refine ⟨hresult', ?_, htells, ?_⟩
    · rw [hdrawn']
      exact hs.blit_blit_pixels sprite _ _
    · rintro ⟨line, hmem, hne⟩
      obtain ⟨px, hpx, py, hpy, hhit⟩ := Screen.exists_hit hmem hne
        (show 0 < width by omega) hpos (cpu.v.get x).toNat (cpu.v.get y).toNat
      cases hlit : before px py with
      | false => exact .inr (htells.one ⟨px, hpx, py, hpy, hlit, hhit⟩)
      | true =>
        refine .inl (hflag.one ⟨px, hpx, py, hpy, hlit, ?_⟩)
        rw [hpixels px hpx py hpy, hlit, decide_eq_true hhit]
        rfl

/-- About to draw two rows at the lower right corner of the screen, the last byte of memory and the
first. -/
def drawingCorner : Cpu :=
  let program := (initial.perform (Headless.seeded 0) (.load 0x200 [0xd0, 0x12])).cpu
  { program with
    i := 0xfff, v := .ofList [62, 31], memory := program.memory.write 0xfff 0xa0 }

/-- The first drawing turns off the one pixel that is lit, and the second turns it on again. -/
theorem tick_draw_twice_corner :
    let host := { Headless.seeded 0 with screen := (Screen.standard.blit [0x80] 62 31).2 }
    let first := drawingCorner.tick host
    let again := { first.cpu with pc := 0x200 }
    let second := again.tick (Host.present first.host).2
    drawingCorner.flags.paused = false ∧
      drawingCorner.wordAtPc.word = Instruction.wordOfRegisters 0xd 0 1 2 ∧
      host.screen.OfSize 64 32 ∧ drawingCorner.spriteAt 2 = [0xa0, 0xf0] ∧
      first.cpu.v.get Registers.flag = 1 ∧ first.host.screen.get 62 31 = false ∧
      first.host.screen.get 0 31 = true ∧
      second.host.screen.pixels = host.screen.pixels := by
  intro host
  have hp : drawingCorner.flags.paused = false := rfl
  have hw : drawingCorner.wordAtPc.word = Instruction.wordOfRegisters 0xd 0 1 2 := by
    decide +kernel
  have hs : host.screen.OfSize 64 32 := (Screen.blank_ofSize (by decide)).blit [0x80] 62 31
  have hsprite : drawingCorner.spriteAt 2 = [0xa0, 0xf0] := by decide +kernel
  obtain ⟨hlit, hdark⟩ : host.screen.get 62 31 = true ∧ host.screen.get 0 31 = false := by
    decide +kernel
  obtain ⟨_, _, hpixels, _, hflag, hagain⟩ := tick_draw_twice hp (by decide) (by decide)
    (by decide) hw Headless.hasScreen hs (by decide) (by decide)
  obtain ⟨hpause, hword⟩ : (drawingCorner.tick host).cpu.flags.paused = false ∧
      ({ (drawingCorner.tick host).cpu with pc := 0x200 } : Cpu).wordAtPc.word =
        Instruction.wordOfRegisters 0xd 0 1 2 := by
    decide +kernel
  -- from here on the first drawing is known by the theorem alone
  generalize drawingCorner.tick host = first at *
  have hoff : first.host.screen.get 62 31 = false := by
    rw [hpixels 62 (by decide) 31 (by decide), hlit, hsprite]
    decide +kernel
  have hon : first.host.screen.get 0 31 = true := by
    rw [hpixels 0 (by decide) 31 (by decide), hdark, hsprite]
    decide +kernel
  have hturned := hflag.one ⟨62, by decide, 31, by decide, hlit, hoff⟩
  obtain ⟨_, hrestored, _⟩ := hagain (by decide) (by decide) { first.cpu with pc := 0x200 }
    (Host.present first.host).2 false hpause hword rfl rfl rfl rfl
  exact ⟨hp, hw, hs, hsprite, hturned, hoff, hon, hrestored⟩

end Cpu

end Chip8
