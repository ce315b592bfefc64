import Chip8.Canvas
import Mathlib.Data.Nat.Bitwise
import Mathlib.Data.List.Basic

/-! What a canvas is to show. Each character stands for a cell of two by four dots, and has the bits
of those that were set. A canvas whose cells are numbered in sixteen bits shows all dots of a plane
that is not too wide and not too high for the numbers. -/

namespace Chip8

namespace Braille

/-! ### The dots of a character -/

/-- The bit of a dot: the lowest row was added to the others later, and has the last two bits. -/
def dotBit (dx dy : Nat) : Nat := if dy < 3 then 3 * dx + dy else 6 + dx

/-- The places of a cell's dots. -/
def dots : List (Nat × Nat) := [(0, 0), (0, 1), (0, 2), (0, 3), (1, 0), (1, 1), (1, 2), (1, 3)]

/-- The weights of all dots that there are in a cell. -/
def cellWeight (dot : Nat → Nat → Bool) : UInt8 :=
  dots.foldl (fun w p => if dot p.1 p.2 then w ||| dotWeight p.1 p.2 else w) 0

/-- Whether a character shows a dot. -/
def shows (c : Char) (dx dy : Nat) : Bool := (c.toNat - 0x2800).testBit (dotBit dx dy)

/-- A braille character that shows a dot, or a space. -/
def IsCell (c : Char) : Prop :=
  c = ' ' ∨ 0x2800 ≤ c.toNat ∧ c.toNat < 0x2900 ∧ ∃ dx < 2, ∃ dy < 4, shows c dx dy = true

theorem mem_dots {dx dy : Nat} : (dx, dy) ∈ dots ↔ dx < 2 ∧ dy < 4 := by
  simp only [dots, List.mem_cons, Prod.mk.injEq, List.not_mem_nil, or_false]
  omega

theorem dotBit_inj {dx dy dx' dy' : Nat} (hx : dx < 2) (hy : dy < 4) (hx' : dx' < 2)
    (hy' : dy' < 4) (h : dotBit dx dy = dotBit dx' dy') : dx = dx' ∧ dy = dy' := by
  simp only [dotBit] at h
  split at h <;> split at h <;> omega

theorem testBit_dotWeight {dx dy : Nat} (hx : dx < 2) (hy : dy < 4) (i : Nat) :
    (dotWeight dx dy).toNat.testBit i = decide (dotBit dx dy = i) := by
  have hpow : ∀ dx < 2, ∀ dy < 4, (dotWeight dx dy).toNat = 2 ^ dotBit dx dy := by decide
  rw [hpow dx hx dy hy, Nat.testBit_two_pow]

/-- Weights that are put together one after the other have all the bits of all of them. -/
theorem testBit_foldl_or {α : Type} (l : List α) (has : α → Bool) (weight : α → UInt8) (w : UInt8)
    (i : Nat) :
    (l.foldl (fun w a => if has a then w ||| weight a else w) w).toNat.testBit i =
      (w.toNat.testBit i || l.any fun a => has a && (weight a).toNat.testBit i) := by
  induction l generalizing w with
  | nil => simp
  | cons a l ih =>
    rw [List.foldl_cons, ih, List.any_cons]
    cases has a with
    | true => simp [Nat.testBit_or, Bool.or_assoc]
    | false => simp

/-- The weight of a cell has the bits of its dots and no other. -/
theorem testBit_cellWeight {dot : Nat → Nat → Bool} {i : Nat} :
    (cellWeight dot).toNat.testBit i = true ↔
      ∃ dx < 2, ∃ dy < 4, dotBit dx dy = i ∧ dot dx dy = true := by
  rw [cellWeight, testBit_foldl_or]
  simp only [UInt8.toNat_zero, Nat.zero_testBit, Bool.false_or, List.any_eq_true, Prod.exists,
    Bool.and_eq_true]
  constructor
  · rintro ⟨dx, dy, hmem, hdot, hbit⟩
    obtain ⟨hx, hy⟩ := mem_dots.mp hmem
    rw [testBit_dotWeight hx hy, decide_eq_true_iff] at hbit
    exact ⟨dx, hx, dy, hy, hbit, hdot⟩
  · rintro ⟨dx, hx, dy, hy, hbit, hdot⟩
    refine ⟨dx, dy, mem_dots.mpr ⟨hx, hy⟩, hdot, ?_⟩
    rw [testBit_dotWeight hx hy, decide_eq_true_iff]
    exact hbit

theorem testBit_dotBit {dot : Nat → Nat → Bool} {dx dy : Nat} (hx : dx < 2) (hy : dy < 4) :
    (cellWeight dot).toNat.testBit (dotBit dx dy) = dot dx dy := by
  rw [Bool.eq_iff_iff, testBit_cellWeight]
  constructor
  · rintro ⟨dx', hx', dy', hy', hbit, hdot⟩
    obtain ⟨rfl, rfl⟩ := dotBit_inj hx' hy' hx hy hbit
    exact hdot
  · intro hdot
    exact ⟨dx, hx, dy, hy, rfl, hdot⟩

theorem toNat_ofNat {n : Nat} (h : n.isValidChar) : (Char.ofNat n).toNat = n := by
  rw [Char.ofNat, dif_pos h]
  rfl

theorem toNat_char {weight : UInt8} (h : weight ≠ 0) :
    (char weight).toNat = 0x2800 + weight.toNat := by
  have hlt := weight.toNat_lt
  rw [char, if_neg h]
  exact toNat_ofNat (.inl (by omega))

theorem char_ne_newline (weight : UInt8) : char weight ≠ '\n' := by
  intro h
  by_cases hzero : weight = 0
  · subst hzero
    exact absurd h (by decide)
  · have hchar := toNat_char hzero
    have hend : '\n'.toNat = 10 := rfl
    rw [h, hend] at hchar
    omega

/-- The bits of a weight are the dots of its character. A space comes before all braille characters,
and so has none. -/
theorem char_dots (weight : UInt8) : (char weight).toNat - 0x2800 = weight.toNat := by
  by_cases h : weight = 0
  · subst h
    rfl
  · rw [toNat_char h, Nat.add_sub_cancel_left]

theorem shows_char {dot : Nat → Nat → Bool} {dx dy : Nat} (hx : dx < 2) (hy : dy < 4) :
    shows (char (cellWeight dot)) dx dy = dot dx dy := by
  rw [shows, char_dots, testBit_dotBit hx hy]

theorem char_isCell (dot : Nat → Nat → Bool) : IsCell (char (cellWeight dot)) := by
  by_cases hzero : cellWeight dot = 0
  · exact .inl (if_pos hzero)
  · have hne : (cellWeight dot).toNat ≠ 0 := fun h => hzero (UInt8.toNat_inj.mp h)
    obtain ⟨i, hbit⟩ := Nat.exists_testBit_of_ne_zero hne
    obtain ⟨dx, hx, dy, hy, rfl, hdot⟩ := testBit_cellWeight.mp hbit
    have hchar := toNat_char hzero
    have hlt := (cellWeight dot).toNat_lt
    refine .inr ⟨by omega, by omega, dx, hx, dy, hy, ?_⟩
    rw [shows_char hx hy, hdot]

/-- The picture of a plane of dots, with a column and a row of characters to spare. -/
def picture (width height : Nat) (dot : Nat → Nat → Bool) : String :=
  "\n".intercalate <| (List.range (height / 4 + 1)).map fun row =>
    String.ofList <| (List.range (width / 2 + 1)).map fun column =>
      char (cellWeight fun dx dy => dot (2 * column + dx) (4 * row + dy))

end Braille

/-- The dots of a list are set on a canvas one after the other. -/
def Canvas.setAll {κ : Type} [Canvas κ] (canvas : κ) (dots : List (UInt32 × UInt32)) : κ :=
  dots.foldl (fun canvas d => Canvas.set canvas d.1 d.2) canvas

/-- A canvas of this size shows the dots that are set on it, as long as all of them are within it. -/
def Canvas.Draws (κ : Type) [Canvas κ] (width height : UInt32) : Prop :=
  ∀ dots : List (UInt32 × UInt32), (∀ d ∈ dots, d.1 < width ∧ d.2 < height) →
    Canvas.frame (Canvas.setAll (Canvas.new width height : κ) dots) =
      Braille.picture width.toNat height.toNat fun x y =>
        decide ((x, y) ∈ dots.map fun d => (d.1.toNat, d.2.toNat))

namespace CellCanvas

/-- The column and the row of the cell of a dot. -/
def cellOf (d : UInt32 × UInt32) : UInt16 × UInt16 := ((d.1 / 2).toUInt16, (d.2 / 4).toUInt16)

theorem weight_setAll (canvas : CellCanvas) (dots : List (UInt32 × UInt32)) (c r : UInt16) :
    (Canvas.setAll canvas dots).weight c r =
      dots.foldl
        (fun w d => if decide ((c, r) = cellOf d) then
          w ||| Braille.dotWeight (d.1 % 2).toNat (d.2 % 4).toNat else w)
        (canvas.weight c r) := by
  induction dots generalizing canvas with
  | nil => rfl
  | cons d dots ih =>
    rw [List.foldl_cons]
    refine (ih (canvas.set d.1 d.2)).trans ?_
    congr 1
    simp [set, cellOf]

theorem max_of_le {a b : UInt16} (h : b ≤ a) : max a b = a := by
  rw [UInt16.max_def]
  split
  · exact UInt16.le_antisymm h ‹_›
  · rfl

/-- Dots within the corner leave the last column and the last row where they are. -/
theorem last_setAll (canvas : CellCanvas) {dots : List (UInt32 × UInt32)}
    (h : ∀ d ∈ dots, (cellOf d).1 ≤ canvas.lastColumn ∧ (cellOf d).2 ≤ canvas.lastRow) :
    (Canvas.setAll canvas dots).lastColumn = canvas.lastColumn ∧
      (Canvas.setAll canvas dots).lastRow = canvas.lastRow := by
  induction dots generalizing canvas with
  | nil => exact ⟨rfl, rfl⟩
  | cons d dots ih =>
    obtain ⟨hcolumn, hrow⟩ := h d List.mem_cons_self
    have hc : (canvas.set d.1 d.2).lastColumn = canvas.lastColumn := max_of_le hcolumn
    have hr : (canvas.set d.1 d.2).lastRow = canvas.lastRow := max_of_le hrow
    have hset := ih (canvas.set d.1 d.2) fun e he => by
      rw [hc, hr]
      exact h e (List.mem_cons_of_mem d he)
    rw [hc, hr] at hset
    exact hset

/-- The number of a cell that is not too far out. -/
theorem toNat_column {x : UInt32} (h : x.toNat < 0x20000) :
    (x / 2).toUInt16.toNat = x.toNat / 2 := by
  have hlt : x.toNat / 2 < 0x10000 := by omega
  simpa using hlt

theorem toNat_row {y : UInt32} (h : y.toNat < 0x40000) : (y / 4).toUInt16.toNat = y.toNat / 4 := by
  have hlt : y.toNat / 4 < 0x10000 := by omega
  simpa using hlt

theorem cellOf_eq_iff {d : UInt32 × UInt32} {column row : Nat} (hx : d.1.toNat < 0x20000)
    (hy : d.2.toNat < 0x40000) (hc : column < 0x10000) (hr : row < 0x10000) :
    (UInt16.ofNat column, UInt16.ofNat row) = cellOf d ↔
      d.1.toNat / 2 = column ∧ d.2.toNat / 4 = row := by
  rw [cellOf, Prod.mk.injEq, ← UInt16.toNat_inj, ← UInt16.toNat_inj, toNat_column hx, toNat_row hy,
    UInt16.toNat_ofNat_of_lt' hc, UInt16.toNat_ofNat_of_lt' hr, eq_comm, eq_comm (a := row)]

/-- A cell has the dots that were set in it. -/
theorem weight_setAll_new {width height : UInt32} {dots : List (UInt32 × UInt32)}
    (hdots : ∀ d ∈ dots, d.1.toNat < 0x20000 ∧ d.2.toNat < 0x40000) {column row : Nat}
    (hc : column < 0x10000) (hr : row < 0x10000) :
    (Canvas.setAll (new width height) dots).weight (UInt16.ofNat column) (UInt16.ofNat row) =
      Braille.cellWeight fun dx dy =>
        decide ((2 * column + dx, 4 * row + dy) ∈ dots.map fun d => (d.1.toNat, d.2.toNat)) := by
  refine UInt8.toNat_inj.mp (Nat.eq_of_testBit_eq fun i => ?_)
  rw [weight_setAll, Braille.testBit_foldl_or, Bool.eq_iff_iff, Braille.testBit_cellWeight]
  have hzero : ((new width height).weight (UInt16.ofNat column) (UInt16.ofNat row)).toNat = 0 := rfl
  have hmod (d : UInt32 × UInt32) : (d.1 % 2).toNat = d.1.toNat % 2 ∧
      (d.2 % 4).toNat = d.2.toNat % 4 := ⟨UInt32.toNat_mod .., UInt32.toNat_mod ..⟩
  simp only [hzero, Nat.zero_testBit, Bool.false_or, List.any_eq_true, Bool.and_eq_true,
    decide_eq_true_iff, List.mem_map, Prod.mk.injEq]
  constructor
  · rintro ⟨d, hd, hcell, hbit⟩
    obtain ⟨hx, hy⟩ := hdots d hd
    obtain ⟨rfl, rfl⟩ := (cellOf_eq_iff hx hy hc hr).mp hcell
    have hx2 : d.1.toNat % 2 < 2 := Nat.mod_lt _ Nat.two_pos
    have hy4 : d.2.toNat % 4 < 4 := Nat.mod_lt _ (Nat.succ_pos 3)
    rw [(hmod d).1, (hmod d).2, Braille.testBit_dotWeight hx2 hy4, decide_eq_true_iff] at hbit
    exact ⟨d.1.toNat % 2, hx2, d.2.toNat % 4, hy4, hbit, d, hd, (Nat.div_add_mod ..).symm,
      (Nat.div_add_mod ..).symm⟩
  · rintro ⟨dx, hdx, dy, hdy, hbit, d, hd, hx, hy⟩
    obtain ⟨hxlt, hylt⟩ := hdots d hd
    refine ⟨d, hd, (cellOf_eq_iff hxlt hylt hc hr).mpr ⟨by omega, by omega⟩, ?_⟩
    have hx2 : d.1.toNat % 2 = dx := by omega
    have hy4 : d.2.toNat % 4 = dy := by omega
    rw [(hmod d).1, (hmod d).2, hx2, hy4, Braille.testBit_dotWeight hdx hdy, decide_eq_true_iff]
    exact hbit

/-- All dots are shown, as long as there are numbers for the cells. -/
theorem draws {width height : UInt32} (hw : width.toNat < 0x20000) (hh : height.toNat < 0x40000) :
    Canvas.Draws CellCanvas width height := by
  intro dots hdots
  have hin (d : UInt32 × UInt32) (hd : d ∈ dots) : d.1.toNat < width.toNat ∧
      d.2.toNat < height.toNat := hdots d hd
  have hsmall (d : UInt32 × UInt32) (hd : d ∈ dots) : d.1.toNat < 0x20000 ∧
      d.2.toNat < 0x40000 := ⟨(hin d hd).1.trans hw, (hin d hd).2.trans hh⟩
  have hcolumns : (new width height).lastColumn.toNat = width.toNat / 2 := toNat_column hw
  have hrows : (new width height).lastRow.toNat = height.toNat / 4 := toNat_row hh
  obtain ⟨hcolumn, hrow⟩ := last_setAll (new width height) fun d hd => by
    obtain ⟨hx, hy⟩ := hin d hd
    obtain ⟨hxlt, hylt⟩ := hsmall d hd
    rw [UInt16.le_iff_toNat_le, UInt16.le_iff_toNat_le, hcolumns, hrows, cellOf,
      toNat_column hxlt, toNat_row hylt]
    exact ⟨Nat.div_le_div_right hx.le, Nat.div_le_div_right hy.le⟩
  show frame (Canvas.setAll (new width height) dots) = _
  rw [frame, Braille.picture, hrow, hrows]
  refine congrArg _ (List.map_congr_left fun row hr => ?_)
  rw [line, hcolumn, hcolumns]
  refine congrArg _ (List.map_congr_left fun column hc => congrArg Braille.char ?_)
  rw [List.mem_range] at hr hc
  exact weight_setAll_new hsmall (by omega) (by omega)

end CellCanvas

end Chip8
