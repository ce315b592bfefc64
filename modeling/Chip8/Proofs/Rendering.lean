import Chip8.Proofs.Canvas
import Chip8.Proofs.Collision
import Chip8.Screen.Picture

/-! Pictures of a screen in text, and what they tell about it. Both pictures are lines of equally
many characters, and each pixel can be read off again: in blocks from a character of its own, in
braille from one of the eight dots of a character. So two screens of one size look the same in text
only if they are the same. A braille picture keeps to this on every canvas that shows its dots. One
whose cells are numbered in sixteen bits does as long as there are numbers, across and down. -/

namespace Chip8.Screen

variable {s : Screen} {width height : Nat} {text : String} {columns rows : Nat}
  {char char' : Nat → Nat → Char}

/-! ### Lines of characters -/

/-- A text of so many lines of so many characters, each line with its end. -/
def IsGrid (text : String) (columns rows : Nat) (char : Nat → Nat → Char) : Prop :=
  text.toList.splitOn '\n' =
    (List.range rows).map (fun y => (List.range columns).map (char · y)) ++ [[]]

theorem flatMap_lines (lines : List (List Char)) :
    lines.flatMap (· ++ ['\n']) = ['\n'].intercalate (lines ++ [[]]) := by
  induction lines with
  | nil => simp
  | cons line lines ih =>
    rw [List.flatMap_cons, ih]
    cases lines <;> simp [List.intercalate_cons_cons]

theorem intercalate_append {lines : List (List Char)} (h : lines ≠ []) :
    ['\n'].intercalate lines ++ ['\n'] = lines.flatMap (· ++ ['\n']) := by
  rw [flatMap_lines]
  induction lines with
  | nil => exact absurd rfl h
  | cons line lines ih =>
    cases lines with
    | nil => simp [List.intercalate_cons_cons]
    | cons next lines =>
      rw [List.intercalate_cons_cons, List.append_assoc, ih (List.cons_ne_nil _ _)]
      simp [List.intercalate_cons_cons]

theorem IsGrid.of_lines
    (htext : text.toList =
      ((List.range rows).map fun y => (List.range columns).map (char · y)).flatMap (· ++ ['\n']))
    (hchar : ∀ x y, char x y ≠ '\n') : IsGrid text columns rows char := by
  rw [IsGrid, htext, flatMap_lines, List.splitOn_intercalate '\n' _ (by simp)]
  intro line hline
  rw [List.mem_append, List.mem_singleton, List.mem_map] at hline
  obtain ⟨y, -, rfl⟩ | rfl := hline
  · rw [List.mem_map]
    rintro ⟨x, -, hx⟩
    exact hchar x y hx
  · exact List.not_mem_nil

/-- Lines with ends between them, and the end of the last one. -/
theorem IsGrid.of_intercalate (hrows : 0 < rows) (hchar : ∀ x y, char x y ≠ '\n') :
    IsGrid
      ("\n".intercalate ((List.range rows).map fun y =>
        String.ofList ((List.range columns).map (char · y))) ++ "\n")
      columns rows char := by
  refine IsGrid.of_lines ?_ hchar
  have hlines : (List.range rows).map (fun y => (List.range columns).map (char · y)) ≠ [] := by
    simp only [ne_eq, List.map_eq_nil_iff, List.range_eq_nil]
    exact hrows.ne'
  have hend : "\n".toList = ['\n'] := by decide
  rw [← intercalate_append hlines, String.toList_append, String.toList_intercalate, List.map_map,
    hend]
  simp only [Function.comp_def, String.toList_ofList]

/-- A text has its lines and its characters in one way only. -/
theorem IsGrid.char_eq (h : IsGrid text columns rows char) (h' : IsGrid text columns rows char')
    {x y : Nat} (hx : x < columns) (hy : y < rows) : char x y = char' x y := by
  have hlines := List.append_cancel_right (Eq.trans (Eq.symm h) h')
  have hline := List.map_inj_left.mp hlines y (List.mem_range.mpr hy)
  exact List.map_inj_left.mp hline x (List.mem_range.mpr hx)

theorem IsGrid.length_eq {columns' rows' : Nat} (h : IsGrid text columns rows char)
    (h' : IsGrid text columns' rows' char') (hrows : 0 < rows) :
    columns = columns' ∧ rows = rows' := by
  have hlines := List.append_cancel_right (Eq.trans (Eq.symm h) h')
  have hcount : rows = rows' := by simpa using congrArg List.length hlines
  subst hcount
  have hline := List.map_inj_left.mp hlines 0 (List.mem_range.mpr hrows)
  exact ⟨by simpa using congrArg List.length hline, rfl⟩

/-! ### Blocks -/

theorem chunks_nil {α : Type} (n : Nat) : chunks n ([] : List α) = [] := by
  cases n <;> simp [chunks]

theorem chunks_eq {α : Type} {n rows : Nat} {l : List α} (hn : 0 < n) (hl : l.length = rows * n) :
    chunks n l = (List.range rows).map fun y => (l.drop (y * n)).take n := by
  induction rows generalizing l with
  | zero =>
    rw [Nat.zero_mul, List.length_eq_zero_iff] at hl
    rw [hl, chunks_nil]
    rfl
  | succ rows ih =>
    rw [Nat.succ_mul] at hl
    cases n with
    | zero => exact absurd hn (Nat.lt_irrefl 0)
    | succ n =>
      cases l with
      | nil => exact absurd hl (by simp)
      | cons a l =>
        have hrest : (l.drop n).length = rows * (n + 1) := by
          rw [List.length_cons] at hl
          rw [List.length_drop]
          generalize rows * (n + 1) = rest at hl ⊢
          omega
        rw [chunks, ih hrest, List.range_succ_eq_map, List.map_cons, List.map_map]
        congr 1
        · simp
        · refine List.map_congr_left fun y _ => ?_
          have hskip : (y + 1) * (n + 1) = n + y * (n + 1) + 1 := by
            rw [Nat.succ_mul]
            omega
          rw [List.drop_drop, Function.comp_apply, Nat.succ_eq_add_one, hskip, List.drop_succ_cons]

/-- A row of the pixels, by the columns. -/
theorem OfSize.row_eq (h : s.OfSize width height) {y : Nat} (hy : y < height) :
    (s.pixels.toList.drop (y * width)).take width =
      (List.range width).map fun x => s.pixels.getD (y * width + x) 0 := by
  have hlength : y * width + width ≤ s.pixels.size := by
    rw [h.size_eq, ← Nat.succ_mul, Nat.mul_comm width]
    exact Nat.mul_le_mul_right width hy
  refine List.ext_getElem ?_ fun x hx hx' => ?_
  · rw [List.length_take, List.length_drop, Array.length_toList, List.length_map, List.length_range]
    omega
  · rw [List.length_map, List.length_range] at hx'
    have hlt : y * width + x < s.pixels.size := by omega
    simp [Array.getD_eq_getD_getElem?, hlt]

theorem OfSize.blocks_isGrid (h : s.OfSize width height) (hw : 0 < width) :
    IsGrid s.blocks width height fun x y => if s.get x y then '█' else ' ' := by
  refine IsGrid.of_lines ?_ fun x y => ?_
  · have hl : s.pixels.toList.length = height * width := by
      rw [Array.length_toList, h.size_eq, Nat.mul_comm]
    rw [blocks, String.toList_ofList, h.width_eq, chunks_eq hw hl, List.flatMap_map,
      List.flatMap_map]
    refine List.flatMap_congr fun y hy => ?_
    rw [h.row_eq (List.mem_range.mp hy), List.map_map]
    refine congrArg (· ++ ['\n']) (List.map_congr_left fun x hx => ?_)
    rw [h.get_eq (List.mem_range.mp hx) (List.mem_range.mp hy)]
    rfl
  · show (if s.get x y then '█' else ' ') ≠ '\n'
    split <;> decide

/-! ### Braille -/

theorem picture_isGrid (width height : Nat) (dot : Nat → Nat → Bool) :
    IsGrid (Braille.picture width height dot ++ "\n") (width / 2 + 1) (height / 4 + 1)
      fun column row =>
        Braille.char (Braille.cellWeight fun dx dy => dot (2 * column + dx) (4 * row + dy)) :=
  IsGrid.of_intercalate (Nat.succ_pos _) fun _ _ => Braille.char_ne_newline _

/-- The columns and the rows of the lit pixels, in the row-wise order. -/
def litPlaces (s : Screen) : List (Nat × Nat) :=
  (s.pixels.toList.zipIdx.filter fun (pixel, _) => pixel != 0).map fun (_, index) =>
    (index % s.width, index / s.width)

/-- A place in thirty-two bits. -/
def narrow (p : Nat × Nat) : UInt32 × UInt32 := (UInt32.ofNat p.1, UInt32.ofNat p.2)

theorem toNat_narrow {p : Nat × Nat} (hx : p.1 < 0x100000000) (hy : p.2 < 0x100000000) :
    (narrow p).1.toNat = p.1 ∧ (narrow p).2.toNat = p.2 :=
  ⟨UInt32.toNat_ofNat_of_lt' hx, UInt32.toNat_ofNat_of_lt' hy⟩

theorem drawOn_eq {κ : Type} [Canvas κ] (s : Screen) (canvas : κ) :
    s.drawOn canvas = Canvas.setAll canvas (s.litPlaces.map narrow) := by
  rw [drawOn, Canvas.setAll, litPlaces, List.map_map, List.foldl_map]
  rfl

theorem OfSize.mem_litPlaces (h : s.OfSize width height) {x y : Nat} :
    (x, y) ∈ s.litPlaces ↔ x < width ∧ y < height ∧ s.get x y = true := by
  have hlit (i : Nat) : (∃ pixel, s.pixels.toList[i]? = some pixel ∧ pixel != 0) ↔
      i < width * height ∧ (s.pixels.getD i 0 != 0) = true := by
    rw [← h.size_eq, Array.getElem?_toList, Array.getD_eq_getD_getElem?]
    by_cases hi : i < s.pixels.size
    · simp [hi]
    · simp [hi]
  simp only [litPlaces, List.mem_map, List.mem_filter, List.mem_zipIdx_iff_getElem?, Prod.exists,
    Prod.mk.injEq, h.width_eq]
  constructor
  · rintro ⟨pixel, i, ⟨hi, hpixel⟩, rfl, rfl⟩
    obtain ⟨hlt, hbyte⟩ := (hlit i).mp ⟨pixel, hi, hpixel⟩
    have hw : 0 < width := Nat.pos_of_mul_pos_right (by omega : 0 < width * height)
    have hx : i % width < width := Nat.mod_lt i hw
    have hy : i / width < height := Nat.div_lt_of_lt_mul hlt
    rw [h.get_eq hx hy, Nat.div_add_mod']
    exact ⟨hx, hy, hbyte⟩
  · rintro ⟨hx, hy, hget⟩
    rw [h.get_eq hx hy] at hget
    obtain ⟨pixel, hpixel⟩ := (hlit (y * width + x)).mpr ⟨index_lt hx hy, hget⟩
    refine ⟨pixel, y * width + x, hpixel, Nat.mul_add_mod_of_lt hx, ?_⟩
    rw [Nat.mul_comm, Nat.mul_add_div (by omega), Nat.div_eq_of_lt hx, Nat.add_zero]

/-- Whether there is a pixel at a place, and it is lit. -/
def hasDot (s : Screen) (x y : Nat) : Bool :=
  decide (x < s.width ∧ y < s.height ∧ s.get x y = true)

theorem OfSize.hasDot_iff (h : s.OfSize width height) {x y : Nat} :
    s.hasDot x y = true ↔ x < width ∧ y < height ∧ s.get x y = true := by
  rw [hasDot, decide_eq_true_iff, h.width_eq, h.height_eq]

/-- The columns and the rows come through thirty-two bits. -/
theorem OfSize.printOn_eq {κ : Type} [Canvas κ] (h : s.OfSize width height)
    (hw : width < 0x100000000) (hh : height < 0x100000000)
    (hdraws : Canvas.Draws κ (UInt32.ofNat width) (UInt32.ofNat height)) :
    s.printOn κ = Braille.picture width height s.hasDot ++ "\n" := by
  have hsmall (p : Nat × Nat) (hp : p ∈ s.litPlaces) : p.1 < width ∧ p.2 < height := by
    obtain ⟨hx, hy, -⟩ := h.mem_litPlaces.mp hp
    exact ⟨hx, hy⟩
  have hnarrow (p : Nat × Nat) (hp : p ∈ s.litPlaces) :
      (narrow p).1.toNat = p.1 ∧ (narrow p).2.toNat = p.2 :=
    toNat_narrow ((hsmall p hp).1.trans hw) ((hsmall p hp).2.trans hh)
  have hcorner : (UInt32.ofNat width).toNat = width ∧ (UInt32.ofNat height).toNat = height :=
    ⟨UInt32.toNat_ofNat_of_lt' hw, UInt32.toNat_ofNat_of_lt' hh⟩
  have hplaces : (s.litPlaces.map narrow).map (fun d => (d.1.toNat, d.2.toNat)) = s.litPlaces := by
    rw [List.map_map]
    refine (List.map_congr_left fun p hp => ?_).trans (List.map_id _)
    exact Prod.ext (hnarrow p hp).1 (hnarrow p hp).2
  have hdots : (fun x y => decide ((x, y) ∈ s.litPlaces)) = s.hasDot := by
    funext x y
    rw [Bool.eq_iff_iff, decide_eq_true_iff, h.mem_litPlaces, h.hasDot_iff]
  have hframe := hdraws (s.litPlaces.map narrow) fun d hd => by
    obtain ⟨p, hp, rfl⟩ := List.mem_map.mp hd
    rw [UInt32.lt_iff_toNat_lt, UInt32.lt_iff_toNat_lt, (hnarrow p hp).1, (hnarrow p hp).2,
      hcorner.1, hcorner.2]
    exact hsmall p hp
  rw [hplaces, hdots, hcorner.1, hcorner.2] at hframe
  rw [printOn, drawOn_eq, h.width_eq, h.height_eq, hframe]

/-! ### Reading the pixels off -/

theorem OfSize.eq_withDirty {t : Screen} (hs : s.OfSize width height) (ht : t.OfSize width height)
    (hpixels : s.pixels = t.pixels) : t = { s with dirty := t.dirty } := by
  have hw := ht.width_eq.trans hs.width_eq.symm
  have hh := ht.height_eq.trans hs.height_eq.symm
  cases t
  simp_all

theorem OfSize.blocks_eq_iff {t : Screen} (hs : s.OfSize width height)
    (ht : t.OfSize width height) (hw : 0 < width) : s.blocks = t.blocks ↔ s.pixels = t.pixels := by
  constructor
  · intro htext
    have hgrid := ht.blocks_isGrid hw
    rw [← htext] at hgrid
    refine hs.pixels_ext ht fun x hx y hy => ?_
    have hinj : ∀ lit lit' : Bool,
        (if lit then '█' else ' ') = (if lit' then '█' else ' ') → lit = lit' := by decide
    exact hinj _ _ ((hs.blocks_isGrid hw).char_eq hgrid hx hy)
  · intro hpixels
    rw [hs.eq_withDirty ht hpixels]
    rfl

theorem shows_picture (dot : Nat → Nat → Bool) (x y : Nat) :
    Braille.shows
      (Braille.char (Braille.cellWeight fun dx dy => dot (2 * (x / 2) + dx) (4 * (y / 4) + dy)))
      (x % 2) (y % 4) = dot x y := by
  rw [Braille.shows_char (Nat.mod_lt x Nat.two_pos) (Nat.mod_lt y (Nat.succ_pos 3)), Nat.div_add_mod,
    Nat.div_add_mod]

theorem OfSize.print_eq_iff {κ : Type} [Canvas κ] {t : Screen} (hs : s.OfSize width height)
    (ht : t.OfSize width height) (hw : width < 0x100000000) (hh : height < 0x100000000)
    (hdraws : Canvas.Draws κ (UInt32.ofNat width) (UInt32.ofNat height)) :
    s.printOn κ = t.printOn κ ↔ s.pixels = t.pixels := by
  constructor
  · intro htext
    rw [hs.printOn_eq hw hh hdraws, ht.printOn_eq hw hh hdraws] at htext
    have hgrid := picture_isGrid width height t.hasDot
    rw [← htext] at hgrid
    refine hs.pixels_ext ht fun x hx y hy => ?_
    have hcolumn : x / 2 < width / 2 + 1 := Nat.lt_succ_of_le (Nat.div_le_div_right hx.le)
    have hrow : y / 4 < height / 4 + 1 := Nat.lt_succ_of_le (Nat.div_le_div_right hy.le)
    have hchar := (picture_isGrid width height s.hasDot).char_eq hgrid hcolumn hrow
    have hdot : s.hasDot x y = t.hasDot x y := by
      rw [← shows_picture s.hasDot, hchar, shows_picture]
    have hlit := Bool.eq_iff_iff.mp hdot
    rw [hs.hasDot_iff, ht.hasDot_iff] at hlit
    simpa [hx, hy, ← Bool.eq_iff_iff] using hlit
  · intro hpixels
    rw [hs.eq_withDirty ht hpixels]
    rfl

/-- The pictures of a screen, whatever was drawn on it. In blocks there is one character for each
pixel. In braille, on a canvas that shows the dots that are set on it, there is one for each cell up
to that of the corner behind the last pixel, and its dots are the pixels of the cell that are lit.
Either picture tells all pixels. A canvas whose cells are numbered in sixteen bits shows its dots as
long as there are numbers enough. -/
theorem texts_tell_pixels {fresh : Screen} (hfresh : ofSize width height = .ok fresh)
    (hsize : width * height < 0x10000000000000000) (accesses : List Access) :
    let s := fresh.afterAll accesses
    IsGrid s.blocks width height (fun x y => if s.get x y then '█' else ' ') ∧
    (∀ (κ : Type) [Canvas κ], width < 0x100000000 → height < 0x100000000 →
      Canvas.Draws κ (UInt32.ofNat width) (UInt32.ofNat height) → ∃ char,
        IsGrid (s.printOn κ) (width / 2 + 1) (height / 4 + 1) char ∧
        (∀ column row, Braille.IsCell (char column row)) ∧
        ∀ x y, Braille.shows (char (x / 2) (y / 4)) (x % 2) (y % 4) = true ↔
          x < width ∧ y < height ∧ s.get x y = true) ∧
    (∀ others, let t := fresh.afterAll others
      (s.blocks = t.blocks ↔ s.pixels = t.pixels) ∧
      ∀ (κ : Type) [Canvas κ], width < 0x100000000 → height < 0x100000000 →
        Canvas.Draws κ (UInt32.ofNat width) (UInt32.ofNat height) →
          (s.printOn κ = t.printOn κ ↔ s.pixels = t.pixels)) ∧
    (width < 0x20000 → height < 0x40000 →
      Canvas.Draws CellCanvas (UInt32.ofNat width) (UInt32.ofNat height)) := by
  obtain ⟨hw, -, rfl⟩ := ofSize_ok hfresh
  have hafter (accesses : List Access) :
      ((blank width height).afterAll accesses).OfSize width height :=
    ((blank_ofSize hsize).afterAll (fun px _ py _ => blank_dark width height px py) _).1
  intro s
  have hs : s.OfSize width height := hafter accesses
  refine ⟨hs.blocks_isGrid hw, fun κ _ hw hh hdraws => ?_, fun others =>
    ⟨hs.blocks_eq_iff (hafter others) hw, fun κ _ hw hh hdraws =>
      hs.print_eq_iff (hafter others) hw hh hdraws⟩, fun hw hh => ?_⟩
  · rw [hs.printOn_eq hw hh hdraws]
    refine ⟨_, picture_isGrid width height s.hasDot, fun column row => Braille.char_isCell _,
      fun x y => ?_⟩
    rw [shows_picture, hs.hasDot_iff]
  · refine CellCanvas.draws ?_ ?_
    · rwa [UInt32.toNat_ofNat_of_lt' (hw.trans (by decide))]
    · rwa [UInt32.toNat_ofNat_of_lt' (hh.trans (by decide))]

/-- A screen of odd sides, with two dots in its partial cells: its last column and its last row. -/
theorem texts_tell_pixels_odd :
    let dots : Stamp := ⟨[0x20, 0x00, 0x00, 0x00, 0x80], 0, 0⟩
    ∃ fresh, ofSize 3 5 = .ok fresh ∧
      let s := fresh.afterAll [.blit dots]
      (∃ char, IsGrid s.print 2 2 char ∧ Braille.shows (char 1 0) 0 0 = true ∧
        Braille.shows (char 0 1) 0 0 = true ∧ Braille.shows (char 1 0) 1 0 = false ∧
        Braille.shows (char 0 1) 0 1 = false) ∧
      s.blocks ≠ fresh.blocks ∧ s.print ≠ fresh.print := by
  intro dots
  have hfresh : ofSize 3 5 = .ok (blank 3 5) := rfl
  refine ⟨blank 3 5, hfresh, ?_⟩
  intro s
  obtain ⟨-, hbraille, htell, hdraws⟩ := texts_tell_pixels hfresh (by decide) [.blit dots]
  have hcells := hdraws (by decide) (by decide)
  obtain ⟨char, hgrid, -, hdot⟩ := hbraille CellCanvas (by decide) (by decide) hcells
  have hne : s.pixels ≠ ((blank 3 5).afterAll []).pixels := by decide
  obtain ⟨hblocks, hprint⟩ := htell []
  refine ⟨⟨char, hgrid, ?_, ?_, ?_, ?_⟩, ?_, ?_⟩
  · exact (hdot 2 0).mpr (by decide)
  · exact (hdot 0 4).mpr (by decide)
  · exact Bool.eq_false_iff.mpr fun h => absurd ((hdot 3 0).mp h) (by decide)
  · exact Bool.eq_false_iff.mpr fun h => absurd ((hdot 0 5).mp h) (by decide)
  · exact fun h => hne (hblocks.mp h)
  · exact fun h => hne ((hprint CellCanvas (by decide) (by decide) hcells).mp h)

/-! ### More characters than numbers -/

theorem blank_drawOn {κ : Type} [Canvas κ] (width height : Nat) (canvas : κ) :
    (blank width height).drawOn canvas = canvas := by
  have hdark : ((blank width height).pixels.toList.zipIdx.filter
      fun (pixel, _) => pixel != 0) = [] := by
    rw [List.filter_eq_nil_iff]
    rintro ⟨pixel, i⟩ hi
    have hpixel : pixel ∈ (blank width height).pixels.toList := List.fst_mem_of_mem_zipIdx hi
    rw [blank, Array.toList_replicate] at hpixel
    obtain rfl := List.eq_of_mem_replicate hpixel
    exact Bool.false_ne_true
  rw [drawOn, hdark]
  rfl

theorem print_blank_isGrid (width height : Nat) :
    ∃ char, IsGrid (blank width height).print
      ((UInt32.ofNat width / 2).toUInt16.toNat + 1) ((UInt32.ofNat height / 4).toUInt16.toNat + 1)
      char := by
  rw [print, printOn, blank_drawOn]
  exact ⟨_, IsGrid.of_intercalate (Nat.succ_pos _) fun _ _ => Braille.char_ne_newline _⟩

/-- The narrowest screen that is too wide: its cells are one more than there are numbers. -/
theorem print_isGrid_fails_wide : ∃ fresh, ofSize 0x20000 1 = .ok fresh ∧
    ∀ char, ¬IsGrid fresh.print (0x20000 / 2 + 1) (1 / 4 + 1) char := by
  refine ⟨blank 0x20000 1, if_pos ⟨by decide, by decide⟩, fun char hgrid => ?_⟩
  obtain ⟨small, hsmall⟩ := print_blank_isGrid 0x20000 1
  obtain ⟨hcolumns, -⟩ := hgrid.length_eq hsmall (Nat.succ_pos _)
  exact absurd hcolumns (by decide)

end Chip8.Screen
