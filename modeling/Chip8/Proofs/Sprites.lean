import Chip8.Screen.Saved
import Mathlib.Algebra.BigOperators.Intervals
import Mathlib.Algebra.Ring.Parity
import Mathlib.Data.Nat.Count

/-! Sprites on a screen. Drawing a sprite flips the pixel under each of its set bits, one after the
other, however often the sprite runs over the edges and into itself. So a pixel is lit if and only if
an odd number of set bits have come down on it since the screen was last cleared, and it does not
matter in which order. -/

namespace Chip8.Screen

/-! ### Flips in a row -/

/-- Flips one pixel after the other, and tells whether a lit one was among them. -/
def flipAll (places : List (Nat × Nat)) (r : Bool × Screen) : Bool × Screen :=
  places.foldl
    (fun (hit, s) (x, y) =>
      let (lit, s) := s.flip x y
      (hit || lit, s))
    r

theorem flipAll_append (places more : List (Nat × Nat)) (r : Bool × Screen) :
    flipAll (places ++ more) r = flipAll more (flipAll places r) :=
  List.foldl_append

/-- Where the set bits of a sprite come down, in the order in which they are drawn. Running over the
edges is left to the screen. -/
def places (x : Nat) : (y : Nat) → List UInt8 → List (Nat × Nat)
  | _, [] => []
  | y, line :: lines => (columns.filter (sets line)).map (x + ·, y) ++ places x (y + 1) lines

theorem blitLine_eq (line : UInt8) (x y : Nat) (hit : Bool) (s : Screen) :
    blitLine line x y hit s = flipAll ((columns.filter (sets line)).map (x + ·, y)) (hit, s) := by
  rw [flipAll, List.foldl_map, List.foldl_filter]
  rfl

theorem blitLines_eq (x y : Nat) (lines : List UInt8) (hit : Bool) (s : Screen) :
    blitLines x y lines hit s = flipAll (places x y lines) (hit, s) := by
  induction lines generalizing y hit s with
  | nil => rfl
  | cons line lines ih =>
    have hl := ih (y + 1) (blitLine line x y hit s).1 (blitLine line x y hit s).2
    rw [places, flipAll_append, ← blitLine_eq]
    exact hl

theorem blit_eq (s : Screen) (sprite : List UInt8) (x y : UInt8) :
    s.blit sprite x y =
      ((flipAll (places x.toNat y.toNat sprite) (false, s)).1,
        { (flipAll (places x.toNat y.toNat sprite) (false, s)).2 with dirty := true }) := by
  rw [blit, blitLines_eq]

theorem flipAll_withDirty (s : Screen) (places : List (Nat × Nat)) (hit b : Bool) :
    flipAll places (hit, { s with dirty := b }) =
      ((flipAll places (hit, s)).1, { (flipAll places (hit, s)).2 with dirty := b }) := by
  induction places generalizing s hit with
  | nil => rfl
  | cons p places ih => exact ih (s.flip p.1 p.2).2 (hit || (s.flip p.1 p.2).1)

/-- Drawing does not look at the mark. -/
theorem blit_withDirty (s : Screen) (sprite : List UInt8) (x y : UInt8) (b : Bool) :
    ({ s with dirty := b } : Screen).blit sprite x y = s.blit sprite x y := by
  rw [blit_eq, blit_eq, flipAll_withDirty]

/-- A screen of this size, with one pixel for each place on it, and no byte but zero and one. -/
structure OfSize (s : Screen) (width height : Nat) : Prop where
  width_eq : s.width = width
  height_eq : s.height = height
  size_eq : s.pixels.size = width * height
  binary : ∀ i, s.pixels.getD i 0 = 0 ∨ s.pixels.getD i 0 = 1

variable {s : Screen} {width height : Nat}

theorem getD_replicate_zero (n i : Nat) : (Array.replicate n (0 : UInt8)).getD i 0 = 0 := by
  rw [Array.getD_eq_getD_getElem?, Array.getElem?_replicate]
  split <;> rfl

theorem blank_ofSize (h : width * height < 0x10000000000000000) :
    (blank width height).OfSize width height where
  width_eq := rfl
  height_eq := rfl
  size_eq := Array.size_replicate.trans (Nat.mod_eq_of_lt h)
  binary i := .inl (getD_replicate_zero _ i)

theorem OfSize.index_eq (h : s.OfSize width height) (x y : Nat) :
    s.index x y = y % height * width + x % width := by
  rw [index, h.width_eq, h.height_eq]

/-- A flip turns over the lowest bit of one byte. -/
theorem getD_flip (s : Screen) (x y i : Nat) :
    (s.flip x y).2.pixels.getD i 0 =
      if s.index x y = i ∧ i < s.pixels.size then s.pixels.getD i 0 ^^^ 1
      else s.pixels.getD i 0 := by
  have hflip : (s.flip x y).2.pixels =
      s.pixels.setIfInBounds (s.index x y) (s.pixels.getD (s.index x y) 0 ^^^ 1) := rfl
  rw [hflip, Array.getD_eq_getD_getElem?, Array.getElem?_setIfInBounds]
  by_cases hi : s.index x y = i
  · subst hi
    by_cases hlt : s.index x y < s.pixels.size
    · simp [hlt]
    · simp [hlt]
  · simp [hi, Array.getD_eq_getD_getElem?]

theorem OfSize.flip (h : s.OfSize width height) (x y : Nat) :
    (s.flip x y).2.OfSize width height where
  width_eq := h.width_eq
  height_eq := h.height_eq
  size_eq := Array.size_setIfInBounds.trans h.size_eq
  binary i := by
    rw [getD_flip]
    split
    · obtain hi | hi := h.binary i
      · exact .inr (by rw [hi]; rfl)
      · exact .inl (by rw [hi]; rfl)
    · exact h.binary i

theorem OfSize.flipAll {r : Bool × Screen} (h : r.2.OfSize width height)
    (places : List (Nat × Nat)) : (flipAll places r).2.OfSize width height := by
  induction places generalizing r with
  | nil => exact h
  | cons p places ih => exact ih (h.flip p.1 p.2)

theorem OfSize.blit (h : s.OfSize width height) (sprite : List UInt8) (x y : UInt8) :
    (s.blit sprite x y).2.OfSize width height := by
  rw [blit_eq]
  obtain ⟨hw, hh, hn, hb⟩ := OfSize.flipAll (r := (false, s)) h (places x.toNat y.toNat sprite)
  exact ⟨hw, hh, hn, hb⟩

theorem OfSize.clear (h : s.OfSize width height) : s.clear.OfSize width height where
  width_eq := h.width_eq
  height_eq := h.height_eq
  size_eq := Array.size_replicate.trans h.size_eq
  binary i := .inl (getD_replicate_zero _ i)

/-- Whether a place comes down on a pixel, by way of the edges. -/
def lands (width height px py : Nat) (p : Nat × Nat) : Bool :=
  decide (p.1 % width = px ∧ p.2 % height = py)

/-- Two pixels of a screen are at different places of the row-wise order. -/
theorem index_inj {x y px py : Nat} (hx : x < width) (hpx : px < width) :
    y * width + x = py * width + px ↔ x = px ∧ y = py := by
  constructor
  · intro h
    have hm := congrArg (· % width) h
    have hd := congrArg (· / width) h
    have hw : 0 < width := by omega
    simp only [Nat.mul_add_mod_of_lt hx, Nat.mul_add_mod_of_lt hpx] at hm
    subst hm
    exact ⟨rfl, Nat.eq_of_mul_eq_mul_right hw (Nat.add_right_cancel h)⟩
  · rintro ⟨rfl, rfl⟩
    rfl

/-- A pixel's place in the row-wise order is one of the screen's. -/
theorem index_lt {px py : Nat} (hx : px < width) (hy : py < height) :
    py * width + px < width * height := by
  calc py * width + px < py * width + width := by omega
    _ = (py + 1) * width := (Nat.succ_mul py width).symm
    _ ≤ height * width := Nat.mul_le_mul_right width hy
    _ = width * height := Nat.mul_comm height width

theorem OfSize.get_eq (h : s.OfSize width height) {px py : Nat} (hx : px < width)
    (hy : py < height) : s.get px py = (s.pixels.getD (py * width + px) 0 != 0) := by
  rw [get, h.index_eq, Nat.mod_eq_of_lt hx, Nat.mod_eq_of_lt hy]

/-- The byte of a pixel tells no more than whether it is lit. -/
theorem OfSize.getD_eq (h : s.OfSize width height) {px py : Nat} (hx : px < width)
    (hy : py < height) : s.pixels.getD (py * width + px) 0 = (s.get px py).toUInt8 := by
  rw [h.get_eq hx hy]
  obtain hb | hb := h.binary (py * width + px)
  · rw [hb]
    rfl
  · rw [hb]
    rfl

theorem OfSize.get_flip (h : s.OfSize width height) {px py : Nat} (hx : px < width)
    (hy : py < height) (p : Nat × Nat) :
    (s.flip p.1 p.2).2.get px py = (s.get px py ^^ lands width height px py p) := by
  have hi : py * width + px < s.pixels.size := by
    rw [h.size_eq]
    exact index_lt hx hy
  have hw : 0 < width := by omega
  have hplace : s.index p.1 p.2 = py * width + px ↔ lands width height px py p = true := by
    rw [h.index_eq, lands, decide_eq_true_iff]
    exact index_inj (Nat.mod_lt _ hw) hx
  rw [(h.flip p.1 p.2).get_eq hx hy, getD_flip, h.getD_eq hx hy]
  simp only [hi, hplace, and_true]
  cases lands width height px py p with
  | true => cases s.get px py <;> decide
  | false => cases s.get px py <;> decide

theorem odd_succ (n : Nat) : decide (Odd (n + 1)) = !decide (Odd n) := by
  rw [decide_eq_decide.mpr Nat.odd_add_one, decide_not]

/-- A pixel is turned over if and only if an odd number of flips come down on it. -/
theorem OfSize.get_flipAll {r : Bool × Screen} (h : r.2.OfSize width height) {px py : Nat}
    (hx : px < width) (hy : py < height) (places : List (Nat × Nat)) :
    (Screen.flipAll places r).2.get px py =
      (r.2.get px py ^^ decide (Odd (places.countP (lands width height px py)))) := by
  induction places generalizing r with
  | nil => simp [Screen.flipAll]
  | cons p places ih =>
    have hp := ih (r := (r.1 || (r.2.flip p.1 p.2).1, (r.2.flip p.1 p.2).2)) (h.flip p.1 p.2)
    have hcons : Screen.flipAll (p :: places) r =
        Screen.flipAll places (r.1 || (r.2.flip p.1 p.2).1, (r.2.flip p.1 p.2).2) := rfl
    rw [hcons, hp, h.get_flip hx hy, List.countP_cons]
    cases lands width height px py p with
    | true => rw [if_pos rfl, odd_succ, Bool.xor_true, Bool.not_xor, Bool.xor_not]
    | false => rw [if_neg Bool.false_ne_true, Nat.add_zero, Bool.xor_false]

/-! ### Set bits that come down on a pixel -/

/-- How many pairs of a row and a column of a sprite have their bit set and come down on a pixel, if
the sprite is drawn from a column and a row of the screen on. -/
def hits (width height px py x y : Nat) (sprite : List UInt8) : Nat :=
  ((Finset.range sprite.length ×ˢ Finset.range 8).filter fun (row, column) =>
    sprite[row]?.getD 0 &&& 0x80 >>> UInt8.ofNat column ≠ 0 ∧
      (x + column) % width = px ∧ (y + row) % height = py).card

theorem countP_columns (p : Nat → Bool) :
    columns.countP p = ∑ column ∈ Finset.range 8, if p column then 1 else 0 := by
  have hp : (fun column => decide (p column = true)) = p := by
    funext column
    exact Bool.decide_eq_true
  calc columns.countP p = columns.countP fun column => decide (p column = true) := by rw [hp]
    _ = ((Finset.range 8).filter (p · = true)).card := Nat.count_eq_card_filter_range _ 8
    _ = ∑ column ∈ Finset.range 8, if p column then 1 else 0 := Finset.card_filter _ _

/-- The row at the top counts by itself, and the others as a sprite one row lower. -/
theorem hits_cons (width height px py x y : Nat) (line : UInt8) (lines : List UInt8) :
    hits width height px py x y (line :: lines) =
      ((columns.filter (sets line)).map (x + ·, y)).countP (lands width height px py) +
        hits width height px py x (y + 1) lines := by
  rw [hits, Finset.card_filter, Finset.sum_product, List.length_cons, Finset.sum_range_succ',
    Nat.add_comm, hits, Finset.card_filter, Finset.sum_product]
  refine congrArg₂ (· + ·) ?_ ?_
  · rw [List.countP_map, List.countP_filter, countP_columns]
    refine Finset.sum_congr rfl fun column _ => ?_
    simp [lands, sets, and_comm]
  · refine Finset.sum_congr rfl fun row _ => Finset.sum_congr rfl fun column _ => ?_
    simp only [List.getElem?_cons_succ, Nat.add_right_comm y 1 row, Nat.add_assoc]

theorem countP_places (width height px py x y : Nat) (sprite : List UInt8) :
    (places x y sprite).countP (lands width height px py) = hits width height px py x y sprite := by
  induction sprite generalizing y with
  | nil => rfl
  | cons line lines ih => rw [places, List.countP_append, ih, hits_cons]

theorem OfSize.get_blit (h : s.OfSize width height) {px py : Nat} (hx : px < width)
    (hy : py < height) (sprite : List UInt8) (x y : UInt8) :
    (s.blit sprite x y).2.get px py =
      (s.get px py ^^ decide (Odd (hits width height px py x.toNat y.toNat sprite))) := by
  have hf := OfSize.get_flipAll (r := (false, s)) h hx hy (places x.toNat y.toNat sprite)
  rw [blit_eq, ← countP_places]
  exact hf

theorem OfSize.get_clear (h : s.OfSize width height) {px py : Nat} (hx : px < width)
    (hy : py < height) : s.clear.get px py = false := by
  rw [h.clear.get_eq hx hy, Screen.clear, getD_replicate_zero]
  rfl

/-- Screens of one size are alike if they are alike at each pixel. -/
theorem OfSize.pixels_ext {t : Screen} (hs : s.OfSize width height) (ht : t.OfSize width height)
    (hget : ∀ px < width, ∀ py < height, s.get px py = t.get px py) : s.pixels = t.pixels := by
  refine Array.ext (hs.size_eq.trans ht.size_eq.symm) fun i hi hi' => ?_
  have hlt : i < height * width := by
    rw [Nat.mul_comm, ← hs.size_eq]
    exact hi
  have hw : 0 < width := Nat.pos_of_mul_pos_left (by omega : 0 < height * width)
  have hx : i % width < width := Nat.mod_lt _ hw
  have hy : i / width < height := (Nat.div_lt_iff_lt_mul hw).mpr hlt
  have h := hget (i % width) hx (i / width) hy
  have hbytes := (hs.getD_eq hx hy).trans ((congrArg Bool.toUInt8 h).trans (ht.getD_eq hx hy).symm)
  rw [Nat.div_add_mod'] at hbytes
  simpa [Array.getD_eq_getD_getElem?, hi, hi'] using hbytes

/-! ### Whole histories -/

/-- A sprite with the column and the row at which it is drawn. -/
structure Stamp where
  sprite : List UInt8
  x : UInt8
  y : UInt8

inductive Access where
  | clear
  | blit (stamp : Stamp)
  | get (x y : Nat)
  | takeDirty

/-- The screen after an access; one that only looks at it leaves it as it is. -/
def after (s : Screen) : Access → Screen
  | .clear => s.clear
  | .blit stamp => (s.blit stamp.sprite stamp.x stamp.y).2
  | .get _ _ => s
  | .takeDirty => s.takeDirty.2

def afterAll (s : Screen) (accesses : List Access) : Screen := accesses.foldl after s

/-- What was drawn since the screen was last cleared. -/
def stamps (accesses : List Access) : List Stamp :=
  accesses.foldl
    (fun stamps access => match access with
      | .clear => []
      | .blit stamp => stamps ++ [stamp]
      | _ => stamps)
    []

/-- How many set bits came down on a pixel, by stamps, rows and columns. -/
def totalHits (width height px py : Nat) (stamps : List Stamp) : Nat :=
  (stamps.map fun stamp => hits width height px py stamp.x.toNat stamp.y.toNat stamp.sprite).sum

theorem odd_add (m n : Nat) : decide (Odd (m + n)) = (decide (Odd m) ^^ decide (Odd n)) := by
  induction n with
  | zero => simp
  | succ n ih => rw [← Nat.add_assoc, odd_succ, ih, odd_succ, Bool.xor_not]

/-- What holds of every access holds of all of them together: each pixel tells the parity of its
hits. -/
theorem OfSize.afterAll (h : s.OfSize width height)
    (hdark : ∀ px < width, ∀ py < height, s.get px py = false) (accesses : List Access) :
    (s.afterAll accesses).OfSize width height ∧
      ∀ px < width, ∀ py < height, (s.afterAll accesses).get px py =
        decide (Odd (totalHits width height px py (stamps accesses))) := by
  induction accesses using List.reverseRecOn with
  | nil => exact ⟨h, fun px hx py hy => (hdark px hx py hy).trans rfl⟩
  | append_singleton accesses access ih =>
    obtain ⟨hsize, hget⟩ := ih
    have hs : s.afterAll (accesses ++ [access]) = (s.afterAll accesses).after access :=
      List.foldl_concat ..
    rw [hs]
    cases access with
    | clear =>
      have hst : stamps (accesses ++ [.clear]) = [] := List.foldl_concat ..
      rw [hst]
      exact ⟨hsize.clear, fun px hx py hy => hsize.get_clear hx hy⟩
    | blit stamp =>
      have hst : stamps (accesses ++ [.blit stamp]) = stamps accesses ++ [stamp] :=
        List.foldl_concat ..
      rw [hst]
      refine ⟨hsize.blit stamp.sprite stamp.x stamp.y, fun px hx py hy => ?_⟩
      have hb : ((s.afterAll accesses).after (.blit stamp)).get px py = _ :=
        hsize.get_blit hx hy stamp.sprite stamp.x stamp.y
      rw [hb, hget px hx py hy, ← odd_add, totalHits, totalHits, List.map_append, List.sum_append]
      rfl
    | get x y =>
      have hst : stamps (accesses ++ [.get x y]) = stamps accesses := List.foldl_concat ..
      rw [hst]
      exact ⟨hsize, hget⟩
    | takeDirty =>
      have hst : stamps (accesses ++ [.takeDirty]) = stamps accesses := List.foldl_concat ..
      rw [hst]
      exact ⟨⟨hsize.width_eq, hsize.height_eq, hsize.size_eq, hsize.binary⟩, hget⟩

theorem totalHits_perm {a b : List Stamp} (h : a.Perm b) (px py : Nat) :
    totalHits width height px py a = totalHits width height px py b :=
  (h.map _).sum_eq

/-- Two stamps of one kind cancel. -/
theorem odd_totalHits_twice (px py : Nat) (stamp : Stamp) (stamps : List Stamp) :
    Odd (totalHits width height px py (stamp :: stamp :: stamps)) ↔
      Odd (totalHits width height px py stamps) := by
  simp only [totalHits, List.map_cons, List.sum_cons, Nat.odd_iff]
  omega

theorem blank_dark (width height px py : Nat) : (blank width height).get px py = false := by
  rw [get, blank, getD_replicate_zero]
  rfl

/-- The screen is determined by what was drawn on it. A pixel is lit exactly if an odd number of set
bits came down on it since the screen was last cleared. The order in which they came makes no
difference, and neither do two stamps of one kind. No screen has more pixels than sixty-four bits
can count. -/
theorem lit_iff_odd {width height : Nat} (hw : 0 < width) (hh : 0 < height)
    (hsize : width * height < 0x10000000000000000) :
    ∃ fresh, ofSize width height = .ok fresh ∧
      (∀ accesses, let s := fresh.afterAll accesses
        s.bytes.length = width * height ∧ (∀ b ∈ s.bytes, b = 0 ∨ b = 1) ∧
        ∀ px < width, ∀ py < height,
          (s.get px py = true ↔ Odd (totalHits width height px py (stamps accesses))) ∧
          s.bytes[py * width + px]? = some (s.get px py).toUInt8) ∧
      (∀ accesses others, (stamps others).Perm (stamps accesses) →
        (fresh.afterAll others).pixels = (fresh.afterAll accesses).pixels) ∧
      ∀ accesses others stamp, (stamps others).Perm (stamp :: stamp :: stamps accesses) →
        (fresh.afterAll others).pixels = (fresh.afterAll accesses).pixels := by
  have hall := (blank_ofSize hsize).afterAll fun px _ py _ => blank_dark width height px py
  -- the pixels tell the parities, and nothing else tells screens of one size apart
  have hsame (accesses others : List Access)
      (h : ∀ px py, Odd (totalHits width height px py (stamps others)) ↔
        Odd (totalHits width height px py (stamps accesses))) :
      ((blank width height).afterAll others).pixels =
        ((blank width height).afterAll accesses).pixels := by
    obtain ⟨ho, hgo⟩ := hall others
    obtain ⟨ha, hga⟩ := hall accesses
    refine ho.pixels_ext ha fun px hx py hy => ?_
    rw [hgo px hx py hy, hga px hx py hy, decide_eq_decide.mpr (h px py)]
  refine ⟨blank width height, if_pos ⟨hw, hh⟩, fun accesses => ?_, fun accesses others h => ?_,
    fun accesses others stamp h => ?_⟩
  · obtain ⟨hs, hget⟩ := hall accesses
    refine ⟨?_, fun b hb => ?_, fun px hx py hy => ⟨?_, ?_⟩⟩
    · rw [bytes, Array.length_toList, hs.size_eq]
    · obtain ⟨i, hi, rfl⟩ := List.getElem_of_mem hb
      have hbinary := hs.binary i
      rw [Array.getD_eq_getD_getElem?, Array.getElem?_eq_getElem hi, Option.getD_some] at hbinary
      exact hbinary
    · rw [hget px hx py hy, decide_eq_true_iff]
    · have hi : py * width + px < ((blank width height).afterAll accesses).pixels.size := by
        rw [hs.size_eq]
        exact index_lt hx hy
      rw [← hs.getD_eq hx hy]
      simp [bytes, Array.getD_eq_getD_getElem?, hi]
  · refine hsame accesses others fun px py => ?_
    rw [totalHits_perm h]
  · refine hsame accesses others fun px py => ?_
    rw [totalHits_perm h, odd_totalHits_twice]

/-- On a screen that is narrower than a sprite and not as high, three of its bits come down on one
pixel. -/
theorem lit_iff_odd_narrow :
    let wide : Stamp := ⟨[0xe0, 0xf0], 0, 0⟩
    let dot : Stamp := ⟨[0x80], 1, 0⟩
    ∃ fresh, ofSize 2 1 = .ok fresh ∧
      totalHits 2 1 1 0 [wide] = 3 ∧
      (fresh.afterAll [.blit dot, .clear, .blit wide]).get 1 0 = true ∧
      (fresh.afterAll [.blit wide, .blit dot]).pixels =
        (fresh.afterAll [.blit dot, .blit wide]).pixels ∧
      (fresh.afterAll [.blit dot, .blit wide, .blit dot]).pixels =
        (fresh.afterAll [.blit wide]).pixels := by
  intro wide dot
  obtain ⟨fresh, hfresh, hlit, hperm, htwice⟩ :=
    lit_iff_odd (show 0 < 2 by decide) (show 0 < 1 by decide) (by decide)
  have hthree : totalHits 2 1 1 0 [wide] = 3 := by decide
  obtain ⟨-, -, hpixel⟩ := hlit [.blit dot, .clear, .blit wide]
  refine ⟨fresh, hfresh, hthree, ?_, ?_, ?_⟩
  · refine (hpixel 1 (by decide) 0 (by decide)).1.mpr ?_
    show Odd (totalHits 2 1 1 0 [wide])
    rw [hthree]
    decide
  · exact hperm [.blit dot, .blit wide] [.blit wide, .blit dot] (.swap dot wide [])
  · exact htwice [.blit wide] [.blit dot, .blit wide, .blit dot] dot (.cons dot (.swap dot wide []))

end Chip8.Screen
