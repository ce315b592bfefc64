import Chip8.Proofs.Sprites
import Mathlib.Data.Nat.ModEq

/-! Collisions. A sprite is drawn by flips in a row, and collides as soon as one of them finds its pixel
lit. The pixel may have been lit before, or a set bit of the same sprite came down on it already; on
a screen with room for the whole sprite no two of its bits do. A sprite may also be drawn in two
parts, one below the other. -/

namespace Chip8.Screen

variable {s : Screen} {width height : Nat}

/-! ### Flips that find a lit pixel -/

/-- A hit on the way stays a hit, and makes no difference to the pixels. -/
theorem flipAll_hit (places : List (Nat × Nat)) (hit : Bool) (s : Screen) :
    flipAll places (hit, s) =
      (hit || (flipAll places (false, s)).1, (flipAll places (false, s)).2) := by
  induction places generalizing hit s with
  | nil => simp [flipAll]
  | cons p places ih =>
    have hcons (hit : Bool) : flipAll (p :: places) (hit, s) =
        flipAll places (hit || (s.flip p.1 p.2).1, (s.flip p.1 p.2).2) := rfl
    rw [hcons, hcons, ih, ih (false || (s.flip p.1 p.2).1)]
    simp [Bool.or_assoc]

/-- One of so many flips of a pixel finds it lit. -/
def Struck (lit : Bool) (n : Nat) : Prop := lit = true ∧ 0 < n ∨ 2 ≤ n

/-- After the first of several flips the others find the pixel as it left it. -/
theorem not_struck_succ (lit : Bool) (n : Nat) :
    ¬Struck lit (n + 1) ↔ lit = false ∧ ¬Struck true n := by
  cases lit with
  | true => simp [Struck]
  | false =>
    have htwo : 2 ≤ n + 1 ↔ 0 < n ∨ 2 ≤ n := by omega
    simp [Struck, htwo]

theorem OfSize.flip_fst (h : s.OfSize width height) (p : Nat × Nat) :
    (s.flip p.1 p.2).1 = s.get (p.1 % width) (p.2 % height) := by
  have hlit : (s.flip p.1 p.2).1 = s.get p.1 p.2 := rfl
  rw [hlit, get, get, h.index_eq, h.index_eq, Nat.mod_mod, Nat.mod_mod]

/-- The first of several flips must find its pixel dark, and leaves the others to find it lit. -/
theorem OfSize.not_struck_cons (h : s.OfSize width height) {px py : Nat} (hx : px < width)
    (hy : py < height) (p : Nat × Nat) (places : List (Nat × Nat)) :
    ¬Struck (s.get px py) ((p :: places).countP (lands width height px py)) ↔
      (lands width height px py p = true → s.get px py = false) ∧
        ¬Struck ((s.flip p.1 p.2).2.get px py) (places.countP (lands width height px py)) := by
  rw [h.get_flip hx hy, List.countP_cons]
  cases lands width height px py p with
  | true =>
    rw [if_pos rfl, not_struck_succ, Bool.xor_true]
    constructor
    · rintro ⟨hdark, hrest⟩
      rw [hdark]
      exact ⟨fun _ => rfl, hrest⟩
    · rintro ⟨hdark, hrest⟩
      rw [hdark rfl] at hrest
      exact ⟨hdark rfl, hrest⟩
  | false => simp

/-- Flips in a row find no lit pixel if no pixel is struck by those that come down on it. -/
theorem OfSize.flipAll_misses_iff (h : s.OfSize width height) (hw : 0 < width) (hh : 0 < height)
    (places : List (Nat × Nat)) :
    (Screen.flipAll places (false, s)).1 = false ↔ ∀ px < width, ∀ py < height,
      ¬Struck (s.get px py) (places.countP (lands width height px py)) := by
  induction places generalizing s with
  | nil => simp [Screen.flipAll, Struck]
  | cons p places ih =>
    have hcons : Screen.flipAll (p :: places) (false, s) =
        Screen.flipAll places ((s.flip p.1 p.2).1, (s.flip p.1 p.2).2) := rfl
    rw [hcons, flipAll_hit, Bool.or_eq_false_iff, ih (h.flip p.1 p.2), h.flip_fst]
    constructor
    · rintro ⟨hdark, hrest⟩ px hx py hy
      refine (h.not_struck_cons hx hy p places).mpr ⟨fun hl => ?_, hrest px hx py hy⟩
      obtain ⟨rfl, rfl⟩ := of_decide_eq_true hl
      exact hdark
    · intro hall
      have hcut (px : Nat) (hx : px < width) (py : Nat) (hy : py < height) :=
        (h.not_struck_cons hx hy p places).mp (hall px hx py hy)
      refine ⟨?_, fun px hx py hy => (hcut px hx py hy).2⟩
      apply (hcut _ (Nat.mod_lt p.1 hw) _ (Nat.mod_lt p.2 hh)).1
      simp [lands]

/-- A sprite collides on a pixel that was lit, or on one that it comes down on twice. -/
theorem OfSize.blit_fst_iff (h : s.OfSize width height) (hw : 0 < width) (hh : 0 < height)
    (sprite : List UInt8) (x y : UInt8) :
    (s.blit sprite x y).1 = true ↔ ∃ px < width, ∃ py < height,
      Struck (s.get px py) (hits width height px py x.toNat y.toNat sprite) := by
  have hmiss := h.flipAll_misses_iff hw hh (places x.toNat y.toNat sprite)
  rw [blit_eq, ← Bool.not_eq_false, hmiss]
  push Not
  simp only [countP_places]

/-! ### Room for the whole sprite -/

theorem eq_of_add_mod_eq {x a b n : Nat} (ha : a < n) (hb : b < n)
    (h : (x + a) % n = (x + b) % n) : a = b := by
  have hmod : a ≡ b [MOD n] := Nat.ModEq.add_left_cancel' x h
  rwa [Nat.ModEq, Nat.mod_eq_of_lt ha, Nat.mod_eq_of_lt hb] at hmod

/-- On a screen as wide and as high as a sprite, its bits come down on different pixels. -/
theorem hits_le_one {sprite : List UInt8} (hw : 8 ≤ width) (hh : sprite.length ≤ height)
    (px py x y : Nat) : hits width height px py x y sprite ≤ 1 := by
  rw [hits, Finset.card_le_one]
  rintro ⟨row, column⟩ h ⟨row', column'⟩ h'
  simp only [Finset.mem_filter, Finset.mem_product, Finset.mem_range] at h h'
  obtain ⟨⟨hr, hc⟩, -, hx, hy⟩ := h
  obtain ⟨⟨hr', hc'⟩, -, hx', hy'⟩ := h'
  have hrow : row = row' := eq_of_add_mod_eq (by omega) (by omega) (hy.trans hy'.symm)
  have hcolumn : column = column' := eq_of_add_mod_eq (by omega) (by omega) (hx.trans hx'.symm)
  rw [hrow, hcolumn]

/-- So such a sprite collides only with what was there before. -/
theorem OfSize.blit_fst_iff_of_room (h : s.OfSize width height) {sprite : List UInt8}
    (hw : 8 ≤ width) (hpos : 0 < height) (hh : sprite.length ≤ height) (x y : UInt8) :
    (s.blit sprite x y).1 = true ↔ ∃ px < width, ∃ py < height,
      s.get px py = true ∧ 0 < hits width height px py x.toNat y.toNat sprite := by
  rw [h.blit_fst_iff (by omega) hpos]
  refine exists_congr fun px => and_congr_right fun _ => exists_congr fun py =>
    and_congr_right fun _ => ?_
  have htwice : ¬2 ≤ hits width height px py x.toNat y.toNat sprite := by
    have := hits_le_one hw hh px py x.toNat y.toNat
    omega
  rw [Struck, or_iff_left htwice]

/-! ### A sprite in two parts -/

theorem places_append (x y : Nat) (top bottom : List UInt8) :
    places x y (top ++ bottom) = places x y top ++ places x (y + top.length) bottom := by
  induction top generalizing y with
  | nil => rfl
  | cons line lines ih =>
    rw [List.cons_append, places, places, ih, List.append_assoc, List.length_cons, Nat.add_assoc,
      Nat.add_comm 1]

theorem blit_append (s : Screen) (top bottom : List UInt8) (x y y' : UInt8)
    (hy : y'.toNat = y.toNat + top.length) :
    s.blit (top ++ bottom) x y =
      ((s.blit top x y).1 || ((s.blit top x y).2.blit bottom x y').1,
        ((s.blit top x y).2.blit bottom x y').2) := by
  let upper := flipAll (places x.toNat y.toNat top) (false, s)
  let below := places x.toNat (y.toNat + top.length) bottom
  have hhit : flipAll below upper =
      (upper.1 || (flipAll below (false, upper.2)).1, (flipAll below (false, upper.2)).2) :=
    flipAll_hit below upper.1 upper.2
  have hfst : (s.blit top x y).1 = upper.1 := by
    rw [blit_eq s top]
  have hsnd : (s.blit top x y).2.blit bottom x y' = upper.2.blit bottom x y' := by
    rw [blit_eq s top]
    exact blit_withDirty upper.2 bottom x y' true
  calc s.blit (top ++ bottom) x y
      = ((flipAll below upper).1, { (flipAll below upper).2 with dirty := true }) := by
        rw [blit_eq, places_append, flipAll_append]
    _ = (upper.1 || (upper.2.blit bottom x y').1, (upper.2.blit bottom x y').2) := by
        rw [hhit, blit_eq, hy]
    _ = _ := by rw [hfst, hsnd]

/-! ### Collisions on any screen -/

theorem ofSize_ok {fresh : Screen} (h : ofSize width height = .ok fresh) :
    0 < width ∧ 0 < height ∧ fresh = blank width height := by
  unfold ofSize at h
  split at h
  case isTrue hpos => exact ⟨hpos.1, hpos.2, (Except.ok.inj h).symm⟩
  case isFalse => cases h

/-- A sprite collides if and only if a set bit of it comes down on a pixel that was lit, or two of
them come down on one pixel; where there is room for the whole sprite, only the former happens.
Drawing a sprite in two parts, one below the other, comes to the same, and collides if one of the
parts does. No screen has more pixels than sixty-four bits can count. -/
theorem blit_collides_iff {fresh : Screen} (hfresh : ofSize width height = .ok fresh)
    (hsize : width * height < 0x10000000000000000) (accesses : List Access) :
    let s := fresh.afterAll accesses
    (∀ (sprite : List UInt8) (x y : UInt8),
      let n px py := hits width height px py x.toNat y.toNat sprite
      ((s.blit sprite x y).1 = true ↔
        ∃ px < width, ∃ py < height, s.get px py = true ∧ 0 < n px py ∨ 2 ≤ n px py) ∧
      (8 ≤ width → sprite.length ≤ height →
        ((s.blit sprite x y).1 = true ↔
          ∃ px < width, ∃ py < height, s.get px py = true ∧ 0 < n px py))) ∧
    ∀ (top bottom : List UInt8) (x y y' : UInt8), y'.toNat = y.toNat + top.length →
      let upper := s.blit top x y
      let lower := upper.2.blit bottom x y'
      s.blit (top ++ bottom) x y = (upper.1 || lower.1, lower.2) := by
  obtain ⟨hw, hh, rfl⟩ := ofSize_ok hfresh
  intro s
  have hs : s.OfSize width height :=
    ((blank_ofSize hsize).afterAll (fun px _ py _ => blank_dark width height px py) _).1
  refine ⟨fun sprite x y => ⟨?_, fun hwide hhigh => ?_⟩, s.blit_append⟩
  · exact hs.blit_fst_iff hw hh sprite x y
  · exact hs.blit_fst_iff_of_room hwide hh hhigh x y

/-- On a screen of two rows a sprite of three comes down on itself, one that is drawn over the right
edge collides with the pixel that was there, and the third row alone does what it does in the
sprite. -/
theorem blit_collides_iff_low :
    let dot : Stamp := ⟨[0x01], 0, 1⟩
    ∃ fresh, ofSize 8 2 = .ok fresh ∧
      let s := fresh.afterAll [.blit dot]
      (s.blit [0x80, 0x00, 0x80] 0 0).1 = true ∧ (s.blit [0xff] 3 1).1 = true ∧
        (s.blit [0x80] 3 1).1 = false ∧
        (s.blit ([0x80, 0x00] ++ [0x80]) 0 0).2 =
          ((s.blit [0x80, 0x00] 0 0).2.blit [0x80] 0 2).2 := by
  intro dot
  refine ⟨blank 8 2, rfl, ?_⟩
  have hfresh : ofSize 8 2 = .ok (blank 8 2) := rfl
  obtain ⟨hcollides, hparts⟩ := blit_collides_iff hfresh (by decide) [.blit dot]
  intro s
  have hdot : s.get 7 1 = true := by decide
  have htwice : hits 8 2 0 0 0 0 [0x80, 0x00, 0x80] = 2 := by decide
  have honce : hits 8 2 7 1 3 1 [0xff] = 1 := by decide
  have hmiss : ∀ px < 8, ∀ py < 2, ¬(s.get px py = true ∧ 0 < hits 8 2 px py 3 1 [0x80] ∨
      2 ≤ hits 8 2 px py 3 1 [0x80]) := by
    decide
  refine ⟨?_, ?_, ?_, ?_⟩
  · exact (hcollides _ 0 0).1.mpr ⟨0, by decide, 0, by decide, .inr htwice.ge⟩
  · refine ((hcollides _ 3 1).2 (by decide) (by decide)).mpr ⟨7, by decide, 1, by decide, hdot, ?_⟩
    exact honce.ge
  · rw [← Bool.not_eq_true, (hcollides _ 3 1).1]
    rintro ⟨px, hx, py, hy, hstruck⟩
    exact hmiss px hx py hy hstruck
  · rw [hparts _ _ 0 0 2 rfl]

end Chip8.Screen
