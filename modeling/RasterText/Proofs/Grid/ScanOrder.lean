import RasterText.Proofs.Grid.PackedBits
import RasterText.Proofs.Grid.Samples
import RasterText.Proofs.Grid.Shape
set_option autoImplicit false

/-!
Where the pixels of an image go when it is scanned. The place of a pixel is a number made from its
band, its line and its place in the band, all counted in the order of the scan. Every pixel has a
place of its own, and the places that are left read as zero.
-/

namespace RasterText

/-- Number `i` of `n`, counted from the far end if `reversed`. -/
def turned (reversed : Bool) (n i : Nat) : Nat := if reversed then n - 1 - i else i

section Turned

variable {reversed : Bool} {n i j : Nat}

theorem turned_lt (h : i < n) : turned reversed n i < n := by
  unfold turned
  split <;> omega

theorem turned_turned (h : i < n) : turned reversed n (turned reversed n i) = i := by
  unfold turned
  split <;> omega

theorem turned_inj (hi : i < n) (hj : j < n) (h : turned reversed n i = turned reversed n j) :
    i = j := by
  have ht := congrArg (turned reversed n) h
  rwa [turned_turned hi, turned_turned hj] at ht

theorem getElem?_places (h : i < n) : (places reversed n)[i]? = some (turned reversed n i) := by
  cases reversed with
  | true => simp [places, turned, h]
  | false => simp [places, turned, h]

end Turned

theorem getElem?_cut {α : Type} {n b : Nat} {l : List α} (hn : 0 < n) (h : b * n < l.length) :
    (cut n l)[b]? = some ((l.drop (b * n)).take n) := by
  induction b generalizing l with
  | zero =>
    cases l with
    | nil => simp at h
    | cons a l =>
      obtain ⟨n, rfl⟩ := Nat.exists_eq_succ_of_ne_zero (by omega : n ≠ 0)
      simp [cut, cutSucc]
  | succ b ih =>
    rw [Nat.succ_mul] at h
    have ht : (l.take n).length = n := by rw [List.length_take]; omega
    have hd : b * n < (l.drop n).length := by rw [List.length_drop]; omega
    have hl := cut_append hn (l.drop n) ht
    rw [List.take_append_drop] at hl
    rw [hl, List.getElem?_cons_succ, ih hd, List.drop_drop, Nat.succ_mul, Nat.add_comm n]

theorem eq_of_mul_add_eq {n a b c d : Nat} (hb : b < n) (hd : d < n)
    (h : a * n + b = c * n + d) : a = c ∧ b = d := by
  have hn : 0 < n := by omega
  have hdiv := congrArg (· / n) h
  have hmod := congrArg (· % n) h
  simp only [Nat.mul_comm _ n, Nat.mul_add_div hn, Nat.mul_add_mod, Nat.div_eq_of_lt hb,
    Nat.div_eq_of_lt hd, Nat.mod_eq_of_lt hb, Nat.mod_eq_of_lt hd] at hdiv hmod
  exact ⟨hdiv, hmod⟩

theorem Pixel.toNat_word (p : Pixel) :
    p.word.toNat = 2 ^ 24 * p.alpha.toNat + (2 ^ 16 * p.red.toNat +
      (2 ^ 8 * p.green.toNat + p.blue.toNat)) := by
  have hr := p.red.toNat_lt
  have hg := p.green.toNat_lt
  have hb := p.blue.toNat_lt
  apply Nat.eq_of_testBit_eq
  intro i
  rw [Nat.testBit_two_pow_mul_add _ (by omega), Nat.testBit_two_pow_mul_add _ (by omega),
    Nat.testBit_two_pow_mul_add _ (by omega)]
  by_cases hi : i < 32
  · rw [p.testBit_word hi]
    grind
  · rw [testBit_eq_false_of_le _ (by omega), if_neg (by omega), testBit_byte _ (by omega)]

namespace Preparation

/-- Where the word for place `pos` of line `line` stands. -/
def scanIndex (p : Preparation) (r : Raster) (line pos : Nat) : Nat :=
  let q := turned (p.scanSub == .backward) (p.lineLength r) pos
  (q / p.bandWidthFor r * p.lineCount r + turned p.scanMain.isReversed (p.lineCount r) line) *
    p.bandWidthFor r + q % p.bandWidthFor r

/-- Where the word of the pixel in column `x` of row `y` stands. -/
def placeOf (p : Preparation) (r : Raster) (x y : Nat) : Nat :=
  if p.scanMain.isVertical then p.scanIndex r x y else p.scanIndex r y x

variable {p : Preparation} {r : Raster} {b j k line pos line' pos' : Nat}

theorem bandWidthFor_pos (h : 0 < p.lineLength r) : 0 < p.bandWidthFor r := by
  unfold bandWidthFor
  split <;> omega

theorem getElem?_bandLine {band : List Nat} (hk : k < p.bandWidthFor r) :
    (p.bandLine r band line)[k]? =
      some ((band[k]?.map fun pos => (p.pixelAt r line pos).word).getD 0) := by
  unfold bandLine
  by_cases h : k < band.length
  · rw [List.getElem?_append_left (by simpa using h)]
    simp [h]
  · rw [List.getElem?_append_right (by simpa using h), List.getElem?_replicate,
      if_pos (by simp; omega), List.getElem?_eq_none (by omega)]
    rfl

theorem getElem?_scanLines (hb : b * p.bandWidthFor r < p.lineLength r) (hj : j < p.lineCount r) :
    (r.scanLines p)[b * p.lineCount r + j]? =
      some (p.bandLine r (((places (p.scanSub == .backward) (p.lineLength r)).drop
        (b * p.bandWidthFor r)).take (p.bandWidthFor r))
        (turned p.scanMain.isReversed (p.lineCount r) j)) := by
  have hcut := getElem?_cut (bandWidthFor_pos (Nat.zero_lt_of_lt hb))
    (l := places (p.scanSub == .backward) (p.lineLength r)) (by rwa [length_places])
  rw [Raster.scanLines, getElem?_flatMap_of_length (fun band _ => by
    rw [List.length_map, length_places]) b hj, hcut, Option.bind_some, List.getElem?_map,
    getElem?_places hj, Option.map_some]

theorem getElem?_scan (hb : b * p.bandWidthFor r < p.lineLength r) (hj : j < p.lineCount r)
    (hk : k < p.bandWidthFor r) :
    (r.scan p).words[(b * p.lineCount r + j) * p.bandWidthFor r + k]? =
      some (if b * p.bandWidthFor r + k < p.lineLength r then
        (p.pixelAt r (turned p.scanMain.isReversed (p.lineCount r) j)
          (turned (p.scanSub == .backward) (p.lineLength r) (b * p.bandWidthFor r + k))).word
      else 0) := by
  have hget := getElem?_flatMap_of_length (f := id)
    (fun line (h : line ∈ r.scanLines p) => length_of_mem_scanLines h) (b * p.lineCount r + j) hk
  rw [List.flatMap_id, getElem?_scanLines hb hj, Option.bind_some] at hget
  rw [Raster.scan, hget, id, getElem?_bandLine hk, List.getElem?_take, if_pos hk,
    List.getElem?_drop]
  by_cases h : b * p.bandWidthFor r + k < p.lineLength r
  · rw [getElem?_places h, if_pos h]
    rfl
  · rw [List.getElem?_eq_none (by rw [length_places]; omega), if_neg h]
    rfl

theorem getElem?_scanIndex (hl : line < p.lineCount r) (hp : pos < p.lineLength r) :
    (r.scan p).words[p.scanIndex r line pos]? = some (p.pixelAt r line pos).word := by
  have hB := bandWidthFor_pos (p := p) (r := r) (by omega)
  have hq : turned (p.scanSub == .backward) (p.lineLength r) pos < p.lineLength r := turned_lt hp
  have hdm := Nat.div_add_mod' (turned (p.scanSub == .backward) (p.lineLength r) pos)
    (p.bandWidthFor r)
  rw [scanIndex, getElem?_scan (by omega) (turned_lt hl) (Nat.mod_lt _ hB), hdm, if_pos hq,
    turned_turned hl, turned_turned hp]

theorem scanIndex_inj (hl : line < p.lineCount r) (hp : pos < p.lineLength r)
    (hl' : line' < p.lineCount r) (hp' : pos' < p.lineLength r)
    (h : p.scanIndex r line pos = p.scanIndex r line' pos') : line = line' ∧ pos = pos' := by
  have hB := bandWidthFor_pos (p := p) (r := r) (by omega)
  obtain ⟨hindex, hmod⟩ := eq_of_mul_add_eq (Nat.mod_lt _ hB) (Nat.mod_lt _ hB) h
  obtain ⟨hdiv, hline⟩ := eq_of_mul_add_eq (turned_lt hl) (turned_lt hl') hindex
  have hpos : turned (p.scanSub == .backward) (p.lineLength r) pos =
      turned (p.scanSub == .backward) (p.lineLength r) pos' := by
    rw [← Nat.div_add_mod' (turned _ _ pos) (p.bandWidthFor r), hdiv, hmod, Nat.div_add_mod']
  exact ⟨turned_inj hl hl' hline, turned_inj hp hp' hpos⟩

theorem exists_eq_of_lt_length {i : Nat} (hi : i < (r.scan p).words.length) :
    ∃ b j k, b * p.bandWidthFor r < p.lineLength r ∧ j < p.lineCount r ∧ k < p.bandWidthFor r ∧
      i = (b * p.lineCount r + j) * p.bandWidthFor r + k := by
  rw [length_scan, length_scanLines] at hi
  have hB : 0 < p.bandWidthFor r := Nat.pos_of_ne_zero fun h0 => by simp [h0] at hi
  have hL : 0 < p.lineCount r := Nat.pos_of_ne_zero fun h0 => by simp [h0] at hi
  have hb := Nat.div_lt_of_lt_mul (Nat.div_lt_of_lt_mul hi)
  rw [Nat.lt_iff_add_one_le, Nat.le_div_iff_mul_le hB, Nat.succ_mul] at hb
  refine ⟨i / p.bandWidthFor r / p.lineCount r, i / p.bandWidthFor r % p.lineCount r,
    i % p.bandWidthFor r, by omega, Nat.mod_lt _ hL, Nat.mod_lt _ hB, ?_⟩
  rw [Nat.div_add_mod', Nat.div_add_mod']

theorem scanIndex_turned (hj : j < p.lineCount r) (hk : k < p.bandWidthFor r)
    (h : b * p.bandWidthFor r + k < p.lineLength r) :
    p.scanIndex r (turned p.scanMain.isReversed (p.lineCount r) j)
        (turned (p.scanSub == .backward) (p.lineLength r) (b * p.bandWidthFor r + k)) =
      (b * p.lineCount r + j) * p.bandWidthFor r + k := by
  have hdiv : (b * p.bandWidthFor r + k) / p.bandWidthFor r = b := by
    rw [Nat.mul_comm, Nat.mul_add_div (by omega), Nat.div_eq_of_lt hk, Nat.add_zero]
  rw [scanIndex, turned_turned hj, turned_turned h, hdiv, Nat.mul_add_mod_self_right,
    Nat.mod_eq_of_lt hk]

theorem getElem?_scan_of_ne {i : Nat} (hi : i < (r.scan p).words.length)
    (h : ∀ line < p.lineCount r, ∀ pos < p.lineLength r, p.scanIndex r line pos ≠ i) :
    (r.scan p).words[i]? = some 0 := by
  obtain ⟨b, j, k, hb, hj, hk, rfl⟩ := exists_eq_of_lt_length hi
  rw [getElem?_scan hb hj hk]
  split
  · next hin => exact absurd (scanIndex_turned hj hk hin) (h _ (turned_lt hj) _ (turned_lt hin))
  · rfl

section Columns

variable {x y x' y' : Nat}

theorem getElem?_placeOf (hx : x < r.width) (hy : y < r.height) :
    (r.scan p).words[p.placeOf r x y]? = some (r.pixel x y).word := by
  cases hv : p.scanMain.isVertical with
  | true =>
    have h : (r.scan p).words[p.scanIndex r x y]? = some (p.pixelAt r x y).word :=
      getElem?_scanIndex (by simpa [lineCount, hv] using hx) (by simpa [lineLength, hv] using hy)
    simpa [placeOf, pixelAt, hv] using h
  | false =>
    have h : (r.scan p).words[p.scanIndex r y x]? = some (p.pixelAt r y x).word :=
      getElem?_scanIndex (by simpa [lineCount, hv] using hy) (by simpa [lineLength, hv] using hx)
    simpa [placeOf, pixelAt, hv] using h

theorem placeOf_inj (hx : x < r.width) (hy : y < r.height) (hx' : x' < r.width)
    (hy' : y' < r.height) (h : p.placeOf r x y = p.placeOf r x' y') : x = x' ∧ y = y' := by
  cases hv : p.scanMain.isVertical with
  | true =>
    simp only [placeOf, hv, if_true] at h
    exact scanIndex_inj (by simpa [lineCount, hv] using hx) (by simpa [lineLength, hv] using hy)
      (by simpa [lineCount, hv] using hx') (by simpa [lineLength, hv] using hy') h
  | false =>
    simp only [placeOf, hv, Bool.false_eq_true, if_false] at h
    exact (scanIndex_inj (by simpa [lineCount, hv] using hy) (by simpa [lineLength, hv] using hx)
      (by simpa [lineCount, hv] using hy') (by simpa [lineLength, hv] using hx') h).symm

theorem getElem?_scan_of_placeOf_ne {i : Nat} (hi : i < (r.scan p).words.length)
    (h : ∀ x < r.width, ∀ y < r.height, p.placeOf r x y ≠ i) : (r.scan p).words[i]? = some 0 := by
  refine getElem?_scan_of_ne hi fun line hl pos hp => ?_
  cases hv : p.scanMain.isVertical with
  | true =>
    simpa [placeOf, hv] using
      h line (by simpa [lineCount, hv] using hl) pos (by simpa [lineLength, hv] using hp)
  | false =>
    simpa [placeOf, hv] using
      h pos (by simpa [lineLength, hv] using hp) line (by simpa [lineCount, hv] using hl)

end Columns

end Preparation

/-- A scan has the width of a band, all lines in every band, and each pixel in a place of its own;
what is left is zero. The lines are counted in 32 bits. -/
theorem scan_places (p : Preparation) (r : Raster) :
    (r.scan p).width.toNat = p.bandWidthFor r ∧
      (r.scan p).height = UInt32.ofNat (p.lineCount r *
        ((p.lineLength r + p.bandWidthFor r - 1) / p.bandWidthFor r)) ∧
      (r.scan p).words.length = p.bandWidthFor r * (p.lineCount r *
        ((p.lineLength r + p.bandWidthFor r - 1) / p.bandWidthFor r)) ∧
      (∀ x < r.width, ∀ y < r.height, ∃ w, (r.scan p).words[p.placeOf r x y]? = some w ∧
        w.toNat = 2 ^ 24 * (r.pixel x y).alpha.toNat + (2 ^ 16 * (r.pixel x y).red.toNat +
          (2 ^ 8 * (r.pixel x y).green.toNat + (r.pixel x y).blue.toNat))) ∧
      (∀ x < r.width, ∀ y < r.height, ∀ x' < r.width, ∀ y' < r.height,
        p.placeOf r x y = p.placeOf r x' y' → x = x' ∧ y = y') ∧
      ∀ i < (r.scan p).words.length, (∀ x < r.width, ∀ y < r.height, p.placeOf r x y ≠ i) →
        (r.scan p).words[i]? = some 0 := by
  rw [← p.length_scanLines r]
  refine ⟨toNat_width_scan p r, rfl, length_scan p r, fun x hx y hy => ?_,
    fun x hx y hy x' hx' y' hy' => Preparation.placeOf_inj hx hy hx' hy',
    fun i => Preparation.getElem?_scan_of_placeOf_ne⟩
  exact ⟨_, Preparation.getElem?_placeOf hx hy, Pixel.toNat_word _⟩

def upwardBands : Preparation where
  scanMain := .rightToLeft
  scanSub := .backward
  banded := true
  bandWidth := 3

theorem scan_places_stripes :
    1 < stripes.width ∧ 0 < stripes.height ∧ 3 < stripes.width ∧ 1 < stripes.height ∧
      (∃ w, (stripes.scan upwardBands).words[7]? = some w ∧
        w.toNat = 2 ^ 24 * 9 + (2 ^ 16 * 32 + (2 ^ 8 * 0 + 3))) ∧
      upwardBands.placeOf stripes 1 0 ≠ upwardBands.placeOf stripes 3 1 ∧
      8 < (stripes.scan upwardBands).words.length ∧
      (∀ x < stripes.width, ∀ y < stripes.height, upwardBands.placeOf stripes x y ≠ 8) ∧
      (stripes.scan upwardBands).words[8]? = some 0 := by
  obtain ⟨-, -, hlen, hword, hinj, hzero⟩ := scan_places upwardBands stripes
  have h8 : 8 < (stripes.scan upwardBands).words.length := by
    rw [hlen]
    decide
  have hne : ∀ x < stripes.width, ∀ y < stripes.height, upwardBands.placeOf stripes x y ≠ 8 := by
    decide
  refine ⟨by decide, by decide, by decide, by decide, hword 1 (by decide) 0 (by decide),
    fun h => ?_, h8, hne, hzero 8 h8 hne⟩
  exact absurd (hinj 1 (by decide) 0 (by decide) 3 (by decide) 1 (by decide) h).1 (by decide)

end RasterText
