import RasterText.Grid.Scan
import RasterText.Grid.Matrix
set_option autoImplicit false

namespace RasterText

variable {α : Type}

@[simp] theorem cut_nil (n : Nat) : cut n ([] : List α) = [] := by
  cases n with
  | zero => rfl
  | succ n => simp [cut, cutSucc]

theorem cut_append {n : Nat} (hn : 0 < n) {front : List α} (rest : List α)
    (h : front.length = n) : cut n (front ++ rest) = front :: cut n rest := by
  cases n with
  | zero => omega
  | succ n =>
    cases front with
    | nil => simp at h
    | cons a front =>
      have hf : front.length = n := by simpa using h
      rw [cut, List.cons_append, cutSucc, List.take_left' hf, List.drop_left' hf]
      rfl

theorem cut_flatten {n : Nat} (hn : 0 < n) {lines : List (List α)}
    (h : ∀ line ∈ lines, line.length = n) : cut n lines.flatten = lines := by
  induction lines with
  | nil => simp
  | cons line lines ih =>
    rw [List.flatten_cons, cut_append hn _ (h line (by simp)), ih fun l hl => h l (by simp [hl])]

theorem length_le_of_mem_cut {n : Nat} {l piece : List α} (h : piece ∈ cut n l) :
    piece.length ≤ n := by
  cases n with
  | zero => simp [cut] at h
  | succ n =>
    rw [cut] at h
    fun_induction cutSucc n l with
    | case1 => simp at h
    | case2 a rest ih =>
      rcases List.mem_cons.1 h with rfl | h
      · simp only [List.length_cons, List.length_take]; omega
      · exact ih h

theorem length_cut (n : Nat) (l : List α) : (cut n l).length = (l.length + n - 1) / n := by
  cases n with
  | zero => simp [cut]
  | succ n =>
    rw [cut]
    fun_induction cutSucc n l with
    | case1 =>
      rw [List.length_nil, List.length_nil]
      exact (Nat.div_eq_of_lt (by omega)).symm
    | case2 a rest ih =>
      rw [List.length_cons, ih, List.length_drop, List.length_cons]
      by_cases hr : rest.length ≤ n
      · have hd : rest.length - n + (n + 1) - 1 = n := by omega
        rw [hd, Nat.div_eq_of_lt (by omega : n < n + 1)]
        exact (Nat.div_eq_of_lt_le (by omega) (by omega)).symm
      · have hd : rest.length + 1 + (n + 1) - 1 = rest.length - n + (n + 1) - 1 + (n + 1) := by
          omega
        rw [hd, Nat.add_div_right _ (by omega)]

theorem mul_lt_of_lt_length_cut {n j : Nat} {l : List α} (h : j < (cut n l).length) :
    j * n < l.length := by
  rcases Nat.eq_zero_or_pos n with rfl | hn
  · simp [cut] at h
  · rw [length_cut, Nat.lt_iff_add_one_le, Nat.le_div_iff_mul_le hn, Nat.add_one_mul] at h
    omega

theorem length_flatten_of_length_eq {n : Nat} {lines : List (List α)}
    (h : ∀ line ∈ lines, line.length = n) : lines.flatten.length = n * lines.length := by
  induction lines with
  | nil => simp
  | cons line lines ih =>
    rw [List.flatten_cons, List.length_append, h line (by simp), ih fun l hl => h l (by simp [hl]),
      List.length_cons, Nat.mul_succ, Nat.add_comm]

theorem length_of_mem_cut {n : Nat} {l piece : List α} (hl : n ∣ l.length)
    (h : piece ∈ cut n l) : piece.length = n := by
  obtain ⟨k, hl⟩ := hl
  induction k generalizing l with
  | zero =>
    obtain rfl := List.eq_nil_of_length_eq_zero (by simpa using hl)
    simp at h
  | succ k ih =>
    rcases Nat.eq_zero_or_pos n with rfl | hn
    · simp [cut] at h
    · have hk : l.length = n * k + n := by rw [hl, Nat.mul_succ]
      have ht : (l.take n).length = n := by rw [List.length_take]; omega
      rw [← List.take_append_drop n l, cut_append hn _ ht] at h
      rcases List.mem_cons.1 h with rfl | h
      · exact ht
      · exact ih h (by rw [List.length_drop]; omega)

namespace Grid

/-- The words stand in whole lines. -/
def Whole (g : Grid) : Prop := g.width.toNat ∣ g.words.length

def Full (g : Grid) : Prop := g.words.length = g.width.toNat * g.height.toNat

variable {g : Grid}

theorem Whole.length_line (hg : g.Whole) {line : List UInt32}
    (h : line ∈ cut g.width.toNat g.words) : line.length = g.width.toNat :=
  length_of_mem_cut hg h

theorem Whole.flatten_lines (hg : g.Whole) : (cut g.width.toNat g.words).flatten = g.words := by
  rcases Nat.eq_zero_or_pos g.width.toNat with hw | hw
  · have hl : g.words.length = 0 := Nat.eq_zero_of_zero_dvd (hw ▸ hg)
    rw [List.length_eq_zero_iff.1 hl]
    simp
  · exact flatten_cut hw g.words

theorem Whole.process (hg : g.Whole) (m : Matrix) : (g.process m).Whole := by
  simpa [Whole, Grid.process] using hg

theorem Full.whole (hg : g.Full) : g.Whole := ⟨_, hg⟩

theorem Full.process (hg : g.Full) (m : Matrix) : (g.process m).Full := by
  simpa [Full, Grid.process] using hg

end Grid

section Scan

variable (p : Preparation) (r : Raster)

theorem Preparation.bandWidthFor_lt : p.bandWidthFor r < UInt32.size := by
  have hl : p.lineLength r < UInt32.size := by
    unfold lineLength
    split
    · exact r.height_lt
    · exact r.width_lt
  unfold bandWidthFor
  split
  · exact p.bandWidth.toNat_lt_size
  · exact hl

@[simp] theorem toNat_width_scan : (r.scan p).width.toNat = p.bandWidthFor r :=
  UInt32.toNat_ofNat_of_lt' (p.bandWidthFor_lt r)

end Scan

theorem length_bandLine {p : Preparation} {r : Raster} {band : List Nat}
    (h : band.length ≤ p.bandWidthFor r) (line : Nat) :
    (p.bandLine r band line).length = p.bandWidthFor r := by
  simp only [Preparation.bandLine, List.length_append, List.length_map, List.length_replicate]
  omega

theorem length_of_mem_scanLines {p : Preparation} {r : Raster} {line : List UInt32}
    (h : line ∈ r.scanLines p) : line.length = p.bandWidthFor r := by
  simp only [Raster.scanLines, List.mem_flatMap, List.mem_map] at h
  obtain ⟨band, hb, l, -, rfl⟩ := h
  exact length_bandLine (length_le_of_mem_cut hb) l

theorem length_scan (p : Preparation) (r : Raster) :
    (r.scan p).words.length = p.bandWidthFor r * (r.scanLines p).length :=
  length_flatten_of_length_eq fun _ h => length_of_mem_scanLines h

theorem whole_scan (p : Preparation) (r : Raster) : (r.scan p).Whole := by
  rw [Grid.Whole, toNat_width_scan, length_scan]
  exact Nat.dvd_mul_right _ _

theorem full_scan {p : Preparation} {r : Raster} (h : (r.scan p).words.length < UInt32.size) :
    (r.scan p).Full := by
  have hlines : (r.scanLines p).length < UInt32.size := by
    rcases Nat.eq_zero_or_pos (p.bandWidthFor r) with h0 | h0
    · simp [Raster.scanLines, h0, cut]
    · rw [length_scan] at h
      exact Nat.lt_of_le_of_lt (Nat.le_mul_of_pos_left _ h0) h
  have hheight : (r.scan p).height.toNat = (r.scanLines p).length :=
    UInt32.toNat_ofNat_of_lt' hlines
  rw [Grid.Full, toNat_width_scan, hheight, length_scan]

end RasterText
