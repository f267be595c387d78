import RasterText.Report.Nesting
import RasterText.Proofs.Template.Places
import RasterText.Proofs.Text.Lines
set_option autoImplicit false

/-!
The place in the header of a report. The byte offset of a marker is taken for a number of
characters, so the header names the place of the marker exactly if only characters of one byte stand
before it. Other markers get a later place, or none.
-/

namespace RasterText

def frameTop : Text := Paint.margin.char '╭' ++ Paint.margin.char '─' ++ Paint.margin.char '['

/-- What the header of a report says behind the name of the template. -/
def headerPlace? (name report : Text) : Option Text :=
  let header := ((report.dropWhile (· ≠ '\n')).drop 1).dropWhile (· = ' ')
  (Text.strip? (frameTop ++ name ++ [':']) header).map (List.takeWhile (· ≠ '\x1b'))

def shownPlace (lines : List Line) (offset : Nat) : Text :=
  match Line.find? lines offset with
  | some line => decimal (line.number + 1) ++ [':'] ++ decimal (offset - line.offset + 1)
  | none => "?:?".toList

section Decimal

variable {a b : Nat} {s t : Text} {c : Char}

theorem isDigit_of_mem_decimal (h : c ∈ decimal a) : c.isDigit = true :=
  Nat.isDigit_of_mem_toDigits (by decide) (by decide) h

theorem decimal_inj (h : decimal a = decimal b) : a = b :=
  calc
    a = Nat.ofDigitChars 10 (decimal a) 0 := Nat.ofDigitChars_ten_toDigits.symm
    _ = Nat.ofDigitChars 10 (decimal b) 0 := by rw [h]
    _ = b := Nat.ofDigitChars_ten_toDigits

theorem not_mem_decimal (hc : c.isDigit = false) : c ∉ decimal a := fun h => by
  rw [isDigit_of_mem_decimal h] at hc
  cases hc

theorem decimal_append_inj (h : decimal a ++ ':' :: s = decimal b ++ ':' :: t) : a = b ∧ s = t := by
  obtain ⟨hab, hst⟩ := eq_of_append_cons_eq (not_mem_decimal rfl) (not_mem_decimal rfl) h
  exact ⟨decimal_inj hab, hst⟩

theorem questionMarks_ne_decimal : "?:?".toList ≠ decimal a ++ ':' :: s := by
  intro h
  have h' : ['?'] ++ ':' :: ['?'] = decimal a ++ ':' :: s := h
  have ha := (eq_of_append_cons_eq (by decide) (not_mem_decimal rfl) h').1
  exact not_mem_decimal (a := a) (c := '?') rfl (ha ▸ List.mem_singleton_self _)

end Decimal

section Places

variable {before rest : Text} {lines : List Line} {offset : Nat}

theorem shownPlace_append (h : OnlyLineFeeds (before ++ rest)) (hne : rest ≠ []) :
    shownPlace (Line.ofText (before ++ rest)) before.length = placeAfter before := by
  obtain ⟨line, hline, hnumber, hcolumn⟩ := Line.find?_ofText_append h hne
  rw [shownPlace, hline]
  simp only [hnumber, ← hcolumn, Nat.add_sub_cancel_left, placeAfter, List.append_assoc,
    List.singleton_append]

theorem shownPlace_of_lt {s : Text} (h : s.length < offset) :
    shownPlace (Line.ofText s) offset = "?:?".toList := by
  cases hf : Line.find? (Line.ofText s) offset with
  | none => rw [shownPlace, hf]
  | some line =>
    have hle := (Line.isSome_find?_ofText s).1 (Option.isSome_of_mem hf)
    omega

theorem eq_of_shownPlace (h : OnlyLineFeeds (before ++ rest)) (hne : rest ≠ [])
    (hp : shownPlace (Line.ofText (before ++ rest)) offset = placeAfter before) :
    offset = before.length := by
  obtain ⟨line, hline, hnumber, hcolumn⟩ := Line.find?_ofText_append h hne
  rw [shownPlace] at hp
  cases hf : Line.find? (Line.ofText (before ++ rest)) offset with
  | none =>
    rw [hf] at hp
    exact absurd hp questionMarks_ne_decimal
  | some other =>
    rw [hf] at hp
    simp only [List.append_assoc, List.singleton_append, placeAfter] at hp
    obtain ⟨hn, hc⟩ := decimal_append_inj hp
    have hc := decimal_inj hc
    obtain ⟨hother, hle⟩ := Line.mem_of_find? hf
    have heq : other = line :=
      Line.eq_of_number_eq hother (Line.mem_of_find? hline).1 (by omega)
    subst heq
    omega

end Places

section Header

variable {title name place rest : Text} {lines : List Line} {offset : Nat}

theorem escape_not_mem_shownPlace : '\x1b' ∉ shownPlace lines offset := by
  unfold shownPlace
  split
  · simp [not_mem_decimal (show Char.isDigit '\x1b' = false from rfl)]
  · decide

theorem headerPlace?_title (ht : '\n' ∉ title) (rest : Text) :
    headerPlace? name (title ++ '\n' :: rest) =
      (Text.strip? (frameTop ++ name ++ [':']) (rest.dropWhile (· = ' '))).map
        (List.takeWhile (· ≠ '\x1b')) := by
  rw [headerPlace?, List.dropWhile_append_of_pos (decide_ne_of_mem ht),
    List.dropWhile_cons_of_neg (by simp), List.drop_one, List.tail_cons]

theorem headerPlace?_frame (ht : '\n' ∉ title) (hp : '\x1b' ∉ place) (width : Nat) :
    headerPlace? name (title ++ '\n' :: (List.replicate width ' ' ++ (frameTop ++ name ++ [':'] ++
      (place ++ '\x1b' :: rest)))) = some place := by
  have hspaces : ∀ c ∈ List.replicate width ' ', decide (c = ' ') = true := fun c hc =>
    decide_eq_true (List.eq_of_mem_replicate hc)
  have hframe : (frameTop ++ name ++ [':'] ++ (place ++ '\x1b' :: rest)).dropWhile (· = ' ') =
      frameTop ++ name ++ [':'] ++ (place ++ '\x1b' :: rest) := rfl
  rw [headerPlace?_title ht, List.dropWhile_append_of_pos hspaces, hframe, Text.strip?_append,
    Option.map_some, List.takeWhile_append_of_pos (decide_ne_of_mem hp),
    List.takeWhile_cons_of_neg (by simp), List.append_nil]

theorem Excerpt.exists_text {e : Excerpt} (hl : e.labels ≠ []) (name : Text) (offset : Nat) :
    ∃ width rest, e.text name offset = List.replicate width ' ' ++ (frameTop ++ name ++ [':'] ++
      (shownPlace e.lines offset ++ '\x1b' :: rest)) := by
  obtain ⟨close, hclose⟩ : ∃ close, Paint.margin.char ']' = '\x1b' :: close := ⟨_, rfl⟩
  rw [Excerpt.text, if_neg hl]
  simp only [frameTop, shownPlace, hclose, List.append_assoc, List.cons_append]
  exact ⟨_, _, rfl⟩

end Header

namespace NestedBlock

/-- What the report marks: the two start markers, at their byte offsets. -/
def labels (f : NestedBlock) : List Label :=
  [⟨f.outer.start, f.outer.stop, "outer block opens here".toList, .blue⟩,
    ⟨f.inner.start, f.inner.stop, "same block opened again before it ends".toList, .red⟩]

def title (f : NestedBlock) : Text :=
  Paint.red.apply "Error:".toList ++ " block '".toList ++ f.name ++ "' cannot contain itself".toList

variable {f : NestedBlock} {s : Text}

theorem report_eq (f : NestedBlock) (s name : Text) : f.report s name =
    f.title ++ '\n' :: (Excerpt.ofText s f.labels).text name f.inner.start := by
  have hend : "' cannot contain itself\n".toList = "' cannot contain itself".toList ++ ['\n'] := rfl
  simp only [report, title, labels, hend, List.append_assoc, List.singleton_append]

theorem lineFeed_not_mem_title (hn : '\n' ∉ f.name) : '\n' ∉ f.title := by
  simp only [title, List.mem_append, not_or]
  exact ⟨⟨⟨by decide, by decide⟩, hn⟩, by decide⟩

theorem labels_eq_nil_iff (ho : f.outer.start < f.outer.stop) (hi : f.outer.stop ≤ f.inner.start) :
    (Excerpt.ofText s f.labels).labels = [] ↔ s.length + 1 < f.outer.stop := by
  simp only [Excerpt.ofText, labels, List.filter_eq_nil_iff, List.forall_mem_cons,
    Line.isSome_find?_ofText, Bool.and_eq_true, Label.last]
  simp
  omega

section Header

variable (ho : f.outer.start < f.outer.stop) (hi : f.outer.stop ≤ f.inner.start)
variable (hn : '\n' ∉ f.name)

include ho hi hn

theorem headerPlace?_report (s name : Text) :
    headerPlace? name (f.report s name) =
      if s.length + 1 < f.outer.stop then none
      else some (shownPlace (Line.ofText s) f.inner.start) := by
  have ht := lineFeed_not_mem_title hn
  rw [report_eq]
  split
  · next hs =>
    rw [headerPlace?_title ht, Excerpt.text, if_pos ((labels_eq_nil_iff ho hi).2 hs)]
    rfl
  · next hs =>
    obtain ⟨width, rest, htext⟩ :=
      Excerpt.exists_text (mt (labels_eq_nil_iff ho hi).1 hs) name f.inner.start
    rw [htext, headerPlace?_frame ht escape_not_mem_shownPlace]
    rfl

theorem headerPlace?_report_of_lt (hs : OnlyLineFeeds s) (h : f.inner.start < s.length)
    (name : Text) :
    headerPlace? name (f.report s name) = some (placeAfter (s.take f.inner.start)) := by
  have hlen : (s.take f.inner.start).length = f.inner.start := List.length_take_of_le h.le
  have hplace : shownPlace (Line.ofText (s.take f.inner.start ++ s.drop f.inner.start))
      (s.take f.inner.start).length = placeAfter (s.take f.inner.start) :=
    shownPlace_append (by rwa [List.take_append_drop]) (by simpa using h)
  rw [List.take_append_drop, hlen] at hplace
  rw [headerPlace?_report ho hi hn, if_neg (by omega), hplace]

theorem headerPlace?_report_of_gt (h : s.length < f.inner.start) (name : Text) :
    headerPlace? name (f.report s name) =
      if s.length + 1 < f.outer.stop then none else some "?:?".toList := by
  rw [headerPlace?_report ho hi hn, shownPlace_of_lt h]

theorem headerPlace?_report_append {before rest : Text} (hs : OnlyLineFeeds (before ++ rest))
    (hne : rest ≠ []) (name : Text) :
    headerPlace? name (f.report (before ++ rest) name) = some (placeAfter before) ↔
      f.inner.start = before.length := by
  constructor
  · intro h
    rw [headerPlace?_report ho hi hn] at h
    split at h
    · cases h
    · exact eq_of_shownPlace hs hne (Option.some.inj h)
  · intro h
    have hpos := List.length_pos_iff.2 hne
    rw [headerPlace?_report_of_lt ho hi hn hs (by simp; omega), h, List.take_left]

end Header

end NestedBlock

section Bytes

variable {s : Text}

theorem length_le_byteSize (s : Text) : s.length ≤ Text.byteSize s := by
  induction s with
  | nil => exact Nat.le_refl 0
  | cons c r ih =>
    have hc := c.utf8Size_pos
    rw [List.length_cons, Text.byteSize_cons]
    omega

theorem byteSize_eq_length_iff : Text.byteSize s = s.length ↔ ∀ c ∈ s, c.utf8Size = 1 := by
  induction s with
  | nil => simp
  | cons c r ih =>
    have hc := c.utf8Size_pos
    have hr := length_le_byteSize r
    rw [List.length_cons, Text.byteSize_cons, List.forall_mem_cons, ← ih]
    omega

end Bytes

theorem Marker.Complete.lineFeed_not_mem {m : Marker} {name : Text} (h : m.Complete)
    (hn : m.name = Token.startKeyword name) : '\n' ∉ name := by
  intro hmem
  have hwritten : '\n' ∈ m.written := by
    obtain ⟨-, opener, closer, -, -, hw⟩ := h
    simp [hw, hn, Token.startKeyword, hmem]
  have hblank := h.isBlank_eq_false '\n' hwritten
  cases hblank

/-- The start marker that a fault reports begins behind `before`, and this is the place in the
header exactly if `before` consists of characters of one byte. In general the header names the place
of the character whose number is the byte offset. With an offset beyond the end of the text it shows
question marks, or there is no excerpt at all. -/
theorem headerPlace?_report_iff (s name : Text) (faults : List NestedBlock) (f : NestedBlock)
    (hs : OnlyLineFeeds s) (h : parse s = .error faults) (hf : f ∈ faults) :
    ∃ (before rest : Text) (m : Marker), s = before ++ (m.written ++ rest) ∧ m.Complete ∧
      m.name = Token.startKeyword f.name ∧
      f.inner = ⟨Text.byteSize before, Text.byteSize before + Text.byteSize m.written⟩ ∧
      (headerPlace? name (f.report s name) = some (placeAfter before) ↔
        ∀ c ∈ before, c.utf8Size = 1) ∧
      (f.inner.start < s.length →
        headerPlace? name (f.report s name) = some (placeAfter (s.take f.inner.start))) ∧
      (s.length < f.inner.start →
        headerPlace? name (f.report s name) =
          if s.length + 1 < f.outer.stop then none else some "?:?".toList) := by
  obtain ⟨rfl, -⟩ := parse_eq_error_iff.1 h
  have hn := (mem_faults_iff (nodup_lex s)).1 hf
  have hi := hn.stop_le
  obtain ⟨body, hm, hinner⟩ := hn
  have ho : f.outer.start < f.outer.stop :=
    ((leftmostFrom_lex s).tiles.bounds (List.mem_map_of_mem hm.start_mem)).2.1
  obtain ⟨-, m, hc, hk, before, rest, hsplit, hspan⟩ :=
    markerAt_of_mem (hm.mem hinner) (by simp [Token.keyword])
  have hname : m.name = Token.startKeyword f.name := (Option.some.inj hk).symm
  have hno := hc.lineFeed_not_mem hname
  have hspan : f.inner =
      ⟨Text.byteSize before, Text.byteSize before + Text.byteSize m.written⟩ := by
    simpa using hspan
  refine ⟨before, rest, m, hsplit, hc, hname, hspan, ?_,
    fun hlt => f.headerPlace?_report_of_lt ho hi hno hs hlt name,
    fun hgt => f.headerPlace?_report_of_gt ho hi hno hgt name⟩
  subst hsplit
  rw [NestedBlock.headerPlace?_report_append ho hi hno hs (by simp [hc.written_ne_nil]), hspan]
  exact byteSize_eq_length_iff

def accentedBefore : Text := "é@start_block_a@@start_block_a@@end_block_a@".toList

theorem headerPlace?_report_accented :
    let f : NestedBlock := ⟨['a'], ⟨2, 17⟩, ⟨17, 32⟩⟩
    let before := "é@start_block_a@".toList
    parse accentedBefore = .error [f] ∧ before <+: accentedBefore ∧
      f.inner.start = Text.byteSize before ∧ placeAfter before = "1:17".toList ∧
      headerPlace? "t".toList (f.report accentedBefore "t".toList) = some "1:18".toList := by
  intro f before
  have h : parse accentedBefore = .error [f] := by cbv
  have hends : accentedBefore.filter isLineEnd = [] := by cbv
  have hs : OnlyLineFeeds accentedBefore := fun c hc hend =>
    absurd hend (List.filter_eq_nil_iff.1 hends c hc)
  obtain ⟨_, _, _, -, -, -, -, -, hlt, -⟩ := headerPlace?_report_iff accentedBefore "t".toList [f] f
    hs h (List.mem_singleton_self f)
  have hplace := hlt (by decide)
  exact ⟨h, by decide, by decide, by decide, by rw [hplace]; decide⟩

end RasterText
