import Mathlib.Data.List.Chain
import RasterText.Proofs.Grid.RunLength
set_option autoImplicit false

namespace RasterText

/-- What a packet asks of the one behind it: not to go on with what it could have taken in. -/
def Packet.Precedes : Packet → Packet → Prop
  | run count word, next => count < packetLimit → next.expand.head? ≠ some word
  | literal words, next =>
    words.getLast? ≠ next.expand.head? ∧
      (words.length < packetLimit → ∀ others, next ≠ literal others)

/-- Packets of which none could be longer than it is. -/
structure Canonical (ps : List Packet) : Prop where
  wellFormed : ∀ p ∈ ps, p.WellFormed
  distinct : ∀ words, .literal words ∈ ps → words.IsChain (· ≠ ·)
  adjacent : ps.IsChain Packet.Precedes

theorem canonical_nil : Canonical [] := ⟨by simp, by simp, .nil⟩

theorem canonical_cons {p : Packet} {ps : List Packet} :
    Canonical (p :: ps) ↔ p.WellFormed ∧ (∀ words, p = .literal words → words.IsChain (· ≠ ·)) ∧
      (∀ q ∈ ps.head?, p.Precedes q) ∧ Canonical ps := by
  constructor
  · rintro ⟨hw, hd, ha⟩
    rw [List.isChain_cons] at ha
    exact ⟨hw p List.mem_cons_self, fun words h => hd words (h ▸ List.mem_cons_self), ha.1,
      fun q hq => hw q (List.mem_cons_of_mem _ hq),
      fun words h => hd words (List.mem_cons_of_mem _ h), ha.2⟩
  · rintro ⟨hp, hd, ha, hs⟩
    refine ⟨fun q hq => ?_, fun words h => ?_, List.isChain_cons.2 ⟨ha, hs.adjacent⟩⟩
    · rcases List.mem_cons.1 hq with rfl | hq
      · exact hp
      · exact hs.wellFormed q hq
    · rcases List.mem_cons.1 h with h | h
      · exact hd words h.symm
      · exact hs.distinct words h

section Front

variable {word : UInt32} {limit : Nat} {l : List UInt32}

theorem runLength_succ_eq_zero :
    runLength word (limit + 1) l = 0 ↔ l.head? ≠ some word := by
  cases l with
  | nil => simp [runLength]
  | cons w rest => by_cases h : w = word <;> simp [runLength, h]

theorem head?_drop_runLength (h : runLength word limit l < limit) :
    (l.drop (runLength word limit l)).head? ≠ some word := by
  induction limit generalizing l with
  | zero => omega
  | succ limit ih =>
    cases l with
    | nil => simp
    | cons w rest =>
      by_cases hw : w = word
      · simp only [runLength, hw, if_true] at h ⊢
        exact ih (by omega)
      · simp [runLength, hw]

theorem runLength_replicate_append {count : Nat} (hc : count ≤ limit)
    (h : count < limit → l.head? ≠ some word) :
    runLength word limit (List.replicate count word ++ l) = count := by
  induction count generalizing limit with
  | zero =>
    cases limit with
    | zero => simp [runLength]
    | succ limit => exact runLength_succ_eq_zero.2 (h (Nat.succ_pos limit))
  | succ count ih =>
    cases limit with
    | zero => omega
    | succ limit =>
      have hr : runLength word limit (List.replicate count word ++ l) = count :=
        ih (by omega) fun hlt => h (by omega)
      simp [List.replicate_succ, runLength, hr]

def StartsRun (l : List UInt32) : Prop := ∃ w rest, l = w :: w :: rest

theorem singles_isChain (h : l.head? ≠ some word) :
    (word :: singles limit l).IsChain (· ≠ ·) := by
  fun_induction singles limit l generalizing word with
  | case1 => exact .singleton _
  | case2 => exact .singleton _
  | case3 limit w => exact .cons_cons (fun hw => h (by simp [hw])) (.singleton _)
  | case4 => exact .singleton _
  | case5 limit w v rest hne ih =>
    exact .cons_cons (fun hw => h (by simp [hw])) (ih fun hv => hne (by simpa using hv.symm))

theorem drop_length_singles (h : (singles limit l).length < limit) :
    l.drop (singles limit l).length = [] ∨ StartsRun (l.drop (singles limit l).length) := by
  fun_induction singles limit l with
  | case1 => simp at h
  | case2 => exact Or.inl rfl
  | case3 => exact Or.inl rfl
  | case4 limit v rest => exact Or.inr ⟨v, rest, rfl⟩
  | case5 limit w v rest hne ih => exact ih (by simpa using h)

theorem getLast?_singles (h : l.head? ≠ some word) :
    (word :: singles limit l).getLast? ≠ (l.drop (singles limit l).length).head? := by
  fun_induction singles limit l generalizing word with
  | case1 => simpa using h.symm
  | case2 => simp
  | case3 => simp
  | case4 => simpa using h.symm
  | case5 limit w v rest hne ih =>
    rw [List.getLast?_cons_cons]
    exact ih fun hv => hne (by simpa using hv.symm)

theorem singles_cons (h : l.head? ≠ some word) :
    singles (limit + 1) (word :: l) = word :: singles limit l := by
  cases l with
  | nil => cases limit <;> simp [singles]
  | cons v rest => rw [singles, if_neg fun he => h (by simp [he])]

theorem head?_ne_of_isChain {others : List UInt32}
    (h : (word :: (others ++ l.take 1)).IsChain (· ≠ ·)) : (others ++ l).head? ≠ some word := by
  have hh : (others ++ l.take 1).head? = (others ++ l).head? := by simp [List.head?_take]
  intro hw
  exact (List.isChain_cons.1 h).1 word (hh.trans hw) rfl

theorem singles_append {others : List UInt32} (hc : (others ++ l.take 1).IsChain (· ≠ ·))
    (hn : others.length ≤ limit) (h : others.length < limit → l = [] ∨ StartsRun l) :
    singles limit (others ++ l) = others := by
  induction others generalizing limit with
  | nil =>
    cases limit with
    | zero => simp [singles]
    | succ limit => rcases h (Nat.succ_pos limit) with rfl | ⟨w, rest, rfl⟩ <;> simp [singles]
  | cons w others ih =>
    cases limit with
    | zero => simp at hn
    | succ limit =>
      have hs := ih hc.tail (by simpa using hn) fun hlt => h (by simpa using hlt)
      rw [List.cons_append, singles_cons (head?_ne_of_isChain hc), hs]

end Front

theorem packets_of_run {word : UInt32} {rest : List UInt32} (h : rest.head? = some word) :
    packets (word :: rest) =
      .run (runLength word (packetLimit - 1) rest + 1) word ::
        packets (rest.drop (runLength word (packetLimit - 1) rest)) := by
  have hz : runLength word (packetLimit - 1) rest ≠ 0 := fun hz => runLength_succ_eq_zero.1 hz h
  rw [packets, if_neg hz]

theorem packets_of_single {word : UInt32} {rest : List UInt32} (h : rest.head? ≠ some word) :
    packets (word :: rest) =
      .literal (word :: singles (packetLimit - 1) rest) ::
        packets (rest.drop (singles (packetLimit - 1) rest).length) := by
  have hz : runLength word (packetLimit - 1) rest = 0 := runLength_succ_eq_zero.2 h
  rw [packets, if_pos hz]

theorem head_packets {words : List UInt32} {p : Packet} (h : p ∈ (packets words).head?) :
    p.expand.head? = words.head? ∧ (StartsRun words → ∀ others, p ≠ .literal others) := by
  cases words with
  | nil => simp [packets] at h
  | cons w rest =>
    by_cases hw : rest.head? = some w
    · rw [packets_of_run hw] at h
      cases h
      exact ⟨rfl, fun _ others h => (by cases h)⟩
    · rw [packets_of_single hw] at h
      cases h
      refine ⟨rfl, ?_⟩
      rintro ⟨v, tail, hv⟩
      cases hv
      exact absurd rfl hw

theorem canonical_packets (words : List UInt32) : Canonical (packets words) := by
  have hw := packets_wellFormed words
  fun_induction packets words with
  | case1 => exact canonical_nil
  | case2 w rest more hz others ih =>
    have hne : rest.head? ≠ some w := runLength_succ_eq_zero.1 hz
    refine canonical_cons.2 ⟨hw _ List.mem_cons_self, fun words h => ?_, fun q hq => ?_,
      ih fun q hq => hw q (List.mem_cons_of_mem _ hq)⟩
    · cases h
      exact singles_isChain hne
    · obtain ⟨hfirst, hrun⟩ := head_packets hq
      refine ⟨fun he => ?_, fun hl => ?_⟩
      · exact getLast?_singles hne (he.trans hfirst)
      · have hlt : others.length < packetLimit - 1 := Nat.lt_sub_of_add_lt hl
        rcases drop_length_singles hlt with hnil | hstart
        · rw [hnil] at hq
          simp [packets] at hq
        · exact hrun hstart
  | case3 w rest more hz ih =>
    refine canonical_cons.2 ⟨hw _ List.mem_cons_self, fun words h => (by cases h),
      fun q hq hlt => ?_, ih fun q hq => hw q (List.mem_cons_of_mem _ hq)⟩
    rw [(head_packets hq).1]
    exact head?_drop_runLength (Nat.lt_sub_of_add_lt hlt)

theorem startsRun_expand {ps : List Packet} (hw : ∀ p ∈ ps, p.WellFormed)
    (h : ∀ p ∈ ps.head?, ∀ words, p ≠ .literal words) :
    ps.flatMap Packet.expand = [] ∨ StartsRun (ps.flatMap Packet.expand) := by
  cases ps with
  | nil => exact Or.inl rfl
  | cons p ps =>
    cases p with
    | literal words => exact absurd rfl (h (.literal words) rfl words)
    | run count word =>
      obtain ⟨more, rfl⟩ := Nat.exists_eq_add_of_le (hw _ List.mem_cons_self).1
      refine Or.inr ⟨word, List.replicate more word ++ ps.flatMap Packet.expand, ?_⟩
      rw [List.flatMap_cons, Packet.expand, Nat.add_comm, List.replicate_succ, List.replicate_succ]
      rfl

theorem exists_head_of_expand {ps : List Packet} (hw : ∀ p ∈ ps, p.WellFormed) {word : UInt32}
    (h : (ps.flatMap Packet.expand).head? = some word) :
    ∃ q ∈ ps.head?, q.expand.head? = some word := by
  cases ps with
  | nil => simp at h
  | cons p ps =>
    refine ⟨p, rfl, ?_⟩
    have hp := hw p List.mem_cons_self
    cases p with
    | run count w =>
      obtain ⟨more, rfl⟩ := Nat.exists_eq_add_of_le' hp.1
      exact h
    | literal words =>
      cases words with
      | nil => simp [Packet.WellFormed] at hp
      | cons w others => exact h

theorem packets_run_append {word : UInt32} {count : Nat} {rest : List UInt32} (h2 : 2 ≤ count)
    (hn : count ≤ packetLimit) (h : count < packetLimit → rest.head? ≠ some word) :
    packets (List.replicate count word ++ rest) = .run count word :: packets rest := by
  obtain ⟨more, rfl⟩ := Nat.exists_eq_add_of_le' (Nat.le_of_succ_le h2)
  have hrun : runLength word (packetLimit - 1) (List.replicate more word ++ rest) = more :=
    runLength_replicate_append (Nat.le_sub_of_add_le hn) fun hlt => h (Nat.add_lt_of_lt_sub hlt)
  have hhead : (List.replicate more word ++ rest).head? = some word := by
    cases more with
    | zero => omega
    | succ more => rfl
  rw [List.replicate_succ, List.cons_append, packets_of_run hhead, hrun,
    List.drop_left' List.length_replicate]

theorem packets_literal_append {words rest : List UInt32} (h1 : 1 ≤ words.length)
    (hn : words.length ≤ packetLimit) (hc : (words ++ rest.take 1).IsChain (· ≠ ·))
    (h : words.length < packetLimit → rest = [] ∨ StartsRun rest) :
    packets (words ++ rest) = .literal words :: packets rest := by
  cases words with
  | nil => simp at h1
  | cons word others =>
    have hsingles : singles (packetLimit - 1) (others ++ rest) = others :=
      singles_append hc.tail (Nat.le_sub_of_add_le hn) fun hlt => h (Nat.add_lt_of_lt_sub hlt)
    rw [List.cons_append, packets_of_single (head?_ne_of_isChain hc), hsingles, List.drop_left]

theorem packets_expand {ps : List Packet} (h : Canonical ps) :
    packets (ps.flatMap Packet.expand) = ps := by
  induction ps with
  | nil => simp [packets]
  | cons p ps ih =>
    obtain ⟨hp, hd, ha, hs⟩ := canonical_cons.1 h
    rw [List.flatMap_cons]
    cases p with
    | run count word =>
      rw [Packet.expand, packets_run_append hp.1 hp.2, ih hs]
      intro hlt hw
      obtain ⟨q, hq, hqw⟩ := exists_head_of_expand hs.wellFormed hw
      exact ha q hq hlt hqw
    | literal words =>
      rw [Packet.expand, packets_literal_append hp.1 hp.2, ih hs]
      · refine (hd words rfl).append ?_ fun x hx y hy hxy => ?_
        · cases ps.flatMap Packet.expand <;> simp
        · -- the word behind the literal is the first one of the next packet
          rw [List.head?_take, if_neg Nat.one_ne_zero] at hy
          obtain ⟨q, hq, hqy⟩ := exists_head_of_expand hs.wellFormed hy
          exact (ha q hq).1 (hx.trans ((congrArg some hxy).trans hqy.symm))
      · exact fun hlt => startsRun_expand hs.wellFormed fun q hq => (ha q hq).2 hlt

theorem compressWords_expand {ps : List Packet} (h : Canonical ps) :
    compressWords (ps.flatMap Packet.expand) = ps.flatMap Packet.serialize := by
  rw [compressWords, packets_expand h]

/-- Words are coded as canonical packets, and every list of canonical packets is the code of the
words that are read from it. -/
theorem compress_canonical :
    (∀ g : Grid, ∃ ps, Canonical ps ∧ g.compress.words = ps.flatMap Packet.serialize) ∧
    ∀ ps, Canonical ps →
      expandWords? (ps.flatMap Packet.serialize) = some (ps.flatMap Packet.expand) ∧
        ∀ g : Grid, g.words = ps.flatMap Packet.expand →
          g.compress.words = ps.flatMap Packet.serialize := by
  refine ⟨fun g => ⟨packets g.words, canonical_packets g.words, rfl⟩, fun ps h => ⟨?_, ?_⟩⟩
  · rw [expandWords?, readPackets?_serialize h.wellFormed, Option.map_some]
  · intro g hg
    rw [← compressWords_expand h, ← hg]
    rfl

def fullRun : List Packet := [.run 127 5, .literal [5, 0x82], .run 2 0]

theorem compress_canonical_fullRun :
    Canonical fullRun ∧
      expandWords? [127, 5, 0x82, 5, 0x82, 2, 0] =
        some (List.replicate 127 5 ++ [5, 0x82, 0, 0]) ∧
      (Grid.mk (List.replicate 127 5 ++ [5, 0x82, 0, 0]) 131 1).compress.words =
        [127, 5, 0x82, 5, 0x82, 2, 0] := by
  have h : Canonical fullRun := by
    refine ⟨?_, ?_, ?_⟩
    · simp [fullRun, Packet.WellFormed, packetLimit]
    · simp [fullRun]
    · simp [fullRun, Packet.Precedes, Packet.expand, packetLimit]
  obtain ⟨hread, hcode⟩ := compress_canonical.2 fullRun h
  exact ⟨h, hread, hcode _ rfl⟩

end RasterText
