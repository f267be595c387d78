import RasterText.Proofs.Grid.CanonicalPackets
set_option autoImplicit false

/-!
The length of a code. Only literals take more room than their words, one word each, and there is a
run or a full literal in front of every literal but the first.
-/

namespace RasterText

def Packet.isLiteral : Packet → Bool
  | run _ _ => false
  | literal _ => true

theorem length_serialize_le {ps : List Packet} (h : ∀ p ∈ ps, p.WellFormed) :
    (ps.flatMap Packet.serialize).length ≤
      (ps.flatMap Packet.expand).length + ps.countP Packet.isLiteral := by
  induction ps with
  | nil => simp
  | cons p ps ih =>
    have hp := h p List.mem_cons_self
    have hs := ih fun q hq => h q (List.mem_cons_of_mem _ hq)
    rw [List.flatMap_cons, List.flatMap_cons, List.countP_cons, List.length_append,
      List.length_append]
    cases p with
    | run count word =>
      simp only [Packet.WellFormed] at hp
      simp only [Packet.serialize, Packet.expand, List.length_replicate, List.length_cons,
        List.length_nil]
      omega
    | literal words =>
      simp only [Packet.serialize, Packet.expand, Packet.isLiteral, List.length_cons, if_true]
      omega

/-- Behind a literal there are two equal words or, if it is full, many words in it, so every literal
but the last has three words for itself. -/
theorem countP_isLiteral_le {ps : List Packet} (h : Canonical ps) :
    3 * ps.countP Packet.isLiteral ≤ (ps.flatMap Packet.expand).length + 2 ∧
      ((∀ p ∈ ps.head?, ∀ words, p ≠ .literal words) →
        3 * ps.countP Packet.isLiteral ≤ (ps.flatMap Packet.expand).length) := by
  induction ps with
  | nil => simp
  | cons p ps ih =>
    obtain ⟨hp, -, ha, hs⟩ := canonical_cons.1 h
    obtain ⟨hall, hrun⟩ := ih hs
    rw [List.flatMap_cons, List.countP_cons, List.length_append]
    cases p with
    | run count word =>
      simp only [Packet.WellFormed] at hp
      simp only [Packet.isLiteral, Packet.expand, List.length_replicate, Bool.false_eq_true,
        if_false]
      exact ⟨by omega, fun _ => by omega⟩
    | literal words =>
      have hl : packetLimit = 127 := rfl
      simp only [Packet.WellFormed] at hp
      simp only [Packet.isLiteral, Packet.expand, if_true]
      refine ⟨?_, fun hne => absurd rfl (hne (.literal words) rfl words)⟩
      by_cases hlt : words.length < packetLimit
      · have hnext := hrun fun q hq => (ha q hq).2 hlt
        omega
      · omega

def pairedSingles : Nat → List Packet
  | 0 => [.literal [0]]
  | k + 1 => .literal [0] :: .run 2 1 :: pairedSingles k

theorem canonical_pairedSingles (k : Nat) : Canonical (pairedSingles k) := by
  have hliteral : (Packet.literal [0]).WellFormed := by simp [Packet.WellFormed, packetLimit]
  have hrun : (Packet.run 2 1).WellFormed := by simp [Packet.WellFormed, packetLimit]
  have hdistinct (words : List UInt32) (h : Packet.literal [0] = .literal words) :
      words.IsChain (· ≠ ·) := by
    cases h
    exact .singleton 0
  induction k with
  | zero => exact canonical_cons.2 ⟨hliteral, hdistinct, by simp, canonical_nil⟩
  | succ k ih =>
    have hhead : (pairedSingles k).head? = some (.literal [0]) := by cases k <;> rfl
    have hs : Canonical (.run 2 1 :: pairedSingles k) := by
      refine canonical_cons.2 ⟨hrun, fun words h => (by cases h), fun q hq _ => ?_, ih⟩
      rw [hhead] at hq
      cases hq
      decide
    refine canonical_cons.2 ⟨hliteral, hdistinct, fun q hq => ?_, hs⟩
    cases hq
    exact ⟨by decide, fun _ others h => (by cases h)⟩

theorem length_pairedSingles (k : Nat) :
    ((pairedSingles k).flatMap Packet.expand).length = 3 * k + 1 ∧
      ((pairedSingles k).flatMap Packet.serialize).length = 4 * k + 2 := by
  induction k with
  | zero => exact ⟨rfl, rfl⟩
  | succ k ih =>
    simp only [pairedSingles, List.flatMap_cons, List.length_append, ih, Packet.expand,
      Packet.serialize, List.length_replicate, List.length_cons, List.length_nil]
    omega

theorem length_compressWords_le (words : List UInt32) :
    (compressWords words).length ≤ words.length + (words.length + 2) / 3 := by
  have hc := canonical_packets words
  have hcode := length_serialize_le hc.wellFormed
  have hcount := (countP_isLiteral_le hc).1
  rw [expand_packets] at hcode hcount
  rw [compressWords]
  omega

/-- A code has at most one word more for every three words. For every `k` there are `3 * k - 2`
words whose code is as long as that. -/
theorem length_compress_le :
    (∀ g : Grid, g.compress.words.length ≤ g.words.length + (g.words.length + 2) / 3) ∧
    ∀ k, 1 ≤ k → ∃ g : Grid, g.words.length = 3 * k - 2 ∧
      g.compress.words.length = g.words.length + (g.words.length + 2) / 3 := by
  refine ⟨fun g => length_compressWords_le g.words, fun k hk => ?_⟩
  obtain ⟨hwords, hcode⟩ := length_pairedSingles (k - 1)
  rw [← compressWords_expand (canonical_pairedSingles _)] at hcode
  generalize (pairedSingles (k - 1)).flatMap Packet.expand = words at hwords hcode
  refine ⟨⟨words, UInt32.ofNat words.length, 1⟩, ?_, ?_⟩
  · change words.length = _
    omega
  · change (compressWords words).length = words.length + (words.length + 2) / 3
    omega

theorem length_compress_le_two :
    1 ≤ 2 ∧ (∃ g : Grid, g.words.length = 4 ∧ g.compress.words.length = 4 + 2) ∧
      ∀ g : Grid, g.words.length = 4 → g.compress.words.length ≤ 4 + 2 := by
  obtain ⟨hle, hexists⟩ := length_compress_le
  obtain ⟨g, hg, hc⟩ := hexists 2 (by decide)
  refine ⟨by decide, ⟨g, hg, ?_⟩, fun g hg => ?_⟩
  · rw [hc, hg]
  · have h := hle g
    rwa [hg] at h

end RasterText
