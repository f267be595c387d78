import RasterText.Grid.RunLength
set_option autoImplicit false

namespace RasterText

def Packet.WellFormed : Packet → Prop
  | run count _ => 2 ≤ count ∧ count ≤ packetLimit
  | literal words => 1 ≤ words.length ∧ words.length ≤ packetLimit

/-- The packet at the front of coded words, and the words behind it. There is none if the control
word stands for no packet, or if words are missing. -/
def readPacket? : List UInt32 → Option (Packet × List UInt32)
  | [] => none
  | control :: rest =>
    if 2 ≤ control.toNat ∧ control.toNat ≤ 0x7f then
      match rest with
      | [] => none
      | word :: rest => some (.run control.toNat word, rest)
    else if 0x81 ≤ control.toNat ∧ control.toNat ≤ 0xff then
      let count := control.toNat - 0x80
      if count ≤ rest.length then some (.literal (rest.take count), rest.drop count) else none
    else none

theorem length_of_readPacket? {words rest : List UInt32} {p : Packet}
    (h : readPacket? words = some (p, rest)) : rest.length < words.length := by
  unfold readPacket? at h
  split at h
  · simp at h
  · next control tail =>
    split at h
    · cases tail with
      | nil => simp at h
      | cons word tail =>
        simp only [Option.some.injEq, Prod.mk.injEq] at h
        rw [← h.2, List.length_cons, List.length_cons]
        omega
    · split at h
      · simp only [Option.ite_none_right_eq_some, Option.some.injEq, Prod.mk.injEq] at h
        obtain ⟨-, -, rfl⟩ := h
        simp only [List.length_drop, List.length_cons]
        omega
      · simp at h

def readPackets? (words : List UInt32) : Option (List Packet) :=
  match words with
  | [] => some []
  | control :: tail =>
    match _h : readPacket? (control :: tail) with
    | some (p, rest) => (readPackets? rest).map (p :: ·)
    | none => none
termination_by words.length
decreasing_by exact length_of_readPacket? _h

def expandWords? (words : List UInt32) : Option (List UInt32) :=
  (readPackets? words).map fun ps => ps.flatMap Packet.expand

theorem readPacket?_serialize {p : Packet} (h : p.WellFormed) (rest : List UInt32) :
    readPacket? (p.serialize ++ rest) = some (p, rest) := by
  have hl : packetLimit = 127 := rfl
  cases p with
  | run count word =>
    have hc : (UInt32.ofNat count).toNat = count := by
      simp only [Packet.WellFormed] at h
      exact UInt32.toNat_ofNat_of_lt' (by simp only [UInt32.size]; omega)
    simp only [Packet.WellFormed] at h
    simp only [Packet.serialize, List.cons_append, List.nil_append, readPacket?, hc]
    rw [if_pos (by omega)]
  | literal words =>
    have hc : (UInt32.ofNat (0x80 + words.length)).toNat = 0x80 + words.length := by
      simp only [Packet.WellFormed] at h
      exact UInt32.toNat_ofNat_of_lt' (by simp only [UInt32.size]; omega)
    simp only [Packet.WellFormed] at h
    simp only [Packet.serialize, List.cons_append, readPacket?, hc]
    rw [if_neg (by omega), if_pos (by omega), if_pos (by simp)]
    simp

theorem readPackets?_serialize {ps : List Packet} (h : ∀ p ∈ ps, p.WellFormed) :
    readPackets? (ps.flatMap Packet.serialize) = some ps := by
  induction ps with
  | nil => simp [readPackets?]
  | cons p ps ih =>
    have hr := readPacket?_serialize (h p (by simp)) (ps.flatMap Packet.serialize)
    have hps := ih fun q hq => h q (by simp [hq])
    rw [List.flatMap_cons]
    cases hs : p.serialize ++ ps.flatMap Packet.serialize with
    | nil => rw [hs] at hr; simp [readPacket?] at hr
    | cons control tail =>
      rw [hs] at hr
      rw [readPackets?]
      split
      · next q rest hq =>
        rw [hr] at hq
        simp only [Option.some.injEq, Prod.mk.injEq] at hq
        rw [← hq.1, ← hq.2, hps]
        rfl
      · next hq => simp [hr] at hq

theorem runLength_le (word : UInt32) (limit : Nat) (l : List UInt32) :
    runLength word limit l ≤ limit := by
  induction limit generalizing l with
  | zero => simp [runLength]
  | succ limit ih =>
    cases l with
    | nil => simp [runLength]
    | cons w rest =>
      have hr := ih rest
      simp only [runLength]
      split <;> omega

theorem take_runLength (word : UInt32) (limit : Nat) (l : List UInt32) :
    l.take (runLength word limit l) = List.replicate (runLength word limit l) word := by
  induction limit generalizing l with
  | zero => simp [runLength]
  | succ limit ih =>
    cases l with
    | nil => simp [runLength]
    | cons w rest =>
      by_cases hw : w = word
      · simp [runLength, hw, List.replicate_succ, ih]
      · simp [runLength, hw]

theorem length_singles_le (limit : Nat) (l : List UInt32) : (singles limit l).length ≤ limit := by
  fun_induction singles limit l with
  | case1 => simp
  | case2 => simp
  | case3 => simp
  | case4 => simp
  | case5 limit w v rest hne ih => simp only [List.length_cons]; omega

theorem take_length_singles (limit : Nat) (l : List UInt32) :
    l.take (singles limit l).length = singles limit l := by
  fun_induction singles limit l with
  | case1 => simp
  | case2 => simp
  | case3 => simp
  | case4 => simp
  | case5 limit w v rest hne ih => simpa using ih

theorem packets_wellFormed (words : List UInt32) : ∀ p ∈ packets words, p.WellFormed := by
  fun_induction packets words with
  | case1 => simp
  | case2 w rest more hz others ih =>
    intro p hp
    rcases List.mem_cons.1 hp with rfl | hp
    · have hl := length_singles_le (packetLimit - 1) rest
      have hm : packetLimit = 127 := rfl
      simp only [Packet.WellFormed, List.length_cons, others]
      omega
    · exact ih p hp
  | case3 w rest more hz ih =>
    intro p hp
    rcases List.mem_cons.1 hp with rfl | hp
    · have hl := runLength_le w (packetLimit - 1) rest
      have hm : packetLimit = 127 := rfl
      simp only [Packet.WellFormed, more]
      omega
    · exact ih p hp

theorem expand_packets (words : List UInt32) : (packets words).flatMap Packet.expand = words := by
  fun_induction packets words with
  | case1 => rfl
  | case2 w rest more hz others ih =>
    have ht : rest.take others.length = others := take_length_singles (packetLimit - 1) rest
    rw [List.flatMap_cons, ih]
    calc
      w :: others ++ rest.drop others.length
        = w :: (rest.take others.length ++ rest.drop others.length) := by rw [ht]; rfl
      _ = w :: rest := by rw [List.take_append_drop]
  | case3 w rest more hz ih =>
    have ht : rest.take more = List.replicate more w := take_runLength w (packetLimit - 1) rest
    rw [List.flatMap_cons, ih]
    calc
      List.replicate (more + 1) w ++ rest.drop more
        = w :: (rest.take more ++ rest.drop more) := by rw [ht, List.replicate_succ]; rfl
      _ = w :: rest := by rw [List.take_append_drop]

theorem expandWords?_compressWords (words : List UInt32) :
    expandWords? (compressWords words) = some words := by
  rw [expandWords?, compressWords, readPackets?_serialize (packets_wellFormed words)]
  simp [expand_packets]

/-- A single word in front of a long run, and data that look like control words. -/
example : compressWords (0x82 :: List.replicate 128 2) = [0x81, 0x82, 127, 2, 0x81, 2] := by
  cbv

end RasterText
