import RasterText.Proofs.Template.Tokenization
set_option autoImplicit false

/-!
Tokens and their written form. The tokens of a text are normal, and a list of tokens is read back
from its written form exactly if it is normal: a marker in the form with a dollar sign never joins
the text in front of it, however that text ends.
-/

namespace RasterText

def MarkerFree (s : Text) : Prop :=
  ∀ front m back, Marker.Complete m → s ≠ front ++ (m.written ++ back)

/-- Text has something in it and no marker, a tag is an identifier that names no end of a block, and
the name of a block is made of letters, digits and underscores. -/
def Token.Normal : Token → Prop
  | text value => value ≠ [] ∧ MarkerFree value
  | tag name => isIdentifier name = true ∧
      ∀ block, block ≠ [] → name ≠ startKeyword block ∧ name ≠ endKeyword block
  | blockStart name | blockEnd name => name ≠ [] ∧ ∀ c ∈ name, isIdentifierTail c = true

structure NormalTokens (tokens : List Token) : Prop where
  normal : ∀ t ∈ tokens, t.Normal
  apart : tokens.IsChain fun t u => t.keyword = none → u.keyword ≠ none

def writeTokens (tokens : List Token) : Text := tokens.flatMap Token.written

theorem writeTokens_cons (t : Token) (rest : List Token) :
    writeTokens (t :: rest) = t.written ++ writeTokens rest := List.flatMap_cons

theorem markerFree_iff {s : Text} : MarkerFree s ↔ firstMarker? s = none :=
  firstMarker?_eq_none_iff.symm

section Keywords

variable {name : Text}

theorem isIdentifier_append_iff {lead : Text} (hl : isIdentifier lead = true) :
    isIdentifier (lead ++ name) = true ↔ ∀ c ∈ name, isIdentifierTail c = true := by
  cases lead with
  | nil => cases hl
  | cons c r =>
    obtain ⟨hc, hr⟩ := isIdentifier_cons.1 hl
    rw [List.cons_append, isIdentifier_cons, List.forall_mem_append]
    exact ⟨fun h => h.2.2, fun h => ⟨hc, hr, h⟩⟩

theorem isIdentifier_startKeyword :
    isIdentifier (Token.startKeyword name) = true ↔ ∀ c ∈ name, isIdentifierTail c = true :=
  isIdentifier_append_iff (by decide : isIdentifier Token.startLead = true)

theorem isIdentifier_endKeyword :
    isIdentifier (Token.endKeyword name) = true ↔ ∀ c ∈ name, isIdentifierTail c = true :=
  isIdentifier_append_iff (by decide : isIdentifier Token.endLead = true)

theorem strip?_startLead_endKeyword : Text.strip? Token.startLead (Token.endKeyword name) = none :=
  rfl

theorem ofIdentifier_startKeyword :
    Token.ofIdentifier (Token.startKeyword name) = .blockStart name ↔ name ≠ [] := by
  cases name with
  | nil => decide
  | cons c r => simp [Token.ofIdentifier, Token.startKeyword, Text.strip?_append]

theorem ofIdentifier_endKeyword :
    Token.ofIdentifier (Token.endKeyword name) = .blockEnd name ↔ name ≠ [] := by
  cases name with
  | nil => decide
  | cons c r =>
    rw [Token.ofIdentifier, strip?_startLead_endKeyword]
    simp [Token.endKeyword, Text.strip?_append]

theorem ofIdentifier_eq_tag : Token.ofIdentifier name = .tag name ↔
    ∀ block, block ≠ [] → name ≠ Token.startKeyword block ∧ name ≠ Token.endKeyword block := by
  constructor
  · intro h block hb
    constructor
    · rintro rfl
      rw [ofIdentifier_startKeyword.2 hb] at h
      cases h
    · rintro rfl
      rw [ofIdentifier_endKeyword.2 hb] at h
      cases h
  · intro h
    have hk := Token.keyword_ofIdentifier name
    cases ht : Token.ofIdentifier name with
    | text value => exact absurd ht (ofIdentifier_ne_text name value)
    | tag other =>
      rw [ht] at hk
      rw [Option.some.inj hk]
    | blockStart block =>
      rw [ht] at hk
      obtain rfl : Token.startKeyword block = name := Option.some.inj hk
      exact absurd rfl (h block (ofIdentifier_startKeyword.1 ht)).1
    | blockEnd block =>
      rw [ht] at hk
      obtain rfl : Token.endKeyword block = name := Option.some.inj hk
      exact absurd rfl (h block (ofIdentifier_endKeyword.1 ht)).2

theorem normal_iff_of_keyword {t : Token} (h : t.keyword = some name) :
    t.Normal ↔ isIdentifier name = true ∧ Token.ofIdentifier name = t := by
  cases t with
  | text value => cases h
  | tag other =>
    obtain rfl : other = name := Option.some.inj h
    exact and_congr_right fun _ => ofIdentifier_eq_tag.symm
  | blockStart block =>
    obtain rfl : Token.startKeyword block = name := Option.some.inj h
    rw [isIdentifier_startKeyword, ofIdentifier_startKeyword, Token.Normal, and_comm]
  | blockEnd block =>
    obtain rfl : Token.endKeyword block = name := Option.some.inj h
    rw [isIdentifier_endKeyword, ofIdentifier_endKeyword, Token.Normal, and_comm]

theorem normal_ofIdentifier (h : isIdentifier name = true) : (Token.ofIdentifier name).Normal :=
  (normal_iff_of_keyword (Token.keyword_ofIdentifier name)).2 ⟨h, rfl⟩

end Keywords

def Marker.plain (name : Text) : Marker := ⟨['$', '('] ++ name ++ [')'], name⟩

theorem Marker.complete_plain {name : Text} (h : isIdentifier name = true) :
    (Marker.plain name).Complete := ⟨h, _, ')', .inr rfl, .inr rfl, rfl⟩

theorem written_of_keyword {t : Token} {name : Text} (h : t.keyword = some name) :
    t.written = (Marker.plain name).written := by
  cases t with
  | text value => cases h
  | tag other | blockStart other | blockEnd other =>
    cases h
    rfl

theorem Marker.Complete.dollar_not_mem {m : Marker} (h : m.Complete) {front back : Text}
    (hf : front ≠ []) : m.written ≠ front ++ '$' :: back := by
  obtain ⟨hn, opener, closer, ho, hc, hw⟩ := h
  have hname : '$' ∉ m.name := fun hm =>
    absurd (isIdentifierTail_of_mem hn '$' hm) (by decide)
  have hcloser : closer ≠ '$' := by rcases hc with rfl | rfl <;> decide
  have htail : '$' ∉ m.written.tail := by
    rw [hw]
    rcases ho with rfl | rfl <;> simp [hname, hcloser.symm]
  intro he
  obtain ⟨c, r, rfl⟩ := List.exists_cons_of_ne_nil hf
  exact htail (by simp [he])

theorem firstMarker?_append_plain {value name : Text} (hv : MarkerFree value)
    (hn : isIdentifier name = true) (rest : Text) :
    firstMarker? (value ++ ((Marker.plain name).written ++ rest)) =
      some (value, Marker.plain name, rest) := by
  refine firstMarker?_eq_some_iff.2 ⟨⟨Marker.complete_plain hn, rfl⟩, ?_⟩
  intro front m back hm hs
  by_contra hlt
  -- a marker that begins in the text either ends there or goes on over the dollar sign
  obtain ⟨t, hvt, ht⟩ : ∃ t, value = front ++ t ∧
      t ++ ((Marker.plain name).written ++ rest) = m.written ++ back := by
    rcases List.append_eq_append_iff.1 hs with ⟨t, hf, -⟩ | ⟨t, hv, hb⟩
    · exact absurd (by simp [hf] : value.length ≤ front.length) hlt
    · exact ⟨t, hv, hb.symm⟩
  have hne : t ≠ [] := by
    rintro rfl
    simp [hvt] at hlt
  rcases List.append_eq_append_iff.1 ht with ⟨u, hu, hp⟩ | ⟨u, hu, -⟩
  · cases u with
    | nil => exact hv front m [] hm (by rw [hvt, hu]; simp)
    | cons c u =>
      obtain rfl : '$' = c := by
        rw [Marker.plain] at hp
        exact (List.cons.inj hp).1
      exact hm.dollar_not_mem hne hu
  · exact hv front m u hm (by rw [hvt, hu])

theorem tokensOf_append_written {value name : Text} {t : Token} (hv : MarkerFree value)
    (hk : t.keyword = some name) (ht : t.Normal) (s : Text) :
    tokensOf (value ++ (t.written ++ s)) = textToken value ++ t :: tokensOf s := by
  obtain ⟨hn, hi⟩ := (normal_iff_of_keyword hk).1 ht
  rw [written_of_keyword hk, tokensOf_of_some (firstMarker?_append_plain hv hn s)]
  exact congrArg (textToken value ++ · :: tokensOf s) hi

theorem markerFree_nil : MarkerFree [] := markerFree_iff.2 firstMarker?_nil

theorem tokensOf_writeTokens {tokens : List Token} (h : NormalTokens tokens) :
    tokensOf (writeTokens tokens) = tokens := by
  obtain ⟨hn, ha⟩ := h
  induction tokens with
  | nil => exact tokensOf_of_none firstMarker?_nil
  | cons t rest ih =>
    rw [List.forall_mem_cons] at hn
    have hrest := ih hn.2 (List.isChain_cons.1 ha).2
    cases hk : t.keyword with
    | some name =>
      have h := tokensOf_append_written markerFree_nil hk hn.1 (writeTokens rest)
      rw [writeTokens_cons, ← List.nil_append (t.written ++ _), h, hrest]
      rfl
    | none =>
      obtain ⟨value, rfl⟩ := keyword_eq_none.1 hk
      obtain ⟨hne, hv⟩ := hn.1
      have ht : textToken value = [.text value] := if_neg hne
      cases rest with
      | nil =>
        have h := tokensOf_of_none (markerFree_iff.1 hv)
        rw [ht] at h
        simpa [writeTokens, Token.written] using h
      | cons u rest =>
        -- a text is followed by a marker, behind which the rest is read as it was
        have hu : u.keyword ≠ none := (List.isChain_cons_cons.1 ha).1 rfl
        obtain ⟨name, hu⟩ := Option.ne_none_iff_exists'.1 hu
        have hun := hn.2 u (by simp)
        have h := tokensOf_append_written markerFree_nil hu hun (writeTokens rest)
        rw [writeTokens_cons, ← List.nil_append (u.written ++ _), h] at hrest
        obtain ⟨-, hrest⟩ := List.cons.inj hrest
        rw [writeTokens_cons, writeTokens_cons, Token.written,
          tokensOf_append_written hv hu hun, hrest, ht]
        rfl

theorem normalTokens_append {front rest : List Token} {t : Token} (hf : NormalTokens front)
    (hk : t.keyword ≠ none) (ht : t.Normal) (hr : NormalTokens rest) :
    NormalTokens (front ++ t :: rest) where
  normal := by
    rw [List.forall_mem_append, List.forall_mem_cons]
    exact ⟨hf.normal, ht, hr.normal⟩
  apart := by
    refine List.isChain_append.2 ⟨hf.apart, List.isChain_cons.2 ⟨?_, hr.apart⟩, ?_⟩
    · intro u _ hn
      exact absurd hn hk
    · intro u _ v hv _
      obtain rfl : t = v := by simpa using hv
      exact hk

theorem normalTokens_textToken {s : Text} (h : MarkerFree s) : NormalTokens (textToken s) := by
  by_cases hs : s = []
  · rw [textToken, if_pos hs]
    exact ⟨by simp, .nil⟩
  · rw [textToken, if_neg hs]
    exact ⟨by simpa [Token.Normal] using ⟨hs, h⟩, .singleton _⟩

theorem normalTokens_tokensOf (s : Text) : NormalTokens (tokensOf s) := by
  induction s using firstMarker?_induction with
  | last s h =>
    rw [tokensOf_of_none h]
    exact normalTokens_textToken (markerFree_iff.2 h)
  | next s before m rest h ih =>
    have hbefore := normalTokens_textToken (markerFree_iff.2 (firstMarker?_before h))
    have hm := normal_ofIdentifier (firstMarker?_eq_some h).1.1
    rw [tokensOf_of_some h]
    exact normalTokens_append hbefore (keyword_ofIdentifier_ne_none m.name) hm ih

/-- The tokens of every text are normal, and of all lists of tokens exactly the normal ones are read
back from their written form. -/
theorem normalTokens_iff_lex_writeTokens :
    (∀ s : Text, NormalTokens ((lex s).map Lexeme.token)) ∧
      ∀ tokens, NormalTokens tokens ↔ (lex (writeTokens tokens)).map Lexeme.token = tokens := by
  refine ⟨normalTokens_tokensOf, fun tokens => ⟨tokensOf_writeTokens, fun h => ?_⟩⟩
  have hn := normalTokens_tokensOf (writeTokens tokens)
  rwa [show tokensOf (writeTokens tokens) = tokens from h] at hn

example :
    let tokens : List Token :=
      [.text "@a$(b".toList, .blockStart "1x".toList, .text "@c$".toList, .tag "end_block_".toList]
    (lex (writeTokens tokens)).map Lexeme.token = tokens := by cbv

end RasterText
