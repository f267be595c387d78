import Mathlib
import RasterText.Proofs.Charset.Distinct
import RasterText.Proofs.Document.Constants
import RasterText.Proofs.Document.Conversion
import RasterText.Proofs.Document.Failure
set_option autoImplicit false

namespace RasterText

section Characters

variable {c : Char}

theorem isIdentifierTail_of_isHexDigit (h : isHexDigit c = true) : isIdentifierTail c = true := by
  rw [isHexDigit, Bool.or_eq_true, Bool.and_eq_true, decide_eq_true_iff, decide_eq_true_iff] at h
  rcases h with h | ⟨ha, hf⟩
  · simp [isIdentifierTail, h]
  · have hlow : c.isLower = true := by
      rw [Char.isLower, Bool.and_eq_true, decide_eq_true_iff, decide_eq_true_iff]
      exact ⟨ha, Char.le_trans hf (by decide)⟩
    simp [isIdentifierTail, isIdentifierHead, Char.isAlpha, hlow]

theorem isIdentifierTail_of_isAlphanum (h : c.isAlphanum = true) : isIdentifierTail c = true := by
  rw [Char.isAlphanum, Bool.or_eq_true] at h
  rcases h with h | h
  · simp [isIdentifierTail, isIdentifierHead, h]
  · simp [isIdentifierTail, h]

theorem isIdentifierHead_of_isDigit (h : c.isDigit = true) : isIdentifierHead c = false := by
  have hd : 48 ≤ c.toNat ∧ c.toNat ≤ 57 := by
    simpa [Char.isDigit, UInt32.le_iff_toNat_le] using h
  have he : isIdentifierHead c = (c == '_' || (decide (65 ≤ c.val ∧ c.val ≤ 90) ||
      97 ≤ c.val && c.val ≤ 122)) := rfl
  simp only [he, Bool.or_eq_false_iff, Bool.and_eq_false_iff, decide_eq_false_iff_not,
    beq_eq_false_iff_ne, UInt32.le_iff_toNat_le, ne_eq, ← Char.toNat_inj, Char.toNat_val,
    UInt32.reduceToNat]
  have hu : '_'.toNat = 95 := rfl
  omega

end Characters

section Names

variable {s t : Text}

theorem isIdentifier_append (hs : s ≠ []) (ht : ∀ c ∈ t, isIdentifierTail c = true) :
    isIdentifier (s ++ t) = isIdentifier s := by
  cases s with
  | nil => exact absurd rfl hs
  | cons c r =>
    rw [List.cons_append, isIdentifier, isIdentifier, List.all_append, List.all_eq_true.2 ht,
      Bool.and_true]

theorem isIdentifier_dataName (ht : ∀ c ∈ t, isIdentifierTail c = true) :
    isIdentifier (Constant.dataName t) = true := by
  rw [Constant.dataName, isIdentifier_append (by decide +kernel) ht]
  decide +kernel

theorem eq_of_append_code {lead lead' code code' : Text}
    (hc : ∀ d ∈ code, isHexDigit d = true) (hc' : ∀ d ∈ code', isHexDigit d = true)
    (h : lead ++ "_0x".toList ++ code = lead' ++ "_0x".toList ++ code') : code = code' := by
  have hx {digits : Text} (hd : ∀ d ∈ digits, isHexDigit d = true) : 'x' ∉ digits.reverse :=
    fun hm => absurd (hd 'x' (List.mem_reverse.1 hm)) (by decide)
  have hr := congrArg List.reverse h
  simp only [List.reverse_append] at hr
  exact List.reverse_injective (eq_of_append_cons_eq (hx hc) (hx hc') hr).1

end Names

def startsWithDigit (name : Text) : Bool := name.head?.any Char.isDigit

theorem isIdentifierTail_of_mem_identifierOf {name : Text} {c : Char} (h : c ∈ identifierOf name) :
    isIdentifierTail c = true := by
  obtain ⟨d, -, rfl⟩ := List.mem_map.1 h
  split
  · next hd => exact isIdentifierTail_of_isAlphanum hd
  · rfl

/-- Every character of a name gives way to one that an identifier can have, but a digit in front
stays in front. -/
theorem isIdentifier_identifierOf {name : Text} (hn : name ≠ []) :
    isIdentifier (identifierOf name) = !startsWithDigit name := by
  cases name with
  | nil => exact absurd rfl hn
  | cons c r =>
    have hr : (identifierOf r).all isIdentifierTail = true :=
      List.all_eq_true.2 fun d => isIdentifierTail_of_mem_identifierOf
    have hi : identifierOf (c :: r) = (if c.isAlphanum then c else '_') :: identifierOf r := rfl
    have hs : startsWithDigit (c :: r) = c.isDigit := rfl
    rw [hi, isIdentifier, hr, Bool.and_true, hs]
    cases hd : c.isDigit with
    | true => rw [if_pos (by simp [Char.isAlphanum, hd]), isIdentifierHead_of_isDigit hd]; rfl
    | false =>
      cases ha : c.isAlpha with
      | true => simp [Char.isAlphanum, isIdentifierHead, ha]
      | false => simp [Char.isAlphanum, ha, hd, isIdentifierHead]

theorem exists_name_eq_append_code {lookup : Text → Option Text} {d : Constant}
    (hd : d ∈ DocumentKind.font.itemConstants lookup) :
    ∃ lead, d.name = lead ++ "_0x".toList ++ resolve lookup "charCode".toList := by
  rcases List.mem_pair.1 hd with rfl | rfl
  · exact ⟨Constant.dataLead ++ documentIdentifier lookup, by
      simp only [Constant.imageData, Constant.dataName, glyphName, List.append_assoc]⟩
  · exact ⟨documentIdentifier lookup, rfl⟩

namespace Renderer.ScopeFor

variable {r : Renderer} {base : Tags} {key : Text} {lookup : Text → Option Text}

theorem isHexDigit_charCode (h : r.ScopeFor base key lookup) :
    ∀ c ∈ resolve lookup "charCode".toList, isHexDigit c = true := by
  have hc := h.charCode_eq
  cases key with
  | nil =>
    rw [← Except.ok.inj hc]
    exact fun c hm => absurd hm List.not_mem_nil
  | cons c rest =>
    rw [charCode, mapError_eq_ok] at hc
    exact isHexDigit_of_mem_characterCode hc

theorem exists_name_eq_iff {key' : Text} {lookup' : Text → Option Text}
    (h : r.ScopeFor base key lookup) (h' : r.ScopeFor base key' lookup') :
    (∃ d ∈ DocumentKind.font.itemConstants lookup, ∃ d' ∈ DocumentKind.font.itemConstants lookup',
      d.name = d'.name) ↔ r.charCode key = r.charCode key' := by
  rw [h.charCode_eq, h'.charCode_eq, Except.ok.injEq]
  constructor
  · rintro ⟨d, hd, d', hd', heq⟩
    obtain ⟨lead, hn⟩ := exists_name_eq_append_code hd
    obtain ⟨lead', hn'⟩ := exists_name_eq_append_code hd'
    rw [hn, hn'] at heq
    exact eq_of_append_code h.isHexDigit_charCode h'.isHexDigit_charCode heq
  · intro hcode
    have hname : glyphName lookup = glyphName lookup' := by
      rw [glyphName, glyphName, hcode, h.documentIdentifier_eq, h'.documentIdentifier_eq]
    exact ⟨_, List.mem_cons_self, _, List.mem_cons_self, congrArg Constant.dataName hname⟩

end Renderer.ScopeFor

section Documents

variable {r : Renderer} {base : Tags} {keys : List Text} {scopes : List (Text → Option Text)}

theorem exists_name_of_mem_constants (h : List.Forall₂ (r.ScopeFor base) keys scopes)
    {kind : DocumentKind} {d : Constant} (hd : d ∈ kind.constants base.get? scopes) :
    ∃ t, (∀ c ∈ t, isIdentifierTail c = true) ∧
      (d.name = Constant.dataName (documentIdentifier base.get? ++ t) ∨
        d.name = documentIdentifier base.get? ++ t) := by
  rcases List.mem_append.1 hd with hd | hd
  · obtain ⟨lookup, hl, hd⟩ := List.mem_flatMap.1 hd
    obtain ⟨key, hs⟩ : ∃ key, r.ScopeFor base key lookup := by
      obtain ⟨i, rfl⟩ := List.mem_iff_get.1 hl
      obtain ⟨hlen, hget⟩ := List.forall₂_iff_get.1 h
      exact ⟨_, hget i (by rw [hlen]; exact i.isLt) i.isLt⟩
    have hid := hs.documentIdentifier_eq
    cases kind with
    | image =>
      refine ⟨[], by simp, ?_⟩
      rw [List.append_nil, ← hid]
      exact (List.mem_pair.1 hd).imp (congrArg Constant.name) (congrArg Constant.name)
    | font =>
      refine ⟨"_0x".toList ++ resolve lookup "charCode".toList, fun c hc => ?_, ?_⟩
      · rcases List.mem_append.1 hc with hc | hc
        · exact List.all_eq_true.1 (by decide +kernel) c hc
        · exact isIdentifierTail_of_isHexDigit (hs.isHexDigit_charCode c hc)
      · rw [← hid, ← List.append_assoc]
        exact (List.mem_pair.1 hd).imp (congrArg Constant.name) (congrArg Constant.name)
  · cases kind with
    | image => cases hd
    | font =>
      rcases List.mem_pair.1 hd with rfl | rfl
      · exact ⟨"_array".toList, List.all_eq_true.1 (by decide +kernel), .inr rfl⟩
      · exact ⟨[], by simp, .inr (List.append_nil _).symm⟩

theorem names_imageConstants (h : List.Forall₂ (r.ScopeFor base) keys scopes) :
    (DocumentKind.image.constants base.get? scopes).map Constant.name =
      keys.flatMap fun _ => [Constant.dataName (documentIdentifier base.get?),
        documentIdentifier base.get?] := by
  induction h with
  | nil => rfl
  | @cons key lookup keys scopes hs _ ih =>
    have hc : DocumentKind.image.constants base.get? (lookup :: scopes) =
        DocumentKind.image.itemConstants lookup ++
          DocumentKind.image.constants base.get? scopes := by
      simp [DocumentKind.constants, DocumentKind.closingConstants]
    have hn : (DocumentKind.image.itemConstants lookup).map Constant.name =
        [Constant.dataName (documentIdentifier base.get?), documentIdentifier base.get?] := by
      rw [← hs.documentIdentifier_eq]
      rfl
    rw [hc, List.map_append, hn, ih, List.flatMap_cons]

end Documents

theorem dataName_ne (name : Text) : Constant.dataName name ≠ name := by
  intro h
  have hl := congrArg List.length h
  have hlead : Constant.dataLead.length = 11 := by decide
  rw [Constant.dataName, List.length_append] at hl
  omega

theorem nodup_flatMap_pair_iff {α β : Type} {a b : α} (hab : a ≠ b) (l : List β) :
    (l.flatMap fun _ => [a, b]).Nodup ↔ l.length ≤ 1 := by
  cases l with
  | nil => simp
  | cons x l =>
    cases l with
    | nil => simp [hab]
    | cons y l => simp [List.flatMap_cons]

theorem Preset.get?_tags_documentName_ws (p : Preset) :
    p.tags.get? "documentName_ws".toList = none := by
  rw [tags, Tags.get?_ofList]
  rfl

theorem ConvertConfig.documentIdentifier_documentTags (c : ConvertConfig) (name : Text)
    (body : TemplateBody) (count : Nat) :
    documentIdentifier ((c.withDocumentName name).documentTags body count).get? =
      identifierOf name := by
  have hn : "documentName_ws".toList ≠ "imagesCount".toList := by decide +kernel
  have hi : "documentName_ws".toList ≠ indentTag := by decide +kernel
  have ht : "documentName_ws".toList ≠ "templateFile".toList := by decide +kernel
  rw [documentIdentifier, resolve, get?_documentTags, if_neg hn, if_neg hi, if_neg ht,
    Preset.get?_tags_documentName_ws, Option.none_or, withDocumentName, Tags.get?_merge,
    RasterText.documentTags, Tags.get?_insert, if_pos rfl]
  rfl

/-- Two characters have the same code under an encoding form of Unicode if and only if they are the
same, or the same low surrogate is all that is shown of them. Where they are keys of a font, two of
their constants have one name if and only if the codes are the same. -/
theorem characterCode_distinct {label : Text} (hl : label ∈ Charset.unicodeLabels) (bom : Bool)
    (c d : Char) :
    ∃ code code', characterCode c label bom = .ok code ∧ characterCode d label bom = .ok code' ∧
      (code = code' ↔ c = d ∨ label ∈ Charset.pairLabels ∧ bom = false ∧ 0x10000 ≤ c.toNat ∧
        0x10000 ≤ d.toNat ∧ c.toNat % 0x400 = d.toNat % 0x400) ∧
      ∀ (config : ConvertConfig) (items : ItemSource) (pipeline : Pipeline) (text : Text),
        config.preset.font = ⟨bom, label⟩ →
        config.renderBody items pipeline (.builtin .font) = .ok text →
        ∃ scopes, text = DocumentKind.font.document
            (config.documentTags (.builtin .font) items.count).get? scopes ∧
          scopes.length = items.keys.length ∧
          ∀ s t lookup lookup', (c :: s, lookup) ∈ items.keys.zip scopes →
            (d :: t, lookup') ∈ items.keys.zip scopes →
            ((∃ x ∈ DocumentKind.font.itemConstants lookup,
              ∃ y ∈ DocumentKind.font.itemConstants lookup', x.name = y.name) ↔ code = code') := by
  obtain ⟨charset, hs, hu, hp⟩ := Charset.exists_isUnicode_of_label label hl
  have hc := characterCode_of_label hs c bom
  have hd := characterCode_of_label hs d bom
  refine ⟨_, _, hc, hd, ?_, fun config items pipeline text hf ht => ?_⟩
  · rw [Charset.code_eq_iff hu, Charset.SharesCode, hp]
  · obtain ⟨scopes, rfl, hall⟩ := ConvertConfig.exists_scopes_of_renderBody ht
    obtain ⟨hlen, hzip⟩ := List.forall₂_iff_zip.1 hall
    refine ⟨scopes, rfl, hlen.symm, fun s t lookup lookup' hm hm' => ?_⟩
    rw [(hzip hm).exists_name_eq_iff (hzip hm')]
    simp only [Renderer.charCode, hf, hc, hd]
    exact ⟨fun heq => Except.ok.inj heq, fun heq => congrArg Except.ok heq⟩

def letterItems : ItemSource :=
  ⟨[['A'], ['B']], fun _ =>
    some ⟨2, 1, #[⟨0, 0, 0, 255⟩, ⟨0, 0, 0, 255⟩], by decide⟩⟩

def letterConfig : ConvertConfig where
  preset := { font := ⟨true, "UTF-16".toList⟩ }
  kind := .font

theorem exists_renderBody_letterItems (c : ConvertConfig) (kind : DocumentKind)
    (h : c.preset.tableFault? [['A'], ['B']] = none) :
    ∃ text, c.renderBody letterItems .standard (.builtin kind) = .ok text := by
  rw [← errorOf_eq_none, c.errorOf_renderBody_builtin fun _ _ => ⟨_, rfl⟩]
  exact h

theorem characterCode_distinct_letters :
    "UTF-16".toList ∈ Charset.unicodeLabels ∧
      letterConfig.preset.font = ⟨true, "UTF-16".toList⟩ ∧
      ∃ text lookup lookup',
        letterConfig.renderBody letterItems .standard (.builtin .font) = .ok text ∧
        text = DocumentKind.font.document
          (letterConfig.documentTags (.builtin .font) 2).get? [lookup, lookup'] ∧
        ¬ ∃ x ∈ DocumentKind.font.itemConstants lookup,
          ∃ y ∈ DocumentKind.font.itemConstants lookup', x.name = y.name := by
  have hl : "UTF-16".toList ∈ Charset.unicodeLabels := by simp [Charset.unicodeLabels]
  obtain ⟨text, ht⟩ := exists_renderBody_letterItems letterConfig .font (by decide +kernel)
  obtain ⟨code, code', -, -, hiff, hfont⟩ := characterCode_distinct hl true 'A' 'B'
  have hne : code ≠ code' := fun h => absurd (hiff.1 h) (by decide)
  obtain ⟨scopes, htext, hlen, hnames⟩ := hfont letterConfig letterItems .standard text rfl ht
  obtain ⟨lookup, lookup', rfl⟩ := List.length_eq_two.1 hlen
  refine ⟨hl, rfl, text, lookup, lookup', ht, htext, fun hshared => hne ?_⟩
  have hb : (['B'], lookup') ∈ [(['A'], lookup), (['B'], lookup')] :=
    List.mem_cons_of_mem _ List.mem_cons_self
  exact (hnames [] [] lookup lookup' List.mem_cons_self hb).1 hshared

theorem characterCode_not_injective :
    ¬ ∀ label ∈ Charset.unicodeLabels, ∀ (bom : Bool) (c d : Char),
      characterCode c label bom = characterCode d label bom → c = d := by
  intro h
  have hs : Charset.ofLabel? "UTF-16".toList = some (.utf16 true .littleEndian) := by decide
  have hcode := h "UTF-16".toList (by simp [Charset.unicodeLabels]) false (Char.ofNat 0x10000)
    (Char.ofNat 0x10400)
  rw [characterCode_of_label hs, characterCode_of_label hs] at hcode
  exact absurd (hcode (by decide +kernel)) (by decide)

/-- The constants of a document whose name is given have identifiers for names unless the name
begins with a digit, which leaves the names for the words of images. -/
theorem isIdentifier_name_iff (c : ConvertConfig) {name : Text} (hn : name ≠ [])
    (items : ItemSource) (pipeline : Pipeline) (kind : DocumentKind) {text : Text}
    (h : (c.withDocumentName name).renderBody items pipeline (.builtin kind) = .ok text) :
    ∃ scopes, text = kind.document
        ((c.withDocumentName name).documentTags (.builtin kind) items.count).get? scopes ∧
      scopes.length = items.keys.length ∧
      ∀ d ∈ kind.constants
          ((c.withDocumentName name).documentTags (.builtin kind) items.count).get? scopes,
        isIdentifier d.name = true ↔
          startsWithDigit name = false ∨ ∃ s, d.name = Constant.dataName s := by
  obtain ⟨scopes, htext, hall⟩ := ConvertConfig.exists_scopes_of_renderBody h
  refine ⟨scopes, htext, hall.length_eq.symm, fun d hd => ?_⟩
  obtain ⟨t, ht, hname⟩ := exists_name_of_mem_constants hall hd
  rw [ConvertConfig.documentIdentifier_documentTags] at hname
  have htail : ∀ c ∈ identifierOf name ++ t, isIdentifierTail c = true := fun c hc =>
    (List.mem_append.1 hc).elim isIdentifierTail_of_mem_identifierOf (ht c)
  have hne : identifierOf name ≠ [] := by simpa [identifierOf] using hn
  rcases hname with hname | hname
  · rw [hname]
    exact ⟨fun _ => .inr ⟨_, rfl⟩, fun _ => isIdentifier_dataName htail⟩
  · rw [hname, isIdentifier_append hne ht, isIdentifier_identifierOf hn, Bool.not_eq_true']
    refine ⟨.inl, fun hd => hd.elim id fun ⟨s, hs⟩ => ?_⟩
    -- behind the lead of a name for words there are the characters of an identifier
    have hid : isIdentifier (identifierOf name ++ t) = true := by
      rw [hs]
      refine isIdentifier_dataName fun c hc => htail c ?_
      rw [hs, Constant.dataName]
      exact List.mem_append_right _ hc
    rwa [isIdentifier_append hne ht, isIdentifier_identifierOf hn, Bool.not_eq_true'] at hid

theorem isIdentifier_name_iff_digits :
    "8x8".toList ≠ [] ∧
      ∃ text scopes,
        (letterConfig.withDocumentName "8x8".toList).renderBody letterItems .standard
          (.builtin .font) = .ok text ∧
        text = DocumentKind.font.document ((letterConfig.withDocumentName "8x8".toList).documentTags
          (.builtin .font) 2).get? scopes ∧
        scopes.length = 2 ∧
        ∀ d ∈ DocumentKind.font.constants ((letterConfig.withDocumentName "8x8".toList).documentTags
            (.builtin .font) 2).get? scopes,
          isIdentifier d.name = true ↔ ∃ s, d.name = Constant.dataName s := by
  have hn : "8x8".toList ≠ [] := by decide +kernel
  obtain ⟨text, ht⟩ := exists_renderBody_letterItems
    (letterConfig.withDocumentName "8x8".toList) .font (by decide +kernel)
  obtain ⟨scopes, htext, hlen, hnames⟩ := isIdentifier_name_iff letterConfig hn _ _ _ ht
  refine ⟨hn, text, scopes, ht, htext, hlen, fun d hd => ?_⟩
  have hd := hnames d hd
  rwa [show startsWithDigit "8x8".toList = true by decide +kernel, Bool.true_eq_false,
    false_or] at hd

/-- A document of images has two names, that of the words and that of the image, which it declares
once for every item: the names are pairwise distinct if and only if there is at most one item. -/
theorem nodup_imageNames_iff (c : ConvertConfig) (name : Text) (items : ItemSource)
    (pipeline : Pipeline) {text : Text}
    (h : (c.withDocumentName name).renderBody items pipeline (.builtin .image) = .ok text) :
    ∃ scopes, text = DocumentKind.image.document
        ((c.withDocumentName name).documentTags (.builtin .image) items.count).get? scopes ∧
      scopes.length = items.count ∧
      (DocumentKind.image.constants ((c.withDocumentName name).documentTags
          (.builtin .image) items.count).get? scopes).map Constant.name =
        items.keys.flatMap (fun _ =>
          [Constant.dataName (identifierOf name), identifierOf name]) ∧
      (((DocumentKind.image.constants ((c.withDocumentName name).documentTags
          (.builtin .image) items.count).get? scopes).map Constant.name).Nodup ↔
        items.count ≤ 1) := by
  obtain ⟨scopes, htext, hall⟩ := ConvertConfig.exists_scopes_of_renderBody h
  have hnames := names_imageConstants hall
  rw [ConvertConfig.documentIdentifier_documentTags] at hnames
  refine ⟨scopes, htext, hall.length_eq.symm, hnames, ?_⟩
  rw [hnames, nodup_flatMap_pair_iff (dataName_ne _), ItemSource.count]

theorem nodup_imageNames_iff_letters :
    ∃ text scopes,
      (letterConfig.withDocumentName "icons".toList).renderBody letterItems .standard
        (.builtin .image) = .ok text ∧
      text = DocumentKind.image.document ((letterConfig.withDocumentName "icons".toList).documentTags
        (.builtin .image) 2).get? scopes ∧
      scopes.length = 2 ∧
      (DocumentKind.image.constants ((letterConfig.withDocumentName "icons".toList).documentTags
          (.builtin .image) 2).get? scopes).map Constant.name =
        ["image_data_icons".toList, "icons".toList, "image_data_icons".toList, "icons".toList] ∧
      ¬ ((DocumentKind.image.constants ((letterConfig.withDocumentName
          "icons".toList).documentTags (.builtin .image) 2).get? scopes).map Constant.name).Nodup := by
  obtain ⟨text, ht⟩ := exists_renderBody_letterItems
    (letterConfig.withDocumentName "icons".toList) .image (by decide +kernel)
  obtain ⟨scopes, htext, hlen, hnames, hnodup⟩ := nodup_imageNames_iff letterConfig _ _ _ ht
  refine ⟨text, scopes, ht, htext, hlen, hnames.trans (by decide +kernel), fun hd => ?_⟩
  exact absurd (hnodup.1 hd) (by decide)

end RasterText
