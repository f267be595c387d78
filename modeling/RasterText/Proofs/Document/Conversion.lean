import Mathlib
import RasterText.Document.Convert
import RasterText.Files.Tree
import RasterText.Proofs.Document.TagUse
set_option autoImplicit false

namespace RasterText

theorem Preset.get?_tags_indent (p : Preset) : p.tags.get? indentTag = none := by
  rw [tags, Tags.get?_ofList]
  rfl

theorem Preset.exists_get?_tags (p : Preset) {name : Text} (h : name ∈ p.tagEntries.map Prod.fst) :
    ∃ value, p.tags.get? name = some value := by
  rw [tags, Tags.get?_ofList]
  exact exists_lookup (by rwa [List.map_reverse, List.mem_reverse])

theorem eq_tag_of_keyword {t : Token} (h : t.keyword = some indentTag) : t = .tag indentTag := by
  have hi : indentTag.head? = some 'i' := rfl
  cases t with
  | text value => exact absurd h (Option.some_ne_none indentTag).symm
  | tag name => exact congrArg Token.tag (Option.some.inj h)
  | blockStart name =>
    have hs : (Token.startKeyword name).head? = some 's' := rfl
    rw [Option.some.inj h, hi] at hs
    exact absurd hs (by decide)
  | blockEnd name =>
    have he : (Token.endKeyword name).head? = some 'e' := rfl
    rw [Option.some.inj h, hi] at he
    exact absurd he (by decide)

namespace Tags

variable {t : Tags}

theorem get?_withIndent (h : t.get? indentTag = none) (source name : Text) :
    (t.withIndent source).get? name =
      if name = indentTag then imageDataIndent source else t.get? name := by
  have hc : t.contains indentTag = false := by simp [contains, h]
  rw [withIndent, hc, if_neg (by simp)]
  cases hs : imageDataIndent source with
  | some indent => rw [get?_insert]
  | none =>
    by_cases hn : name = indentTag
    · rw [if_pos hn, hn, h]
    · rw [if_neg hn]

end Tags

namespace ConvertConfig

/-- The tags that a document with the given template shows: those of the caller, the indentation
apart, and over them those of the template, the preset and the items. -/
def shownTags (c : ConvertConfig) (body : TemplateBody) (count : Nat) : Tags :=
  (c.tags.erase indentTag).insert "templateFile".toList body.origin
    |>.merge c.preset.tags
    |>.insert "imagesCount".toList (decimal count)

def ownNames (c : ConvertConfig) : List Text :=
  "templateFile".toList :: indentTag :: "imagesCount".toList :: c.preset.tagEntries.map Prod.fst

variable (c : ConvertConfig) (body : TemplateBody) (count : Nat)

theorem get?_documentTags (name : Text) :
    (c.documentTags body count).get? name =
      if name = "imagesCount".toList then some (decimal count)
      else (c.preset.tags.get? name).or
        (if name = indentTag then some ((imageDataIndent body.text).getD defaultIndent)
        else if name = "templateFile".toList then some body.origin
        else c.tags.get? name) := by
  simp only [documentTags, Tags.get?_insert, Tags.get?_merge]

theorem get?_shownTags (name : Text) :
    (c.shownTags body count).get? name =
      if name = "imagesCount".toList then some (decimal count)
      else (c.preset.tags.get? name).or
        (if name = "templateFile".toList then some body.origin
        else if name = indentTag then none
        else c.tags.get? name) := by
  simp only [shownTags, Tags.get?_insert, Tags.get?_merge, Tags.get?_erase]

theorem get?_shownTags_indent : (c.shownTags body count).get? indentTag = none := by
  rw [get?_shownTags, if_neg (by decide), c.preset.get?_tags_indent, if_neg (by decide), if_pos rfl]
  rfl

theorem get?_withIndent_shownTags {name : Text} (h : name ≠ indentTag) :
    ((c.shownTags body count).withIndent body.text).get? name =
      (c.documentTags body count).get? name := by
  rw [Tags.get?_withIndent (c.get?_shownTags_indent body count), if_neg h, get?_shownTags,
    get?_documentTags, if_neg h, if_neg h]

theorem indent_withIndent_shownTags :
    ((c.shownTags body count).withIndent body.text).indent =
      (c.documentTags body count).indent := by
  rw [Tags.indent, Tags.indent, Tags.get?_withIndent (c.get?_shownTags_indent body count),
    if_pos rfl, get?_documentTags, if_neg (by decide), c.preset.get?_tags_indent, if_pos rfl]
  rfl

theorem renderBody_eq_renderTemplate (items : ItemSource)
    (h : ∀ x ∈ lex body.text, x.token ≠ .tag indentTag) :
    c.renderBody items .standard body =
      renderTemplate body.text (c.shownTags body items.count) items c.preset := by
  rw [renderBody, renderTemplate]
  cases hp : parse body.text with
  | error faults =>
    change Except.error (RenderError.parse faults) = Except.error (RenderError.parse faults)
    rfl
  | ok nodes =>
    -- the two mappings differ in the indentation tag alone, which the template does not name
    have hb : indentTag ∉ baseNames nodes := fun hm => by
      obtain ⟨x, hx, hk⟩ := exists_token_of_mem_keywordsOf hp (mem_keywordsOf_of_baseNames nodes hm)
      exact h x hx (eq_tag_of_keyword hk)
    change Renderer.render _ _ nodes = Renderer.render _ _ nodes
    refine Renderer.render_congr (c.indent_withIndent_shownTags body _).symm nodes fun k hk => ?_
    exact (c.get?_withIndent_shownTags body _ fun hi => hb (hi ▸ hk)).symm

theorem get?_documentTags_congr {tags : Tags}
    (h : ∀ name ∉ c.ownNames, tags.get? name = c.tags.get? name) (name : Text) :
    (({ c with tags } : ConvertConfig).documentTags body count).get? name =
      (c.documentTags body count).get? name := by
  rw [get?_documentTags, get?_documentTags]
  by_cases hc : name = "imagesCount".toList
  · rw [if_pos hc, if_pos hc]
  rw [if_neg hc, if_neg hc]
  by_cases hi : name = indentTag
  · rw [if_pos hi, if_pos hi]
  rw [if_neg hi, if_neg hi]
  by_cases ht : name = "templateFile".toList
  · rw [if_pos ht, if_pos ht]
  rw [if_neg ht, if_neg ht]
  -- what the preset has a value for is not looked up among the tags of the caller
  by_cases hp : name ∈ c.preset.tagEntries.map Prod.fst
  · obtain ⟨value, hv⟩ := c.preset.exists_get?_tags hp
    rw [hv, Option.some_or, Option.some_or]
  · have hn : name ∉ c.ownNames := by
      simp only [ownNames, List.mem_cons, not_or]
      exact ⟨ht, hi, hc, hp⟩
    rw [h name hn]

theorem renderBody_congr (items : ItemSource) (pipeline : Pipeline) {tags : Tags}
    (h : ∀ name ∉ c.ownNames, tags.get? name = c.tags.get? name) :
    ({ c with tags } : ConvertConfig).renderBody items pipeline body =
      c.renderBody items pipeline body := by
  have ht := c.get?_documentTags_congr body items.count h
  have hi : (({ c with tags } : ConvertConfig).documentTags body items.count).indent =
      (c.documentTags body items.count).indent := by
    rw [Tags.indent, Tags.indent, ht]
  have hr (nodes : List Node) := Renderer.render_congr (r := ⟨items, pipeline, c.preset⟩) hi nodes
    fun name _ => ht name
  simp only [renderBody, hr]

end ConvertConfig

section Files

variable {σ : Type} [FileAccess (StateM σ)] {items : ItemSource} {c : ConvertConfig}
variable {files after : σ} {body : TemplateBody}

theorem run_convert
    (h : (loadTemplate c.templatePath c.kind : StateM σ (Except Fault TemplateBody)).run files =
      (.ok body, after)) :
    (convert items c : StateM σ (Except RenderError Text)).run files =
      (c.renderBody items .standard body, after) := by
  simp only [convert, convertWith, StateT.run_bind, h]
  rfl

/-- A template that is read is rendered as any other, with the tags of the configuration over those
of the caller, which cannot take their place. -/
theorem convert_eq_renderTemplate
    (h : (loadTemplate c.templatePath c.kind : StateM σ (Except Fault TemplateBody)).run files =
      (.ok body, after)) :
    ((∀ x ∈ lex body.text, x.token ≠ .tag indentTag) →
      (convert items c : StateM σ (Except RenderError Text)).run files =
        (renderTemplate body.text (c.shownTags body items.keys.length) items c.preset, after)) ∧
      ∀ tags : Tags, (∀ name ∉ c.ownNames, tags.get? name = c.tags.get? name) →
        (convert items { c with tags } : StateM σ (Except RenderError Text)).run files =
          (convert items c : StateM σ (Except RenderError Text)).run files := by
  refine ⟨fun hplain => ?_, fun tags ht => ?_⟩
  · rw [run_convert h, c.renderBody_eq_renderTemplate body items hplain]
    rfl
  · have hload : (loadTemplate ({ c with tags } : ConvertConfig).templatePath c.kind :
        StateM σ (Except Fault TemplateBody)).run files = (.ok body, after) := h
    rw [run_convert hload, run_convert h, c.renderBody_congr body items .standard ht]

end Files

def bitsTemplate : Text :=
  "@bpp@@mark@@start_block_images_table@\n  @imageData@@end_block_images_table@".toList

def bitsFiles : FileTree := { root := .directory [("t".toList, .file (Text.utf8 bitsTemplate))] }

def bitsConfig : ConvertConfig where
  template := some "t".toList
  tags := .ofList [("bpp".toList, ['?']), (indentTag, ['?']), ("mark".toList, ['!'])]

def markTags : Tags := .ofList [("mark".toList, ['!'])]

set_option maxRecDepth 4000 in
theorem convert_eq_renderTemplate_bits :
    (loadTemplate bitsConfig.templatePath bitsConfig.kind :
        StateM FileTree (Except Fault TemplateBody)).run bitsFiles =
          (.ok ⟨bitsTemplate, "t".toList⟩, bitsFiles) ∧
      (∀ x ∈ lex bitsTemplate, x.token ≠ .tag indentTag) ∧
      (∀ name ∉ bitsConfig.ownNames, markTags.get? name = bitsConfig.tags.get? name) ∧
      (convert Renderer.grayDot.items bitsConfig :
        StateM FileTree (Except RenderError Text)).run bitsFiles =
          (renderTemplate bitsTemplate (bitsConfig.shownTags ⟨bitsTemplate, "t".toList⟩ 1)
            Renderer.grayDot.items bitsConfig.preset, bitsFiles) ∧
      (convert Renderer.grayDot.items { bitsConfig with tags := markTags } :
        StateM FileTree (Except RenderError Text)).run bitsFiles =
          (convert Renderer.grayDot.items bitsConfig :
            StateM FileTree (Except RenderError Text)).run bitsFiles := by
  have hload : (loadTemplate bitsConfig.templatePath bitsConfig.kind :
      StateM FileTree (Except Fault TemplateBody)).run bitsFiles =
        (.ok ⟨bitsTemplate, "t".toList⟩, bitsFiles) := by cbv
  have hall : (lex bitsTemplate).all (fun x => decide (x.token ≠ .tag indentTag)) = true := by cbv
  have hplain : ∀ x ∈ lex bitsTemplate, x.token ≠ .tag indentTag := fun x hx =>
    of_decide_eq_true (List.all_eq_true.1 hall x hx)
  have hother : ∀ name ∉ bitsConfig.ownNames, markTags.get? name = bitsConfig.tags.get? name := by
    intro name hn
    have hb : name ≠ "bpp".toList := fun h => hn (h ▸ by decide)
    have hi : name ≠ indentTag := fun h => hn (h ▸ by decide)
    have ht : bitsConfig.tags = ((Tags.empty.insert "bpp".toList ['?']).insert indentTag
      ['?']).insert "mark".toList ['!'] := rfl
    rw [ht, Tags.get?_insert, Tags.get?_insert, Tags.get?_insert, if_neg hi, if_neg hb]
    exact Tags.empty.get?_insert "mark".toList ['!'] name
  obtain ⟨heq, hsame⟩ := convert_eq_renderTemplate hload
  exact ⟨hload, hplain, hother, heq hplain, hsame markTags hother⟩

end RasterText
