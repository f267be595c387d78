import Mathlib
import RasterText.Proofs.Document.Conversion
import RasterText.Proofs.Document.Identifiers
set_option autoImplicit false

namespace RasterText

/-- A piece of a document is text of the template, or stands for a name that has been looked up. -/
inductive Piece where
  | text (value : Text)
  | tag (name : Text) (value? : Option Text)
  deriving DecidableEq, Repr

def Piece.written : Piece → Text
  | text value => value
  | tag _ value? => value?.getD undefinedValue

def written (pieces : List Piece) : Text := pieces.flatMap Piece.written

theorem written_cons (piece : Piece) (rest : List Piece) :
    written (piece :: rest) = piece.written ++ written rest := List.flatMap_cons

theorem written_append (pieces more : List Piece) :
    written (pieces ++ more) = written pieces ++ written more := List.flatMap_append

section Substitution

variable (lookup : Text → Option Text)

def Token.piece : Token → Piece
  | .text value => .text value
  | .tag name => .tag name (lookup name)
  | .blockStart name => .tag (startKeyword name) (lookup (startKeyword name))
  | .blockEnd name => .tag (endKeyword name) (lookup (endKeyword name))

def pieces (nodes : List Node) : List Piece := (flattenNodes nodes).map (Token.piece lookup)

mutual

theorem Node.written_pieces (node : Node) :
    written (node.flatten.map (Token.piece lookup)) = node.substitute lookup := by
  cases node with
  | text value span => exact List.append_nil value
  | tag name span => exact List.append_nil _
  | unclosed name span => exact List.append_nil _
  | strayEnd name span => exact List.append_nil _
  | block name body span =>
    have hb := written_pieces body
    rw [pieces] at hb
    rw [Node.flatten, List.map_cons, List.map_append, written_cons, written_append, hb,
      Node.substitute, List.append_assoc]
    have he : written ([Token.blockEnd name].map (Token.piece lookup)) =
        resolve lookup (Token.endKeyword name) := List.append_nil _
    rw [he]
    rfl

theorem written_pieces (nodes : List Node) :
    written (pieces lookup nodes) = substitute lookup nodes := by
  cases nodes with
  | nil => rfl
  | cons node rest =>
    have hr := written_pieces rest
    rw [pieces] at hr
    rw [pieces, flattenNodes, List.map_append, written_append, node.written_pieces, hr, substitute]

end

variable {lookup}

theorem Token.piece_eq_tag {t : Token} {name : Text} {value? : Option Text}
    (h : t.piece lookup = .tag name value?) :
    t.keyword = some name ∧ lookup name = value? := by
  cases t with
  | text value => cases h
  | tag name => cases h; exact ⟨rfl, rfl⟩
  | blockStart name => cases h; exact ⟨rfl, rfl⟩
  | blockEnd name => cases h; exact ⟨rfl, rfl⟩

theorem tag_mem_pieces {nodes : List Node} {name : Text} {value? : Option Text}
    (h : .tag name value? ∈ pieces lookup nodes) :
    name ∈ keywordsOf nodes ∧ lookup name = value? := by
  obtain ⟨t, ht, hp⟩ := List.mem_map.1 h
  obtain ⟨hk, hv⟩ := Token.piece_eq_tag hp
  exact ⟨List.mem_filterMap.2 ⟨t, ht, hk⟩, hv⟩

end Substitution

namespace Renderer

def tablePieces (body : List Node) (scopes : List (Text → Option Text)) : List Piece :=
  scopes.flatMap fun lookup => .text ['\n'] :: RasterText.pieces lookup body

mutual

def nodePieces (r : Renderer) (base : Tags) : Node → Except RenderError (List Piece)
  | .text value _ => .ok [.text value]
  | .tag name _ => .ok [.tag name (base.get? name)]
  | .strayEnd name _ => .ok [.tag (Token.endKeyword name) (base.get? (Token.endKeyword name))]
  | .unclosed _ _ => .ok []
  | .block name body _ =>
    if name = imagesTable then tablePieces body <$> r.itemScopes base r.items.keys
    else r.pieces base body

def pieces (r : Renderer) (base : Tags) : List Node → Except RenderError (List Piece)
  | [] => .ok []
  | node :: rest => do
    let first ← r.nodePieces base node
    let more ← r.pieces base rest
    return first ++ more

end

variable {r : Renderer} {base : Tags}

theorem written_tablePieces (body : List Node) (scopes : List (Text → Option Text)) :
    written (tablePieces body scopes) =
      scopes.flatMap fun lookup => '\n' :: substitute lookup body := by
  rw [tablePieces, written, List.flatMap_assoc]
  refine congrArg (scopes.flatMap ·) (funext fun lookup => ?_)
  exact congrArg ('\n' :: ·) (RasterText.written_pieces lookup body)

mutual

theorem renderNode_eq_pieces (r : Renderer) (base : Tags) (node : Node) :
    r.renderNode base node = written <$> r.nodePieces base node := by
  cases node with
  | text value span => exact congrArg Except.ok (List.append_nil value).symm
  | tag name span => exact congrArg Except.ok (List.append_nil _).symm
  | strayEnd name span => exact congrArg Except.ok (List.append_nil _).symm
  | unclosed name span => rfl
  | block name body span =>
    rw [renderNode, nodePieces]
    by_cases hn : name = imagesTable
    · rw [if_pos hn, if_pos hn, expandKeys_eq, ← funext (written_tablePieces body)]
      cases r.itemScopes base r.items.keys <;> rfl
    · rw [if_neg hn, if_neg hn, render_eq_pieces r base body]

/-- The text of a document is written by its pieces, and where it fails they are missing. -/
theorem render_eq_pieces (r : Renderer) (base : Tags) (nodes : List Node) :
    r.render base nodes = written <$> r.pieces base nodes := by
  cases nodes with
  | nil => rfl
  | cons node rest =>
    rw [render, pieces, renderNode_eq_pieces r base node, render_eq_pieces r base rest]
    cases r.nodePieces base node with
    | error e => rfl
    | ok first =>
      cases r.pieces base rest with
      | error e => rfl
      | ok more => exact congrArg Except.ok (written_append first more).symm

end

example : grayDot.pieces sizeTags sizeTemplate =
    .ok [.tag "width".toList (some ['9']), .text ['\n'], .tag "charText".toList (some ['k']),
      .tag "mark".toList (some [':']), .tag "start_block_a".toList none,
      .tag "width".toList (some ['1']), .tag "end_block_a".toList none] := by
  cbv

theorem exists_key_of_mem {keys : List Text} {scopes : List (Text → Option Text)}
    (h : r.itemScopes base keys = .ok scopes) {lookup : Text → Option Text}
    (hl : lookup ∈ scopes) : ∃ key, r.ScopeFor base key lookup := by
  have hall := forall₂_scopeFor h
  clear h
  induction hall with
  | nil => cases hl
  | cons hscope _ ih =>
    rcases List.mem_cons.1 hl with rfl | hl
    · exact ⟨_, hscope⟩
    · exact ih hl

theorem ScopeFor.eq_none {key name : Text} {lookup : Text → Option Text}
    (h : r.ScopeFor base key lookup) (hn : lookup name = none) :
    name ∉ itemTagNames ∧ base.get? name = none := by
  obtain ⟨last, tags, ht, rfl⟩ := h
  obtain ⟨hi, hb⟩ := Option.or_eq_none_iff.1 hn
  refine ⟨fun hm => ?_, hb⟩
  rw [← names_itemTags ht] at hm
  obtain ⟨value, hv⟩ := exists_lookup hm
  rw [hv] at hi
  cases hi

mutual

theorem undefined_of_mem_nodePieces {node : Node} {found : List Piece} {name : Text}
    (h : r.nodePieces base node = .ok found) (hm : .tag name none ∈ found) :
    name ∈ node.baseNames ∧ base.get? name = none := by
  cases node with
  | text value span => cases h; simp at hm
  | unclosed name span => cases h; cases hm
  | tag tag span =>
    cases h
    obtain ⟨rfl, hn⟩ := Piece.tag.inj (List.mem_singleton.1 hm)
    exact ⟨List.mem_cons_self, hn.symm⟩
  | strayEnd block span =>
    cases h
    obtain ⟨rfl, hn⟩ := Piece.tag.inj (List.mem_singleton.1 hm)
    exact ⟨List.mem_cons_self, hn.symm⟩
  | block block body span =>
    rw [nodePieces] at h
    rw [Node.baseNames]
    by_cases hb : block = imagesTable
    · rw [if_pos hb] at h ⊢
      cases hs : r.itemScopes base r.items.keys with
      | error e => rw [hs] at h; cases h
      | ok scopes =>
        rw [hs] at h
        cases h
        obtain ⟨lookup, hl, hp⟩ := List.mem_flatMap.1 hm
        obtain ⟨hk, hn⟩ := tag_mem_pieces ((List.mem_cons.1 hp).resolve_left nofun)
        obtain ⟨key, hscope⟩ := exists_key_of_mem hs hl
        obtain ⟨hi, hnone⟩ := hscope.eq_none hn
        exact ⟨List.mem_filter.2 ⟨hk, by simpa using hi⟩, hnone⟩
    · rw [if_neg hb] at h ⊢
      exact undefined_of_mem_pieces h hm

theorem undefined_of_mem_pieces {nodes : List Node} {found : List Piece} {name : Text}
    (h : r.pieces base nodes = .ok found) (hm : .tag name none ∈ found) :
    name ∈ baseNames nodes ∧ base.get? name = none := by
  cases nodes with
  | nil => cases h; cases hm
  | cons node rest =>
    simp only [pieces, bind_eq_ok] at h
    obtain ⟨first, hf, more, hr, h⟩ := h
    cases h
    rcases List.mem_append.1 hm with hm | hm
    · obtain ⟨hb, hn⟩ := undefined_of_mem_nodePieces hf hm
      exact ⟨List.mem_append_left _ hb, hn⟩
    · obtain ⟨hb, hn⟩ := undefined_of_mem_pieces hr hm
      exact ⟨List.mem_append_right _ hb, hn⟩

end

end Renderer

def Preset.tagNames : List Text :=
  ["bytesOrder".toList, "dataBlockSize".toList, "scanMain".toList, "scanSub".toList,
    "bands".toList, "bandWidth".toList, "inverse".toList, "bom".toList, "encoding".toList,
    "splitToRows".toList, "rle".toList, "preset".toList, "convType".toList, "monoType".toList,
    "edge".toList, "bpp".toList]

theorem Preset.names_tagEntries (p : Preset) : p.tagEntries.map Prod.fst = tagNames := rfl

def nameTags : List Text := ["documentName".toList, "documentName_ws".toList]

def documentTagNames : List Text :=
  nameTags ++ "templateFile".toList :: indentTag :: "imagesCount".toList :: Preset.tagNames

theorem documentTagNames_eq (c : ConvertConfig) : documentTagNames = nameTags ++ c.ownNames := by
  rw [documentTagNames, ConvertConfig.ownNames, c.preset.names_tagEntries]

set_option maxRecDepth 10000 in
theorem DocumentKind.all_baseNames_builtin (kind : DocumentKind) :
    (baseNames (parseLevel [] (lex kind.builtinTemplate)).1).all documentTagNames.contains =
      true := by
  cases kind with
  | image =>
    rw [builtinTemplate, imageTemplateLines]
    repeat rw [textOfLines_cons]
    cbv
  | font =>
    rw [builtinTemplate, fontTemplateLines]
    repeat rw [textOfLines_cons]
    cbv

namespace ConvertConfig

def pieces (c : ConvertConfig) (items : ItemSource) (pipeline : Pipeline) (body : TemplateBody) :
    Except RenderError (List Piece) := do
  let nodes ← (parse body.text).mapError .parse
  Renderer.pieces ⟨items, pipeline, c.preset⟩ (c.documentTags body items.count) nodes

theorem renderBody_eq_pieces (c : ConvertConfig) (items : ItemSource) (pipeline : Pipeline)
    (body : TemplateBody) :
    c.renderBody items pipeline body = written <$> c.pieces items pipeline body := by
  rw [renderBody, pieces]
  cases parse body.text with
  | error faults => rfl
  | ok nodes => exact Renderer.render_eq_pieces _ _ nodes

theorem get?_withDocumentName_ne_none (c : ConvertConfig) (name : Text)
    (later : List (Text × Text)) {tag : Text} (h : tag ∈ nameTags) :
    ((c.withDocumentName name).tags.insertMany later).get? tag ≠ none := by
  intro hnone
  rw [Tags.get?_insertMany, withDocumentName, Tags.get?_merge, Option.or_eq_none_iff,
    Option.or_eq_none_iff, RasterText.documentTags, Tags.get?_insert, Tags.get?_insert] at hnone
  obtain ⟨-, hname, -⟩ := hnone
  simp only [nameTags, List.mem_cons, List.not_mem_nil, or_false] at h
  rcases h with rfl | rfl
  · rw [if_neg (by decide), if_pos rfl] at hname
    cases hname
  · rw [if_pos rfl] at hname
    cases hname

theorem get?_documentTags_eq_none {c : ConvertConfig} {body : TemplateBody} {count : Nat}
    {name : Text} (h : (c.documentTags body count).get? name = none) :
    name ∉ c.ownNames ∧ c.tags.get? name = none := by
  rw [get?_documentTags] at h
  by_cases hc : name = "imagesCount".toList
  · rw [if_pos hc] at h
    cases h
  rw [if_neg hc, Option.or_eq_none_iff] at h
  obtain ⟨hp, h⟩ := h
  by_cases hi : name = indentTag
  · rw [if_pos hi] at h
    cases h
  rw [if_neg hi] at h
  by_cases ht : name = "templateFile".toList
  · rw [if_pos ht] at h
    cases h
  rw [if_neg ht] at h
  refine ⟨fun hm => ?_, h⟩
  simp only [ownNames, List.mem_cons, ht, hi, hc, false_or] at hm
  obtain ⟨value, hv⟩ := c.preset.exists_get?_tags hm
  rw [hv] at hp
  cases hp

theorem tag_none_notMem_pieces {c : ConvertConfig} {items : ItemSource} {pipeline : Pipeline}
    {kind : DocumentKind} {found : List Piece} (hname : ∀ tag ∈ nameTags, c.tags.get? tag ≠ none)
    (h : c.pieces items pipeline (.builtin kind) = .ok found) (name : Text) :
    .tag name none ∉ found := by
  intro hm
  -- the template asks for names of the document alone, and none of them is without a value
  have hp : parse (TemplateBody.builtin kind).text = _ := kind.parse_builtin
  rw [pieces, hp] at h
  obtain ⟨hb, hnone⟩ := Renderer.undefined_of_mem_pieces h hm
  have hd : name ∈ documentTagNames :=
    List.contains_iff_mem.1 (List.all_eq_true.1 kind.all_baseNames_builtin name hb)
  rw [documentTagNames_eq c] at hd
  obtain ⟨hown, hcaller⟩ := get?_documentTags_eq_none hnone
  rcases List.mem_append.1 hd with hd | hd
  · exact hname name hd hcaller
  · exact hown hd

end ConvertConfig

section Files

variable {σ : Type} [FileAccess (StateM σ)] {files after made : σ} {items : ItemSource}

/-- In a document of a built-in template every marker that is looked up has a value, once the
document has been given a name. The caller may set any tags before that and after it. -/
theorem convert_builtin_defined {c config : ConvertConfig} {name text : Text}
    {later : List (Text × Text)}
    (htags : config.tags = (c.withDocumentName name).tags.insertMany later)
    (hload : (loadTemplate config.templatePath config.kind :
      StateM σ (Except Fault TemplateBody)).run files = (.ok (.builtin config.kind), after))
    (hmade : (convert items config : StateM σ (Except RenderError Text)).run files =
      (.ok text, made)) :
    ∃ found, config.pieces items .standard (.builtin config.kind) = .ok found ∧
      text = written found ∧ ∀ tag, .tag tag none ∉ found := by
  rw [run_convert hload, config.renderBody_eq_pieces] at hmade
  cases hp : config.pieces items .standard (.builtin config.kind) with
  | error e => rw [hp] at hmade; cases hmade
  | ok found =>
    rw [hp] at hmade
    cases hmade
    have hname (tag : Text) (h : tag ∈ nameTags) : config.tags.get? tag ≠ none := by
      rw [htags]
      exact c.get?_withDocumentName_ne_none name later h
    exact ⟨found, rfl, rfl, ConvertConfig.tag_none_notMem_pieces hname hp⟩

end Files

def namedConfig : ConvertConfig :=
  { letterConfig.withDocumentName "icons".toList with
    template := some "t".toList
    tags := (letterConfig.withDocumentName "icons".toList).tags.insertMany
      [("author".toList, ['A'])] }

theorem convert_builtin_defined_letters :
    ∃ text found,
      (loadTemplate namedConfig.templatePath namedConfig.kind :
        StateM FileTree (Except Fault TemplateBody)).run { root := .directory [] } =
          (.ok (.builtin .font), { root := .directory [] }) ∧
      (convert letterItems namedConfig : StateM FileTree (Except RenderError Text)).run
        { root := .directory [] } = (.ok text, { root := .directory [] }) ∧
      namedConfig.pieces letterItems .standard (.builtin .font) = .ok found ∧
      text = written found ∧ ∀ tag, .tag tag none ∉ found := by
  have hload : (loadTemplate namedConfig.templatePath namedConfig.kind :
      StateM FileTree (Except Fault TemplateBody)).run { root := .directory [] } =
        (.ok (.builtin .font), { root := .directory [] }) := by rfl
  obtain ⟨text, ht⟩ := exists_renderBody_letterItems namedConfig .font (by decide +kernel)
  have hmade : (convert letterItems namedConfig : StateM FileTree (Except RenderError Text)).run
      { root := .directory [] } = (.ok text, { root := .directory [] }) := by
    rw [run_convert hload]
    exact congrArg (·, _) ht
  obtain ⟨found, hf, hw, hdef⟩ := convert_builtin_defined rfl hload hmade
  exact ⟨text, found, hload, hmade, hf, hw, hdef⟩

end RasterText
