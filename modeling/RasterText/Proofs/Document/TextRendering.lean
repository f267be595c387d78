import Mathlib
import RasterText.Document.Render
import RasterText.Proofs.Document.TagValues
import RasterText.Proofs.Template.Outline
set_option autoImplicit false

/-!
Rendering without a tree, by a recursion on the text itself, and its agreement with the rendering of
the tree. A marker is looked for from the left, and what is behind it is scanned once more; an end
marker counts where the scanning comes across it.
-/

namespace RasterText

/-- The text in which every marker gives way to the value of its keyword. Blocks are not expanded,
but the blanks at the edges of their bodies go. -/
def substituteText (lookup : Text → Option Text) (s : Text) : Text :=
  match _h : firstMarker? s with
  | none => s
  | some (before, m, rest) =>
    match Token.ofIdentifier m.name with
    | .blockStart name =>
      match _he : firstEnd? name rest with
      | none => before ++ resolve lookup m.name ++ substituteText lookup rest
      | some (interior, after) =>
        before ++ resolve lookup m.name ++ substituteText lookup (Text.trim interior) ++
          resolve lookup (Token.endKeyword name) ++ substituteText lookup after
    | _ => before ++ resolve lookup m.name ++ substituteText lookup rest
termination_by s.length
decreasing_by
  all_goals have hl := length_of_firstMarker? _h
  · omega
  · have hi := length_of_firstEnd? _he
    have ht := Text.length_trim_le interior
    omega
  · have hi := length_of_firstEnd? _he
    omega
  · omega

namespace Renderer

/-- The copies of a body for the given keys, each on a line of its own. The tags of the item stand
in front of those of the document. -/
def expandText (r : Renderer) (base : Tags) (body : Text) : List Text → Except RenderError Text
  | [] => .ok []
  | key :: rest => do
    let tags ← r.itemTags base key rest.isEmpty
    let lookup := fun name => ((Tags.ofList tags).get? name).or (base.get? name)
    let copies ← r.expandText base body rest
    return '\n' :: substituteText lookup body ++ copies

/-- The text of a template by the first marker in it. -/
def renderText (r : Renderer) (base : Tags) (s : Text) : Except RenderError Text :=
  match _h : firstMarker? s with
  | none => .ok s
  | some (before, m, rest) =>
    match Token.ofIdentifier m.name with
    | .blockStart name =>
      match _he : firstEnd? name rest with
      | none => do
        let more ← r.renderText base rest
        return before ++ more
      | some (interior, after) => do
        let body ← (if name = imagesTable then r.expandText base (Text.trim interior) r.items.keys
          else r.renderText base (Text.trim interior))
        let more ← r.renderText base after
        return before ++ body ++ more
    | _ => do
      let more ← r.renderText base rest
      return before ++ resolve base.get? m.name ++ more
termination_by s.length
decreasing_by
  all_goals have hl := length_of_firstMarker? _h
  · omega
  · have hi := length_of_firstEnd? _he
    have ht := Text.length_trim_le interior
    omega
  · have hi := length_of_firstEnd? _he
    omega
  · omega

end Renderer

mutual

theorem Node.substitute_bare (lookup : Text → Option Text) (node : Node) :
    node.bare.substitute lookup = node.substitute lookup := by
  cases node with
  | block name body span =>
    rw [Node.bare, Node.substitute, Node.substitute, substitute_bareNodes lookup body]
  | _ => rfl

theorem substitute_bareNodes (lookup : Text → Option Text) (nodes : List Node) :
    substitute lookup (bareNodes nodes) = substitute lookup nodes := by
  cases nodes with
  | nil => rfl
  | cons node rest =>
    rw [bareNodes, substitute, substitute, Node.substitute_bare lookup node,
      substitute_bareNodes lookup rest]

end

namespace Renderer

theorem expandKeys_bareNodes (r : Renderer) (base : Tags) (body : List Node) (keys : List Text) :
    r.expandKeys base (bareNodes body) keys = r.expandKeys base body keys := by
  induction keys with
  | nil => rfl
  | cons key rest ih => simp only [expandKeys, expandItem, substitute_bareNodes, ih]

mutual

theorem renderNode_bare (r : Renderer) (base : Tags) (node : Node) :
    r.renderNode base node.bare = r.renderNode base node := by
  cases node with
  | block name body span =>
    rw [Node.bare, renderNode, renderNode, expandKeys_bareNodes, render_bareNodes r base body]
  | _ => rfl

theorem render_bareNodes (r : Renderer) (base : Tags) (nodes : List Node) :
    r.render base (bareNodes nodes) = r.render base nodes := by
  cases nodes with
  | nil => rfl
  | cons node rest =>
    rw [bareNodes, render, render, renderNode_bare r base node, render_bareNodes r base rest]

end

end Renderer

theorem substitute_textNode (lookup : Text → Option Text) (s : Text) (nodes : List Node) :
    substitute lookup (textNode s ++ nodes) = s ++ substitute lookup nodes := by
  by_cases h : s = [] <;> simp [textNode, h, substitute, Node.substitute]

theorem startKeyword_of_ofIdentifier {s name : Text}
    (h : Token.ofIdentifier s = .blockStart name) : Token.startKeyword name = s := by
  have hk := Token.keyword_ofIdentifier s
  rw [h] at hk
  simpa [Token.keyword] using hk

theorem outline_of_single {s before rest : Text} {m : Marker}
    (h : firstMarker? s = some (before, m, rest))
    (hm : ∀ name, Token.ofIdentifier m.name ≠ .blockStart name) :
    ∃ node : Node, outline s = textNode before ++ node :: outline rest ∧
      (∀ lookup, node.substitute lookup = resolve lookup m.name) ∧
      ∀ (r : Renderer) (base : Tags), r.renderNode base node = .ok (resolve base.get? m.name) := by
  have hk := Token.keyword_ofIdentifier m.name
  cases ht : Token.ofIdentifier m.name with
  | text value => exact absurd ht (ofIdentifier_ne_text m.name value)
  | blockStart name => exact absurd ht (hm name)
  | tag name =>
    rw [ht, Token.keyword, Option.some.injEq] at hk
    refine ⟨.tag name ⟨0, 0⟩, outline_of_tag h ht, fun lookup => ?_, fun r base => ?_⟩
    · rw [Node.substitute, hk]
    · rw [Renderer.renderNode, hk]
  | blockEnd name =>
    rw [ht, Token.keyword, Option.some.injEq] at hk
    refine ⟨.strayEnd name ⟨0, 0⟩, outline_of_blockEnd h ht, fun lookup => ?_, fun r base => ?_⟩
    · rw [Node.substitute, hk]
    · rw [Renderer.renderNode, hk]

theorem substitute_outline (lookup : Text → Option Text) (s : Text) :
    substitute lookup (outline s) = substituteText lookup s := by
  fun_induction substituteText lookup s with
  | case1 s h =>
    rw [outline_of_none h, ← List.append_nil (textNode s), substitute_textNode, substitute,
      List.append_nil]
  | case2 s before m rest h name hm he ih =>
    rw [outline_of_unclosed h hm he, substitute_textNode, substitute, Node.substitute,
      startKeyword_of_ofIdentifier hm, ih, List.append_assoc]
  | case3 s before m rest h name hm interior after he ihi iha =>
    rw [outline_of_block h hm he, substitute_textNode, substitute, Node.substitute,
      startKeyword_of_ofIdentifier hm, ihi, iha]
    simp only [List.append_assoc]
  | case4 s before m rest h hm ih =>
    obtain ⟨node, ho, hs, -⟩ := outline_of_single h hm
    rw [ho, substitute_textNode, substitute, hs, ih, List.append_assoc]

namespace Renderer

theorem expandKeys_outline (r : Renderer) (base : Tags) (body : Text) (keys : List Text) :
    r.expandKeys base (outline body) keys = r.expandText base body keys := by
  induction keys with
  | nil => rfl
  | cons key rest ih =>
    simp only [expandKeys, expandItem, expandText, ih, foldl_set, substitute_outline]
    rw [bind_assoc]
    simp only [pure_bind, List.cons_append]
    rfl

theorem render_cons_of_ok {r : Renderer} {base : Tags} {node : Node} {text : Text}
    (h : r.renderNode base node = .ok text) (rest : List Node) :
    r.render base (node :: rest) = (text ++ ·) <$> r.render base rest := by
  rw [render, h]
  rfl

theorem render_textNode (r : Renderer) (base : Tags) (s : Text) (nodes : List Node) :
    r.render base (textNode s ++ nodes) = (s ++ ·) <$> r.render base nodes := by
  by_cases h : s = []
  · simp [textNode, h]
  · have ht : textNode s = [.text s ⟨0, 0⟩] := if_neg h
    rw [ht]
    exact render_cons_of_ok (by rw [renderNode]) nodes

theorem render_outline (r : Renderer) (base : Tags) (s : Text) :
    r.render base (outline s) = r.renderText base s := by
  fun_induction renderText r base s with
  | case1 s h =>
    rw [outline_of_none h, ← List.append_nil (textNode s), render_textNode, render]
    exact congrArg Except.ok (List.append_nil s)
  | case2 s before m rest h name hm he ih =>
    rw [outline_of_unclosed h hm he, render_textNode,
      render_cons_of_ok (by rw [renderNode]), ih]
    simp
  | case3 s before m rest h name hm interior after he ihi iha =>
    have hb : r.renderNode base (.block name (outline (Text.trim interior)) ⟨0, 0⟩) =
        if name = imagesTable then r.expandText base (Text.trim interior) r.items.keys
        else r.renderText base (Text.trim interior) := by
      rw [renderNode, expandKeys_outline, ihi]
    rw [outline_of_block h hm he, render_textNode, render, hb, iha]
    simp
  | case4 s before m rest h hm ih =>
    obtain ⟨node, ho, -, hr⟩ := outline_of_single h hm
    rw [ho, render_textNode, render_cons_of_ok (hr r base), ih]
    simp

/-- The tree of a template is rendered to the text that the recursion on the template gives, or
fails with the same error. -/
theorem render_parse (r : Renderer) (base : Tags) (s : Text) (nodes : List Node)
    (h : parse s = .ok nodes) : r.render base nodes = r.renderText base s := by
  have hn : nodes = (parseLevel [] (lex s)).1 := by
    unfold parse at h
    split at h
    · next hp => rw [hp]; cases h; rfl
    · cases h
  rw [← render_outline, outline, render_bareNodes, hn]

def dot : Renderer where
  items := ⟨["k".toList], fun _ => some ⟨1, 1, #[⟨0, 0, 0, 255⟩], by decide⟩⟩
  pipeline := .standard
  preset := {}

def blockTemplate : Text :=
  ("<@start_block_images_table@ @charText)$(start_block_a@\n$(b) @end_block_a@ " ++
    "$(end_block_images_table)@start_block_c@>@end_block_d@").toList

def blockTree : List Node :=
  [.text "<".toList ⟨0, 1⟩,
    .block imagesTable [.tag "charText".toList ⟨28, 38⟩,
      .block "a".toList [.tag "b".toList ⟨55, 59⟩] ⟨38, 73⟩] ⟨1, 99⟩,
    .unclosed "c".toList ⟨99, 114⟩, .text ">".toList ⟨114, 115⟩,
    .strayEnd "d".toList ⟨115, 128⟩]

theorem render_parse_blockTree :
    parse blockTemplate = .ok blockTree ∧
      dot.render .empty blockTree = dot.renderText .empty blockTemplate ∧
      dot.render .empty blockTree = .ok ("<\nk".toList ++ undefinedValue ++ undefinedValue ++
        undefinedValue ++ ['>'] ++ undefinedValue) := by
  have h : parse blockTemplate = .ok blockTree := by cbv
  exact ⟨h, dot.render_parse .empty blockTemplate blockTree h, by cbv⟩

end Renderer

end RasterText
