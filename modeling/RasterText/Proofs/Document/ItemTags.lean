import RasterText.Document.Render
import RasterText.Proofs.Document.TagValues
set_option autoImplicit false

namespace RasterText

theorem bind_eq_ok {ε α β : Type} {x : Except ε α} {f : α → Except ε β} {b : β} :
    x >>= f = .ok b ↔ ∃ a, x = .ok a ∧ f a = .ok b := by
  cases x <;> simp [bind, Except.bind]

theorem mapError_eq_ok {ε δ α : Type} {f : ε → δ} {x : Except ε α} {a : α} :
    x.mapError f = .ok a ↔ x = .ok a := by
  cases x <;> simp [Except.mapError]

def itemTagNames : List Text :=
  ["imagesCount".toList, "width".toList, "height".toList, "blocksCount".toList,
    "imageData".toList, "charCode".toList, "comma".toList, "charText".toList]

def Tags.indent (t : Tags) : Text := (t.get? indentTag).getD defaultIndent

namespace Renderer

variable {r : Renderer} {base other : Tags} {body : List Node} {key : Text} {last : Bool}

theorem itemTags_eq_ok {tags : List (Text × Text)}
    (h : r.itemTags base key last = .ok tags) :
    ∃ image grid code, r.items.image? key = some image ∧
      r.pipeline.convert r.preset image = .ok grid ∧ r.charCode key = .ok code ∧
      tags = [("imagesCount".toList, decimal r.items.count),
        ("width".toList, decimal image.width),
        ("height".toList, decimal image.height),
        ("blocksCount".toList, decimal grid.words.length),
        ("imageData".toList,
          Text.replaceChar '\n' ('\n' :: (base.get? indentTag).getD defaultIndent)
            (r.pipeline.format r.preset radixPrefix grid)),
        ("charCode".toList, code),
        ("comma".toList, if last then [] else [',']),
        ("charText".toList, charText key)] := by
  unfold itemTags at h
  split at h
  · cases h
  · next image hi =>
    simp only [bind_eq_ok, mapError_eq_ok] at h
    obtain ⟨grid, hg, code, hc, h⟩ := h
    cases h
    exact ⟨image, grid, code, hi, hg, hc, rfl⟩

theorem names_itemTags {tags : List (Text × Text)} (h : r.itemTags base key last = .ok tags) :
    tags.map Prod.fst = itemTagNames := by
  obtain ⟨image, grid, code, -, -, -, rfl⟩ := itemTags_eq_ok h
  rfl

theorem itemTags_congr (h : base.indent = other.indent) :
    r.itemTags base key last = r.itemTags other key last := by
  simp only [Tags.indent] at h
  simp only [itemTags, h]

theorem expandItem_eq (r : Renderer) (base : Tags) (body : List Node) (key : Text) (last : Bool) :
    r.expandItem base body key last = (fun tags => '\n' ::
      substitute (fun name => (tags.lookup name).or (base.get? name)) body) <$>
        r.itemTags base key last := by
  cases h : r.itemTags base key last with
  | error e => simp [expandItem, h, bind, Except.bind, Functor.map, Except.map]
  | ok tags =>
    have hn : (tags.map Prod.fst).Nodup := by
      rw [names_itemTags h]
      decide
    have hl : (Scope.mk base (.ofList tags)).get? =
        fun name => (tags.lookup name).or (base.get? name) := by
      funext name
      rw [Scope.get?, Tags.get?_ofList, lookup_reverse hn]
    rw [expandItem, h]
    simp only [foldl_set]
    exact congrArg (fun lookup => Except.ok ('\n' :: substitute lookup body)) hl

end Renderer

end RasterText
