import RasterText.Toml.Assembly
set_option autoImplicit false

namespace RasterText.Toml

inductive Value.Distinct : Value → Prop where
  | string (t : Text) : Distinct (.string t)
  | integer (n : Int) : Distinct (.integer n)
  | float (x : Binary64) : Distinct (.float x)
  | boolean (b : Bool) : Distinct (.boolean b)
  | datetime (t : Text) : Distinct (.datetime t)
  | array {elements : List Value} (values : ∀ v ∈ elements, Distinct v) :
      Distinct (.array elements)
  | tables {elements : List Value} (values : ∀ v ∈ elements, Distinct v) :
      Distinct (.tables elements)
  | table {kind : TableKind} {entries : Entries} (keys : (entries.map Prod.fst).Nodup)
      (values : ∀ e ∈ entries, Distinct e.2) : Distinct (.table kind entries)

structure Entries.Distinct (entries : Entries) : Prop where
  keys : (entries.map Prod.fst).Nodup
  values : ∀ e ∈ entries, e.2.Distinct

@[simp] theorem distinct_array {elements : List Value} :
    (Value.array elements).Distinct ↔ ∀ v ∈ elements, v.Distinct :=
  ⟨fun | .array values => values, .array⟩

@[simp] theorem distinct_tables {elements : List Value} :
    (Value.tables elements).Distinct ↔ ∀ v ∈ elements, v.Distinct :=
  ⟨fun | .tables values => values, .tables⟩

@[simp] theorem distinct_table {kind : TableKind} {entries : Entries} :
    (Value.table kind entries).Distinct ↔ entries.Distinct :=
  ⟨fun | .table keys values => ⟨keys, values⟩, fun h => .table h.keys h.values⟩

/-- A change that leads from tables without a repeated key to such tables. -/
def KeepsDistinct (change : Entries → Option Entries) : Prop :=
  ∀ before after, change before = some after → before.Distinct → after.Distinct

theorem isSome_lookup_iff {entries : Entries} {key : Text} :
    (entries.lookup key).isSome ↔ key ∈ entries.map Prod.fst := by
  rw [List.lookup_isSome_iff, List.mem_map]
  exact exists_congr fun e => and_congr_right fun _ => by rw [beq_iff_eq, eq_comm]

theorem not_mem_keys {entries : Entries} {key : Text} (hk : entries.lookup key = none) :
    key ∉ entries.map Prod.fst := by
  rw [← isSome_lookup_iff, hk]
  exact Bool.false_ne_true

namespace Entries.Distinct

variable {entries : Entries} {key : Text} {v w : Value}

protected theorem nil : Entries.Distinct [] := ⟨List.nodup_nil, by simp⟩

theorem of_lookup (h : entries.Distinct) (hv : entries.lookup key = some v) : v.Distinct := by
  obtain ⟨front, back, rfl, -⟩ := List.lookup_eq_some_iff.1 hv
  exact h.values (key, v) (by simp)

theorem append (h : entries.Distinct) (hk : key ∉ entries.map Prod.fst) (hv : v.Distinct) :
    Entries.Distinct (entries ++ [(key, v)]) := by
  constructor
  · rw [List.map_append, List.nodup_append]
    refine ⟨h.keys, List.pairwise_singleton _ _, fun a ha b hb => ?_⟩
    rw [List.mem_singleton.1 hb]
    exact ne_of_mem_of_not_mem ha hk
  · intro e he
    rcases List.mem_append.1 he with he | he
    · exact h.values e he
    · rw [List.mem_singleton.1 he]
      exact hv

theorem replace (h : entries.Distinct) (hv : v.Distinct) : (entries.replace key v).Distinct := by
  constructor
  · have hk : (entries.replace key v).map Prod.fst = entries.map Prod.fst := by
      rw [Entries.replace, List.map_map]
      refine List.map_congr_left fun e _ => ?_
      by_cases he : e.1 = key <;> simp [he]
    rw [hk]
    exact h.keys
  · intro e he
    obtain ⟨d, hd, rfl⟩ := List.mem_map.1 he
    split
    · exact hv
    · exact h.values d hd

theorem move (h : entries.Distinct) (hv : v.Distinct) :
    Entries.Distinct (entries.filter (fun e => !(e.1 == key)) ++ [(key, v)]) := by
  refine append ⟨h.keys.sublist (List.filter_sublist.map _), fun e he => ?_⟩ ?_ hv
  · exact h.values e (List.mem_filter.1 he).1
  · simp

end Entries.Distinct

theorem of_foldlM {σ ι : Type} {P : σ → Prop} {step : σ → ι → Option σ} {xs : List ι}
    (hs : ∀ x ∈ xs, ∀ s s', step s x = some s' → P s → P s') {start last : σ}
    (h : xs.foldlM step start = some last) (h0 : P start) : P last := by
  induction xs generalizing start with
  | nil =>
    cases h
    exact h0
  | cons x xs ih =>
    rw [List.foldlM_cons] at h
    obtain ⟨next, hn, h⟩ := Option.bind_eq_some_iff.1 h
    rw [List.forall_mem_cons] at hs
    exact ih hs.2 h (hs.1 _ _ hn h0)

section Changes

variable {change : Entries → Option Entries}

theorem distinct_updateLast (hc : KeepsDistinct change) {vs ws : List Value}
    (h : updateLast change vs = some ws) (hv : ∀ v ∈ vs, v.Distinct) : ∀ w ∈ ws, w.Distinct := by
  fun_induction updateLast change vs generalizing ws with
  | case1 => cases h
  | case2 kind inner =>
    obtain ⟨after, ha, rfl⟩ := Option.map_eq_some_iff.1 h
    simpa using hc _ _ ha (by simpa using hv)
  | case3 v vs _ ih =>
    obtain ⟨rest, hr, rfl⟩ := Option.map_eq_some_iff.1 h
    rw [List.forall_mem_cons] at hv ⊢
    exact ⟨hv.1, ih hr hv.2⟩

section Inside

variable {before after inner : Entries} {key : Text} {kind : TableKind} {elements : List Value}
  (hc : KeepsDistinct change) (hb : before.Distinct)

include hc hb

theorem KeepsDistinct.inside_new (hk : before.lookup key = none)
    (h : (change []).map (fun inner => before ++ [(key, .table kind inner)]) = some after) :
    after.Distinct := by
  obtain ⟨inner, hi, rfl⟩ := Option.map_eq_some_iff.1 h
  exact hb.append (not_mem_keys hk) (distinct_table.2 (hc _ _ hi .nil))

theorem KeepsDistinct.inside_table (hk : before.lookup key = some (.table kind inner))
    (h : (change inner).map (fun inner => before.replace key (.table kind inner)) = some after) :
    after.Distinct := by
  obtain ⟨inner', hi, rfl⟩ := Option.map_eq_some_iff.1 h
  exact hb.replace (distinct_table.2 (hc _ _ hi (distinct_table.1 (hb.of_lookup hk))))

theorem KeepsDistinct.inside_tables (hk : before.lookup key = some (.tables elements))
    (h : (updateLast change elements).map (fun elements => before.replace key (.tables elements)) =
      some after) : after.Distinct := by
  obtain ⟨elements', he, rfl⟩ := Option.map_eq_some_iff.1 h
  exact hb.replace (distinct_tables.2
    (distinct_updateLast hc he (distinct_tables.1 (hb.of_lookup hk))))

end Inside

theorem keepsDistinct_insertPair {last : Text} {v : Value} (hv : v.Distinct) (path : List Text) :
    KeepsDistinct (insertPair last v path) := by
  induction path with
  | nil =>
    intro before after h hb
    rw [insertPair] at h
    split at h
    · cases h
    · next hk =>
      cases h
      exact hb.append (not_mem_keys (Option.not_isSome_iff_eq_none.1 hk)) hv
  | cons k path ih =>
    intro before after h hb
    rw [insertPair] at h
    split at h
    · next hk => exact ih.inside_new hb hk h
    · next hk => exact ih.inside_table hb hk h
    · next hk =>
      split at h
      · cases h
      · exact ih.inside_table hb hk h
    · next hk =>
      split at h
      · cases h
      · exact ih.inside_tables hb hk h
    · cases h

theorem keepsDistinct_updateAt (hc : KeepsDistinct change) (path : List Text) :
    KeepsDistinct (updateAt change path) := by
  induction path with
  | nil => exact hc
  | cons k path ih =>
    intro before after h hb
    rw [updateAt] at h
    split at h
    · next hk => exact ih.inside_new hb hk h
    · cases h
    · next hk => exact ih.inside_table hb hk h
    · next hk => exact ih.inside_tables hb hk h
    · cases h

theorem keepsDistinct_openTable (name : Text) : KeepsDistinct (openTable name) := by
  intro before after h hb
  rw [openTable] at h
  split at h
  · next hk =>
    cases h
    exact hb.append (not_mem_keys hk) (distinct_table.2 .nil)
  · next inner hk =>
    cases h
    exact hb.move (distinct_table.2 (distinct_table.1 (hb.of_lookup hk)))
  · cases h

theorem keepsDistinct_addElement (name : Text) : KeepsDistinct (addElement name) := by
  have hnew : (Value.table .header []).Distinct := distinct_table.2 .nil
  intro before after h hb
  rw [addElement] at h
  split at h
  · next hk =>
    cases h
    exact hb.append (not_mem_keys hk) (by simpa using hnew)
  · next elements hk =>
    cases h
    refine hb.replace (distinct_tables.2 fun v hv => ?_)
    rcases List.mem_append.1 hv with hv | hv
    · exact distinct_tables.1 (hb.of_lookup hk) v hv
    · rw [List.mem_singleton.1 hv]
      exact hnew
  · cases h

end Changes

section Reading

def Reads {α : Type} (good : α → Prop) (read : Text → Option (α × Text)) : Prop :=
  ∀ ⦃s item rest⦄, read s = some (item, rest) → good item

theorem reads_readItems {α : Type} {good : α → Prop} {readItem : Text → Option (α × Text)}
    (hr : Reads good readItem) (close : Char) (skip : Text → Text) (trailing : Bool) :
    Reads (fun items => ∀ item ∈ items, good item) (readItems readItem close skip trailing) := by
  intro s
  induction s using readItems.induct with
  | case1 s ih =>
    intro items rest h
    rw [readItems] at h
    obtain ⟨⟨item, after⟩, hi, h⟩ := Option.bind_eq_some_iff.1 h
    have hgood := hr hi
    dsimp only at h
    split at h
    · cases h
    · split at h
      · cases h
        simpa using hgood
      · split at h
        · split at h
          · cases h
          · split at h
            · cases h
              simpa using hgood
            · split at h
              · next hlt =>
                obtain ⟨⟨items', rest'⟩, hitems, h⟩ := Option.bind_eq_some_iff.1 h
                cases h
                exact List.forall_mem_cons.2 ⟨hgood, ih _ hlt hitems⟩
              · cases h
        · cases h

theorem reads_readEnclosed {α : Type} {good : α → Prop} {readItem : Text → Option (α × Text)}
    (hr : Reads good readItem) (close : Char) (skip : Text → Text) (trailing : Bool) :
    Reads (fun items => ∀ item ∈ items, good item)
      (readEnclosed readItem close skip trailing) := by
  intro s items rest h
  rw [readEnclosed] at h
  split at h
  · cases h
    simp
  · exact reads_readItems hr close skip trailing h

theorem reads_readPair {good : Value → Prop} {readValue : Text → Option (Value × Text)}
    (hr : Reads good readValue) : Reads (fun pair => good pair.2) (readPair readValue) := by
  intro s pair rest h
  rw [readPair] at h
  obtain ⟨⟨key, s₁⟩, -, h⟩ := Option.bind_eq_some_iff.1 h
  obtain ⟨s₂, -, h⟩ := Option.bind_eq_some_iff.1 h
  obtain ⟨⟨value, s₃⟩, hv, h⟩ := Option.bind_eq_some_iff.1 h
  cases h
  exact hr hv

theorem distinct_inlineTable {pairs : List (Key × Value)} {v : Value}
    (hp : ∀ pair ∈ pairs, pair.2.Distinct) (h : inlineTable pairs = some v) : v.Distinct := by
  obtain ⟨entries, he, rfl⟩ := Option.map_eq_some_iff.1 h
  exact distinct_table.2 (of_foldlM (P := Entries.Distinct)
    (fun pair hm _ _ => keepsDistinct_insertPair (hp pair hm) pair.1.path _ _) he .nil)

theorem distinct_integer? {n : Int} {v : Value} (h : integer? n = some v) : v.Distinct := by
  rw [integer?] at h
  split at h
  · cases h
    exact .integer n
  · cases h

theorem distinct_float? {negative : Bool} {digits : Nat} {exponent : Int} {v : Value}
    (h : float? negative digits exponent = some v) : v.Distinct := by
  rw [float?] at h
  split at h
  · cases h
  · cases h
    exact .float _

theorem reads_readDecimalTail (negative : Bool) (whole : Text) :
    Reads Value.Distinct (readDecimalTail negative whole) := by
  intro s v rest h
  unfold readDecimalTail at h
  simp only [Option.bind_eq_bind, Option.pure_def] at h
  split at h <;> grind [distinct_integer?, distinct_float?, Option.bind_eq_some_iff,
    Option.map_eq_some_iff]

theorem reads_readBased (base : Nat) (isDigit : Char → Bool) :
    Reads Value.Distinct (readBased base isDigit) := by
  intro s v rest h
  obtain ⟨⟨digits, after⟩, -, h⟩ := Option.bind_eq_some_iff.1 h
  obtain ⟨n, hn, h⟩ := Option.bind_eq_some_iff.1 h
  cases h
  exact distinct_integer? hn

theorem reads_readNumber : Reads Value.Distinct readNumber := by
  intro s v rest h
  unfold readNumber at h
  split at h
  · exact reads_readBased _ _ h
  · exact reads_readBased _ _ h
  · exact reads_readBased _ _ h
  · split at h
    · cases h
      exact .float _
    · cases h
      exact .float _
    · split at h
      · exact reads_readDecimalTail _ _ h
      · cases h

theorem reads_readDatetime : Reads Value.Distinct readDatetime := by
  intro s v rest h
  unfold readDatetime at h
  split at h
  · split at h <;> cases h <;> exact .datetime _
  · obtain ⟨⟨time, after⟩, -, h⟩ := Option.map_eq_some_iff.1 h
    cases h
    exact .datetime _

theorem reads_readScalar : Reads Value.Distinct readScalar := by
  intro s v rest h
  unfold readScalar at h
  split at h
  · cases h
    exact .boolean true
  · cases h
    exact .boolean false
  · split at h
    · next found hd =>
      cases h
      exact reads_readDatetime hd
    · exact reads_readNumber h

theorem reads_readValue (depth : Nat) : Reads Value.Distinct (readValue depth) := by
  induction depth using Nat.strongRecOn with
  | _ depth ih =>
    intro s v rest h
    unfold readValue at h
    split at h
    · split at h
      · cases h
      · next d =>
        obtain ⟨found, hv, h⟩ := Option.map_eq_some_iff.1 h
        cases h
        exact .array (reads_readEnclosed (ih d d.lt_succ_self) _ _ _ hv)
    · split at h
      · cases h
      · next d =>
        obtain ⟨⟨pairs, after⟩, hp, h⟩ := Option.bind_eq_some_iff.1 h
        obtain ⟨table, ht, h⟩ := Option.bind_eq_some_iff.1 h
        cases h
        have hr := reads_readPair (ih d d.lt_succ_self)
        exact distinct_inlineTable (reads_readEnclosed hr _ _ _ hp) ht
    · split at h
      · obtain ⟨t, -, h⟩ := Option.map_eq_some_iff.1 h
        cases h
        exact .string _
      · exact reads_readScalar h
    · cases h

def Statement.Distinct : Statement → Prop
  | .pair _ value => value.Distinct
  | .table _ | .element _ => True

theorem reads_readStatement : Reads Statement.Distinct readStatement := by
  intro s statement rest h
  unfold readStatement at h
  split at h
  · obtain ⟨found, -, h⟩ := Option.bind_eq_some_iff.1 h
    obtain ⟨s₁, -, h⟩ := Option.bind_eq_some_iff.1 h
    obtain ⟨s₂, -, h⟩ := Option.bind_eq_some_iff.1 h
    obtain ⟨s₃, -, h⟩ := Option.bind_eq_some_iff.1 h
    cases h
    trivial
  · obtain ⟨found, -, h⟩ := Option.bind_eq_some_iff.1 h
    obtain ⟨s₁, -, h⟩ := Option.bind_eq_some_iff.1 h
    obtain ⟨s₂, -, h⟩ := Option.bind_eq_some_iff.1 h
    cases h
    trivial
  · obtain ⟨⟨⟨key, value⟩, s₁⟩, hp, h⟩ := Option.bind_eq_some_iff.1 h
    obtain ⟨s₂, -, h⟩ := Option.bind_eq_some_iff.1 h
    cases h
    exact reads_readPair (reads_readValue _) hp

theorem distinct_readStatements {s : Text} {statements : List Statement}
    (h : readStatements s = some statements) : ∀ x ∈ statements, x.Distinct := by
  fun_induction readStatements s generalizing statements with
  | case1 =>
    cases h
    simp
  | case2 r ih => exact ih h
  | case3 r ih => exact ih h
  | case4 c r _ _ _ ih => exact ih h
  | case5 _ _ _ _ _ _ _ ih => exact ih h
  | case6 => cases h
  | case7 => cases h
  | case8 c r _ _ _ _ statement rest hr _ ih =>
    obtain ⟨rest', hrest, rfl⟩ := Option.map_eq_some_iff.1 h
    exact List.forall_mem_cons.2 ⟨reads_readStatement hr, ih hrest⟩
  | case9 => cases h
  | case10 => cases h

end Reading

theorem Assembly.distinct_step {a b : Assembly} {x : Statement} (hx : x.Distinct)
    (h : a.step x = some b) (ha : a.root.Distinct) : b.root.Distinct := by
  cases x with
  | table key =>
    obtain ⟨root, hr, h⟩ := Option.bind_eq_some_iff.1 h
    cases h
    exact keepsDistinct_updateAt (keepsDistinct_openTable _) _ _ _ hr ha
  | element key =>
    obtain ⟨root, hr, h⟩ := Option.bind_eq_some_iff.1 h
    cases h
    exact keepsDistinct_updateAt (keepsDistinct_addElement _) _ _ _ hr ha
  | pair key value =>
    obtain ⟨root, hr, h⟩ := Option.bind_eq_some_iff.1 h
    cases h
    exact keepsDistinct_updateAt (keepsDistinct_insertPair hx _) _ _ _ hr ha

theorem distinct_parse {s : Text} {entries : Entries} (h : parse s = some entries) :
    entries.Distinct := by
  obtain ⟨statements, hs, h⟩ := Option.bind_eq_some_iff.1 h
  obtain ⟨assembly, ha, h⟩ := Option.bind_eq_some_iff.1 h
  cases h
  have hd : ∀ x ∈ statements, x.Distinct := by
    unfold statements? at hs
    split at hs <;> exact distinct_readStatements hs
  exact of_foldlM (P := fun a => a.root.Distinct)
    (fun x hx _ _ => Assembly.distinct_step (hd x hx)) ha .nil

end RasterText.Toml
