import Dialogue.Proofs.Options.Configuring

/-!
# What lasts of the defaults

Settings start with an option tree for each layout family.  What they are built with and what updates
take is laid over it, so the tree is merged from layers: the defaults, then all that was ever put over
them.  It is a mapping with all the keys of the defaults just when its last layers are mappings that
have these keys between them: anything else that an update takes makes it forget what it was.

## Results

* `isSome_get?_lay` — laying a mapping over another value keeps and adds keys.
* `tree_updates` — an option tree after any number of updates is merged from layers.
* `intact_iff` — when an option tree is a mapping with the keys of the defaults.
-/

set_option autoImplicit false

namespace Dialogue

namespace Value

/-! ## Keys of merged layers -/

theorem mem_keys_layEntries (below es : Table Value) (key : String) :
    key ∈ Table.keys (layEntries below es) ↔ key ∈ Table.keys below ∨ key ∈ Table.keys es := by
  induction es generalizing below with
  | nil => simp [layEntries, Table.keys]
  | cons e rest ih =>
    have hcons : Table.keys (e :: rest) = e.1 :: Table.keys rest := rfl
    rw [layEntries_cons, ih, Table.mem_keys_put, hcons, List.mem_cons, or_assoc]

theorem isSome_get?_iff (form : Form) (es : Table Value) (key : String) :
    ((Value.tree form es).get? key).isSome = true ↔ key ∈ Table.keys es :=
  Table.get?_isSome_iff es key

/-- Laying a mapping over another value keeps and adds keys. -/
theorem isSome_get?_lay {v : Value} (tree : v.kind = .tree) (below : Value) (key : String) :
    ((lay below v).get? key).isSome = true ↔
      (below.get? key).isSome = true ∨ (v.get? key).isSome = true := by
  by_cases hbelow : below.kind = .tree
  · obtain ⟨form, es, rfl⟩ := exists_tree_of_kind tree
    obtain ⟨form', ds, rfl⟩ := exists_tree_of_kind hbelow
    simp only [lay, isSome_get?_iff, mem_keys_layEntries]
  · have hne : below.kind ≠ v.kind := fun h => hbelow (h.trans tree)
    rw [lay_of_kind_ne hne, get?_owned, get?_of_kind_ne hbelow]
    simp

/-- Merged layers have every key of the mappings at their end. -/
theorem isSome_get?_merge (before : List Value) {after : List Value}
    (trees : ∀ v ∈ after, v.kind = .tree) {key : String} {v : Value} (hv : v ∈ after)
    (hkey : (v.get? key).isSome = true) :
    ((merge (before ++ after)).get? key).isSome = true := by
  induction after using List.reverseRecOn with
  | nil => cases hv
  | append_singleton after last ih =>
    have tree : last.kind = .tree := trees last (by simp)
    rw [← List.append_assoc]
    by_cases hnil : before ++ after = []
    · have hlast : v = last := by
        rw [(List.append_eq_nil_iff.mp hnil).2] at hv
        exact List.mem_singleton.mp hv
      rw [hnil, ← hlast]
      exact (congrArg Option.isSome (get?_owned v key)).trans hkey
    · rw [merge_snoc hnil, isSome_get?_lay tree]
      rcases List.mem_append.mp hv with hv | hv
      · exact .inl (ih (fun u hu => trees u (List.mem_append_left _ hu)) hv)
      · rw [List.mem_singleton.mp hv] at hkey
        exact .inr hkey

/-- Merged mappings have no other keys than those of the layers. -/
theorem exists_of_isSome_get?_merge {layers : List Value}
    (trees : ∀ v ∈ layers, v.kind = .tree) {key : String}
    (hkey : ((merge layers).get? key).isSome = true) :
    ∃ v ∈ layers, (v.get? key).isSome = true := by
  induction layers using List.reverseRecOn with
  | nil => cases hkey
  | append_singleton layers last ih =>
    by_cases hnil : layers = []
    · subst hnil
      have howned : (last.owned.get? key).isSome = true := hkey
      rw [get?_owned] at howned
      exact ⟨last, by simp, howned⟩
    · rw [merge_snoc hnil, isSome_get?_lay (trees last (by simp))] at hkey
      rcases hkey with hkey | hkey
      · obtain ⟨v, hv, hget⟩ := ih (fun u hu => trees u (List.mem_append_left _ hu)) hkey
        exact ⟨v, List.mem_append_left _ hv, hget⟩
      · exact ⟨last, by simp, hkey⟩

end Value

namespace Settings

/-! ## Any number of updates -/

/-- The option tree that a layout family starts with. -/
def defaults : DialogKind → Table Value
  | .pop => Defaults.pop
  | .vn => Defaults.vn

/-- Settings after updates, some of which may have been refused. -/
def updates (calls : List (Keyed Value)) (s : Settings) : Settings :=
  calls.foldl (fun s options => (update options s).2) s

/-- What was put over the option tree of a layout family, the lowest first: what the settings were built
with, and what the updates took. -/
def laidOver (kind : DialogKind) (given : Value) (calls : List (Keyed Value)) : List Value :=
  (if given.truthy then given else .ofTable []) ::
    calls.flatMap fun options => under kind.name (taken options)

theorem tree_overlaid (s : Settings) (options : Keyed Value) (kind : DialogKind) :
    (s.overlaid options).tree kind = (under kind.name options).foldl Value.lay (s.tree kind) := by
  cases kind <;> rfl

theorem tree_updates_eq_foldl (s : Settings) (calls : List (Keyed Value)) (kind : DialogKind) :
    (updates calls s).tree kind =
      (calls.flatMap fun options => under kind.name (taken options)).foldl Value.lay
        (s.tree kind) := by
  induction calls generalizing s with
  | nil => rfl
  | cons options calls ih =>
    have hcons : updates (options :: calls) s = updates calls (update options s).2 := rfl
    rw [hcons, ih, update_snd, tree_overlaid, List.flatMap_cons, List.foldl_append]

/-- **An option tree after any number of updates is merged from layers.** -/
theorem tree_updates (prompt : Value) (given : DialogKind → Value)
    (calls : List (Keyed Value)) (kind : DialogKind) :
    (updates calls (ofGiven prompt (given .pop) (given .vn))).tree kind =
      Value.merge (.ofTable (defaults kind) :: laidOver kind (given kind) calls) := by
  have hfirst : (ofGiven prompt (given .pop) (given .vn)).tree kind =
      Value.merge [.ofTable (defaults kind),
        if (given kind).truthy then given kind else .ofTable []] := by
    cases kind <;> rfl
  rw [tree_updates_eq_foldl, hfirst, ← Value.merge_append]
  rfl

/-! ## What is left of the defaults -/

/-- The option tree of a layout family is a mapping with all the keys of the defaults, and so are the
options of a box that nobody speaks in, which have the flags besides. -/
structure Intact (s : Settings) (kind : DialogKind) : Prop where
  tree : ∃ es, s.tree kind = .ofTable es ∧
    ∀ key ∈ Table.keys (defaults kind), key ∈ Table.keys es
  box : ∃ es, s.resolve kind none .null .null = .ofTable es ∧
    ∀ key ∈ "show_next_prompt" :: "dialog_type" :: Table.keys (defaults kind),
      key ∈ Table.keys es

theorem intact_of_tree {s : Settings} {kind : DialogKind} {es : Table Value}
    (tree : s.tree kind = .ofTable es)
    (keys : ∀ key ∈ Table.keys (defaults kind), key ∈ Table.keys es) : s.Intact kind where
  tree := ⟨es, tree, keys⟩
  box := by
    have hbox : s.resolve kind none .null .null =
        .ofTable (Value.layEntries
          [("show_next_prompt", s.prompt), ("dialog_type", .text kind.name)] es) := by
      have hlayers : s.resolve kind none .null .null =
          Value.lay (s.flags kind).owned (s.tree kind) := rfl
      rw [hlayers, tree]
      rfl
    refine ⟨_, hbox, fun key hkey => (Value.mem_keys_layEntries _ es key).mpr ?_⟩
    simp only [List.mem_cons] at hkey
    rcases hkey with rfl | rfl | hkey
    · exact .inl (by simp [Table.keys])
    · exact .inl (by simp [Table.keys])
    · exact .inr (keys key hkey)

/-- An option tree is intact when its last layers are mappings with the keys of the defaults. -/
theorem intact_of_layers {s : Settings} {kind : DialogKind} (before : List Value)
    {after : List Value} (tree : s.tree kind = Value.merge (before ++ after))
    (trees : ∀ v ∈ after, v.kind = .tree)
    (keys : ∀ key ∈ Table.keys (defaults kind), ∃ v ∈ after, (v.get? key).isSome = true) :
    s.Intact kind := by
  have hkind : (Value.merge (before ++ after)).kind = .tree := by
    cases after using List.reverseRecOn with
    | nil =>
      obtain ⟨v, hv, -⟩ := keys "side_image" (by cases kind <;> decide)
      cases hv
    | append_singleton after last =>
      rw [← List.append_assoc, Value.merge_concat_kind]
      exact trees last (by simp)
  obtain ⟨es, hes⟩ := Value.exists_entries_merge hkind
  refine intact_of_tree (tree.trans hes) fun key hkey => ?_
  obtain ⟨v, hv, hget⟩ := keys key hkey
  have hmerge := Value.isSome_get?_merge before trees hv hget
  rw [hes] at hmerge
  exact (Value.isSome_get?_iff .own es key).mp hmerge

/-- **When an option tree is a mapping with the keys of the defaults.**  It is one after any updates,
refused or not, just when the last layers of the defaults and what was put over them are mappings that
have all these keys between them. -/
theorem intact_iff (prompt : Value) (given : DialogKind → Value) (calls : List (Keyed Value))
    (kind : DialogKind) :
    (updates calls (ofGiven prompt (given .pop) (given .vn))).Intact kind ↔
      ∃ before after, .ofTable (defaults kind) :: laidOver kind (given kind) calls =
          before ++ after ∧
        (∀ v ∈ after, v.kind = .tree) ∧
        ∀ key ∈ Table.keys (defaults kind), ∃ v ∈ after, (v.get? key).isSome = true := by
  have htree := tree_updates prompt given calls kind
  constructor
  · rintro ⟨⟨es, hes, keys⟩, -⟩
    obtain ⟨before, run, runKind, hsplit, hrun⟩ :=
      Value.exists_run (List.cons_ne_nil (Value.ofTable (defaults kind))
        (laidOver kind (given kind) calls))
    rw [hsplit] at htree
    have hkind : runKind = .tree := by
      rw [← Value.merge_kind hrun, ← htree, hes]
      rfl
    subst hkind
    refine ⟨before, run, hsplit, hrun.same, fun key hkey => ?_⟩
    rw [Value.merge_run hrun, hes] at htree
    refine Value.exists_of_isSome_get?_merge hrun.same ?_
    rw [← htree]
    exact (Value.isSome_get?_iff .own es key).mpr (keys key hkey)
  · rintro ⟨before, after, hsplit, trees, keys⟩
    rw [hsplit] at htree
    exact intact_of_layers before htree trees keys

/-- An update that is not refused can topple an option tree, and then there are no options for a box
either. -/
theorem update_toppled :
    (update [(.text "pop", .null)] ofGiven).1 = .ok () ∧
      (updates [[(.text "pop", .null)]] ofGiven).tree .pop = .null ∧
      (updates [[(.text "pop", .null)]] ofGiven).resolve .pop none .null .null = .null ∧
      ¬(updates [[(.text "pop", .null)]] ofGiven).Intact .pop := by
  refine ⟨rfl, rfl, rfl, ?_⟩
  rintro ⟨⟨es, hes, -⟩, -⟩
  cases hes

end Settings

end Dialogue
