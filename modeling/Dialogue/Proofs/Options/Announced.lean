import Dialogue.Options.Settings
import Dialogue.Proofs.Options.Reach

/-!
# What a box announces

The options of a box say whether more is announced to come.  The settings say so in the lowest layer,
and this is what the box says in the end, unless a layer above has an entry of its own for it; but an
option tree that is no mapping hides the lowest layer.

## Results

* `Value.get?_lay_of_missing` — a mapping that is laid over a value leaves the entries that it has not.
* `Settings.get?_resolve_prompt` — what the options of a box say about what is announced.
-/

set_option autoImplicit false

namespace Dialogue

namespace Value

theorem get?_layEntries_of_missing {es : Table Value} {key : String}
    (missing : Table.get? es key = none) (below : Table Value) :
    Table.get? (layEntries below es) key = Table.get? below key := by
  induction es generalizing below with
  | nil => rfl
  | cons e rest ih =>
    obtain ⟨k, v⟩ := e
    have hk : key ≠ k := by
      rintro rfl
      simp [Table.get?] at missing
    have hrest : Table.get? rest key = none := by
      simpa [Table.get?, hk.symm] using missing
    rw [layEntries_cons, ih hrest, Table.get?_put_of_ne _ _ hk]

/-- A mapping that is laid over a value leaves the entries that it has not itself. -/
theorem get?_lay_of_missing {v : Value} {key : String} (tree : v.kind = .tree)
    (missing : v.get? key = none) (below : Value) : (lay below v).get? key = below.get? key := by
  obtain ⟨form, es, rfl⟩ := exists_tree_of_kind tree
  by_cases hbelow : below.kind = .tree
  · obtain ⟨form', ds, rfl⟩ := exists_tree_of_kind hbelow
    exact get?_layEntries_of_missing missing ds
  · rw [lay_of_kind_ne fun h => hbelow (h.trans tree), get?_owned, missing, get?_of_kind_ne hbelow]

/-- So do any number of mappings. -/
theorem get?_foldl_lay_of_missing {layers : List Value} {key : String}
    (trees : ∀ v ∈ layers, v.kind = .tree) (missing : ∀ v ∈ layers, v.get? key = none)
    (below : Value) : (layers.foldl lay below).get? key = below.get? key := by
  induction layers generalizing below with
  | nil => rfl
  | cons v rest ih =>
    have hrest := ih (fun u hu => trees u (List.mem_cons_of_mem _ hu))
      (fun u hu => missing u (List.mem_cons_of_mem _ hu)) (lay below v)
    exact hrest.trans
      (get?_lay_of_missing (trees v List.mem_cons_self) (missing v List.mem_cons_self) below)

end Value

namespace Settings

/-- The name under which options say whether more is announced to come. -/
def promptName : String :=
  "show_next_prompt"

/-- Do neither this option tree nor the speaker's own options say whether more is announced to
come? -/
structure Silent (tree : Value) (speaker : Character) : Prop where
  tree : tree.get? promptName = none
  options : ∀ options ∈ speaker.options, Table.get? options promptName = none

theorem get?_speakerLayer (c : Character) (sideImage : Value) :
    (speakerLayer c sideImage).get? promptName = none := by
  unfold speakerLayer
  split <;> rfl

/-- What a speaker adds are mappings, which do not say what is announced if its own options do not. -/
theorem speakerLayers_silent {tree : Value} {speaker : Character} (silent : Silent tree speaker)
    (sideImage : Value) : ∀ v ∈ speakerLayers (some speaker) sideImage,
      v.kind = .tree ∧ v.get? promptName = none := by
  have hlayer : (speakerLayer speaker sideImage).kind = .tree ∧
      (speakerLayer speaker sideImage).get? promptName = none :=
    ⟨rfl, get?_speakerLayer speaker sideImage⟩
  intro v hv
  simp only [speakerLayers] at hv
  split at hv
  · rw [List.mem_singleton.mp hv]
    exact hlayer
  · rw [List.mem_singleton.mp hv]
    exact hlayer
  · rename_i options _ hoptions
    rcases List.mem_cons.mp hv with rfl | hv
    · exact hlayer
    · rw [List.mem_singleton.mp hv]
      exact ⟨rfl, silent.options options hoptions⟩

/-- **What the options of a box say about what is announced**: what the settings say, if the option tree
is a mapping, and nothing if it is not. -/
theorem get?_resolve_prompt {s : Settings} {kind : DialogKind} {speaker : Character}
    (silent : Silent (s.tree kind) speaker) (sideImage : Value) :
    (s.resolve kind (some speaker) sideImage .null).get? promptName =
      if (s.tree kind).kind = .tree then some s.prompt else none := by
  have hlayers := speakerLayers_silent silent sideImage
  have hresolve : s.resolve kind (some speaker) sideImage .null =
      (speakerLayers (some speaker) sideImage).foldl Value.lay
        (Value.lay (s.flags kind).owned (s.tree kind)) := by
    have hcall : callLayers .null = [] := rfl
    unfold resolve
    rw [hcall, List.append_nil]
    rfl
  rw [hresolve, Value.get?_foldl_lay_of_missing (fun v hv => (hlayers v hv).1)
    fun v hv => (hlayers v hv).2]
  split
  · rename_i htree
    rw [Value.get?_lay_of_missing htree silent.tree]
    rfl
  · rename_i hother
    exact Value.get?_of_kind_ne (by rwa [Value.lay_kind]) _

/-- The box says what the settings say just when the option tree of its layout family is a mapping. -/
theorem get?_resolve_prompt_eq_some_iff {s : Settings} {kind : DialogKind} {speaker : Character}
    (silent : Silent (s.tree kind) speaker) (sideImage : Value) :
    (s.resolve kind (some speaker) sideImage .null).get? promptName = some s.prompt ↔
      (s.tree kind).kind = .tree := by
  rw [get?_resolve_prompt silent]
  split <;> simp_all

end Settings

end Dialogue
