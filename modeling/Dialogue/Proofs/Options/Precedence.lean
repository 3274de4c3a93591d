import Dialogue.Options.Settings
import Dialogue.Proofs.Options.Reach

/-!
# Precedence of options

The options of one box are merged from layers.  A value is the last word of the layers at a key path
if one of them has it there and no later layer touches the path.  Scalars stand in the merged options
just where they are the last word, and of a list or mapping that is the last word nothing is lost.

## Results

* `lastWord_concat` — one more layer has the last word at the paths that it touches, and at no others.
* `merge_at?_iff` — a scalar stands at a path of merged layers just when it is their last word.
* `LastWord.survives` — the last word is there in merged layers, if not alone.
* `Settings.resolve_precedence` — precedence of the options of a box.
-/

set_option autoImplicit false

namespace Dialogue

namespace Value

/-! ## The last word -/

/-- A value is the last word of layers at a key path: one of them has it there, and no later one
touches the path. -/
def LastWord (layers : List Value) (path : List String) (v : Value) : Prop :=
  ∃ before layer after, layers = before ++ layer :: after ∧ layer.at? path = some v ∧
    ∀ later ∈ after, ¬later.Touches path

theorem lastWord_concat {layers : List Value} {layer v : Value} {path : List String} :
    LastWord (layers ++ [layer]) path v ↔
      layer.at? path = some v ∨ ¬layer.Touches path ∧ LastWord layers path v := by
  constructor
  · rintro ⟨before, found, after, hsplit, hat, hafter⟩
    rcases List.eq_nil_or_concat after with rfl | ⟨front, last, rfl⟩
    · obtain ⟨-, hlast⟩ := List.append_inj' hsplit rfl
      cases hlast
      exact .inl hat
    · rw [List.concat_eq_append] at hafter
      rw [List.concat_eq_append, ← List.cons_append, ← List.append_assoc] at hsplit
      obtain ⟨hfront, hlast⟩ := List.append_inj' hsplit rfl
      cases hlast
      refine .inr ⟨hafter layer (by simp), before, found, front, hfront, hat, fun later hm => ?_⟩
      exact hafter later (List.mem_append_left _ hm)
  · rintro (hat | ⟨huntouched, before, found, after, rfl, hat, hafter⟩)
    · exact ⟨layers, layer, [], rfl, hat, by simp⟩
    · refine ⟨before, found, after ++ [layer], by simp, hat, fun later hm => ?_⟩
      rcases List.mem_append.mp hm with hm | hm
      · exact hafter later hm
      · rwa [List.mem_singleton.mp hm]

theorem not_lastWord_nil {path : List String} {v : Value} : ¬LastWord [] path v := by
  rintro ⟨before, layer, after, hsplit, -⟩
  exact List.append_ne_nil_of_right_ne_nil before (List.cons_ne_nil layer after) hsplit.symm

/-! ## Merged layers -/

theorem merge_single_at? (v : Value) {path : List String} (nonempty : path ≠ []) :
    (merge [v]).at? path = v.at? path := by
  cases path with
  | nil => exact absurd rfl nonempty
  | cons key path => exact congrArg (fun u => u.bind fun w => w.at? path) (get?_owned v key)

theorem onto_eq_iff {v u : Value} (scalar : u.kind = .scalar) (held : Option Value) :
    onto held v = u ↔ v = u := by
  constructor
  · rintro rfl
    rw [onto_kind] at scalar
    exact (onto_of_scalar held scalar).symm
  · rintro rfl
    exact onto_of_scalar held scalar

theorem items_onto (held : Option Value) (v : Value) : v.items <:+ (onto held v).items := by
  cases held with
  | none => exact List.suffix_rfl
  | some u =>
    by_cases hkind : u.kind = v.kind
    · cases v with
      | list form ys =>
        obtain ⟨form', xs, rfl⟩ := exists_list_of_kind hkind
        exact List.suffix_append xs ys
      | tree | null | flag | int | double | text | choice => exact List.nil_suffix
    · simp [onto_of_kind_ne hkind]

/-- **A scalar stands at a path of merged layers just when it is their last word.** -/
theorem merge_at?_iff {layers : List Value}
    (unambiguous : ∀ layer ∈ layers, layer.isUnambiguous = true) (nonempty : layers ≠ [])
    {path : List String} (below : path ≠ []) {v : Value} (scalar : v.kind = .scalar) :
    (merge layers).at? path = some v ↔ LastWord layers path v := by
  induction layers using List.reverseRecOn with
  | nil => exact absurd rfl nonempty
  | append_singleton layers layer ih =>
    rw [lastWord_concat]
    have hlayer : layer.isUnambiguous = true := unambiguous layer (by simp)
    by_cases hnil : layers = []
    · subst hnil
      have hno : ¬(¬layer.Touches path ∧ LastWord [] path v) := fun h => not_lastWord_nil h.2
      rw [List.nil_append, merge_single_at? layer below, or_iff_left hno]
    · have hih := ih (fun l hl => unambiguous l (List.mem_append_left _ hl)) hnil
      rw [merge_snoc hnil]
      by_cases htouches : layer.Touches path
      · rw [at?_lay_of_touches hlayer _ below htouches, or_iff_left fun h => h.1 htouches]
        cases hat : layer.at? path with
        | none => simp
        | some u => simp [onto_eq_iff scalar]
      · have hno : layer.at? path ≠ some v := fun hat => htouches (touches_of_at? hat)
        rw [at?_lay_of_not_touches hlayer _ htouches, hih, or_iff_right hno,
          and_iff_right htouches]

/-- What is the last word is there in merged layers: a scalar alone, a list behind other items, a
mapping perhaps with more entries. -/
theorem LastWord.survives {layers : List Value} {path : List String} {v : Value}
    (h : LastWord layers path v) (unambiguous : ∀ layer ∈ layers, layer.isUnambiguous = true)
    (below : path ≠ []) :
    ∃ u, (merge layers).at? path = some u ∧ u.kind = v.kind ∧ v.items <:+ u.items := by
  induction layers using List.reverseRecOn with
  | nil => exact absurd h not_lastWord_nil
  | append_singleton layers layer ih =>
    have hlayer : layer.isUnambiguous = true := unambiguous layer (by simp)
    by_cases hnil : layers = []
    · subst hnil
      rcases lastWord_concat.mp h with hat | ⟨-, hno⟩
      · exact ⟨v, (merge_single_at? layer below).trans hat, rfl, List.suffix_rfl⟩
      · exact absurd hno not_lastWord_nil
    · rw [merge_snoc hnil]
      rcases lastWord_concat.mp h with hat | ⟨huntouched, hlast⟩
      · rw [at?_lay_of_touches hlayer _ below (touches_of_at? hat), hat]
        exact ⟨_, rfl, onto_kind _ v, items_onto _ v⟩
      · rw [at?_lay_of_not_touches hlayer _ huntouched]
        exact ih hlast fun l hl => unambiguous l (List.mem_append_left _ hl)

/-- Merged layers are a mapping of our own whenever they are a mapping. -/
theorem exists_entries_merge {layers : List Value} (tree : (merge layers).kind = .tree) :
    ∃ es, merge layers = .ofTable es := by
  induction layers using List.reverseRecOn with
  | nil => exact ⟨[], rfl⟩
  | append_singleton layers layer =>
    rw [merge_concat_kind] at tree
    obtain ⟨form, es, rfl⟩ := exists_tree_of_kind tree
    by_cases hnil : layers = []
    · subst hnil
      exact ⟨es, rfl⟩
    · rw [merge_snoc hnil]
      cases merge layers <;> exact ⟨_, rfl⟩

end Value

/-! ## The options of a box -/

namespace Settings

open Value (LastWord)

/-- The layers that the options of one box are merged from, the lowest first. -/
def layers (s : Settings) (kind : DialogKind) (speaker : Option Character)
    (sideImage options : Value) : List Value :=
  [s.flags kind, s.tree kind] ++ speakerLayers speaker sideImage ++ callLayers options

theorem resolve_eq_merge (s : Settings) (kind : DialogKind) (speaker : Option Character)
    (sideImage options : Value) :
    s.resolve kind speaker sideImage options =
      Value.merge (s.layers kind speaker sideImage options) :=
  rfl

/-- The options of a box are a mapping, if the options of the call are one, or else the tree of the
layout family unless there is a speaker. -/
theorem resolve_kind {s : Settings} {kind : DialogKind} {speaker? : Option Character}
    {sideImage options : Value}
    (mapping : options.truthy = true → options.kind = .tree)
    (tree : options.truthy = false → speaker? = none → (s.tree kind).kind = .tree) :
    (s.resolve kind speaker? sideImage options).kind = .tree := by
  -- the last of all layers decides
  unfold resolve callLayers
  cases htruthy : options.truthy with
  | true =>
    rw [if_pos rfl, Value.merge_concat_kind]
    exact mapping htruthy
  | false =>
    rw [if_neg Bool.false_ne_true, List.append_nil]
    cases speaker? with
    | none =>
      have hlast : [s.flags kind, s.tree kind] ++ speakerLayers none sideImage =
          [s.flags kind] ++ [s.tree kind] := rfl
      rw [hlast, Value.merge_concat_kind]
      exact tree htruthy rfl
    | some c =>
      obtain ⟨before, last, hlayers, hlast⟩ : ∃ before last,
          speakerLayers (some c) sideImage = before ++ [last] ∧ last.kind = .tree := by
        simp only [speakerLayers]
        split
        · exact ⟨[], speakerLayer c sideImage, rfl, rfl⟩
        · exact ⟨[], speakerLayer c sideImage, rfl, rfl⟩
        · rename_i options _ _
          exact ⟨[speakerLayer c sideImage], .ofTable options, rfl, rfl⟩
      rw [hlayers, ← List.append_assoc, Value.merge_concat_kind]
      exact hlast

/-- What the options of a call hold somewhere is the last word. -/
theorem lastWord_of_call {s : Settings} {kind : DialogKind} {speaker : Option Character}
    {sideImage options v : Value} {path : List String} (below : path ≠ [])
    (hat : options.at? path = some v) :
    LastWord (s.layers kind speaker sideImage options) path v := by
  have htruthy : options.truthy = true := by
    cases path with
    | nil => exact absurd rfl below
    | cons key path =>
      obtain ⟨u, hu, -⟩ := Option.bind_eq_some_iff.mp hat
      obtain ⟨form, es, rfl⟩ := Value.exists_tree_of_get? hu
      cases es with
      | nil => cases hu
      | cons e rest => rfl
  refine ⟨[s.flags kind, s.tree kind] ++ speakerLayers speaker sideImage, options, [], ?_, hat,
    by simp⟩
  rw [layers, callLayers, if_pos htruthy]

/-- **Precedence of the options of a box.**  They are a mapping in which a scalar stands at a key path
just when one of the layers has it there and no later one touches the path.  So all scalars of the
call are in it, and of no layer anything is lost that no later layer touches. -/
theorem resolve_precedence {s : Settings} {kind : DialogKind} {speaker : Option Character}
    {sideImage options : Value} (tree : (s.tree kind).kind = .tree)
    (mapping : options.truthy = true → options.kind = .tree)
    (unambiguous : ∀ layer ∈ s.layers kind speaker sideImage options,
      layer.isUnambiguous = true) :
    ∃ es, s.resolve kind speaker sideImage options = .ofTable es ∧
      ∀ path ≠ [],
        (∀ v, v.kind = .scalar →
          ((Value.ofTable es).at? path = some v ↔
            LastWord (s.layers kind speaker sideImage options) path v)) ∧
        (∀ v, v.kind = .scalar → options.at? path = some v →
          (Value.ofTable es).at? path = some v) ∧
        ∀ v, LastWord (s.layers kind speaker sideImage options) path v →
          ∃ u, (Value.ofTable es).at? path = some u ∧ u.kind = v.kind ∧ v.items <:+ u.items := by
  have hne : s.layers kind speaker sideImage options ≠ [] := List.cons_ne_nil _ _
  have hkind : (s.resolve kind speaker sideImage options).kind = .tree :=
    resolve_kind mapping fun _ _ => tree
  rw [resolve_eq_merge] at hkind ⊢
  obtain ⟨es, hes⟩ := Value.exists_entries_merge hkind
  refine ⟨es, hes, fun path below => ?_⟩
  rw [← hes]
  refine ⟨fun v scalar => Value.merge_at?_iff unambiguous hne below scalar,
    fun v scalar hat => ?_, fun v hlast => hlast.survives unambiguous below⟩
  exact (Value.merge_at?_iff unambiguous hne below scalar).mpr (lastWord_of_call below hat)

/-- A speaker with a position and with options that take away the padding of its boxes. -/
def bossy : Character :=
  { name := some "Robot", position := some "bot",
    options := some
      [("text_box", .ofTable [("width", .int 300), ("padding", .null)]),
       ("tags", .ofList [.text "a"])] }

/-- Options of a call that asks for another width. -/
def wide : Value :=
  .ofTable [("text_box", .ofTable [("width", .int 900)])]

/-- The general theorem where all five layers have a say. -/
theorem resolve_precedence_bossy :
    (({} : Settings).tree .pop).kind = .tree ∧ (wide.truthy = true → wide.kind = .tree) ∧
      (∀ layer ∈ ({} : Settings).layers .pop (some bossy) (.text "bean") wide,
        layer.isUnambiguous = true) ∧
      ∃ es, ({} : Settings).resolve .pop (some bossy) (.text "bean") wide = .ofTable es ∧
        ∀ path ≠ [],
          (∀ v, v.kind = .scalar →
            ((Value.ofTable es).at? path = some v ↔
              LastWord (({} : Settings).layers .pop (some bossy) (.text "bean") wide) path v)) ∧
          (∀ v, v.kind = .scalar → wide.at? path = some v →
            (Value.ofTable es).at? path = some v) ∧
          ∀ v, LastWord (({} : Settings).layers .pop (some bossy) (.text "bean") wide) path v →
            ∃ u, (Value.ofTable es).at? path = some u ∧ u.kind = v.kind ∧ v.items <:+ u.items := by
  have tree : (({} : Settings).tree .pop).kind = .tree := rfl
  have mapping : wide.truthy = true → wide.kind = .tree := fun _ => rfl
  have unambiguous : ∀ layer ∈ ({} : Settings).layers .pop (some bossy) (.text "bean") wide,
      layer.isUnambiguous = true := by decide
  exact ⟨tree, mapping, unambiguous, resolve_precedence tree mapping unambiguous⟩

-- the call has the last word on the width, the speaker on the padding, the defaults on the margin
example :
    let options := ({} : Settings).resolve .pop (some bossy) (.text "bean") wide
    options.at? ["text_box", "width"] = some (.int 900) ∧
      options.at? ["text_box", "padding", "top"] = none ∧
      options.at? ["text_box", "margin"] = some (.int 20) := by
  decide

end Settings

end Dialogue
