import Dialogue.Proofs.Options.Announced
import Dialogue.Proofs.Options.Lasting
import Dialogue.Surface.Canvas

/-!
# What boxes need to be drawn

A canvas looks things up in the options of a box when it places the box and when it paints it.  Which
things these are depends on the layout family alone.  The default trees have them all, and they are
never lost as long as the layers above are considerate: mappings that leave the layout family alone and
put nothing but mappings where the things stand that a canvas looks up.

## Results

* `Value.Clears.of_isConsiderate` — a considerate layer leaves the way open to all that a box needs.
* `Canvas.Stocked.update`, `Canvas.stocked_ofGiven` — option trees have all that boxes need, and keep it
  through updates.
* `Canvas.furnished_resolve` — so the options of a box have all that it needs.
-/

set_option autoImplicit false

namespace Dialogue

namespace Canvas

/-! ## Needs -/

/-- Where the things stand that boxes of both layout families need. -/
def commonNeeds : List (List String) :=
  [["text_box", "margin"], ["text_box", "padding", "top"], ["text_box", "padding", "right"],
   ["text_box", "padding", "bottom"], ["text_box", "padding", "left"],
   ["text_box", "options", "radius"], ["side_image", "options", "width"]]

/-- Where the things stand that a box needs.  A full-width box has no width of its own. -/
def needs : DialogKind → List (List String)
  | .pop => ["text_box", "width"] :: commonNeeds
  | .vn => commonNeeds

/-- The mappings that hold what boxes need. -/
def rooms : List (List String) :=
  [["text_box"], ["text_box", "padding"], ["text_box", "options"], ["side_image"],
   ["side_image", "options"]]

/-- The name under which options say in which layout family a box is. -/
def kindName : String :=
  "dialog_type"

/-- The options of a box of this layout family have all that the box needs. -/
structure Furnished (kind : DialogKind) (options : Value) : Prop where
  family : options.get? kindName = some (.text kind.name)
  has : ∀ path ∈ needs kind, (options.at? path).isSome = true

/-- An option tree of this layout family has all that its boxes need. -/
structure Stocked (kind : DialogKind) (tree : Value) : Prop where
  mapping : tree.kind = .tree
  unambiguous : tree.isUnambiguous = true
  kindless : tree.get? kindName = none
  has : ∀ path ∈ needs kind, (tree.at? path).isSome = true

end Canvas

open Canvas (Furnished Stocked kindName needs rooms)

/-! ## Considerate layers -/

namespace Value

/-- Is this a mapping that leaves the layout family alone, and puts nothing but mappings where a box has
what it needs? -/
def isConsiderate (v : Value) : Bool :=
  v.kind == .tree && v.isUnambiguous && (v.get? kindName).isNone &&
    rooms.all fun path => (v.at? path).all fun u => u.kind == .tree

/-- What it means to be considerate. -/
structure Considerate (v : Value) : Prop where
  mapping : v.kind = .tree
  unambiguous : v.isUnambiguous = true
  kindless : v.get? kindName = none
  rooms : ∀ path ∈ rooms, ∀ u ∈ v.at? path, u.kind = .tree

theorem isConsiderate_iff (v : Value) : v.isConsiderate = true ↔ v.Considerate := by
  have hrooms : (rooms.all fun path => (v.at? path).all fun u => u.kind == .tree) = true ↔
      ∀ path ∈ rooms, ∀ u ∈ v.at? path, u.kind = .tree := by
    rw [List.all_eq_true]
    refine forall₂_congr fun path _ => ?_
    cases v.at? path <;> simp
  unfold isConsiderate
  rw [Bool.and_eq_true_iff, Bool.and_eq_true_iff, Bool.and_eq_true_iff, hrooms, beq_iff_eq,
    Option.isNone_iff_eq_none]
  exact ⟨fun ⟨⟨⟨mapping, unambiguous⟩, kindless⟩, rooms⟩ => ⟨mapping, unambiguous, kindless, rooms⟩,
    fun ⟨mapping, unambiguous, kindless, rooms⟩ => ⟨⟨⟨mapping, unambiguous⟩, kindless⟩, rooms⟩⟩

/-- All that leads to something that a box needs is the box itself, or one of the rooms. -/
theorem eq_nil_or_mem_rooms (kind : DialogKind) : ∀ path ∈ needs kind,
    ∀ front ∈ path.dropLast.inits, front = [] ∨ front ∈ rooms := by
  cases kind <;> decide

/-- **A considerate layer leaves the way open to all that a box needs.** -/
theorem Considerate.clears {v : Value} (considerate : v.Considerate) {kind : DialogKind}
    {path : List String} (need : path ∈ needs kind) : v.Clears path := by
  intro front hfront u hu
  rcases eq_nil_or_mem_rooms kind path need front hfront with rfl | hroom
  · cases hu
    exact considerate.mapping
  · exact considerate.rooms front hroom u hu

end Value

/-! ## Option trees -/

namespace Canvas

/-- Laying a considerate layer over an option tree leaves it with all that boxes need. -/
theorem Stocked.lay {kind : DialogKind} {tree v : Value} (stocked : Stocked kind tree)
    (considerate : v.Considerate) : Stocked kind (Value.lay tree v) where
  mapping := (Value.lay_kind tree v).trans considerate.mapping
  unambiguous := Value.isUnambiguous_lay stocked.unambiguous considerate.unambiguous
  kindless :=
    (Value.get?_lay_of_missing considerate.mapping considerate.kindless tree).trans stocked.kindless
  has path need :=
    Value.isSome_at?_lay considerate.unambiguous (considerate.clears need) (stocked.has path need)

theorem stocked_defaults (kind : DialogKind) : Stocked kind (.ofTable (Settings.defaults kind)) := by
  cases kind <;> exact ⟨rfl, by decide, by decide, by decide⟩

/-- **Settings that are built with considerate option trees have all that boxes need.** -/
theorem stocked_ofGiven (prompt : Value) {given : DialogKind → Value}
    (considerate : ∀ kind, (given kind).truthy = true → (given kind).Considerate)
    (kind : DialogKind) :
    Stocked kind ((Settings.ofGiven prompt (given .pop) (given .vn)).tree kind) := by
  have htree : (Settings.ofGiven prompt (given .pop) (given .vn)).tree kind =
      Value.lay (.ofTable (Settings.defaults kind))
        (if (given kind).truthy then given kind else .ofTable []) := by
    cases kind <;> rfl
  rw [htree]
  refine (stocked_defaults kind).lay ?_
  split
  · rename_i htruthy
    exact considerate kind htruthy
  · exact (Value.isConsiderate_iff _).mp (by decide)

/-- **Considerate updates leave an option tree with all that boxes need**, whether they are refused or
not. -/
theorem Stocked.update {s : Settings} {kind : DialogKind} (stocked : Stocked kind (s.tree kind))
    {options : Keyed Value}
    (considerate : ∀ v ∈ Settings.under kind.name options, v.Considerate) :
    Stocked kind ((Settings.update options s).2.tree kind) := by
  rw [Settings.update_snd, Settings.tree_overlaid]
  have hlayers : ∀ v ∈ Settings.under kind.name (Settings.taken options), v.Considerate :=
    fun v hv => considerate v (((List.takeWhile_sublist _).filterMap _).subset hv)
  generalize Settings.under kind.name (Settings.taken options) = layers at hlayers
  generalize s.tree kind = tree at stocked
  induction layers generalizing tree with
  | nil => exact stocked
  | cons v rest ih =>
    exact ih (fun u hu => hlayers u (List.mem_cons_of_mem _ hu)) _
      (stocked.lay (hlayers v List.mem_cons_self))

/-! ## The options of a box -/

theorem Furnished.lay {kind : DialogKind} {options v : Value} (furnished : Furnished kind options)
    (considerate : v.Considerate) : Furnished kind (Value.lay options v) where
  family :=
    (Value.get?_lay_of_missing considerate.mapping considerate.kindless options).trans
      furnished.family
  has path need :=
    Value.isSome_at?_lay considerate.unambiguous (considerate.clears need) (furnished.has path need)

theorem Furnished.foldl {kind : DialogKind} {options : Value} (furnished : Furnished kind options)
    {layers : List Value} (considerate : ∀ v ∈ layers, v.Considerate) :
    Furnished kind (layers.foldl Value.lay options) := by
  induction layers generalizing options with
  | nil => exact furnished
  | cons v rest ih =>
    exact ih (furnished.lay (considerate v List.mem_cons_self))
      fun u hu => considerate u (List.mem_cons_of_mem _ hu)

/-- What a speaker's record says is considerate. -/
theorem considerate_speakerLayer (c : Character) (image? : Option String) :
    (Settings.speakerLayer c (.optionalText image?)).Considerate := by
  have htext (t? : Option String) : (Value.optionalText t?).isUnambiguous = true := by
    cases t? <;> rfl
  rw [← Value.isConsiderate_iff]
  unfold Settings.speakerLayer
  split <;> simp [Value.isConsiderate, Value.kind, Value.isUnambiguous, Value.areUnambiguous,
    Table.keys, htext, rooms, Value.at?, kindName, Value.get?, Value.entries?, Table.get?]

end Canvas

/-- The options of a character, if it has any, are considerate. -/
def Character.Considerate (c : Character) : Prop :=
  ∀ options ∈ c.options, (Value.ofTable options).Considerate

namespace Canvas

/-- The layers that a considerate speaker adds are considerate. -/
theorem considerate_speakerLayers {speaker? : Option Character}
    (speaker : ∀ c ∈ speaker?, c.Considerate) (image? : Option String) :
    ∀ v ∈ Settings.speakerLayers speaker? (.optionalText image?), v.Considerate := by
  intro v hv
  cases speaker? with
  | none => cases hv
  | some c =>
    simp only [Settings.speakerLayers] at hv
    split at hv
    · exact List.mem_singleton.mp hv ▸ considerate_speakerLayer c image?
    · exact List.mem_singleton.mp hv ▸ considerate_speakerLayer c image?
    · rename_i options _ hoptions
      rcases List.mem_pair.mp hv with rfl | rfl
      · exact considerate_speakerLayer c image?
      · exact speaker c rfl options hoptions

/-- **The options of a box have all that the box needs**, if the option tree has it, and the options of
the speaker and of the call are considerate. -/
theorem furnished_resolve {s : Settings} {kind : DialogKind} (stocked : Stocked kind (s.tree kind))
    {speaker? : Option Character} (speaker : ∀ c ∈ speaker?, c.Considerate) (image? : Option String)
    {options : Value} (call : options.truthy = true → options.Considerate) :
    Furnished kind (s.resolve kind speaker? (.optionalText image?) options) := by
  have hbase : Furnished kind (Value.lay (s.flags kind) (s.tree kind)) := by
    refine ⟨(Value.get?_lay_of_missing stocked.mapping stocked.kindless _).trans rfl,
      fun path need => ?_⟩
    exact Value.isSome_at?_lay_of_isSome stocked.unambiguous _ (stocked.has path need)
  have hlayers : ∀ v ∈ Settings.speakerLayers speaker? (.optionalText image?) ++
      Settings.callLayers options, v.Considerate := by
    intro v hv
    rcases List.mem_append.mp hv with hv | hv
    · exact considerate_speakerLayers speaker image? v hv
    · unfold Settings.callLayers at hv
      split at hv
      · rename_i htruthy
        exact List.mem_singleton.mp hv ▸ call htruthy
      · cases hv
  have hresolve : s.resolve kind speaker? (.optionalText image?) options =
      (Settings.speakerLayers speaker? (.optionalText image?) ++
        Settings.callLayers options).foldl Value.lay (Value.lay (s.flags kind) (s.tree kind)) := by
    rw [Settings.resolve, List.append_assoc]
    rfl
  rw [hresolve]
  exact hbase.foldl hlayers

end Canvas

end Dialogue
