import Dialogue.Proofs.Canvas.Layout
import Dialogue.Proofs.Session.Guarded

/-!
# Sessions on a canvas

A canvas finds whatever it looks up in the options of a box, as long as all layers are considerate: what
is configured, what the records of speakers give, and what comes with a call.  It does not matter how many
layers there are, who asks for them, and whether the updates before were refused.

## Results

* `Playing.carryOut_furnished` — considerate requests keep a host furnished.
* `Host.Furnished.served` — a furnished host never has its canvas look up what is missing: what goes wrong
  is that values cannot be calculated with, and no missing key.
* `Host.lookups_succeed` — hosts are furnished from the start, at any depth of calls.
-/

set_option autoImplicit false

namespace Dialogue

/-! ## Considerate requests -/

/-- Is every option tree that is given here considerate? -/
def Settings.givesConsiderate (options : Keyed Value) : Bool :=
  options.all fun e => (e.1 != .text "pop" && e.1 != .text "vn") || e.2.isConsiderate

theorem Settings.considerate_under {options : Keyed Value} (given : givesConsiderate options = true)
    (kind : DialogKind) : ∀ v ∈ under kind.name options, v.Considerate := by
  intro v hv
  obtain ⟨e, he, hsome⟩ := List.mem_filterMap.mp hv
  have hgiven := List.all_eq_true.mp given e he
  split at hsome
  · rename_i hname
    cases hsome
    have hv : e.2.isConsiderate = true := by
      rw [hname] at hgiven
      cases kind <;> simpa [DialogKind.name] using hgiven
    exact (Value.isConsiderate_iff _).mp hv
  · cases hsome

/-- Are the options of a character, if it has any, considerate? -/
def Character.isConsiderate (c : Character) : Bool :=
  c.options.all fun options => (Value.ofTable options).isConsiderate

theorem Character.isConsiderate_iff (c : Character) : c.isConsiderate = true ↔ c.Considerate := by
  unfold isConsiderate Considerate
  cases c.options <;> simp [Value.isConsiderate_iff]

/-- Are the records considerate that are registered here? -/
def Cast.givesConsiderate (entries : Table Entry) : Bool :=
  entries.all fun e => (recordOf e.1 e.2).toOption.all Character.isConsiderate

/-- Is all that this request gives considerate?  The canvas itself must not be asked for a box, and a
library is not installed. -/
def Request.isConsiderate : Request .canvas → Bool
  | .configure options => Settings.givesConsiderate options
  | .registerCharacters entries => Cast.givesConsiderate entries
  | .showText _ _ options => !options.truthy || options.isConsiderate
  | .ask (.render ..) | .install _ => false
  | _ => true

namespace Cast

/-- All records of a cast are considerate. -/
def Considerate (c : Cast) : Prop :=
  ∀ key record, Table.get? c.records key = some record → record.Considerate

theorem considerate_narrator : Character.narrator.Considerate := by
  nofun

theorem considerate_new : ({} : Cast).Considerate := by
  intro key record found
  by_cases hkey : narratorKey = key
  · cases (if_pos hkey).symm.trans found
    exact considerate_narrator
  · cases (if_neg hkey).symm.trans found

theorem Considerate.register {c : Cast} (considerate : c.Considerate) {call : Table Entry}
    (given : givesConsiderate call = true) : (c.register call).2.Considerate := by
  induction call generalizing c with
  | nil => exact considerate
  | cons e rest ih =>
    obtain ⟨place, entry⟩ := e
    unfold givesConsiderate at given
    rw [List.all_cons, Bool.and_eq_true_iff] at given
    obtain ⟨hfirst, hrest⟩ := given
    unfold Cast.register
    cases hrecord : recordOf place entry with
    | error f => exact considerate
    | ok new =>
      refine ih (fun key record found => ?_) hrest
      by_cases hplace : key = place
      · subst hplace
        rw [Table.get?_put_self] at found
        cases found
        rw [hrecord] at hfirst
        exact (Character.isConsiderate_iff _).mp hfirst
      · rw [Table.get?_put_of_ne _ _ hplace] at found
        exact considerate key record found

/-- Whoever is found in the cast is considerate. -/
theorem Considerate.character {c : Cast} (considerate : c.Considerate) {key : Value}
    {record : Character} (found : c.character key = .ok record) : record.Considerate := by
  unfold Cast.character at found
  split at found
  · split at found
    · cases found
    · cases found
    · rename_i hfind
      cases found
      obtain ⟨name, -, hname⟩ := Table.find_eq_some_iff.mp hfind
      exact considerate name record hname
  · cases found
    unfold Cast.narrator
    cases hnarrator : Table.get? c.records narratorKey with
    | none => exact considerate_narrator
    | some record => exact considerate _ _ hnarrator

end Cast

/-! ## Furnished hosts -/

namespace Host

/-- The option trees have all that boxes need, and so have the boxes on the canvas; the cast is
considerate, and so is all that handlers ask for. -/
structure Furnished (h : Host .canvas) : Prop where
  stocked : ∀ kind, Canvas.Stocked kind (h.session.settings.tree kind)
  cast : h.session.cast.Considerate
  boxes : ∀ b ∈ h.session.surface.boxes, ∃ kind, Canvas.Furnished kind b.options
  handlers : ∀ handler ∈ h.handlers, handler.every Request.isConsiderate = true

theorem furnished_guard : Guard Request.isConsiderate Furnished where
  held furnished := furnished.handlers
  handed _ furnished every := { furnished with handlers := every }
  noted _ furnished _ := { furnished with }
  aside furnished alike :=
    { stocked := alike.settings ▸ furnished.stocked
      cast := alike.cast ▸ furnished.cast
      boxes := alike.surface ▸ furnished.boxes
      handlers := alike.handlers ▸ furnished.handlers }
  prompted _ furnished :=
    { furnished with stocked := fun kind => by cases kind <;> exact furnished.stocked _ }

/-- Putting a furnished box on the canvas keeps a host furnished. -/
theorem render_furnished {kind : DialogKind} {options : Value}
    (box : Canvas.Furnished kind options) (intent : Intent) :
    Step.Keeps (Maintains Furnished) (Playing.render (K := .canvas) intent options) := by
  have apart := furnished_guard.apart
  refine apart.bind (Act.onPart_keeps fun h furnished => ?_) fun rect => ?_
  · have hboxes : ∀ b ∈ (h.session.surface.render intent options).2.boxes,
        ∃ kind, Canvas.Furnished kind b.options := by
      unfold Canvas.render
      split
      · exact furnished.boxes
      · intro b hb
        rcases List.mem_append.mp hb with hb | hb
        · exact furnished.boxes b hb
        · exact List.mem_singleton.mp hb ▸ ⟨kind, box⟩
    exact { furnished with boxes := hboxes }
  · refine apart.bind (Step.keeps_modify fun h furnished => { furnished with }) fun _ => ?_
    exact apart.bind (Step.keeps_modify fun h furnished => { furnished with }) fun _ => apart.pure _

theorem Furnished.optionsOf {h : Host .canvas} (furnished : h.Furnished) {who options : Value}
    {image? : Option String}
    (found : h.session.optionsOf who (.optionalText image?) .null = .ok options) :
    ∃ kind, Canvas.Furnished kind options := by
  unfold Session.optionsOf at found
  cases hspeaker : h.session.cast.character who with
  | error f =>
    rw [hspeaker] at found
    cases found
  | ok speaker =>
    rw [hspeaker] at found
    cases found
    refine ⟨speaker.kind, Canvas.furnished_resolve (furnished.stocked _) ?_ image? nofun⟩
    intro c hc
    cases hc
    exact furnished.cast.character hspeaker

theorem Furnished.resolve {h : Host .canvas} (furnished : h.Furnished) (kind : DialogKind)
    {options : Value} (considerate : options.truthy = true → options.Considerate) :
    Canvas.Furnished kind (h.session.settings.resolve kind none .null options) :=
  Canvas.furnished_resolve (furnished.stocked kind) (by simp) none considerate

end Host

namespace Playing

/-- What is asked of a surface is answered by the surface, which may leave marks. -/
theorem carryOut_ask_eq {K : Surface} (p : Playing K) (r : K.Request) (h : Host K) :
    p.carryOut (.ask r) h =
      let answered := K.answer r h.session.surface
      (answered.1.1.map Reply.answer,
        { h.onSession fun s => { s with surface := answered.1.2 } with
          journal := h.journal ++ answered.2.map Occurrence.marked }) := by
  rw [carryOut, Step.bind_eq_of_ok (Step.get_apply h)]
  rcases K.answer r h.session.surface with ⟨⟨result, surface⟩, marks⟩
  cases result <;> rfl

open Host (Furnished furnished_guard)

variable {p : Playing .canvas}

section

variable (react : ∀ id occasion, Step.Keeps (Maintains Furnished) (p.react id occasion))

include react

theorem clear_furnished : Step.Keeps (Maintains Furnished) p.clear := by
  have apart := furnished_guard.apart
  refine apart.bind (Act.onPart_keeps fun h furnished => ?_) fun _ => ?_
  · exact { furnished with
      boxes := fun b hb => furnished.boxes b (List.mem_of_mem_filter hb) }
  · refine apart.bind (Step.keeps_modify fun h furnished => { furnished with }) fun _ => ?_
    exact furnished_guard.publish react .cleared

theorem display_furnished (line : Line) : Step.Keeps (Maintains Furnished) (p.display line) := by
  have apart := furnished_guard.apart
  unfold Playing.display
  split
  · intro h furnished
    refine apart.frame.bind_apply (fun furnished => furnished) (fun options t hbox => ?_) furnished
    obtain ⟨hoptions, rfl⟩ := Prod.mk.inj hbox
    obtain ⟨kind, box⟩ := furnished.optionsOf hoptions
    exact apart.bind (Host.render_furnished box _) (fun _ => furnished_guard.publish react _) h
  · exact apart.pure _

omit react in
theorem showText_furnished (kind : DialogKind) (text : Value) {options : Value}
    (considerate : options.truthy = true → options.Considerate) :
    Step.Keeps (Maintains Furnished) (showText (K := .canvas) kind text options) := by
  have apart := furnished_guard.apart
  unfold showText
  split
  · intro h furnished
    refine apart.frame.bind_apply (fun furnished => furnished) (fun _ t hget => ?_) furnished
    cases hget
    exact apart.bind (Host.render_furnished (furnished.resolve kind considerate) (.ofText text))
      (fun _ => apart.pure _) h
  · exact apart.pure _

/-- **Considerate requests keep a host furnished.** -/
theorem carryOut_furnished {r : Request .canvas} (every : r.every Request.isConsiderate = true) :
    Step.Keeps (Maintains Furnished) (p.carryOut r) := by
  have apart := furnished_guard.apart
  refine furnished_guard.carryOut react (clear_furnished react) (display_furnished react)
    (fun r every delicate => ?_) every
  have hok := Request.ok_of_every every
  cases r with
  | configure options =>
    refine apart.bind (Act.onPart_keeps fun h furnished => ?_) fun _ => apart.pure _
    exact { furnished with
      stocked := fun kind =>
        (furnished.stocked kind).update (Settings.considerate_under hok kind) }
  | registerCharacters entries =>
    refine apart.bind (Act.onPart_keeps fun h furnished => ?_) fun _ => apart.pure _
    exact { furnished with cast := furnished.cast.register hok }
  | showText kind text options =>
    refine apart.bind (showText_furnished kind text fun truthy => ?_) fun _ => apart.pure _
    rw [← Value.isConsiderate_iff]
    simpa [Request.isConsiderate, truthy] using hok
  | ask r =>
    cases r with
    | render => cases hok
    | clear =>
      intro h furnished
      rw [carryOut_ask_eq]
      exact { furnished with
        boxes := fun b hb => furnished.boxes b (List.mem_of_mem_filter hb) }
    | popRect | draw =>
      intro h furnished
      rw [carryOut_ask_eq]
      exact { furnished with }
  | install => cases hok
  | _ => cases delicate

/-- Installing a library of considerate characters keeps a host furnished. -/
theorem install_furnished {library : Library} (advance : Bool)
    (given : Cast.givesConsiderate (library.characters.map fun e => (e.1, .fields e.2)) = true) :
    Step.Keeps (Maintains Furnished) (p.install library advance) := by
  refine (furnished_guard.onward react (clear_furnished react)
    (display_furnished react)).install advance (Act.onPart_keeps fun h furnished => ?_)
  exact { furnished with cast := furnished.cast.register given }

end

end Playing

/-! ## What furnished hosts see -/

/-- All that was looked up was found.  If anything goes wrong, it is that what was found cannot be
calculated with; no key is missing. -/
structure Found {α : Type} (result : Except Fault α) : Prop where
  unfit : Step.FaultsIn Fault.Unfit result
  present : ∀ key, result ≠ .error (.missingKey key)

theorem found_of_unfit {α : Type} {result : Except Fault α}
    (unfit : Step.FaultsIn Fault.Unfit result) : Found result :=
  ⟨unfit, fun key missing => (unfit _ missing).ne_missingKey key rfl⟩

/-- A canvas finds all that it looks up when it shows something in a box with these options and is drawn
then, however often: drawing leaves it as it is. -/
def Canvas.Serves (c : Canvas) (options : Value) : Prop :=
  ∀ intent, Found (c.render intent options).1 ∧ Found (c.render intent options).2.draw.1

theorem Canvas.serves_of_furnished {c : Canvas} {kind : DialogKind} {options : Value}
    (boxes : ∀ b ∈ c.boxes, ∃ kind, Furnished kind b.options) (box : Furnished kind options) :
    c.Serves options := by
  intro intent
  have hplace := place_unfit c box
  unfold render
  split
  · rename_i f hfault
    exact ⟨found_of_unfit (Step.faultsIn_error (hplace f hfault)), found_of_unfit (draw_unfit boxes)⟩
  · refine ⟨found_of_unfit (Step.faultsIn_ok _), found_of_unfit (draw_unfit fun b hb => ?_)⟩
    rcases List.mem_append.mp hb with hb | hb
    · exact boxes b hb
    · exact List.mem_singleton.mp hb ▸ ⟨kind, box⟩

namespace Host

/-- The canvas of a host finds all that it looks up: when it is drawn, and when it shows a line of any
speaker, with any image, or a text in a box of its own, with considerate options if with any. -/
structure Served (h : Host .canvas) : Prop where
  drawn : Found h.session.surface.draw.1
  lines : ∀ who image? options, h.session.optionsOf who (.optionalText image?) .null = .ok options →
    h.session.surface.Serves options
  texts : ∀ kind options, (options.truthy = true → options.isConsiderate = true) →
    h.session.surface.Serves (h.session.settings.resolve kind none .null options)

/-- **A furnished host never has its canvas look up what is missing.** -/
theorem Furnished.served {h : Host .canvas} (furnished : h.Furnished) : h.Served where
  drawn := found_of_unfit (Canvas.draw_unfit furnished.boxes)
  lines _ _ _ found := by
    obtain ⟨kind, box⟩ := furnished.optionsOf found
    exact Canvas.serves_of_furnished furnished.boxes box
  texts kind options considerate := by
    refine Canvas.serves_of_furnished furnished.boxes (furnished.resolve kind fun truthy => ?_)
    exact (Value.isConsiderate_iff options).mp (considerate truthy)

/-- A host on a bare canvas: the settings were built with considerate option trees, if with any, nobody
was registered, and all that handlers ask for is considerate. -/
structure Opened (first : Host .canvas) : Prop where
  settings : ∃ prompt, ∃ given : DialogKind → Value,
    (∀ kind, (given kind).truthy = true → (given kind).isConsiderate = true) ∧
      first.session.settings = .ofGiven prompt (given .pop) (given .vn)
  cast : first.session.cast = {}
  boxes : first.session.surface.boxes = []
  handlers : ∀ handler ∈ first.handlers, handler.every Request.isConsiderate = true

theorem Opened.furnished {first : Host .canvas} (opened : first.Opened) : first.Furnished where
  stocked kind := by
    obtain ⟨prompt, given, considerate, hsettings⟩ := opened.settings
    rw [hsettings]
    exact Canvas.stocked_ofGiven prompt
      (fun kind truthy => (Value.isConsiderate_iff _).mp (considerate kind truthy)) kind
  cast := opened.cast ▸ Cast.considerate_new
  boxes b hb := by
    rw [opened.boxes] at hb
    cases hb
  handlers := opened.handlers

/-- **A canvas never misses what it looks up.**  Let a host be furnished: this it is on a bare canvas and
after any considerate requests, and it stays so while its handlers ask for considerate things at any depth
of calls, and when a library of considerate characters is installed.  Then its canvas finds all that it
looks up when it is drawn, and when it shows something in a box, whether a line of a speaker or a text of
its own, and is drawn thereafter: no key is missing. -/
theorem lookups_succeed {first : Host .canvas} (opened : first.Opened) :
    (∀ requests : List (Request .canvas),
      (∀ r ∈ requests, r.every Request.isConsiderate = true) → (performAll requests first).Furnished) ∧
    (∀ n id occasion, Step.Keeps (Maintains Furnished) (Playing.reactWithin n id occasion)) ∧
    (∀ p : Playing .canvas,
      (∀ id occasion, Step.Keeps (Maintains Furnished) (p.react id occasion)) →
        (∀ r : Request .canvas, r.every Request.isConsiderate = true →
          Step.Keeps (Maintains Furnished) (p.carryOut r)) ∧
        ∀ (library : Library) advance,
          Cast.givesConsiderate (library.characters.map fun e => (e.1, .fields e.2)) = true →
          Step.Keeps (Maintains Furnished) (p.install library advance)) ∧
    ∀ h : Host .canvas, h.Furnished → h.Served := by
  have hcarried : ∀ p : Playing .canvas,
      (∀ id occasion, Step.Keeps (Maintains Furnished) (p.react id occasion)) →
        ∀ r, r.every Request.isConsiderate = true →
          Step.Keeps (Maintains Furnished) (p.carryOut r) :=
    fun p react r every => Playing.carryOut_furnished react every
  refine ⟨fun requests every => ?_, ?_, fun p react => ⟨hcarried p react, ?_⟩,
    fun h furnished => furnished.served⟩
  · exact furnished_guard.performAll hcarried every opened.furnished
  · exact furnished_guard.reactWithin hcarried
  · exact fun library advance given => Playing.install_furnished react advance given

/-- Option trees that have pop-ups stand in the middle. -/
def midway : DialogKind → Value
  | .pop => .ofTable [("position", .text "center")]
  | .vn => .null

/-- A bare canvas, on which pop-ups stand in the middle. -/
def bare : Host .canvas where
  session :=
    { surface := { width := .int 960, height := .int 540, lineHeight := .int 20 }
      settings := .ofGiven (.flag false) (midway .pop) (midway .vn) }

/-- A command takes the padding off and shows a text of its own beside an image, before the line that it
stands in is put into a box; the speaker has options of its own. -/
def shrinking : List (Request .canvas) :=
  [.registerCharacters
     [("t", .fields (.ofTable
       [("name", .text "Tom"), ("dialog_type", .text "vn"),
        ("dialog_options", .ofTable [("text_box", .ofTable [("margin", .int 5)])])]))],
   .registerCommand (.text "shrink")
     [[.configure [(.text "pop",
         .ofTable [("text_box", .ofTable [("padding", .ofTable [("top", .int 0)])])])],
       .showText .pop (.text "Small")
         (.ofTable [("side_image", .ofTable [("name", .text "cat")])]),
       .ask .draw]],
   .loadSequence (.ofList [.text "shrink t Hello"]) true,
   .ask .draw]

/-- The general theorem for layers of all kinds, some of them while a line is said. -/
theorem lookups_succeed_shrinking : bare.Opened ∧
    (∀ r ∈ shrinking, r.every Request.isConsiderate = true) ∧
      (performAll shrinking bare).Served := by
  have opened : bare.Opened := by
    refine ⟨⟨.flag false, midway, fun kind => ?_, rfl⟩, rfl, rfl, nofun⟩
    cases kind <;> decide
  have every : ∀ r ∈ shrinking, r.every Request.isConsiderate = true := by decide +kernel
  obtain ⟨hrun, -, -, hserved⟩ := lookups_succeed opened
  exact ⟨opened, every, hserved _ (hrun shrinking every)⟩

example : ((performAll shrinking bare).session.surface.boxes.map fun b => b.rect) =
    [⟨255, 242, 450, 55⟩, ⟨5, 465, 950, 70⟩] := by
  decide +kernel

end Host

end Dialogue
