import Dialogue.Proofs.Canvas.Placing
import Dialogue.Proofs.Session.Unheard
import Dialogue.Showcase

/-!
# The scenes of the showcase

The conversation of the showcase comes in four statements.  At every moment one of them is on the screen,
or nothing is after the last one: a scene.  A scene tells where the playhead stands, what the settings are
and which box is there; nobody listens to the session, so nothing else matters for what comes next.

## Results

* `Scene.place_eq`, `Scene.draw_eq` — the box of a scene can be placed, if the grid has a place for the
  height of a line, and the scene can be drawn.
* `Staged.advance` — to go on is to come to the scene whose statement is due.
* `Staged.advance_over` — and to clear the screen when there is none.
-/

set_option autoImplicit false

namespace Dialogue.Showcase

/-! ## The cast, the commands and the script -/

/-- The characters of the conversation, with the narrator. -/
def troupe : Cast :=
  (Cast.register cast {}).2

/-- The commands of the conversation: the built-in ones, and one that the first handler answers. -/
def repertoire : Commands HandlerId Bool :=
  { Commands.prompting with
    handlers := Keyed.put Commands.prompting.handlers (.text "sayHi") (some 0) }

/-- The playhead before the conversation. -/
def cued : Playhead :=
  (Playhead.defineAll script {}).2

/-! ## Scenes -/

/-- What was said last, and whether it is on the screen: after the last statement it may be gone. -/
inductive Scene where
  | first
  | second
  | third
  | last
  | bare
deriving DecidableEq, Repr

namespace Scene

/-- The scene that an input leads to. -/
def next : Scene → Input → Scene
  | _, .pressed .z => .last
  | .first, .pressed .space => .second
  | .second, .pressed .space => .third
  | .last, .pressed .space => .bare
  | scene, _ => scene

/-- The label that is played. -/
def label : Scene → String
  | .first | .second | .third => "begin"
  | .last | .bare => "finish"

/-- How many statements of the label were taken. -/
def cursor : Scene → Nat
  | .first | .last | .bare => 1
  | .second => 2
  | .third => 3

/-- Where the playhead stands. -/
def playhead (scene : Scene) : Playhead :=
  { cued with label? := some (.text scene.label), cursor := scene.cursor }

/-- The line of the statement that was taken last. -/
def line : Scene → Line
  | .first =>
    { source := .text "r Hello, I am Bean.", who := some "r", expression := some "happy",
      sideImage := some "bean", text := "Hello, I am Bean." }
  | .second =>
    { source := .text "t Hi, I am Skuller.", who := some "t", expression := some "happy",
      sideImage := some "skuller", text := "Hi, I am Skuller." }
  | .third =>
    { source := .text "disableNextPrompt sayHi r I can say hi from the console too!",
      who := some "r", expression := some "happy", sideImage := some "bean",
      text := "I can say hi from the console too!", commands := ["disableNextPrompt", "sayHi"] }
  | .last | .bare =>
    { source := .text "enableNextPrompt r Parley is awesome!", who := some "r",
      expression := some "happy", sideImage := some "bean", text := "Parley is awesome!",
      commands := ["enableNextPrompt"] }

/-- Whoever says it. -/
def speaker (scene : Scene) : Character :=
  (troupe.character (Value.optionalText scene.line.who)).toOption.getD .narrator

/-- What the commands of the line make of settings. -/
def prompted (s : Settings) (scene : Scene) : Settings :=
  { s with prompt := repertoire.promptAfter scene.line.commands s.prompt }

/-- The settings.  From the last statement on, pop-ups stand in the middle. -/
def settings : Scene → Settings
  | .first | .second => {}
  | .third => { prompt := .flag false }
  | .last | .bare => (Settings.update finale {}).2

/-- The options of the box. -/
def options (scene : Scene) : Value :=
  scene.settings.resolve scene.speaker.kind (some scene.speaker)
    (Value.optionalText scene.line.sideImage) .null

/-- The measures of the box. -/
def measures : Scene → Canvas.Measures
  | .second => { Canvas.usual with imageWidth := 120 }
  | _ => Canvas.usual

/-- Where a pop-up stands. -/
def position : Scene → String
  | .first | .second | .third => Placement.usualPosition
  | .last | .bare => "center"

/-- Where the box stands, with text lines of this height. -/
def rect (lineHeight : Int) (scene : Scene) : Rect :=
  let r := scene.measures.rect windowWidth windowHeight lineHeight scene.position true
    scene.speaker.kind
  ⟨Rect.onGrid r.x, Rect.onGrid r.y, Rect.onGrid r.width, Rect.onGrid r.height⟩

/-- The box. -/
def box (lineHeight : Int) (scene : Scene) : Canvas.Placed :=
  { rect := scene.rect lineHeight, intent := scene.line.intent, options := scene.options }

/-- The boxes on the screen. -/
def boxes (lineHeight : Int) : Scene → List Canvas.Placed
  | .bare => []
  | scene => [scene.box lineHeight]

/-! ## What is on the screen -/

variable {lineHeight : Int}

/-- The statement that was taken last makes the line of the scene. -/
theorem parse_eq (scene : Scene) :
    Statement.parse troupe repertoire.has scene.line.source [] = (.ok scene.line, []) := by
  have hselect : Statement.select scene.line.source [] =
      (.ok (scene.line.source.text?.getD ""), []) := by
    cases scene <;> rfl
  have hread : Statement.readText troupe repertoire.has scene.line.source
      (scene.line.source.text?.getD "") = .ok scene.line := by
    cases scene <;> exact Step.ok_of_toOption (by decide +kernel)
  rw [Statement.parse, hselect]
  exact Prod.ext hread rfl

theorem displayable (scene : Scene) : scene.line.displayable = true := by
  cases scene <;> rfl

theorem character_eq (scene : Scene) :
    troupe.character (Value.optionalText scene.line.who) = .ok scene.speaker := by
  cases scene <;> rfl

theorem measured (scene : Scene) :
    Canvas.Measured scene.speaker.kind scene.options scene.measures := by
  cases scene <;>
    exact ⟨⟨by decide, by decide⟩, rfl, rfl, rfl, rfl, rfl, fun h => by cases h <;> rfl, rfl⟩

theorem imaged (scene : Scene) : Canvas.isImaged scene.options = true := by
  cases scene <;> rfl

theorem standing (scene : Scene) (pop : scene.speaker.kind = .pop) :
    Canvas.positionOf (Canvas.found scene.options ["position"]) = .ok scene.position := by
  cases scene with
  | second => cases pop
  | _ => rfl

/-- No box is meant to persist. -/
theorem fleeting (scene : Scene) :
    ∀ b ∈ scene.boxes lineHeight, Surface.isPersistent b.options = false := by
  intro b hb
  cases scene with
  | bare => cases hb
  | _ =>
    obtain rfl := List.mem_singleton.mp hb
    rfl

/-- The window, with these boxes. -/
def window (lineHeight : Int) (boxes : List Canvas.Placed) : Canvas :=
  { width := .int windowWidth, height := .int windowHeight, lineHeight := .int lineHeight, boxes }

theorem window_sized (boxes : List Canvas.Placed) :
    (window lineHeight boxes).Sized windowWidth windowHeight lineHeight :=
  ⟨rfl, rfl, rfl⟩

/-- The sums that place a box have at most 64 binary digits. -/
theorem isWord_rect (grid : Rect.OnGrid lineHeight) (scene : Scene) {r : Rect}
    (hr : r = scene.measures.rect windowWidth windowHeight lineHeight scene.position true
      scene.speaker.kind) :
    Rect.isWord r.x = true ∧ Rect.isWord r.y = true ∧ Rect.isWord r.width = true ∧
      Rect.isWord r.height = true := by
  obtain ⟨hlow, hhigh⟩ := grid
  simp only [Rect.gridStart, Rect.gridEnd] at hlow hhigh
  have hheight : r.height = 2 * lineHeight + 15 + 15 := by
    cases scene <;> exact hr ▸ rfl
  have hy : r.y = 20 ∨ r.y = 540 - 20 - r.height ∨ r.y = (540 - r.height) / 2 := by
    cases scene with
    | first | third => exact .inl (hr ▸ rfl)
    | second => exact .inr (.inl (hr ▸ rfl))
    | last | bare => exact .inr (.inr (hr ▸ rfl))
  refine ⟨?_, Rect.isWord_of_bounds ?_ ?_, ?_, Rect.isWord_of_bounds ?_ ?_⟩
  · cases scene <;> exact hr ▸ rfl
  · omega
  · omega
  · cases scene <;> exact hr ▸ rfl
  · omega
  · omega

/-- **The box of a scene can be placed**, if the grid has a place for the height of a line. -/
theorem place_eq (grid : Rect.OnGrid lineHeight) (scene : Scene) (boxes : List Canvas.Placed) :
    (window lineHeight boxes).place scene.options = .ok (scene.rect lineHeight) := by
  obtain ⟨hx, hy, hwidth, hheight⟩ := scene.isWord_rect grid rfl
  rw [Canvas.place_outlined (window_sized boxes) scene.measured.outlined scene.standing, scene.imaged]
  exact Rect.ofValues_words hx hy hwidth hheight

/-- **A scene can be drawn.** -/
theorem draw_eq (lineHeight : Int) (scene : Scene) :
    ∃ marks, (window lineHeight (scene.boxes lineHeight)).draw = (.ok (), marks) := by
  have hsize : Rect.OnGrid scene.measures.imageWidth := by
    cases scene <;> decide
  have hleft : Rect.OnGrid (scene.rect lineHeight).x := Rect.onGrid_onGrid _
  obtain ⟨image, himage⟩ := Placement.exists_imageRect hleft hsize
  obtain ⟨marks, hpainted, -⟩ :=
    Canvas.paints_sketch (b := scene.box lineHeight) scene.measured lineHeight himage
  cases scene with
  | bare => exact ⟨[], rfl⟩
  | _ => exact ⟨_, Canvas.draw_add (c := window lineHeight []) rfl hpainted⟩

end Scene

/-! ## On a stage -/

/-- A host that plays the conversation: what stands on the screen, what the settings are and where the
playhead stands. -/
structure Staged (lineHeight : Int) (boxes : List Canvas.Placed) (settings : Settings)
    (playhead : Playhead) (h : Host .canvas) : Prop where
  surface : h.session.surface = Scene.window lineHeight boxes
  settings : h.session.settings = settings
  cast : h.session.cast = troupe
  commands : h.session.commands = repertoire
  playhead : h.session.playhead = playhead
  unheard : ∃ issued, h.session.bus = .unheard issued
  draws : h.session.draws = []
  handlers : h.handlers = [.remark greeting]

/-- A host at a scene. -/
abbrev Scene.Held (lineHeight : Int) (scene : Scene) : Host .canvas → Prop :=
  Staged lineHeight (scene.boxes lineHeight) scene.settings scene.playhead

namespace Staged

variable {lineHeight : Int} {boxes : List Canvas.Placed} {settings : Settings} {playhead : Playhead}
  {h : Host .canvas}

theorem told (staged : Staged lineHeight boxes settings playhead h) (issued : Nat) :
    Staged lineHeight boxes settings playhead (h.told issued) :=
  { staged with unheard := ⟨issued, rfl⟩ }

theorem journaled (staged : Staged lineHeight boxes settings playhead h)
    (journal : List (Occurrence .canvas)) :
    Staged lineHeight boxes settings playhead { h with journal } :=
  { staged with }

theorem moved (staged : Staged lineHeight boxes settings playhead h) (playhead : Playhead) :
    Staged lineHeight boxes settings playhead (h.onSession fun s => { s with playhead }) :=
  { staged with playhead := rfl }

theorem set (staged : Staged lineHeight boxes settings playhead h) (settings : Settings) :
    Staged lineHeight boxes settings playhead (h.onSession fun s => { s with settings }) :=
  { staged with settings := rfl }

theorem emptied (staged : Staged lineHeight boxes settings playhead h)
    (fleeting : ∀ b ∈ boxes, Surface.isPersistent b.options = false) :
    Staged lineHeight [] settings playhead h.emptied where
  __ := staged
  surface := by
    have hnone : boxes.filter (fun b => Surface.isPersistent b.options) = [] :=
      List.filter_eq_nil_iff.mpr fun b hb => by rw [fleeting b hb]; decide
    show h.session.surface.clear = _
    rw [staged.surface, Canvas.clear, Scene.window, hnone]
    rfl

theorem boxing (staged : Staged lineHeight boxes settings playhead h) (box : Canvas.Placed) :
    Staged lineHeight (boxes ++ [box]) settings playhead (h.boxing box) where
  __ := staged
  surface := by
    show { h.session.surface with boxes := h.session.surface.boxes ++ [box] } = _
    rw [staged.surface]
    rfl

/-- How the requests of the showcase are carried out: nothing brings any list of requests with it. -/
abbrev player : Playing .canvas :=
  Playing.within 1

/-- The commands of a scene set whether more is announced to come.  A greeting leaves nothing but a remark. -/
theorem run_commands (staged : Staged lineHeight boxes settings playhead h) (scene : Scene) :
    ∃ k, Commands.run player.stage (scene.line.commands.map .text) h = (.ok (), k) ∧
      Staged lineHeight boxes (scene.prompted settings) playhead k := by
  obtain ⟨⟨surface, settings, cast, commands, playhead, bus, handle?, draws⟩, handlers, journal, disk,
    library⟩ := h
  obtain ⟨rfl, rfl, rfl, rfl, rfl, unheard, rfl, rfl⟩ := staged
  -- all that the commands read is known now, so each scene's run can be computed
  cases scene <;> exact ⟨_, rfl, rfl, rfl, rfl, rfl, rfl, unheard, rfl, rfl⟩

theorem execute (staged : Staged lineHeight boxes settings playhead h) (scene : Scene) :
    ∃ k, player.execute scene.line h = (.ok (), k) ∧
      Staged lineHeight boxes (scene.prompted settings) playhead k := by
  obtain ⟨k, hran, hstaged⟩ := staged.run_commands scene
  obtain ⟨issued, hbus⟩ := hstaged.unheard
  unfold Playing.execute
  -- only a line with commands is told of
  by_cases hnone : scene.line.commands = []
  · rw [hnone] at hran ⊢
    exact ⟨k, hran, hstaged⟩
  · rw [if_pos hnone, Step.bind_eq_of_ok hran]
    exact ⟨_, Playing.publish_unheard rfl hbus _, hstaged.told _⟩

/-- The statement of a scene makes the line of the scene. -/
theorem parse_eq (staged : Staged lineHeight boxes settings playhead h) (scene : Scene) :
    h.session.parse scene.line.source = (.ok scene.line, h.session) := by
  have hread : Statement.parse h.session.cast h.session.commands.has scene.line.source
      h.session.draws = (.ok scene.line, h.session.draws) := by
    rw [staged.cast, staged.commands, staged.draws, scene.parse_eq]
  rw [Session.parse, hread]

theorem optionsOf_eq {scene : Scene}
    (staged : Staged lineHeight boxes scene.settings playhead h) :
    h.session.optionsOf (Value.optionalText scene.line.who)
      (Value.optionalText scene.line.sideImage) .null = .ok scene.options := by
  rw [Session.optionsOf, staged.cast, scene.character_eq, staged.settings]
  rfl

theorem place_eq (staged : Staged lineHeight boxes settings playhead h)
    (grid : Rect.OnGrid lineHeight) (scene : Scene) :
    h.session.surface.place scene.options = .ok (scene.rect lineHeight) := by
  rw [staged.surface, scene.place_eq grid]

/-- To say the statement of a scene is to come to it, if its settings are those that its commands make. -/
theorem say (staged : Staged lineHeight [] settings playhead h) (grid : Rect.OnGrid lineHeight)
    {scene : Scene} (prompted : scene.prompted settings = scene.settings) :
    ∃ k, player.say scene.line.source h = (.ok scene.line, k) ∧
      Staged lineHeight [scene.box lineHeight] scene.settings playhead k := by
  obtain ⟨k, hexecuted, hstaged⟩ := staged.execute scene
  rw [prompted] at hstaged
  obtain ⟨issued, hbus⟩ := hstaged.unheard
  exact ⟨_, Playing.say_unheard rfl (staged.parse_eq scene) hexecuted hbus scene.displayable
    hstaged.optionsOf_eq (hstaged.place_eq grid scene), (hstaged.boxing _).told _⟩

/-- **To go on is to come to the scene whose statement is due.** -/
theorem advance (staged : Staged lineHeight boxes settings playhead h)
    (grid : Rect.OnGrid lineHeight) (scene : Scene)
    (fleeting : ∀ b ∈ boxes, Surface.isPersistent b.options = false)
    (active : playhead.standing = .active)
    (taken : playhead.take = (.ok scene.line.source, scene.playhead))
    (prompted : scene.prompted settings = scene.settings) :
    ∃ k, player.advance h = (.ok true, k) ∧
      Staged lineHeight [scene.box lineHeight] scene.settings scene.playhead k := by
  obtain ⟨issued, hbus⟩ := staged.unheard
  obtain ⟨k, hsaid, hstaged⟩ :=
    (((staged.emptied fleeting).told (issued + 1)).moved scene.playhead).say grid prompted
  refine ⟨k, Playing.advance_unheard rfl hbus ?_ ?_ hsaid, hstaged⟩
  · rw [staged.playhead, active]
  · rw [staged.playhead, taken]

/-- **To go on past the last statement is to clear the screen.** -/
theorem advance_over (staged : Staged lineHeight boxes settings playhead h)
    (fleeting : ∀ b ∈ boxes, Surface.isPersistent b.options = false)
    (ended : playhead.standing = .exhausted) :
    ∃ k, player.advance h = (.ok false, k) ∧ Staged lineHeight [] settings playhead k := by
  obtain ⟨issued, hbus⟩ := staged.unheard
  rw [← staged.playhead] at ended
  exact ⟨_, Playing.advance_over rfl hbus ended, (staged.emptied fleeting).told _⟩

/-- To start the label of a scene is to come to the scene, if it is the first one of its label. -/
theorem startLabel (staged : Staged lineHeight boxes settings playhead h)
    (grid : Rect.OnGrid lineHeight) (scene : Scene)
    (fleeting : ∀ b ∈ boxes, Surface.isPersistent b.options = false)
    {start : Playhead} (started : playhead.start (.text scene.label) = (.ok true, start))
    (active : start.standing = .active)
    (taken : start.take = (.ok scene.line.source, scene.playhead))
    (prompted : scene.prompted settings = scene.settings) :
    ∃ k, player.startLabel (.text scene.label) true h = (.ok (), k) ∧
      Staged lineHeight [scene.box lineHeight] scene.settings scene.playhead k := by
  obtain ⟨issued, hbus⟩ := staged.unheard
  obtain ⟨k, hwent, hstaged⟩ :=
    ((staged.moved start).told (issued + 1)).advance grid scene fleeting active taken prompted
  rw [← staged.playhead] at started
  exact ⟨k, Playing.startLabel_unheard rfl hbus started hwent, hstaged⟩

end Staged

end Dialogue.Showcase
