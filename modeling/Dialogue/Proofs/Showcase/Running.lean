import Dialogue.Proofs.Session.Drawing
import Dialogue.Proofs.Showcase.Scenes

/-!
# Running the showcase

Whatever the user does, frame after frame, the showcase is at one of its scenes.  So nothing ever goes
wrong in it, and all that can be said of a scene can be said of every moment.

## Results

* `frames_eq` — frames are shown up to the first one in which the user leaves, and each of them in full.
* `follow_held`, `frame_held`, `played_held` — an input, a frame and all that was done so far lead from
  scene to scene.
* `Safe.of_held` — a showcase at a scene is safe.
* `run_safe` — the showcase runs to its end, and is safe at every moment.
-/

set_option autoImplicit false

namespace Dialogue

/-- The statement that was taken last from the list that is played. -/
def Playhead.lastTaken? (p : Playhead) : Option Value :=
  match p.cursor with
  | 0 => none
  | n + 1 => p.statements?.bind fun statements => statements[n]?

/-- A box shows a statement: it holds the text of the statement's line, with the options that the session
has for that line, where the canvas places them. -/
def Session.Shows (s : Session .canvas) (b : Canvas.Placed) (statement : Value) : Prop :=
  ∃ line, (s.parse statement).1 = .ok line ∧ b.intent = line.intent ∧
    s.optionsOf (Value.optionalText line.who) (Value.optionalText line.sideImage) .null =
      .ok b.options ∧
    s.surface.place b.options = .ok b.rect

namespace Showcase

/-! ## Frames -/

/-- Does the user leave with this input? -/
def Input.leaves : Input → Bool
  | .quit | .pressed .escape => true
  | _ => false

/-- The frames that are shown: up to the first one in which the user leaves, and one in which the user
quits when there is none. -/
def lived : List (List Input) → List (List Input)
  | [] => [[.quit]]
  | inputs :: rest => if inputs.any Input.leaves then [inputs] else inputs :: lived rest

/-- Show frame after frame, whatever the user does. -/
def showAll : List (List Input) → Show Unit
  | [] => return ()
  | inputs :: rest => do
    let _ ← frame inputs
    showAll rest

theorem follow_answers (i : Input) : Step.Answers (· = !i.leaves) (follow i) := by
  cases i with
  | quit | other => exact Step.answers_pure rfl
  | pressed key =>
    cases key with
    | escape | other => exact Step.answers_pure rfl
    | space =>
      refine Step.answers_bind fun stage => ?_
      by_cases h : prompts stage = true
      · simp only [h, if_true]
        exact Step.answers_bind fun _ => Step.answers_pure rfl
      · simp only [h]
        exact Step.answers_pure rfl
    | z => exact Step.answers_bind fun _ => Step.answers_bind fun _ => Step.answers_pure rfl

theorem followAll_answers (inputs : List Input) :
    Step.Answers (· = !inputs.any Input.leaves) (followAll inputs) := by
  induction inputs with
  | nil => exact Step.answers_pure rfl
  | cons i rest ih =>
    intro stage stays later h
    obtain ⟨stay, between, hfollow, h⟩ := Step.bind_eq_ok_iff.mp h
    obtain ⟨others, after, hrest, h⟩ := Step.bind_eq_ok_iff.mp h
    cases h
    rw [follow_answers i _ _ _ hfollow, ih _ _ _ hrest, List.any_cons, Bool.not_or]

theorem frame_answers (inputs : List Input) :
    Step.Answers (· = !inputs.any Input.leaves) (frame inputs) := by
  intro stage stays later h
  obtain ⟨_, polled, -, h⟩ := Step.bind_eq_ok_iff.mp h
  obtain ⟨stay, followed, hfollowed, h⟩ := Step.bind_eq_ok_iff.mp h
  have hstay : Step.Answers (· = stay) (do
      see (.filled background); perform (.ask .draw); see .flipped; see (.waited frameRate)
      return stay) :=
    Step.answers_bind fun _ => Step.answers_bind fun _ => Step.answers_bind fun _ =>
      Step.answers_bind fun _ => Step.answers_pure rfl
  rw [hstay _ _ _ h]
  exact followAll_answers inputs _ _ _ hfollowed

/-- **Frames are shown up to the first one in which the user leaves**, which is shown in full. -/
theorem frames_eq (inputs : List (List Input)) : frames inputs = showAll (lived inputs) := by
  induction inputs with
  | nil => rfl
  | cons first rest ih =>
    have hframes : frames (first :: rest) =
        (frame first >>= fun _ => if !first.any Input.leaves then frames rest else pure ()) :=
      Step.bind_of_answers (frame_answers first) _
    rw [hframes, ih, lived]
    cases first.any Input.leaves <;> rfl

theorem lived_append {before : List (List Input)} {last : List Input}
    (stays : ∀ inputs ∈ before, inputs.any Input.leaves = false)
    (leaves : last.any Input.leaves = true) (rest : List (List Input)) :
    lived (before ++ last :: rest) = before ++ [last] := by
  induction before with
  | nil => rw [List.nil_append, lived, if_pos leaves, List.nil_append]
  | cons first others ih =>
    have hfirst := stays first List.mem_cons_self
    rw [List.cons_append, lived, hfirst,
      ih fun inputs hinputs => stays inputs (List.mem_cons_of_mem _ hinputs)]
    rfl

/-! ## From scene to scene -/

theorem act_of_ok {α : Type} {a : Act .canvas α} {x : α} {host h : Host .canvas}
    (acted : a host = (.ok x, h)) (sights : List Sight) :
    act a { host, sights } = (.ok (),
      { host := { h with journal := [] }
        sights := sights ++ h.journal.filterMap Sight.ofOccurrence? }) := by
  have hran : a.run.run host = (.ok x, h) := acted
  unfold act
  rw [Step.bind_eq_of_ok (Step.get_apply _), hran]
  rfl

theorem perform_of_ok {r : Request .canvas} {reply : Reply .canvas} {host h : Host .canvas}
    (performed : Host.perform r host = (.ok reply, h)) (sights : List Sight) :
    perform r { host, sights } = (.ok (),
      { host := { h with journal := [] }
        sights := sights ++ h.journal.filterMap Sight.ofOccurrence? }) :=
  act_of_ok performed sights

section

variable {lineHeight : Int} {boxes more : List Canvas.Placed} {settings changed : Settings}
  {playhead ahead : Playhead} {stage : Stage}

/-- What the showcase asks of a host on stage is carried out by the player. -/
theorem perform_staged (staged : Staged lineHeight boxes settings playhead stage.host)
    {r : Request .canvas} (light : r.lists = 0)
    (carried : ∃ reply h, Staged.player.carryOut r stage.host = (.ok reply, h) ∧
      Staged lineHeight more changed ahead h) :
    ∃ later, perform r stage = (.ok (), later) ∧ Staged lineHeight more changed ahead later.host := by
  obtain ⟨reply, h, hcarried, hstaged⟩ := carried
  have hdepth : stage.host.depth r = 1 := by
    rw [Host.depth, staged.handlers, light]
    rfl
  have hperformed : Host.perform r stage.host = (.ok reply, h) := by
    unfold Host.perform
    rw [Step.bind_eq_of_ok (Step.get_apply _), hdepth, hcarried]
  exact ⟨_, perform_of_ok hperformed stage.sights, hstaged.journaled []⟩

/-- To go on where more is announced to come is to go to the next scene. -/
theorem perform_advance {scene : Scene} (grid : Rect.OnGrid lineHeight)
    (held : scene.Held lineHeight stage.host) (prompts : scene.settings.prompt.truthy = true) :
    ∃ later, perform .advance stage = (.ok (), later) ∧
      (scene.next (.pressed .space)).Held lineHeight later.host := by
  refine perform_staged held rfl ?_
  have hcarried {went : Bool} {h : Host .canvas}
      (hwent : Staged.player.advance stage.host = (.ok went, h)) :
      Staged.player.carryOut .advance stage.host = (.ok (.truth went), h) := by
    rw [Playing.carryOut, Step.bind_eq_of_ok hwent]
    rfl
  cases scene with
  | first =>
    obtain ⟨h, hwent, hstaged⟩ := held.advance grid .second (Scene.fleeting _) rfl rfl rfl
    exact ⟨_, h, hcarried hwent, hstaged⟩
  | second =>
    obtain ⟨h, hwent, hstaged⟩ := held.advance grid .third (Scene.fleeting _) rfl rfl rfl
    exact ⟨_, h, hcarried hwent, hstaged⟩
  | third => cases prompts
  | last | bare =>
    obtain ⟨h, hwent, hstaged⟩ := held.advance_over (Scene.fleeting _) rfl
    exact ⟨_, h, hcarried hwent, hstaged⟩

/-- The end of the script comes with the settings of the last scene, whatever was there before. -/
theorem perform_finale {scene : Scene} (held : scene.Held lineHeight stage.host) :
    ∃ later, perform (.configure finale) stage = (.ok (), later) ∧
      Staged lineHeight (scene.boxes lineHeight) (Settings.update finale scene.settings).2
        scene.playhead later.host := by
  have hupdated : (Settings.update finale scene.settings).1 = .ok () := by
    cases scene <;> rfl
  have hconfigured : Playing.configure finale stage.host =
      (.ok (), stage.host.onSession fun s =>
        { s with settings := (Settings.update finale scene.settings).2 }) := by
    unfold Playing.configure
    rw [Act.onPart_apply, held.settings, hupdated]
  refine perform_staged held rfl ⟨.done, _, ?_, held.set _⟩
  rw [Playing.carryOut, Step.bind_eq_of_ok hconfigured]
  rfl

/-- The last statement is said wherever the playhead stood. -/
theorem perform_finish {scene : Scene} (grid : Rect.OnGrid lineHeight)
    (staged : Staged lineHeight (scene.boxes lineHeight) (Settings.update finale scene.settings).2
      scene.playhead stage.host) :
    ∃ later, perform (.startLabel (.text "finish") true) stage = (.ok (), later) ∧
      Scene.Held lineHeight .last later.host := by
  have hstarted : scene.playhead.start (.text Scene.last.label) =
      (.ok true, { cued with label? := some (.text Scene.last.label) }) := by
    cases scene <;> rfl
  have hprompted : Scene.last.prompted (Settings.update finale scene.settings).2 =
      Scene.last.settings := by
    cases scene <;> decide +kernel
  obtain ⟨h, hwent, hstaged⟩ :=
    staged.startLabel grid .last (Scene.fleeting _) hstarted rfl rfl hprompted
  refine perform_staged staged rfl ⟨.done, h, ?_, hstaged⟩
  rw [Playing.carryOut]
  exact Step.bind_eq_of_ok hwent

theorem follow_space (stage : Stage) :
    follow (.pressed .space) stage =
      if prompts stage then (perform .advance >>= fun _ => return true) stage
      else (.ok true, stage) := by
  show ((get : Show Stage) >>= fun before => _) stage = _
  rw [Step.bind_eq_of_ok (Step.get_apply stage)]
  cases prompts stage <;> rfl

theorem prompts_held {scene : Scene} (held : scene.Held lineHeight stage.host) :
    prompts stage = scene.settings.prompt.truthy := by
  rw [prompts, held.settings]

/-- **An input leads to the next scene.** -/
theorem follow_held {scene : Scene} (grid : Rect.OnGrid lineHeight)
    (held : scene.Held lineHeight stage.host) (i : Input) :
    ∃ later, follow i stage = (.ok (!i.leaves), later) ∧
      (scene.next i).Held lineHeight later.host := by
  cases i with
  | quit | other => exact ⟨stage, rfl, by cases scene <;> exact held⟩
  | pressed key =>
    cases key with
    | escape | other => exact ⟨stage, rfl, by cases scene <;> exact held⟩
    | space =>
      rw [follow_space, prompts_held held]
      cases hprompts : scene.settings.prompt.truthy with
      | false =>
        -- only in the third scene nothing more is announced, and there the space bar does nothing
        cases scene with
        | third => exact ⟨stage, rfl, held⟩
        | _ => cases hprompts
      | true =>
        obtain ⟨later, hadvanced, hheld⟩ := perform_advance grid held hprompts
        rw [if_pos rfl, Step.bind_eq_of_ok hadvanced]
        exact ⟨later, rfl, hheld⟩
    | z =>
      -- wherever the showcase is, the last statement is said with the settings that belong to it
      obtain ⟨configured, hconfigured, hstaged⟩ := perform_finale held
      obtain ⟨later, hfinished, hlast⟩ := perform_finish grid hstaged
      refine ⟨later, ?_, by cases scene <;> exact hlast⟩
      show (perform (.configure finale) >>= fun _ => _) stage = _
      rw [Step.bind_eq_of_ok hconfigured, Step.bind_eq_of_ok hfinished]
      rfl

/-- Inputs lead from scene to scene. -/
theorem followAll_held (grid : Rect.OnGrid lineHeight) (inputs : List Input) {scene : Scene}
    (held : scene.Held lineHeight stage.host) :
    ∃ later, followAll inputs stage = (.ok (!inputs.any Input.leaves), later) ∧
      (inputs.foldl Scene.next scene).Held lineHeight later.host := by
  induction inputs generalizing scene stage with
  | nil => exact ⟨stage, rfl, held⟩
  | cons i rest ih =>
    obtain ⟨followed, hfollowed, hnext⟩ := follow_held grid held i
    obtain ⟨later, hrest, hlater⟩ := ih hnext
    refine ⟨later, ?_, hlater⟩
    rw [followAll, Step.bind_eq_of_ok hfollowed, Step.bind_eq_of_ok hrest, List.any_cons,
      Bool.not_or]
    rfl

theorem see_held {scene : Scene} (s : Sight) (held : scene.Held lineHeight stage.host) :
    ∃ later, see s stage = (.ok (), later) ∧ scene.Held lineHeight later.host :=
  ⟨_, rfl, held⟩

/-- A scene that is drawn stays as it is. -/
theorem perform_draw {scene : Scene} (held : scene.Held lineHeight stage.host) :
    ∃ later, perform (.ask .draw) stage = (.ok (), later) ∧ scene.Held lineHeight later.host := by
  obtain ⟨marks, hdrawn⟩ := scene.draw_eq lineHeight
  rw [← held.surface] at hdrawn
  have hanswered : Surface.canvas.answer .draw stage.host.session.surface =
      ((.ok .done, stage.host.session.surface), marks) := by
    show Canvas.answer .draw _ = _
    rw [Canvas.answer, hdrawn]
    rfl
  refine perform_staged held rfl ⟨.answer .done, _, ?_,
    held.journaled (stage.host.journal ++ marks.map Occurrence.marked)⟩
  rw [Playing.carryOut_ask_eq, hanswered]
  rfl

/-- **A frame leads from scene to scene**, and nothing goes wrong in it. -/
theorem frame_held (grid : Rect.OnGrid lineHeight) (inputs : List Input) {scene : Scene}
    (held : scene.Held lineHeight stage.host) :
    ∃ later, frame inputs stage = (.ok (!inputs.any Input.leaves), later) ∧
      (inputs.foldl Scene.next scene).Held lineHeight later.host := by
  obtain ⟨polled, hpolled, hheld⟩ := see_held .polled held
  obtain ⟨followed, hfollowed, hheld⟩ := followAll_held grid inputs hheld
  obtain ⟨filled, hfilled, hheld⟩ := see_held (.filled background) hheld
  obtain ⟨drawn, hdrawn, hheld⟩ := perform_draw hheld
  obtain ⟨flipped, hflipped, hheld⟩ := see_held .flipped hheld
  obtain ⟨waited, hwaited, hheld⟩ := see_held (.waited frameRate) hheld
  refine ⟨waited, ?_, hheld⟩
  rw [frame, Step.bind_eq_of_ok hpolled, Step.bind_eq_of_ok hfollowed, Step.bind_eq_of_ok hfilled,
    Step.bind_eq_of_ok hdrawn, Step.bind_eq_of_ok hflipped, Step.bind_eq_of_ok hwaited]
  rfl

theorem showAll_held (grid : Rect.OnGrid lineHeight) (frames : List (List Input)) {scene : Scene}
    (held : scene.Held lineHeight stage.host) :
    ∃ later, showAll frames stage = (.ok (), later) ∧
      (frames.flatten.foldl Scene.next scene).Held lineHeight later.host := by
  induction frames generalizing scene stage with
  | nil => exact ⟨stage, rfl, held⟩
  | cons inputs rest ih =>
    obtain ⟨shown, hshown, hnext⟩ := frame_held grid inputs held
    obtain ⟨later, hrest, hlater⟩ := ih hnext
    refine ⟨later, ?_, ?_⟩
    · rw [showAll, Step.bind_eq_of_ok hshown, hrest]
    · rw [List.flatten_cons, List.foldl_append]
      exact hlater

/-- The host before the conversation begins: everything is registered and defined. -/
def ready (lineHeight : Int) : Host .canvas where
  session :=
    { surface := Scene.window lineHeight [], cast := troupe, commands := repertoire,
      playhead := cued }
  handlers := [.remark greeting]

theorem ready_staged (lineHeight : Int) : Staged lineHeight [] {} cued (ready lineHeight) :=
  ⟨rfl, rfl, rfl, rfl, rfl, ⟨0, rfl⟩, rfl, rfl⟩

/-- What comes before the conversation makes the host ready. -/
theorem opening_eq (lineHeight : Int) :
    ∃ sights, opening { host := hostOf (.int lineHeight) } =
      perform (.startLabel (.text "begin") true) { host := ready lineHeight, sights } := by
  let gathered : Session .canvas := { surface := Scene.window lineHeight [], cast := troupe }
  let equipped : Session .canvas := { gathered with commands := repertoire }
  have hregistered : Host.perform (.registerCharacters cast) (hostOf (.int lineHeight)) =
      (.ok .done, { session := gathered }) := rfl
  have hcommanded : Playing.registerCommand (.text "sayHi") (some (.remark greeting))
      { session := gathered } =
        (.ok (), { session := equipped, handlers := [.remark greeting] }) := rfl
  have hdefined : Host.perform (.defineLabels script)
      { session := equipped, handlers := [.remark greeting] } = (.ok .done, ready lineHeight) := rfl
  have hsee (s : Sight) (host : Host .canvas) (sights : List Sight) :
      see s { host, sights } = (.ok (), { host, sights := sights ++ [s] }) := rfl
  rw [opening, Step.bind_eq_of_ok (hsee _ _ _), Step.bind_eq_of_ok (hsee _ _ _),
    Step.bind_eq_of_ok (hsee _ _ _), Step.bind_eq_of_ok (perform_of_ok hregistered _),
    Step.bind_eq_of_ok (act_of_ok hcommanded _), Step.bind_eq_of_ok (perform_of_ok hdefined _)]
  exact ⟨_, rfl⟩

/-- **The conversation begins with its first scene.** -/
theorem opening_held (grid : Rect.OnGrid lineHeight) :
    ∃ later, opening { host := hostOf (.int lineHeight) } = (.ok (), later) ∧
      Scene.Held lineHeight .first later.host := by
  have hready := ready_staged lineHeight
  obtain ⟨h, hstarted, hstaged⟩ :=
    hready.startLabel grid .first (fun _ hb => nomatch hb) rfl rfl rfl rfl
  obtain ⟨sights, hopening⟩ := opening_eq lineHeight
  rw [hopening]
  refine perform_staged hready rfl ⟨.done, h, ?_, hstaged⟩
  rw [Playing.carryOut]
  exact Step.bind_eq_of_ok hstarted

/-! ## Every moment -/

/-- The showcase after some whole frames and some inputs of the next one. -/
def played (past : List (List Input)) (begun : List Input) : Show Bool := do
  opening
  showAll past
  see .polled
  followAll begun

theorem played_held (grid : Rect.OnGrid lineHeight) (past : List (List Input))
    (begun : List Input) :
    ∃ later, played past begun { host := hostOf (.int lineHeight) } =
        (.ok (!begun.any Input.leaves), later) ∧
      ((past.flatten ++ begun).foldl Scene.next .first).Held lineHeight later.host := by
  obtain ⟨opened, hopened, hfirst⟩ := opening_held grid
  obtain ⟨shown, hshown, hheld⟩ := showAll_held grid past hfirst
  obtain ⟨polled, hpolled, hheld⟩ := see_held .polled hheld
  obtain ⟨later, hfollowed, hlater⟩ := followAll_held grid begun hheld
  refine ⟨later, ?_, ?_⟩
  · rw [played, Step.bind_eq_of_ok hopened, Step.bind_eq_of_ok hshown,
      Step.bind_eq_of_ok hpolled, hfollowed]
  · rw [List.foldl_append]
    exact hlater

end

/-- The third statement of the beginning was taken last. -/
def Stage.AtThird (stage : Stage) : Prop :=
  stage.host.session.playhead.label? = some (.text "begin") ∧ stage.host.session.playhead.cursor = 3

/-- What is so at every moment of the showcase, after these inputs. -/
structure Safe (lineHeight : Int) (inputs : List Input) (stage : Stage) : Prop where
  /-- At most one box is on the screen. -/
  single : stage.host.session.surface.boxes.length ≤ 1
  /-- It shows the statement that was taken last. -/
  shown : ∀ b ∈ stage.host.session.surface.boxes, ∃ statement,
    stage.host.session.playhead.lastTaken? = some statement ∧ stage.host.session.Shows b statement
  /-- While the beginning is played, there is one. -/
  visible : stage.host.session.playhead.label? = some (.text "begin") →
    stage.host.session.surface.boxes ≠ []
  /-- Nothing more is announced just when the third statement of the beginning was taken last. -/
  prompt : ∃ more, stage.host.session.settings.prompt = .flag more ∧
    (more = false ↔ stage.AtThird)
  /-- No key but Z changes anything then. -/
  waiting : stage.AtThird →
    ∀ i, i ≠ .pressed .z → follow i stage = (.ok (!i.leaves), stage)
  /-- The key Z always leads on to the end of the script, and puts it on the screen. -/
  onward : ∃ later, follow (.pressed .z) stage = (.ok true, later) ∧
    later.host.session.playhead.label? = some (.text "finish") ∧
    later.host.session.surface.boxes ≠ []
  /-- From then on the end of the script is played, and its statement is the one that was taken last. -/
  ended : .pressed .z ∈ inputs →
    stage.host.session.playhead.label? = some (.text "finish") ∧
      stage.host.session.playhead.cursor = 1
  /-- Pop-ups are configured to stand in the middle of the screen then, and there they stand. -/
  centred : .pressed .z ∈ inputs →
    stage.host.session.settings.pop.get? "position" = some (.text "center") ∧
      ∀ b ∈ stage.host.session.surface.boxes,
        b.options.get? "dialog_type" = some (.text "pop") ∧
          b.options.get? "position" = some (.text "center") ∧
          b.rect = ⟨255, Rect.onGrid (255 - lineHeight), 450, Rect.onGrid (2 * lineHeight + 30)⟩

namespace Scene

theorem next_z (scene : Scene) : scene.next (.pressed .z) = .last := by
  cases scene <;> rfl

theorem label_next {scene : Scene} (ended : scene.label = "finish") (i : Input) :
    (scene.next i).label = "finish" := by
  cases scene with
  | first | second | third => exact absurd ended (by decide)
  | last | bare =>
    cases i with
    | quit | other => rfl
    | pressed key => cases key <;> rfl

theorem label_foldl {scene : Scene} (ended : scene.label = "finish") (inputs : List Input) :
    (inputs.foldl next scene).label = "finish" := by
  induction inputs generalizing scene with
  | nil => exact ended
  | cons i rest ih => exact ih (label_next ended i)

/-- The key Z leads to the end of the script, and nothing leads away from there. -/
theorem label_of_mem {inputs : List Input} (pressed : .pressed .z ∈ inputs) (scene : Scene) :
    (inputs.foldl next scene).label = "finish" := by
  obtain ⟨before, after, rfl⟩ := List.append_of_mem pressed
  rw [List.foldl_append, List.foldl_cons, next_z]
  exact label_foldl rfl after

theorem eq_of_label {scene : Scene} (ended : scene.label = "finish") :
    scene = .last ∨ scene = .bare := by
  cases scene with
  | first | second | third => exact absurd ended (by decide)
  | last => exact .inl rfl
  | bare => exact .inr rfl

theorem rect_last (lineHeight : Int) : last.rect lineHeight =
    ⟨255, Rect.onGrid (255 - lineHeight), 450, Rect.onGrid (2 * lineHeight + 30)⟩ := by
  have htop : (540 - (2 * lineHeight + 15 + 15)) / 2 = 255 - lineHeight := by omega
  have hheight : 2 * lineHeight + 15 + 15 = 2 * lineHeight + 30 := by omega
  show (⟨255, Rect.onGrid ((540 - (2 * lineHeight + 15 + 15)) / 2), 450,
    Rect.onGrid (2 * lineHeight + 15 + 15)⟩ : Rect) = _
  rw [htop, hheight]

end Scene

namespace Safe

variable {lineHeight : Int} {stage : Stage} {scene : Scene}

theorem mem_boxes (held : scene.Held lineHeight stage.host) {b : Canvas.Placed}
    (hb : b ∈ stage.host.session.surface.boxes) : b = scene.box lineHeight := by
  rw [held.surface] at hb
  cases scene with
  | bare => cases hb
  | _ => exact List.mem_singleton.mp hb

theorem shows_box (grid : Rect.OnGrid lineHeight) (held : scene.Held lineHeight stage.host) :
    stage.host.session.Shows (scene.box lineHeight) scene.line.source := by
  refine ⟨scene.line, ?_, rfl, held.optionsOf_eq, held.place_eq grid scene⟩
  rw [held.parse_eq]

theorem atThird_iff (held : scene.Held lineHeight stage.host) :
    stage.AtThird ↔ scene = .third := by
  rw [Stage.AtThird, held.playhead]
  cases scene <;> decide

/-- A showcase at a scene is safe. -/
theorem of_held (grid : Rect.OnGrid lineHeight) (held : scene.Held lineHeight stage.host)
    {inputs : List Input} (ended : .pressed .z ∈ inputs → scene.label = "finish") :
    Safe lineHeight inputs stage where
  single := by
    rw [held.surface]
    cases scene with
    | bare => exact Nat.zero_le 1
    | _ => exact Nat.le_refl 1
  shown := by
    intro b hb
    obtain rfl := mem_boxes held hb
    refine ⟨scene.line.source, ?_, shows_box grid held⟩
    rw [held.playhead]
    cases scene <;> rfl
  visible := by
    rw [held.playhead, held.surface]
    intro hbegin
    cases scene with
    | bare => exact absurd hbegin (by decide)
    | _ => exact List.cons_ne_nil _ _
  prompt := by
    rw [atThird_iff held, held.settings]
    cases scene <;> exact ⟨_, rfl, by decide⟩
  waiting := by
    intro hthird i hi
    obtain rfl := (atThird_iff held).mp hthird
    cases i with
    | quit | other => rfl
    | pressed key =>
      cases key with
      | escape | other => rfl
      | space =>
        rw [follow_space, prompts_held held]
        rfl
      | z => exact absurd rfl hi
  onward := by
    obtain ⟨later, hfollowed, hheld⟩ := follow_held grid held (.pressed .z)
    rw [Scene.next_z] at hheld
    refine ⟨later, hfollowed, ?_, ?_⟩
    · rw [hheld.playhead]
      rfl
    · rw [hheld.surface]
      exact List.cons_ne_nil _ _
  ended := by
    intro hpressed
    rw [held.playhead]
    obtain rfl | rfl := Scene.eq_of_label (ended hpressed) <;> exact ⟨rfl, rfl⟩
  centred := by
    intro hpressed
    rw [held.settings]
    refine ⟨?_, fun b hb => ?_⟩
    · obtain rfl | rfl := Scene.eq_of_label (ended hpressed) <;> rfl
    · obtain rfl := mem_boxes held hb
      obtain rfl | rfl := Scene.eq_of_label (ended hpressed) <;>
        exact ⟨rfl, rfl, Scene.rect_last lineHeight⟩

end Safe

/-- Nothing ever goes wrong. -/
theorem run_ok {lineHeight : Int} (grid : Rect.OnGrid lineHeight) (inputs : List (List Input)) :
    ∃ stage, run inputs { host := hostOf (.int lineHeight) } = (.ok (), stage) := by
  obtain ⟨opened, hopened, hfirst⟩ := opening_held grid
  obtain ⟨shown, hshown, hheld⟩ := showAll_held grid (lived inputs) hfirst
  obtain ⟨closed, hclosed, -⟩ := see_held .closed hheld
  refine ⟨closed, ?_⟩
  rw [run, Step.bind_eq_of_ok hopened, frames_eq, Step.bind_eq_of_ok hshown, hclosed]

/-- **Whatever the user does, the showcase is safe.**  It runs to its end, which comes after the first
frame in which the user leaves; that frame is shown in full, whatever else came in it.  And it is safe at
every moment of its run: after any whole frames, and after any inputs of the next one. -/
theorem run_safe {lineHeight : Int} (grid : Rect.OnGrid lineHeight) :
    (∀ inputs, ∃ stage, run inputs { host := hostOf (.int lineHeight) } = (.ok (), stage)) ∧
    (∀ before last rest, (∀ inputs ∈ before, inputs.any Input.leaves = false) →
      last.any Input.leaves = true →
      run (before ++ last :: rest) = do
        opening
        showAll (before ++ [last])
        see .closed) ∧
    ∀ past begun, ∃ stage, played past begun { host := hostOf (.int lineHeight) } =
        (.ok (!begun.any Input.leaves), stage) ∧ Safe lineHeight (past.flatten ++ begun) stage := by
  refine ⟨run_ok grid, fun before last rest hstays hleaves => ?_, fun past begun => ?_⟩
  · rw [run, frames_eq, lived_append hstays hleaves]
  · obtain ⟨stage, hplayed, hheld⟩ := played_held grid past begun
    exact ⟨stage, hplayed, Safe.of_held grid hheld fun hpressed => Scene.label_of_mem hpressed _⟩

/-- A visit: the user goes on twice, then jumps to the end, then leaves. -/
def visit : List (List Input) :=
  [[.pressed .space, .pressed .space, .pressed .space], [.other, .pressed .z], [.quit, .pressed .space]]

/-- The general theorem for one visit: the window is closed after three frames, and by the end of the
second one the box stands in the middle. -/
theorem run_safe_visit :
    Rect.OnGrid 18 ∧ (∃ stage, run visit { host := hostOf (.int 18) } = (.ok (), stage)) ∧
      run (visit ++ [[.pressed .z]]) = (do opening; showAll visit; see .closed) ∧
      ∃ stage, played (visit.take 1) [.other, .pressed .z] { host := hostOf (.int 18) } =
        (.ok true, stage) ∧
        ∀ b ∈ stage.host.session.surface.boxes, b.rect = ⟨255, 237, 450, 66⟩ := by
  have grid : Rect.OnGrid 18 := by decide
  obtain ⟨hruns, hends, hsafe⟩ := run_safe grid
  refine ⟨grid, hruns visit, hends (visit.take 2) [.quit, .pressed .space] [[.pressed .z]]
    (by decide) rfl, ?_⟩
  obtain ⟨stage, hplayed, safe⟩ := hsafe (visit.take 1) [.other, .pressed .z]
  exact ⟨stage, hplayed, fun b hb => ((safe.centred (by decide)).2 b hb).2.2⟩

end Showcase

end Dialogue
