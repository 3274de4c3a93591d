import Dialogue.Proofs.Session.Reader

/-!
# Going on as the reader does

A host that goes on reads its script: nothing happens when nothing is played; when the list is over,
the board is cleared and that is told; else the statement at the playhead is taken, its commands are
run and its text is shown.

## Results

* `Session.exists_turned` — what a reader makes of a session, part by part.
* `Playing.advance_active` — a statement that can be read is taken and done as the reader does it,
  unless the handler of a command fails.
* `Playing.goesOn_reads` — whenever a host goes on, in any run of decent requests, it does what the
  reader of its script does.
-/

set_option autoImplicit false

namespace Dialogue

/-! ## What the reader makes of a session -/

/-- A statement was read: the playhead stands after it, the board was cleared once and shows the line
in a box of its own if it has a text, and nothing else has changed but the draws that are left, whether
more is announced to come, and the bus. -/
structure Session.Turned (s : Session .board) (draws : List Value) (line : Line) (boxes : List Box)
    (t : Session .board) : Prop where
  playhead : t.playhead = { s.playhead with cursor := s.playhead.cursor + 1 }
  visible : t.surface.visible = s.surface.visible.filter Box.persistent ++ boxes
  history : t.surface.history = s.surface.history ++ boxes
  clears : t.surface.clears = s.surface.clears + 1
  intents : boxes.map Box.intent = if line.text = "" then [] else [line.intent]
  handle : t.handle? = (boxes.map Box.handle).head?.or s.handle?
  settings : t.settings = { s.settings with
    prompt := s.commands.promptAfter line.commands s.settings.prompt }
  cast : t.cast = s.cast
  commands : t.commands = s.commands
  draws : t.draws = draws

/-- What a reader makes of a session when it has come to a line. -/
theorem Session.exists_turned {s : Session .board} (draws : List Value) {line : Line}
    (known : ∀ who, line.who = some who → s.cast.Knows who) :
    ∃ boxes, s.Turned draws line boxes (s.afterAll (turning draws ++ s.effectsOf line)) := by
  -- commands change the settings alone, so the box is put on the board that was cleared
  let moved := s.afterAll (turning draws)
  let ran := moved.afterAll (line.commands.map .run)
  have hran : ran = moved.promptedAll line.commands := moved.afterAll_run line.commands
  have htold : ran.afterAll (if line.commands = [] then []
      else [.tell (.executed line.commands)]) = ran := by
    split <;> rfl
  have hafter : s.afterAll (turning draws ++ s.effectsOf line) =
      ran.afterAll (if line.text = "" then []
        else [.box line, .tell (.displayed line (s.surface.history.length + 1))]) := by
    rw [afterAll_append]
    unfold effectsOf
    rw [afterAll_append, afterAll_append]
    exact congrArg (fun u => Session.afterAll u _) htold
  rw [hafter]
  by_cases hempty : line.text = ""
  · rw [if_pos hempty, hran]
    refine ⟨[], ?_⟩
    exact {
      playhead := rfl
      visible := (List.append_nil _).symm
      history := (List.append_nil _).symm
      clears := rfl
      intents := (if_pos hempty).symm
      handle := rfl
      settings := rfl
      cast := rfl
      commands := rfl
      draws := rfl }
  · obtain ⟨options, hoptions⟩ : ∃ options, ran.lineOptions line = .ok options := by
      refine Playing.exists_boxOptions (h := { session := ran }) ?_
      rw [hran]
      exact known
    have hbox : ran.afterAll [.box line, .tell (.displayed line (s.surface.history.length + 1))] =
        ran.shown line.intent options := by
      show ran.after (.box line) = _
      simp only [after, hoptions]
    rw [if_neg hempty, hbox, hran]
    refine ⟨[s.surface.next line.intent options], ?_⟩
    exact {
      playhead := rfl
      visible := rfl
      history := rfl
      clears := rfl
      intents := (if_neg hempty).symm
      handle := rfl
      settings := rfl
      cast := rfl
      commands := rfl
      draws := rfl }

/-- The bus apart, two sessions that are the same are read in the same way. -/
theorem Session.Turned.of_bus {s t u : Session .board} {draws : List Value} {line : Line}
    {boxes : List Box} (turned : s.Turned draws line boxes t) (same : u = { t with bus := u.bus }) :
    s.Turned draws line boxes u := by
  obtain ⟨playhead, visible, history, clears, intents, handle, settings, cast, commands, draws⟩ := turned
  rw [same]
  exact ⟨playhead, visible, history, clears, intents, handle, settings, cast, commands, draws⟩

/-! ## Reading a statement -/

namespace Session

variable {K : Surface} {s t read : Session K} {statement : Value} {line : Line}

/-- How a statement is read depends on the cast, the commands and the draws alone. -/
theorem parse_eq_of_same (statement : Value) (cast : t.cast = s.cast)
    (commands : t.commands = s.commands) (draws : t.draws = s.draws) :
    t.parse statement =
      ((s.parse statement).1, { t with draws := (s.parse statement).2.draws }) := by
  show ((Statement.parse t.cast t.commands.has statement t.draws).1, { t with draws :=
    (Statement.parse t.cast t.commands.has statement t.draws).2 }) = _
  rw [cast, commands, draws]
  rfl

theorem parse_commands (parsed : s.parse statement = (.ok line, read)) :
    ∀ name ∈ line.commands, s.commands.has name = true :=
  Statement.parse_commands (Prod.mk.inj parsed).1

/-- Whoever speaks is known, if the narrator is. -/
theorem parse_who (parsed : s.parse statement = (.ok line, read))
    (narrator : s.cast.Knows narratorKey) :
    ∀ who, line.who = some who → s.cast.Knows who := by
  intro who hwho
  rcases Statement.parse_who (Prod.mk.inj parsed).1 hwho with rfl | known
  · exact narrator
  · exact known

end Session

/-! ## Going on -/

theorem Playhead.take_ok {q r : Playhead} {statement : Value} (h : q.take = (.ok statement, r)) :
    q.standing = .active ∧ r = { q with cursor := q.cursor + 1 } := by
  constructor
  · by_contra hne
    rw [(take_error_iff q).mpr hne] at h
    cases h
  · rw [take_eq] at h
    split at h
    · cases h
      rfl
    · cases h

namespace Playing

variable {p : Playing .board} {h : Host .board}

theorem advance_idle (idle : h.session.playhead.standing = .idle) :
    p.advance h = (.ok false, h) := by
  unfold advance
  rw [Step.bind_eq_of_ok (Step.get_apply h), idle]
  rfl

theorem advance_exhausted (calm : p.Calm) (sound : h.Sound)
    (exhausted : h.session.playhead.standing = .exhausted) :
    ∃ k, p.advance h = (.ok false, k) ∧
      p.Performs [.wipe, .tell .cleared, .tell (.exhausted h.session.playhead.label?)] h k := by
  obtain ⟨m, hclear, wipes⟩ := clear_performs calm sound
  have hsound := (Host.keepsSound_parts calm).clear.apply hclear sound
  obtain ⟨k, hpublish, tells⟩ :=
    publish_performs calm (.exhausted m.session.playhead.label?) hsound
  have hplayhead : m.session.playhead = h.session.playhead := by
    rw [wipes.session]
    rfl
  refine ⟨k, ?_, ?_⟩
  · unfold advance
    rw [Step.bind_eq_of_ok (Step.get_apply h), exhausted]
    show (p.clear >>= fun _ => _ : Act .board Bool) h = _
    rw [Step.bind_eq_of_ok hclear, Step.bind_eq_of_ok (Step.get_apply m),
      Step.bind_eq_of_ok hpublish]
    rfl
  · rw [hplayhead] at tells
    exact wipes.append tells

/-- **A statement that can be read is taken and done as the reader does it, unless the handler of a
command fails.** -/
theorem advance_active (calm : p.Calm) (sound : h.Sound) {statement : Value} {playhead : Playhead}
    {line : Line} {read : Session .board}
    (taken : h.session.playhead.take = (.ok statement, playhead))
    (parsed : h.session.parse statement = (.ok line, read)) :
    (∃ k, p.advance h = (.ok true, k) ∧
        p.Performs (Session.turning read.draws ++ h.session.effectsOf line) h k) ∨
      ∃ f k, p.Breaks (Session.turning read.draws) line.commands h f k ∧
        p.advance h = (.error f, k) := by
  obtain ⟨hactive, rfl⟩ := Playhead.take_ok taken
  obtain ⟨m, hclear, wipes⟩ := clear_performs calm sound
  have hsound := (Host.keepsSound_parts calm).clear.apply hclear sound
  have hcleared := wipes.session
  have hplayhead : m.session.playhead = h.session.playhead := by rw [hcleared]; rfl
  have hcast : m.session.cast = h.session.cast := by rw [hcleared]; rfl
  have hcommands : m.session.commands = h.session.commands := by rw [hcleared]; rfl
  have hdraws : m.session.draws = h.session.draws := by rw [hcleared]; rfl
  have hhistory : m.session.surface.history = h.session.surface.history := by rw [hcleared]; rfl
  let moved := m.onSession fun s => { s with playhead := { m.session.playhead with
    cursor := m.session.playhead.cursor + 1 } }
  let reading := m.onSession (Session.moved read.draws)
  have htake : Act.onPart Session.playhead (fun playhead s => { s with playhead }) Playhead.take m =
      (.ok statement, moved) := by
    rw [Act.onPart_apply, hplayhead, taken, ← hplayhead]
  -- the statement is read in a session that differs from the first in surface, playhead and bus
  have hparse : parse statement moved = (.ok line, reading) := by
    have hmoved := Session.parse_eq_of_same (t := moved.session) statement hcast hcommands hdraws
    rw [parsed] at hmoved
    unfold parse
    rw [Act.onPart_apply]
    show ((moved.session.parse statement).1,
      moved.onSession fun _ => (moved.session.parse statement).2) = _
    rw [hmoved]
    rfl
  have hreading : p.Performs (Session.turning read.draws) h reading :=
    wipes.append (Does.move read.draws m).performs
  have hsay := say_performs calm hparse
    ⟨hsound.rests, hsound.aloof, hsound.narrator, hsound.boxes⟩
    (hcommands.symm ▸ Session.parse_commands parsed)
    (hcast.symm ▸ Session.parse_who parsed sound.narrator)
  have heffects : reading.session.effectsOf line = h.session.effectsOf line := by
    show m.session.effectsOf line = _
    unfold Session.effectsOf
    rw [hhistory]
  rw [heffects] at hsay
  rw [advance_of_active hactive, Step.bind_eq_of_ok hclear, Step.bind_eq_of_ok htake]
  rcases hsay with ⟨k, hk, performs⟩ | ⟨f, k, breaks, hk⟩
  · exact .inl ⟨k, Step.bind_eq_of_ok hk, hreading.append performs⟩
  · refine .inr ⟨f, k, ?_, Step.bind_eq_of_error hk⟩
    have hbreaks := breaks.append hreading
    rw [List.append_nil] at hbreaks
    exact hbreaks

/-- **The reader of a script**: what going on does from a state of a host. -/
structure Reads (p : Playing .board) (h : Host .board) : Prop where
  /-- When nothing is played, nothing happens. -/
  idle : h.session.playhead.standing = .idle → p.advance h = (.ok false, h)
  /-- When the list is over, the board is cleared, that is told, and then that the list is over. -/
  exhausted : h.session.playhead.standing = .exhausted →
    ∃ k, p.advance h = (.ok false, k) ∧
      p.Performs [.wipe, .tell .cleared, .tell (.exhausted h.session.playhead.label?)] h k ∧
      k.session = { h.session with surface := h.session.surface.wiped, bus := k.session.bus }
  /-- When there is a statement that can be read, and no handler of its commands fails, the board is
  cleared and that is told, the playhead moves, all commands are run in order and that is told, if
  there are any, and then the text is put into one box and that is told, if there is any. -/
  active : ∀ statement playhead line read,
    h.session.playhead.take = (.ok statement, playhead) →
    h.session.parse statement = (.ok line, read) →
    (∀ f k, ¬ p.Breaks (Session.turning read.draws) line.commands h f k) →
    ∃ k boxes, p.advance h = (.ok true, k) ∧
      p.Performs (Session.turning read.draws ++ h.session.effectsOf line) h k ∧
      h.session.Turned read.draws line boxes k.session

/-- **A sound host goes on as the reader of its script does.** -/
theorem advance_reads (calm : p.Calm) (sound : h.Sound) : p.Reads h where
  idle := advance_idle
  exhausted past := by
    obtain ⟨k, hadvance, performs⟩ := advance_exhausted calm sound past
    exact ⟨k, hadvance, performs, performs.session⟩
  active statement playhead line read taken parsed unbroken := by
    rcases advance_active calm sound taken parsed with
      ⟨k, hadvance, performs⟩ | ⟨f, k, breaks, -⟩
    · obtain ⟨boxes, turned⟩ :=
        Session.exists_turned read.draws (Session.parse_who parsed sound.narrator)
      exact ⟨k, boxes, hadvance, performs, turned.of_bus performs.session⟩
    · exact absurd breaks (unbroken f k)

/-! ## In any run -/

/-- A host that carries out this request comes to go on from the second state. -/
inductive GoesOn (p : Playing .board) (h : Host .board) : Request .board → Host .board → Prop where
  | advance : GoesOn p h .advance h
  | loadSequence {statements m} (loaded : p.loadSequence statements false h = (.ok (), m)) :
    GoesOn p h (.loadSequence statements true) m
  | takeScript {form items m} (loaded : p.loadSequence (.list form items) false h = (.ok (), m)) :
    GoesOn p h (.takeScript (.list form items) true) m
  | startLabel {label m} (started : p.startLabel label false h = (.ok (), m)) :
    GoesOn p h (.startLabel label true) m
  | install {m} (handed : p.install h.library false h = (.ok (), m))
    (loose : h.library.loose ≠ []) : GoesOn p h (.install true) m

theorem loadSequence_goesOn {statements : Value} {m : Host .board}
    (loaded : p.loadSequence statements false h = (.ok (), m)) :
    p.loadSequence statements true h = p.advanceIf true m := by
  obtain ⟨_, t, hload, hrest⟩ := Step.bind_eq_ok_iff.mp loaded
  unfold loadSequence
  rw [Step.bind_eq_of_ok hload]
  cases hlength : statements.length? with
  | none =>
    rw [hlength] at hrest
    cases hrest
  | some length =>
    rw [hlength] at hrest
    obtain ⟨_, u, hpublish, hlast⟩ := Step.bind_eq_ok_iff.mp hrest
    cases hlast
    exact Step.bind_eq_of_ok hpublish

theorem startLabel_goesOn {label : Value} {m : Host .board}
    (started : p.startLabel label false h = (.ok (), m)) :
    p.startLabel label true h = p.advanceIf true m := by
  obtain ⟨found, t, hstart, hrest⟩ := Step.bind_eq_ok_iff.mp started
  obtain ⟨_, u, hreport, hrest⟩ := Step.bind_eq_ok_iff.mp hrest
  obtain ⟨_, v, hpublish, hlast⟩ := Step.bind_eq_ok_iff.mp hrest
  cases hlast
  unfold startLabel
  rw [Step.bind_eq_of_ok hstart, Step.bind_eq_of_ok hreport, Step.bind_eq_of_ok hpublish]

theorem install_goesOn {library : Library} {m : Host .board} (loose : library.loose ≠ [])
    (handed : p.install library false h = (.ok (), m)) :
    p.install library true h = p.advanceIf true m := by
  obtain ⟨_, t, hregister, hrest⟩ := Step.bind_eq_ok_iff.mp handed
  obtain ⟨_, u, hdefine, hrest⟩ := Step.bind_eq_ok_iff.mp hrest
  rw [if_pos loose] at hrest
  unfold install
  rw [Step.bind_eq_of_ok hregister, Step.bind_eq_of_ok hdefine, if_pos loose]
  exact loadSequence_goesOn hrest

theorem advanceIf_done {x : Act .board Unit} {m : Host .board}
    (goes : x h = p.advanceIf true m) :
    (x >>= fun _ => pure .done : Act .board (Reply .board)) h =
      (p.advance >>= fun _ => pure .done : Act .board (Reply .board)) m := by
  have hadvance : p.advanceIf true m = (p.advance >>= fun _ => pure () : Act .board Unit) m := rfl
  rw [Step.bind_apply x, goes, hadvance, Step.bind_apply p.advance, Step.bind_apply p.advance]
  rcases p.advance m with ⟨_ | _, k⟩ <;> rfl

/-- How a request that goes on is answered. -/
def replyTo : Request .board → Bool → Reply .board
  | .advance, wentOn => .truth wentOn
  | _, _ => .done

/-- To carry out such a request is to go on from that state. -/
theorem GoesOn.carryOut {r : Request .board} {m : Host .board} (goes : p.GoesOn h r m) :
    p.carryOut r h =
      (p.advance >>= fun b => pure (replyTo r b) : Act .board (Reply .board)) m := by
  cases goes with
  | advance => rfl
  | loadSequence loaded | takeScript loaded => exact advanceIf_done (loadSequence_goesOn loaded)
  | startLabel started => exact advanceIf_done (startLabel_goesOn started)
  | install handed loose =>
    show (get >>= fun _ => _ : Act .board (Reply .board)) h = _
    rw [Step.bind_eq_of_ok (Step.get_apply h)]
    exact advanceIf_done (install_goesOn loose handed)

theorem GoesOn.sound (calm : p.Calm) {r : Request .board} {m : Host .board} (sound : h.Sound)
    (goes : p.GoesOn h r m) : m.Sound := by
  have parts := Host.keepsSound_parts calm
  cases goes with
  | advance => exact sound
  | loadSequence loaded | takeScript loaded =>
    exact (parts.course.telling.onward.loadSequence _ _).apply loaded sound
  | startLabel started => exact (parts.course.telling.onward.startLabel _ _).apply started sound
  | install handed _ =>
    have telling := parts.course.telling
    exact (telling.onward.install _ (telling.registerCharacters _)).apply handed sound

/-- **Whenever a host goes on, it does what the reader of its script does.**  A sound host performs
decent requests while its option trees are mappings.  If it is then asked to go on, or to load a list
or start a label and to go on from there, this is answered as going on is, from a state in which going
on does what the reader does. -/
theorem goesOn_reads {h₀ : Host .board} (sound : h₀.Sound) {requests : List (Request .board)}
    (decent : ∀ r ∈ requests, r.decent = true)
    (trees : Host.Throughout Host.Treelike requests h₀) :
    let h := Host.performAll requests h₀
    ∀ r m, (within (h.depth r)).GoesOn h r m →
      Host.perform r h = ((within (h.depth r)).advance >>= fun b =>
        pure (replyTo r b) : Act .board (Reply .board)) m ∧
      (within (h.depth r)).Reads m := by
  intro h r m goes
  have hsound : h.Sound := Host.performAll_sound decent trees sound
  have calm : (within (h.depth r) : Playing .board).Calm := within_calm (Nat.succ_pos _)
  exact ⟨goes.carryOut, advance_reads calm (goes.sound calm hsound)⟩

/-! ## A run of the reader -/

/-- A host that sees every event of its session. -/
def attentive : Host .board :=
  .observing { surface := {} }

/-- An usher waits for the board to be cleared, and a list of one statement is loaded. -/
def rehearsal : List (Request .board) :=
  [.subscribe .dialogCleared (.text "usher") [[.consume]] (.int 0) false,
   .loadSequence (.ofList [.text "disableNextPrompt Hello"]) false]

/-- The line that the statement makes. -/
def hello : Line where
  source := .text "disableNextPrompt Hello"
  who := some narratorKey
  text := "Hello"
  commands := ["disableNextPrompt"]

/-- The statement is read, its command is run, and its text is on the board. -/
theorem goesOn_reads_hello :
    ∃ k, Host.perform .advance (Host.performAll rehearsal attentive) = (.ok (.truth true), k) ∧
      k.session.surface.visible.map Box.intent = [hello.intent] ∧
      k.session.playhead.cursor = 1 ∧ k.session.settings.prompt = .flag false := by
  let h := Host.performAll rehearsal attentive
  have hsound : attentive.Sound := Host.sound_observing rfl rfl ⟨rfl, rfl⟩
  have hdecent : ∀ r ∈ rehearsal, r.decent = true := by decide
  have htrees : Host.Throughout Host.Treelike rehearsal attentive :=
    ⟨⟨rfl, rfl⟩, ⟨rfl, rfl⟩, ⟨rfl, rfl⟩⟩
  obtain ⟨hperform, hreads⟩ := goesOn_reads hsound hdecent htrees .advance h .advance
  have htake : h.session.playhead.take = (.ok hello.source, h.session.playhead.take.2) := rfl
  have hparse : (h.session.parse hello.source).1 = .ok hello :=
    Step.ok_of_toOption (by decide +kernel)
  -- the command is a built-in one without a handler, so nothing can fail
  have hunbroken : ∀ f k, ¬ (within (h.depth .advance)).Breaks
      (Session.turning (h.session.parse hello.source).2.draws) hello.commands h f k := by
    intro f k breaks
    obtain ⟨name, hname, id, hhandler⟩ := breaks.handled
    rw [List.mem_singleton.mp hname] at hhandler
    cases hhandler
  obtain ⟨k, boxes, hadvance, -, turned⟩ :=
    hreads.active _ _ _ _ htake (Prod.ext hparse rfl) hunbroken
  refine ⟨k, ?_, ?_, ?_, ?_⟩
  · rw [hperform, Step.bind_eq_of_ok hadvance]
    rfl
  · rw [turned.visible, List.map_append, turned.intents]
    rfl
  · rw [turned.playhead]
    rfl
  · rw [turned.settings]
    rfl

end Playing

end Dialogue
