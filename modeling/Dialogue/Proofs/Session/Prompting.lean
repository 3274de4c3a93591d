import Dialogue.Proofs.Session.Advance
import Dialogue.Proofs.Session.Modest

/-!
# Commands that announce

A statement is said while every other handler leaves it alone whether more is announced to come.  Then
the built-in commands of the statement decide, the last one of them, whatever the handlers under their
names have announced before; a command that fails leaves it at what those before it have decided.  The
box of the statement says so too, as long as the option tree of its layout family is a mapping.

## Results

* `Playing.display_tells` — what the box of a line says about what is announced.
* `Playing.executes_or_breaksOff` — what is announced after the commands of a line, and after those
  before one that fails.
* `Playing.say_announces` — both, for a statement that is said.
-/

set_option autoImplicit false

namespace Dialogue

variable {K : Surface}

namespace Playing

/-! ## The box of a line -/

/-- The line is shown in a box, and its options say what is announced just when the option tree of the
speaker's layout family is a mapping, provided that neither this tree nor the speaker's own options say
anything else.  A line whose speaker is not known is not shown. -/
def TellsPrompt (p : Playing K) (line : Line) (h : Host K) : Prop :=
  match h.session.cast.character (Value.optionalText line.who) with
  | .error f => p.display line h = (.error f, h)
  | .ok speaker => ∃ options : Value,
      p.display line h = (do
        let handle ← render line.intent options
        p.publish (.displayed line handle)) h ∧
      (Settings.Silent (h.session.settings.tree speaker.kind) speaker →
        (options.get? Settings.promptName = some h.prompt ↔
          (h.session.settings.tree speaker.kind).kind = .tree))

/-- **The box of a line says what is announced**, just when its option tree is a mapping. -/
theorem display_tells (p : Playing K) {line : Line} (displayable : line.displayable = true)
    (h : Host K) : p.TellsPrompt line h := by
  have hdisplay : p.display line h = (do
      let options ← boxOptions (Value.optionalText line.who) (Value.optionalText line.sideImage) .null
      let handle ← render line.intent options
      p.publish (.displayed line handle) : Act K Unit) h := by
    unfold display
    rw [if_pos displayable]
  have hbox : boxOptions (K := K) (Value.optionalText line.who) (Value.optionalText line.sideImage)
      .null h = (h.session.optionsOf (Value.optionalText line.who)
        (Value.optionalText line.sideImage) .null, h) := rfl
  unfold TellsPrompt
  unfold Session.optionsOf at hbox
  cases hspeaker : h.session.cast.character (Value.optionalText line.who) with
  | error f =>
    rw [hspeaker] at hbox
    rw [hdisplay]
    exact Step.bind_eq_of_error hbox
  | ok speaker =>
    rw [hspeaker] at hbox
    refine ⟨_, hdisplay.trans (Step.bind_eq_of_ok hbox), fun silent => ?_⟩
    exact Settings.get?_resolve_prompt_eq_some_iff silent _

/-! ## The commands of a line -/

variable {p : Playing K} {holds : Host K → Prop} {line : Line} {h k : Host K}

/-- A command of a line fails, after those before it have run: they have decided what is announced, and
the one that fails leaves it at that, unless it has the name of a built-in command. -/
def BreaksOff (p : Playing K) (line : Line) (h : Host K) (f : Fault) (k : Host K) : Prop :=
  ∃ before name after id m, line.commands = before ++ name :: after ∧
    Commands.run p.stage (before.map .text) h = (.ok (), m) ∧
    m.prompt = Commands.prompting.promptAfter before h.prompt ∧
    m.session.commands.Calls name id ∧ p.react id (.command (.text name)) m = (.error f, k) ∧
    (Commands.prompting.announces? name = none → k.prompt = m.prompt)

/-- The commands of a line decide what is announced; if one fails, then those before it do. -/
theorem executes_or_breaksOff (discreet : p.Discreet holds) (holding : holds h) (line : Line) :
    (∃ k, p.execute line h = (.ok (), k) ∧
        k.prompt = Commands.prompting.promptAfter line.commands h.prompt) ∨
      ∃ f k, p.execute line h = (.error f, k) ∧ p.BreaksOff line h f k := by
  cases hran : p.execute line h with
  | mk result k =>
    cases result with
    | ok _ => exact .inl ⟨k, rfl, (discreet.execute holding hran).2⟩
    | error f =>
      obtain ⟨before, name, after, m, id, hplace, hrun, hcalls, hreact⟩ := execute_error hran
      obtain ⟨mholding, mprompt⟩ := discreet.run holding hrun
      refine .inr ⟨f, k, rfl, before, name, after, id, m, hplace, hrun, mprompt, hcalls, hreact, ?_⟩
      intro hnone
      have hsteady := discreet.commanded name id m hcalls mholding
      rw [hreact, hnone] at hsteady
      exact hsteady.2 rfl

/-! ## Statements -/

/-- Reading a statement changes the numbers that are left to draw by, and nothing else. -/
theorem parse_eq {statement : Value} {result : Except Fault Line} {read : Host K}
    (parsed : parse statement h = (result, read)) :
    read = h.onSession fun s => { s with draws := (h.session.parse statement).2.draws } :=
  (congrArg Prod.snd parsed).symm

/-- **The built-in commands of a statement decide what is announced**, the last one of them, whatever the
handlers under their names announce; its box says so, just when its option tree is a mapping.  If the
handler of a command fails, then those before it have decided, and nothing is shown. -/
theorem say_announces (discreet : p.Discreet holds) (holding : holds h) {statement : Value}
    {read : Host K} (parsed : parse statement h = (.ok line, read)) :
    (∃ k, p.execute line read = (.ok (), k) ∧
        k.prompt = Commands.prompting.promptAfter line.commands h.prompt ∧
        p.say statement h = (do p.display line; return line) k ∧
        (line.displayable = true → p.TellsPrompt line k)) ∨
      ∃ f k, p.say statement h = (.error f, k) ∧ read.prompt = h.prompt ∧
        p.BreaksOff line read f k := by
  have hread := parse_eq parsed
  have hholding : holds read := hread ▸ discreet.drawn _ h holding
  have hprompt : read.prompt = h.prompt := hread ▸ rfl
  have hsay : p.say statement h = (do
      p.execute line
      p.display line
      return line : Act K Line) read := Step.bind_eq_of_ok parsed
  rcases executes_or_breaksOff discreet hholding line with ⟨k, hran, hdecided⟩ | ⟨f, k, hran, breaks⟩
  · refine .inl ⟨k, hran, hprompt ▸ hdecided, ?_, fun displayable => display_tells p displayable k⟩
    exact hsay.trans (Step.bind_eq_of_ok hran)
  · exact .inr ⟨f, k, hsay.trans (Step.bind_eq_of_error hran), hprompt, breaks⟩

/-! A handler under the name of a built-in command may announce what it likes. -/

/-- The host has been given a handler for a built-in command, which announces that more is to come. -/
def overruled : Host .board :=
  Host.performAll
    [.registerCommand (.text "disableNextPrompt")
      [[.configure [(.text Settings.promptName, .flag true)]]]]
    (.observing { surface := {} })

/-- The line that hides the prompt. -/
def whisper : Line where
  source := .text "disableNextPrompt Hi"
  who := some narratorKey
  text := "Hi"
  commands := ["disableNextPrompt"]

/-- The general theorem for a command that is overruled: the handler has its turn, and no more is
announced all the same. -/
theorem say_announces_overruled :
    ∃ k, (within 2).execute whisper (overruled.onSession fun s =>
        { s with draws := (s.parse whisper.source).2.draws }) = (.ok (), k) ∧
      k.prompt = .flag false ∧ (within 2).TellsPrompt whisper k := by
  have hmodest : overruled.Modest :=
    Host.performAll_modest (by decide) (Host.modest_observing _ _)
  have hparse : (overruled.session.parse whisper.source).1 = .ok whisper :=
    Step.ok_of_toOption (by decide +kernel)
  have hread : parse whisper.source overruled = (.ok whisper, overruled.onSession fun s =>
      { s with draws := (s.parse whisper.source).2.draws }) := Prod.ext hparse rfl
  rcases say_announces (discreet_of_modest 2) hmodest hread with
    ⟨k, hran, hprompt, -, htells⟩ | ⟨f, k, hsay, -⟩
  · exact ⟨k, hran, hprompt, htells rfl⟩
  · have hsays : ((within 2).say whisper.source overruled).1.toOption = some whisper := by decide +kernel
    rw [hsay] at hsays
    cases hsays

/-- An option tree that is no mapping: a statement hides the prompt, neither the tree nor the narrator
says anything about it, and nor does the box of the statement. -/
theorem display_tells_nothing :
    let h : Host .board := Host.performAll [.configure [(.text "vn", .null)]]
      (.observing { surface := {} })
    let k := (Host.perform (.say whisper.source) h).2
    h.session.settings.tree .vn = .null ∧ h.session.cast.narrator = Character.narrator ∧
      Character.narrator.kind = .vn ∧ Character.narrator.options = none ∧
      k.prompt = .flag false ∧
      k.session.surface.history.map (fun box => (box.text, box.options.get? Settings.promptName)) =
        [(.text "Hi", none)] := by
  decide +kernel

end Playing

end Dialogue
