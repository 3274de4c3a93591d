import Dialogue.Proofs.Session.Advance
import Dialogue.Surface.Canvas

/-!
# Sessions that nobody listens to

As long as nobody waits for any signal, a notice that is published leaves nothing but a number that was
given out.  What a session on a canvas does can then be told in full: what becomes of the surface, of the
playhead, of the settings.

## Results

* `Playing.publish_unheard` — a notice leaves nothing but its number.
* `Playing.clear_unheard`, `Playing.say_unheard` — what clearing a canvas and saying a statement do.
* `Playing.advance_unheard`, `Playing.advance_over`, `Playing.startLabel_unheard` — what going on does,
  and what starting a label does.
-/

set_option autoImplicit false

namespace Dialogue

/-- A bus on which nobody waits for anything, after so many numbers were given out. -/
def Bus.unheard {η α : Type} (issued : Nat) : Bus η α :=
  { issued }

namespace Host

/-- A host on a bus that nobody listens to. -/
def told {K : Surface} (issued : Nat) (h : Host K) : Host K :=
  h.onSession fun s => { s with bus := .unheard issued }

/-- A host whose canvas was cleared, before anyone is told. -/
def emptied (h : Host .canvas) : Host .canvas :=
  { h with
    session := { h.session with surface := h.session.surface.clear }
    journal := h.journal ++ [.cleared (h.session.surface.clear.boxes.map Canvas.Placed.rect)] }

/-- A host that put a box on its canvas, before anyone is told. -/
def boxing (box : Canvas.Placed) (h : Host .canvas) : Host .canvas :=
  { h with
    session := { h.session with
      surface := { h.session.surface with boxes := h.session.surface.boxes ++ [box] }
      handle? := some box.rect }
    journal := h.journal ++ [.rendered box.rect box.intent box.options] }

end Host

namespace Playing

section

variable {K : Surface} {p : Playing K} {rounds issued : Nat} {h : Host K}

/-- **A notice that nobody waits for leaves nothing but its number.** -/
theorem publish_unheard (hrounds : p.rounds = rounds + 1) (hbus : h.session.bus = .unheard issued)
    (notice : Notice K.Handle) : p.publish notice h = (.ok (), h.told (issued + 1)) := by
  obtain ⟨⟨surface, settings, cast, commands, playhead, bus, handle?, draws⟩, handlers, journal, disk,
    library⟩ := h
  obtain rfl : bus = .unheard issued := hbus
  unfold publish
  rw [hrounds]
  cases rounds <;> rfl

end

section

variable {p : Playing .canvas} {rounds issued : Nat} {h k : Host .canvas}
  (hrounds : p.rounds = rounds + 1) (hbus : h.session.bus = .unheard issued)

include hrounds hbus

theorem clear_unheard : p.clear h = (.ok (), h.emptied.told (issued + 1)) :=
  publish_unheard (h := h.emptied) hrounds hbus .cleared

/-- A line is put into a box that has options and a place. -/
theorem display_unheard {line : Line} {options : Value} {rect : Rect}
    (displayable : line.displayable = true)
    (boxed : h.session.optionsOf (Value.optionalText line.who) (Value.optionalText line.sideImage)
      .null = .ok options)
    (placed : h.session.surface.place options = .ok rect) :
    p.display line h = (.ok (),
      (h.boxing { rect, intent := line.intent, options }).told (issued + 1)) := by
  have hbox : boxOptions (K := .canvas) (Value.optionalText line.who)
      (Value.optionalText line.sideImage) .null h = (.ok options, h) := by
    rw [← boxed]
    rfl
  have hdrawn : h.session.surface.render line.intent options =
      (.ok rect, { h.session.surface with
        boxes := h.session.surface.boxes ++ [{ rect, intent := line.intent, options }] }) := by
    unfold Canvas.render
    rw [placed]
  have hpart : Act.onPart (K := .canvas) Session.surface (fun surface s => { s with surface })
      (Canvas.render line.intent options) h = (.ok rect, h.onSession fun s => { s with
        surface := (h.session.surface.render line.intent options).2 }) := by
    rw [Act.onPart_apply, hdrawn]
  have hrender : render (K := .canvas) line.intent options h =
      (.ok rect, h.boxing { rect, intent := line.intent, options }) := by
    unfold render
    rw [Step.bind_eq_of_ok hpart, hdrawn]
    rfl
  unfold display
  rw [if_pos displayable, Step.bind_eq_of_ok hbox, Step.bind_eq_of_ok hrender]
  exact publish_unheard (h := h.boxing _) hrounds hbus _

/-- To go on past the last statement is to clear the canvas. -/
theorem advance_over (ended : h.session.playhead.standing = .exhausted) :
    p.advance h = (.ok false, h.emptied.told (issued + 2)) := by
  have hexhausted : p.publish (.exhausted (h.emptied.told (issued + 1)).session.playhead.label?)
      (h.emptied.told (issued + 1)) = (.ok (), h.emptied.told (issued + 2)) :=
    publish_unheard hrounds rfl _
  unfold advance
  rw [Step.bind_eq_of_ok (Step.get_apply h), ended]
  show (p.clear >>= fun _ => _) h = _
  rw [Step.bind_eq_of_ok (clear_unheard hrounds hbus), Step.bind_eq_of_ok (Step.get_apply _),
    Step.bind_eq_of_ok hexhausted]
  rfl

/-- To go on is to clear the canvas, to take the statement that is due, and to say it. -/
theorem advance_unheard {statement : Value} {playhead : Playhead} {line : Line}
    (active : h.session.playhead.standing = .active)
    (taken : h.session.playhead.take = (.ok statement, playhead))
    (said : p.say statement ((h.emptied.told (issued + 1)).onSession fun s => { s with playhead }) =
      (.ok line, k)) :
    p.advance h = (.ok true, k) := by
  have htake : Act.onPart (K := .canvas) Session.playhead (fun playhead s => { s with playhead })
      Playhead.take (h.emptied.told (issued + 1)) =
        (.ok statement, (h.emptied.told (issued + 1)).onSession fun s => { s with playhead }) := by
    have hsame : (h.emptied.told (issued + 1)).session.playhead = h.session.playhead := rfl
    rw [Act.onPart_apply, hsame, taken]
  rw [advance_of_active active, Step.bind_eq_of_ok (clear_unheard hrounds hbus),
    Step.bind_eq_of_ok htake, Step.bind_eq_of_ok said]
  rfl

/-- To start a label that is there and to go on is to go on from its start. -/
theorem startLabel_unheard {label : Value} {playhead : Playhead} {went : Bool}
    (started : h.session.playhead.start label = (.ok true, playhead))
    (advanced : p.advance ((h.onSession fun s => { s with playhead }).told (issued + 1)) =
      (.ok went, k)) :
    p.startLabel label true h = (.ok (), k) := by
  have hstart : Act.onPart (K := .canvas) Session.playhead (fun playhead s => { s with playhead })
      (Playhead.start label) h = (.ok true, h.onSession fun s => { s with playhead }) := by
    rw [Act.onPart_apply, started]
  have htold : p.publish (.started label true) (h.onSession fun s => { s with playhead }) =
      (.ok (), (h.onSession fun s => { s with playhead }).told (issued + 1)) :=
    publish_unheard (h := h.onSession fun s => { s with playhead }) hrounds hbus _
  unfold startLabel
  rw [Step.bind_eq_of_ok hstart]
  show (p.publish (.started label true) >>= fun _ => p.advanceIf true) _ = _
  rw [Step.bind_eq_of_ok htold]
  show (p.advance >>= fun _ => pure ()) _ = _
  rw [Step.bind_eq_of_ok advanced]
  rfl

omit hbus in
/-- A statement is said by running its commands and putting its line into a box. -/
theorem say_unheard {statement : Value} {line : Line} {options : Value} {rect : Rect}
    (parsed : h.session.parse statement = (.ok line, h.session))
    (executed : p.execute line h = (.ok (), k)) (heard : k.session.bus = .unheard issued)
    (displayable : line.displayable = true)
    (boxed : k.session.optionsOf (Value.optionalText line.who) (Value.optionalText line.sideImage)
      .null = .ok options)
    (placed : k.session.surface.place options = .ok rect) :
    p.say statement h = (.ok line,
      (k.boxing { rect, intent := line.intent, options }).told (issued + 1)) := by
  have hparse : parse (K := .canvas) statement h = (.ok line, h) := by
    unfold parse
    rw [Act.onPart_apply, id_eq, parsed]
    rfl
  unfold say
  rw [Step.bind_eq_of_ok hparse, Step.bind_eq_of_ok executed,
    Step.bind_eq_of_ok (display_unheard hrounds heard displayable boxed placed)]
  rfl

end

end Playing

end Dialogue
