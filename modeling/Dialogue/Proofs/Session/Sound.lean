import Dialogue.Proofs.Options.Precedence
import Dialogue.Proofs.Session.Advance
import Dialogue.Proofs.Session.Aloof
import Dialogue.Proofs.Session.Lists

/-!
# Sound hosts

A host is sound when nothing is under way on its bus, its handlers are aloof, the narrator belongs to
its cast, and every box on its board can be asked for its options.  A new host is sound, and stays so
whatever it performs, as long as its handlers are aloof and its option trees are mappings.

## Results

* `Host.keepsSound_parts` — the parts of going on keep a host sound.
* `Host.performAll_sound` — a sound host that performs decent requests stays sound.
-/

set_option autoImplicit false

namespace Dialogue

/-! ## Options of boxes -/

/-- The options of the box of a line are a mapping. -/
theorem Session.optionsOf_kind {K : Surface} {s : Session K} {who sideImage options : Value}
    (h : s.optionsOf who sideImage .null = .ok options) : options.kind = .tree := by
  unfold optionsOf at h
  cases hc : s.cast.character who with
  | error f =>
    rw [hc] at h
    cases h
  | ok speaker =>
    rw [hc] at h
    cases h
    exact Settings.resolve_kind (fun htruthy => by cases htruthy) (fun _ hnone => by cases hnone)

/-! ## Boards -/

theorem Box.hasOptions_of_kind {box : Box} (mapping : box.options.kind = .tree) :
    box.hasOptions = true := by
  unfold hasOptions
  cases hoptions : box.options with
  | tree form entries => rfl
  | _ =>
    rw [hoptions] at mapping
    cases mapping

namespace Board

/-- The box that something with these options is put into next. -/
def next (b : Board) (intent : Intent) (options : Value) : Box where
  handle := b.history.length + 1
  intent := intent
  options := options

/-- The board with one more box on it. -/
def add (b : Board) (box : Box) : Board :=
  { b with visible := b.visible ++ [box], history := b.history ++ [box] }

/-- The board after it was cleared once more. -/
def wiped (b : Board) : Board :=
  { b with visible := b.visible.filter Box.persistent, clears := b.clears + 1 }

theorem render_of_kind {options : Value} (mapping : options.kind = .tree) (intent : Intent)
    (b : Board) : b.render intent options =
      (.ok (b.next intent options).handle, b.add (b.next intent options)) := by
  have hoptions : (b.next intent options).hasOptions = true := Box.hasOptions_of_kind mapping
  unfold render
  exact if_pos hoptions

theorem hasOptions_add {b : Board} (boxes : ∀ box ∈ b.visible, box.hasOptions = true)
    {options : Value} (mapping : options.kind = .tree) (intent : Intent) :
    ∀ box ∈ (b.add (b.next intent options)).visible, box.hasOptions = true := by
  intro box hm
  rcases List.mem_append.mp hm with hm | hm
  · exact boxes box hm
  · rw [List.mem_singleton.mp hm]
    exact Box.hasOptions_of_kind mapping

theorem clear_of_hasOptions {b : Board} (boxes : ∀ box ∈ b.visible, box.hasOptions = true) :
    b.clear = (.ok (), b.wiped) := by
  have hnone : b.visible.find? (fun box => !box.hasOptions) = none := by
    rw [List.find?_eq_none]
    intro box hm
    rw [boxes box hm]
    exact Bool.false_ne_true
  unfold clear
  rw [hnone]
  rfl

end Board

/-! ## What keeps a host sound -/

namespace Host

variable {h k : Host .board}

/-- Nothing is under way, all handlers are aloof, lines without a speaker have someone to belong to,
and the boxes on the board can be asked for their options. -/
structure Sound (h : Host .board) : Prop where
  rests : h.session.bus.AtRest
  aloof : h.Aloof
  narrator : h.session.cast.Knows narratorKey
  boxes : ∀ box ∈ h.session.surface.visible, box.hasOptions = true

theorem Sound.of_aside (sound : h.Sound) (aside : Aside h k) (rests : k.session.bus.AtRest)
    (aloof : k.Aloof) : k.Sound where
  rests := rests
  aloof := aloof
  narrator := by
    rw [aside]
    exact sound.narrator
  boxes := by
    rw [aside]
    exact sound.boxes

/-- What aloof handlers do keeps a host sound. -/
theorem Sound.of_stays (sound : h.Sound) (stays : Stays h k) : k.Sound := by
  obtain ⟨does, aside, aloof⟩ := stays sound.aloof
  obtain ⟨more, hqueue, hmore⟩ := does.queue
  have hnil : more = [] := List.map_eq_nil_iff.mp hmore
  refine sound.of_aside aside ⟨does.running.trans sound.rests.idle, ?_⟩ aloof
  rw [hqueue, sound.rests.nothing, hnil]
  rfl

/-- The second host is sound if the first is. -/
def KeepsSound (h k : Host .board) : Prop :=
  h.Sound → k.Sound

theorem keepsSound_inside : Inside KeepsSound where
  frame := ⟨fun _ sound => sound, fun hk kl sound => kl (hk sound)⟩
  journal _ _ _ sound := ⟨sound.rests, sound.aloof, sound.narrator, sound.boxes⟩
  disk _ _ sound := ⟨sound.rests, sound.aloof, sound.narrator, sound.boxes⟩
  library _ _ sound := ⟨sound.rests, sound.aloof, sound.narrator, sound.boxes⟩
  settings _ _ sound := ⟨sound.rests, sound.aloof, sound.narrator, sound.boxes⟩
  cast entries h sound :=
    ⟨sound.rests, sound.aloof, Cast.knows_register entries h.session.cast sound.narrator,
      sound.boxes⟩
  commands _ _ _ _ _ sound := ⟨sound.rests, sound.aloof, sound.narrator, sound.boxes⟩
  playhead _ _ sound := ⟨sound.rests, sound.aloof, sound.narrator, sound.boxes⟩
  shown _ _ sound := ⟨sound.rests, sound.aloof, sound.narrator, sound.boxes⟩
  drawn _ _ sound := ⟨sound.rests, sound.aloof, sound.narrator, sound.boxes⟩

/-- A box with a mapping for options may be put on the board. -/
theorem Sound.render (sound : h.Sound) {options : Value} (intent : Intent)
    (mapping : options.kind = .tree) :
    (h.onSession fun s => { s with surface := (Board.render intent options s.surface).2 }).Sound := by
  refine ⟨sound.rests, sound.aloof, sound.narrator, ?_⟩
  show ∀ box ∈ (Board.render intent options h.session.surface).2.visible, box.hasOptions = true
  rw [Board.render_of_kind mapping]
  exact Board.hasOptions_add sound.boxes mapping intent

/-- **The parts of going on keep a host sound.** -/
theorem keepsSound_parts {p : Playing .board} (calm : p.Calm) : Parts p KeepsSound where
  toInside := keepsSound_inside
  wiped h sound := by
    refine ⟨sound.rests, sound.aloof, sound.narrator, fun box hm => ?_⟩
    have hm : box ∈ (Board.clear h.session.surface).2.visible := hm
    rw [Board.clear_of_hasOptions sound.boxes] at hm
    exact sound.boxes box (List.mem_of_mem_filter hm)
  boxed _ _ _ intent h box sound := sound.render intent (Session.optionsOf_kind box)
  told notice h sound := by
    obtain ⟨k, told⟩ := Playing.publish_told calm notice sound.rests sound.aloof
    rw [told.publishes]
    exact sound.of_aside told.aside told.rests told.aloof
  handled id name h sound := sound.of_stays (calm.react id (.command name) h)
  skipped _ _ sound := ⟨sound.rests, sound.aloof, sound.narrator, sound.boxes⟩

end Host

/-! ## Decent requests -/

/-- Does this request add aloof handlers only, and options that are a mapping or nothing? -/
def Request.decent : Request .board → Bool
  | .registerCommand _ calls => aloofLists calls
  | .subscribe _ _ calls _ _ => aloofLists calls
  | .showText _ _ options => !options.truthy || options.kind == .tree
  | .attempt r => r.decent
  | _ => true

namespace Host

/-- Both option trees of the settings are mappings. -/
def Treelike (h : Host .board) : Prop :=
  h.session.settings.pop.kind = .tree ∧ h.session.settings.vn.kind = .tree

/-- The options of a text's box are a mapping if its own options are one, or nothing. -/
theorem Treelike.resolve_kind {h : Host .board} (trees : h.Treelike) (kind : DialogKind)
    {options : Value} (given : options.truthy = true → options.kind = .tree) :
    (h.session.settings.resolve kind none .null options).kind = .tree := by
  refine Settings.resolve_kind given fun _ _ => ?_
  cases kind with
  | pop => exact trees.1
  | vn => exact trees.2

/-- This holds of a host before each of the requests that it performs, and in the end. -/
def Throughout {K : Surface} (P : Host K → Prop) : List (Request K) → Host K → Prop
  | [], h => P h
  | r :: rest, h => P h ∧ Throughout P rest (perform r h).2

end Host

namespace Playing

open Host

variable {p : Playing .board} {h : Host .board}

theorem showText_sound (kind : DialogKind) (text : Value) {options : Value} (trees : h.Treelike)
    (decent : options.truthy = true → options.kind = .tree) (sound : h.Sound) :
    (showText kind text options h).2.Sound := by
  unfold showText
  split
  · have hkind := trees.resolve_kind kind decent
    have frame := keepsSound_inside.frame
    refine frame.bind_apply (frame.refl h) (fun t k hget => ?_) sound
    cases hget
    refine frame.bind_apply (keepsSound_inside.render fun sound => ?_) fun _ t _ => frame.refl t
    exact sound.render (.ofText text) hkind
  · exact sound

/-- **A sound host stays sound when it carries out a decent request.** -/
theorem carryOut_sound (calm : p.Calm) {r : Request .board} (decent : r.decent = true)
    (trees : h.Treelike) (sound : h.Sound) : (p.carryOut r h).2.Sound := by
  have parts := keepsSound_parts calm
  induction r with
  | registerCommand name calls =>
    refine parts.bind (parts.registerCommand name _ ?_) (fun _ => parts.pure _) h sound
    intro handler hm k ksound
    cases hm
    have haloof : (Handler.held none calls).aloof = true := decent
    exact ksound.of_stays (stays_addHandler haloof k)
  | showText kind text options =>
    have hmapping : options.truthy = true → options.kind = .tree := by
      intro htruthy
      simpa [Request.decent, htruthy] using decent
    have frame := parts.frame
    refine frame.bind_apply (fun sound => ?_) (fun _ t _ => frame.refl t) sound
    exact showText_sound kind text trees hmapping sound
  | subscribe signal title calls priority oneShot =>
    refine sound.of_stays (carryOut_stays p ?_ h)
    unfold Request.aloof
    exact decent
  | unsubscribe | consume | ask =>
    refine sound.of_stays (carryOut_stays p ?_ h)
    unfold Request.aloof
    rfl
  | attempt r ih =>
    rw [carryOut_attempt_snd]
    exact ih decent
  | _ => exact parts.carryOut rfl h sound

end Playing

namespace Host

variable {h : Host .board}

theorem perform_sound {r : Request .board} (decent : r.decent = true) (trees : h.Treelike)
    (sound : h.Sound) : (perform r h).2.Sound :=
  Playing.carryOut_sound (Playing.within_calm (Nat.succ_pos _)) decent trees sound

/-- **A sound host that performs decent requests stays sound.** -/
theorem performAll_sound {requests : List (Request .board)}
    (decent : ∀ r ∈ requests, r.decent = true) (trees : Throughout Treelike requests h)
    (sound : h.Sound) : (performAll requests h).Sound := by
  induction requests generalizing h with
  | nil => exact sound
  | cons r rest ih =>
    obtain ⟨htrees, hrest⟩ := trees
    have hfirst := perform_sound (decent r List.mem_cons_self) htrees sound
    exact ih (fun r hm => decent r (List.mem_cons_of_mem _ hm)) hrest hfirst

/-! ## New hosts -/

/-- A host with a new board, a new cast and a bus at rest is sound if its handlers are aloof. -/
theorem sound_new (board : h.session.surface = {}) (cast : h.session.cast = {})
    (rests : h.session.bus.AtRest) (aloof : h.Aloof) : h.Sound where
  rests := rests
  aloof := aloof
  narrator := by
    rw [cast]
    rfl
  boxes := by
    rw [board]
    intro box hm
    cases hm

/-- So is a host that sees every event of its session. -/
theorem sound_observing {session : Session .board} (board : session.surface = {})
    (cast : session.cast = {}) (rests : session.bus.AtRest) : (observing session).Sound := by
  refine sound_new board cast ⟨rests.idle, rests.nothing⟩ fun handler hm => ?_
  rw [List.mem_singleton.mp hm]
  rfl

end Host

end Dialogue
