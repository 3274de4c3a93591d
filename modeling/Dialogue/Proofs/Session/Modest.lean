import Dialogue.Proofs.Options.Announced
import Dialogue.Proofs.Session.Discreet
import Dialogue.Proofs.Session.Lists

/-!
# Modest hosts

A host is modest when none of its handlers says a statement or goes on, and only those under the names
of the built-in commands configure whether more is announced to come.  The same goes for the handlers
that its handlers register or subscribe in turn.  Its handlers are discreet then, at any depth of calls.

## Results

* `Host.Modest.registered`, `Host.Modest.subscribed` — a host stays modest when it gets one more modest
  handler.
* `Playing.carryOut_steady` — a modest request leaves a host modest, and what is announced as it was.
* `Playing.reactWithin_steady` — so does a handler that is called, at any depth of calls.
* `Playing.discreet_of_modest` — the handlers of a modest host are discreet.
* `Host.modest_observing`, `Host.performAll_modest` — a new host is modest, and stays so whatever it
  performs.
-/

set_option autoImplicit false

namespace Dialogue

variable {K : Surface}

/-! ## Modest requests -/

/-- Is this the name of a built-in command? -/
def Commands.isAnnouncing (name : Value) : Bool :=
  (name.text?.bind prompting.announces?).isSome

mutual

/-- Does a request say no statement, and does it not configure what is announced, unless it is free to?
Of the handlers that it brings only those of the built-in commands are free. -/
def Request.modest (free : Bool) : Request K → Bool
  | .configure options => free || options.all fun e => e.1 != .text Settings.promptName
  | .registerCommand name calls => modestCalls (Commands.isAnnouncing name) calls
  | .subscribe _ _ calls _ _ => modestCalls false calls
  | .loadSequence _ advance => !advance
  | .takeScript _ advance => !advance
  | .startLabel _ advance => !advance
  | .install advance => !advance
  | .advance => false
  | .say _ => false
  | .attempt r => r.modest free
  | _ => true

/-- Are all requests of all these lists modest? -/
def modestCalls (free : Bool) : List (List (Request K)) → Bool
  | [] => true
  | call :: rest => modestCall free call && modestCalls free rest

/-- Are all these requests modest? -/
def modestCall (free : Bool) : List (Request K) → Bool
  | [] => true
  | r :: rest => r.modest free && modestCall free rest

end

/-- Are all requests modest that a handler holds? -/
def Handler.modest (free : Bool) : Handler K → Bool
  | .held _ calls => modestCalls free calls
  | .observer | .remark _ => true

namespace Host

/-- Does the host have a modest handler of this number? -/
def HasModest (h : Host K) (id : HandlerId) (free : Bool) : Prop :=
  ∃ handler, h.handlers[id]? = some handler ∧ handler.modest free = true

/-- Whoever waits for a signal is modest, and so are the handlers of commands, of which those of the
built-in commands are free to announce. -/
structure Modest (h : Host K) : Prop where
  equipped : h.session.commands.Equipped
  waiting : ∀ id, h.session.bus.Waits id → h.HasModest id false
  commanded : ∀ name id, h.session.commands.Calls name id →
    h.HasModest id (Commands.prompting.announces? name).isSome

variable {h k : Host K}

/-! ## What keeps a host modest -/

theorem Modest.of_fewer (modest : h.Modest) (commands : k.session.commands = h.session.commands)
    (bus : Bus.Fewer k.session.bus h.session.bus) (handlers : k.handlers = h.handlers) :
    k.Modest where
  equipped := commands ▸ modest.equipped
  waiting id waits := by
    unfold HasModest
    rw [handlers]
    exact modest.waiting id (bus id waits)
  commanded name id calls := by
    unfold HasModest
    rw [handlers]
    exact modest.commanded name id (commands ▸ calls)

theorem steady_of_fewer {free : Bool} (commands : k.session.commands = h.session.commands)
    (bus : Bus.Fewer k.session.bus h.session.bus) (handlers : k.handlers = h.handlers)
    (prompt : free = false → k.prompt = h.prompt) : Steady Modest free h k :=
  fun modest => ⟨modest.of_fewer commands bus handlers, prompt⟩

/-- A change that touches neither commands, bus nor handlers is steady if it announces nothing. -/
theorem steady_of_same {free : Bool} (commands : k.session.commands = h.session.commands)
    (bus : k.session.bus = h.session.bus) (handlers : k.handlers = h.handlers)
    (prompt : free = false → k.prompt = h.prompt) : Steady Modest free h k :=
  steady_of_fewer commands (bus ▸ Bus.Fewer.refl _) handlers prompt

theorem steady_onSession {free : Bool} {f : Session K → Session K}
    (commands : (f h.session).commands = h.session.commands)
    (bus : (f h.session).bus = h.session.bus)
    (settings : (f h.session).settings = h.session.settings) : Steady Modest free h (h.onSession f) :=
  steady_of_same commands bus rfl fun _ => congrArg Settings.prompt settings

theorem steady_apart (free : Bool) : Apart (Steady (K := K) Modest free) where
  frame := steady_frame Modest free
  reported _ _ _ := steady_of_same rfl rfl rfl fun _ => rfl
  disk _ _ := steady_of_same rfl rfl rfl fun _ => rfl
  library _ _ := steady_of_same rfl rfl rfl fun _ => rfl

theorem HasModest.addHandler {id : HandlerId} {free : Bool} (has : h.HasModest id free)
    (new : Handler K) : (h.addHandler new).HasModest id free := by
  obtain ⟨handler, hid, hmodest⟩ := has
  refine ⟨handler, ?_, hmodest⟩
  have hlt := (List.getElem?_eq_some_iff.mp hid).1
  exact (List.getElem?_append_left hlt).trans hid

theorem hasModest_new {handler : Handler K} {free : Bool} (modest : handler.modest free = true) :
    (h.addHandler handler).HasModest h.handlers.length free :=
  ⟨handler, List.getElem?_concat_length, modest⟩

theorem Modest.addHandler (modest : h.Modest) (handler : Handler K) :
    (h.addHandler handler).Modest where
  equipped := modest.equipped
  waiting id waits := (modest.waiting id waits).addHandler handler
  commanded name id calls := (modest.commanded name id calls).addHandler handler

theorem register_eq_ok {η β : Type} {c d : Commands η β} {name : Value} {handler : Option η}
    (registered : c.register name handler = .ok d) :
    d = { c with handlers := Keyed.put c.handlers name handler } := by
  unfold Commands.register at registered
  split at registered
  · cases registered
  · exact (Except.ok.inj registered).symm

/-- Registering a command takes no built-in command away. -/
theorem equipped_register {c d : Commands HandlerId Bool} (equipped : c.Equipped) {name : Value}
    {handler : Option HandlerId} (registered : c.register name handler = .ok d) : d.Equipped := by
  rw [register_eq_ok registered]
  exact ⟨equipped.builtins, fun word hword =>
    Keyed.has_put (equipped.known word hword) name handler⟩

/-- The handler of a command is the one that was registered last under its name. -/
theorem calls_register {c d : Commands HandlerId Bool} {name : Value} {handler : Option HandlerId}
    (registered : c.register name handler = .ok d) {word : String} {id : HandlerId}
    (calls : d.Calls word id) : c.Calls word id ∨ name = .text word ∧ handler = some id := by
  unfold Commands.Calls at calls
  rw [register_eq_ok registered] at calls
  by_cases hname : (Value.text word).asKey = name.asKey
  · rw [Keyed.get?_congr _ hname, Keyed.get?_put_self] at calls
    exact .inr ⟨(Value.asKey_eq_text_iff name word).mp hname.symm, Option.some.inj calls⟩
  · rw [Keyed.get?_put_of_ne _ _ hname] at calls
    exact .inl calls

/-- **A host stays modest when it gets a command with a modest handler.** -/
theorem Modest.registered (modest : h.Modest) {name : Value} {handler : Handler K}
    (modest' : handler.modest (Commands.isAnnouncing name) = true)
    {commands : Commands HandlerId Bool}
    (registered : h.session.commands.register name (some h.handlers.length) = .ok commands) :
    ((h.onSession fun s => { s with commands }).addHandler handler).Modest where
  equipped := equipped_register modest.equipped registered
  waiting id waits := (modest.waiting id waits).addHandler handler
  commanded word id calls := by
    rcases calls_register registered calls with before | ⟨rfl, hid⟩
    · exact (modest.commanded word id before).addHandler handler
    · obtain rfl := Option.some.inj hid
      exact hasModest_new modest'

/-- A host stays modest when it gets a command without a handler. -/
theorem Modest.named (modest : h.Modest) {name : Value} {commands : Commands HandlerId Bool}
    (registered : h.session.commands.register name none = .ok commands) :
    (h.onSession fun s => { s with commands }).Modest where
  equipped := equipped_register modest.equipped registered
  waiting := modest.waiting
  commanded word id calls := by
    rcases calls_register registered calls with before | ⟨-, hnone⟩
    · exact modest.commanded word id before
    · cases hnone

/-- **A host stays modest when a modest handler subscribes.** -/
theorem Modest.subscribed (modest : h.Modest) {handler : Handler K}
    (modest' : handler.modest false = true) {signal : Signal} {priority : Value} {oneShot : Bool}
    {bus : Bus HandlerId (Notice K.Handle)}
    (subscribed : h.session.bus.subscribe signal h.handlers.length priority oneShot false = .ok bus) :
    ((h.addHandler handler).onSession fun s => { s with bus }).Modest where
  equipped := modest.equipped
  waiting id waits := by
    have hdeed : (Bus.Deed.subscribe signal h.handlers.length priority oneShot false).result
        h.session.bus = .ok bus := subscribed
    rcases Bus.Deed.waits hdeed waits with before | ⟨_, _, _, _, hd⟩
    · exact (modest.waiting id before).addHandler handler
    · cases hd
      exact hasModest_new modest'
  commanded name id calls := (modest.commanded name id calls).addHandler handler

/-- Whatever a handler is free to do, less is left of it when it gives a list up. -/
theorem HasModest.shortened {id : HandlerId} {title? : Option Value} {next : List (Request K)}
    {rest : List (List (Request K))} (held : h.handlers[id]? = some (.held title? (next :: rest)))
    {other : HandlerId} {free : Bool} (has : h.HasModest other free) :
    ({ h with handlers := h.handlers.set id (.held title? rest) } : Host K).HasModest other free := by
  obtain ⟨found, hfound, hmodest⟩ := has
  by_cases hsame : id = other
  · subst hsame
    obtain rfl := Option.some.inj (hfound.symm.trans held)
    have hlt := (List.getElem?_eq_some_iff.mp held).1
    have hboth : modestCall free next = true ∧ modestCalls free rest = true := by
      simpa [Handler.modest, modestCalls] using hmodest
    exact ⟨.held title? rest, List.getElem?_set_self hlt, hboth.2⟩
  · exact ⟨found, (List.getElem?_set_ne hsame).trans hfound, hmodest⟩

/-- A handler that gives a list up stays modest, and the list is. -/
theorem Modest.takeCall (modest : h.Modest) {id : HandlerId} {free : Bool}
    (has : h.HasModest id free) :
    modestCall free (h.takeCall id).1 = true ∧ (h.takeCall id).2.Modest := by
  obtain ⟨handler, hid, hmodest⟩ := has
  rcases takeCall_cases id h with hnone | ⟨title?, next, rest, hheld, hsome⟩
  · rw [hnone]
    exact ⟨by unfold modestCall; rfl, modest⟩
  · obtain rfl := Option.some.inj (hid.symm.trans hheld)
    have hsplit : modestCall free next = true ∧ modestCalls free rest = true := by
      simpa [Handler.modest, modestCalls] using hmodest
    rw [hsome]
    exact ⟨hsplit.1, modest.equipped, fun other waits => (modest.waiting other waits).shortened hheld,
      fun name other calls => (modest.commanded name other calls).shortened hheld⟩

end Host

/-! ## Carrying out -/

theorem Settings.prompt_update {options : Keyed Value}
    (other : ∀ e ∈ options, e.1 ≠ .text Settings.promptName) (s : Settings) :
    (update options s).2.prompt = s.prompt := by
  induction options generalizing s with
  | nil => rfl
  | cons e rest ih =>
    obtain ⟨name, v⟩ := e
    have hname : name ≠ .text "show_next_prompt" := other (name, v) List.mem_cons_self
    have hrest := fun s => ih (fun e hm => other e (List.mem_cons_of_mem _ hm)) s
    unfold update set
    rw [if_neg hname]
    by_cases hpop : name = .text "pop"
    · rw [if_pos hpop]
      exact hrest _
    · rw [if_neg hpop]
      by_cases hvn : name = .text "vn"
      · rw [if_pos hvn]
        exact hrest _
      · rw [if_neg hvn]

namespace Playing

open Host

variable {p : Playing K} {free : Bool}

/-- Telling a notice is steady if those who wait are. -/
theorem publish_steady
    (told : ∀ id notice h, h.HasModest id false →
      Steady Modest false h (p.react id (.event notice) h).2) (notice : Notice K.Handle) :
    Step.Keeps (Steady Modest false) (p.publish notice) := by
  refine publish_of_waiting (steady_frame Modest false)
    (fun _ _ => steady_of_same rfl rfl rfl fun _ => rfl)
    (fun _ _ fewer => steady_of_fewer rfl fewer rfl fun _ => rfl) ?_ notice
  intro id notice b h waits fewer modest
  have hbus : (Host.site.withBus b h).Modest := modest.of_fewer rfl fewer rfl
  exact told id notice (Host.site.withBus b h) (modest.waiting id waits) hbus

section

variable (publishes : ∀ notice, Step.Keeps (Steady Modest false) (p.publish notice))

include publishes

theorem told_steady (notice : Notice K.Handle) :
    Step.Keeps (Steady Modest free) (p.publish notice) :=
  fun h => (publishes notice h).weaken free

theorem clear_steady : Step.Keeps (Steady Modest free) p.clear := by
  refine (steady_apart free).bind (Act.onPart_keeps fun h => steady_onSession rfl rfl rfl)
    fun _ => ?_
  refine (steady_apart free).bind (Step.keeps_modify fun h => ?_) fun _ => ?_
  · exact steady_of_same rfl rfl rfl fun _ => rfl
  exact told_steady publishes .cleared

theorem loadSequence_steady (statements : Value) :
    Step.Keeps (Steady Modest free) (p.loadSequence statements false) := by
  refine (steady_apart free).bind (Act.onPart_keeps fun h => steady_onSession rfl rfl rfl)
    fun _ => ?_
  cases statements.length? with
  | none => exact (steady_apart free).throw _
  | some length =>
    refine (steady_apart free).bind (told_steady publishes _) fun _ => ?_
    exact (steady_apart free).pure ()

theorem startLabel_steady (label : Value) :
    Step.Keeps (Steady Modest free) (p.startLabel label false) := by
  refine (steady_apart free).bind (Act.onPart_keeps fun h => steady_onSession rfl rfl rfl)
    fun found => ?_
  have hquiet : Quiet (Playhead.reportsOfStart label found) := by
    cases found <;> simp [Quiet, Playhead.reportsOfStart, Report.skips]
  refine (steady_apart free).bind ((steady_apart free).reports hquiet) fun _ => ?_
  refine (steady_apart free).bind (told_steady publishes _) fun _ => ?_
  exact (steady_apart free).pure ()

theorem takeScript_steady (script : Value) :
    Step.Keeps (Steady Modest free) (p.takeScript script false) := by
  unfold takeScript
  split
  · exact Act.onPart_keeps fun h => steady_onSession rfl rfl rfl
  · exact loadSequence_steady publishes _
  · exact (steady_apart free).throw _

theorem install_steady (library : Library) :
    Step.Keeps (Steady Modest free) (p.install library false) := by
  refine (steady_apart free).bind (Act.onPart_keeps fun h => steady_onSession rfl rfl rfl)
    fun _ => ?_
  refine (steady_apart free).bind (Act.onPart_keeps fun h => steady_onSession rfl rfl rfl)
    fun _ => ?_
  split
  · exact loadSequence_steady publishes _
  · exact (steady_apart free).pure ()

omit publishes in
theorem registerCommand_steady (name : Value) {handler? : Option (Handler K)}
    (modest : ∀ handler ∈ handler?, handler.modest (Commands.isAnnouncing name) = true) :
    Step.Keeps (Steady Modest free) (registerCommand name handler?) := by
  intro h
  unfold registerCommand
  rw [Step.bind_eq_of_ok (Step.get_apply h)]
  cases hregister : h.session.commands.register name (handler?.map fun _ => h.handlers.length) with
  | error f => exact (steady_frame Modest free).refl h
  | ok commands =>
    cases handler? with
    | none => exact fun holding => ⟨holding.named hregister, fun _ => rfl⟩
    | some handler =>
      exact fun holding => ⟨holding.registered (modest handler rfl) hregister, fun _ => rfl⟩

omit publishes in
theorem render_steady (intent : Intent) (options : Value) :
    Step.Keeps (Steady Modest free) (render (K := K) intent options) := by
  refine (steady_apart free).bind (Act.onPart_keeps fun h => steady_onSession rfl rfl rfl)
    fun _ => ?_
  refine (steady_apart free).bind (Step.keeps_modify fun h => steady_onSession rfl rfl rfl)
    fun _ => ?_
  refine (steady_apart free).bind (Step.keeps_modify fun h => ?_) fun _ => (steady_apart free).pure _
  exact steady_of_same rfl rfl rfl fun _ => rfl

omit publishes in
theorem showText_steady (kind : DialogKind) (text options : Value) :
    Step.Keeps (Steady Modest free) (showText (K := K) kind text options) := by
  unfold showText
  split
  · refine (steady_apart free).bind (steady_apart free).get fun h => ?_
    exact (steady_apart free).bind (render_steady _ _) fun _ => (steady_apart free).pure _
  · exact (steady_apart free).pure _

omit publishes in
/-- Configuring anything else leaves what is announced as it was. -/
theorem configure_steady {options : Keyed Value}
    (modest : (Request.configure options : Request K).modest free = true) :
    Step.Keeps (Steady Modest free) (p.carryOut (.configure options)) := by
  refine (steady_apart free).bind
    (Act.onPart_keeps fun h => steady_of_same rfl rfl rfl fun hfree => ?_)
    fun _ => (steady_apart free).pure _
  rw [hfree] at modest
  have hother : (options.all fun e => e.1 != .text Settings.promptName) = true := by
    unfold Request.modest at modest
    rwa [Bool.false_or] at modest
  refine Settings.prompt_update (fun e hm => ?_) h.session.settings
  exact bne_iff_ne.mp (List.all_eq_true.mp hother e hm)

omit publishes in
theorem subscribe_steady (signal : Signal) (title : Value) {calls : List (List (Request K))}
    (modest : modestCalls false calls = true) (priority : Value) (oneShot : Bool) :
    Step.Keeps (Steady Modest free) (p.carryOut (.subscribe signal title calls priority oneShot)) := by
  have hcalls : (Handler.held (some title) calls).modest false = true := modest
  intro h
  rcases carryOut_subscribe p signal title calls priority oneShot h with
    hrefused | hadded | ⟨bus, hbus, hsubscribed⟩
  · rw [hrefused]
    exact (steady_frame Modest free).refl h
  · rw [hadded]
    exact fun holding => ⟨holding.addHandler _, fun _ => rfl⟩
  · rw [hsubscribed]
    exact fun holding => ⟨holding.subscribed hcalls hbus, fun _ => rfl⟩

omit publishes in
theorem unsubscribe_steady (signal : Signal) (title : Value) :
    Step.Keeps (Steady Modest free) (p.carryOut (.unsubscribe signal title)) := by
  intro h
  rcases carryOut_unsubscribe p signal title h with hrefused | ⟨id, -, hunsubscribed⟩
  · rw [hrefused]
    exact (steady_frame Modest free).refl h
  · rw [hunsubscribed]
    exact steady_of_fewer rfl (Bus.fewer_unsubscribe signal id _) rfl fun _ => rfl

omit publishes in
/-- What a surface is asked, and the marks that it leaves, are no matter of announcing. -/
theorem ask_steady (r : K.Request) : Step.Keeps (Steady Modest free) (p.carryOut (.ask r)) := by
  have apart : Apart (Steady (K := K) Modest free) := steady_apart free
  refine apart.bind apart.get fun h => ?_
  rcases K.answer r h.session.surface with ⟨⟨result, surface⟩, marks⟩
  refine apart.bind (Step.keeps_modify fun h => steady_onSession rfl rfl rfl) fun _ => ?_
  refine apart.bind (Step.keeps_modify fun h => ?_) fun _ => ?_
  · exact steady_of_same rfl rfl rfl fun _ => rfl
  exact apart.bind (apart.of result) fun _ => apart.pure _

/-- **A modest request leaves a host modest, and what is announced as it was, unless it is free.** -/
theorem carryOut_steady {r : Request K} (modest : r.modest free = true) :
    Step.Keeps (Steady Modest free) (p.carryOut r) := by
  have apart : Apart (Steady (K := K) Modest free) := steady_apart free
  induction r with
  | attempt r ih =>
    have htried : r.modest free = true := by
      rwa [Request.modest] at modest
    exact (ih htried).attempt .failed
  | configure options => exact configure_steady modest
  | registerCharacters entries =>
    exact apart.bind (Act.onPart_keeps fun h => steady_onSession rfl rfl rfl) fun _ => apart.pure _
  | nameCommand name =>
    exact apart.bind (registerCommand_steady name (by simp)) fun _ => apart.pure _
  | registerCommand name calls =>
    have hcalls : modestCalls (Commands.isAnnouncing name) calls = true := by
      simpa [Request.modest] using modest
    refine apart.bind (registerCommand_steady name fun handler hm => ?_) fun _ => apart.pure _
    obtain rfl := Option.some.inj hm
    exact hcalls
  | defineLabels labels =>
    exact apart.bind (Act.onPart_keeps fun h => steady_onSession rfl rfl rfl) fun _ => apart.pure _
  | loadSequence statements advance =>
    obtain rfl : advance = false := by simpa [Request.modest] using modest
    exact apart.bind (loadSequence_steady publishes statements) fun _ => apart.pure _
  | takeScript script advance =>
    obtain rfl : advance = false := by simpa [Request.modest] using modest
    exact apart.bind (takeScript_steady publishes script) fun _ => apart.pure _
  | startLabel label advance =>
    obtain rfl : advance = false := by simpa [Request.modest] using modest
    exact apart.bind (startLabel_steady publishes label) fun _ => apart.pure _
  | install advance =>
    obtain rfl : advance = false := by simpa [Request.modest] using modest
    refine apart.bind apart.get fun _ => ?_
    exact apart.bind (install_steady publishes _) fun _ => apart.pure _
  | advance => simp [Request.modest] at modest
  | say statement => simp [Request.modest] at modest
  | parse statement =>
    exact apart.bind (Act.onPart_keeps fun h => steady_onSession rfl rfl rfl) fun _ => apart.pure _
  | clear => exact apart.bind (clear_steady publishes) fun _ => apart.pure _
  | showText kind text options =>
    exact apart.bind (showText_steady kind text options) fun _ => apart.pure _
  | reset =>
    exact apart.bind (Step.keeps_modify fun h => steady_onSession rfl rfl rfl) fun _ => apart.pure _
  | subscribe signal title calls priority oneShot =>
    have hcalls : modestCalls false calls = true := by
      rwa [Request.modest] at modest
    exact subscribe_steady signal title hcalls priority oneShot
  | unsubscribe signal title => exact unsubscribe_steady signal title
  | consume =>
    refine apart.bind (Step.keeps_modify fun h => ?_) fun _ => apart.pure _
    exact steady_of_fewer rfl (Bus.fewer_consumeCurrent _) rfl fun _ => rfl
  | ask r => exact ask_steady r
  | _ => exact apart.carryOut p rfl

/-- So do any number of modest requests. -/
theorem carryOutAll_steady {requests : List (Request K)} (modest : modestCall free requests = true) :
    Step.Keeps (Steady Modest free) (p.carryOutAll requests) := by
  have apart : Apart (Steady (K := K) Modest free) := steady_apart free
  induction requests with
  | nil => exact apart.pure ()
  | cons r rest ih =>
    have hsplit : r.modest free = true ∧ modestCall free rest = true := by
      simpa [modestCall] using modest
    refine apart.bind (carryOut_steady publishes hsplit.1) fun reply => ?_
    split
    · refine apart.bind (Step.keeps_modify fun h => ?_) fun _ => ih hsplit.2
      exact steady_of_same rfl rfl rfl fun _ => rfl
    · exact ih hsplit.2

end

/-! ## Handlers that are called -/

/-- **A modest handler that is called leaves the host modest, and what is announced as it was, unless it
is free**, at any depth of calls. -/
theorem reactWithin_steady (n : Nat) {id : HandlerId} {occasion : Occasion K} {h : Host K}
    (has : h.HasModest id free) : Steady Modest free h (reactWithin n id occasion h).2 := by
  -- a handler with calls to spare tells those who wait with one call fewer
  induction n generalizing id occasion h free with
  | zero => exact (steady_frame Modest free).refl h
  | succ n ih =>
    rcases reactWithin_cases n id occasion h with
      hnothing | ⟨notice, -, -, hobserved⟩ | ⟨text, hremark⟩ | ⟨title?, hheld⟩
    · rw [hnothing]
      exact (steady_frame Modest free).refl h
    · rw [hobserved]
      exact steady_of_same rfl rfl rfl fun _ => rfl
    · rw [hremark]
      exact steady_of_same rfl rfl rfl fun _ => rfl
    · rw [hheld]
      intro modest
      have hnoted : (h.note (occurrenceOf title? occasion)).Modest :=
        modest.of_fewer rfl (Bus.Fewer.refl _) rfl
      have hhas : (h.note (occurrenceOf title? occasion)).HasModest id free := has
      obtain ⟨hlist, htaken⟩ := hnoted.takeCall hhas
      have hpublish := publish_steady (p := { react := reactWithin n, rounds := n + 1 })
        fun id notice h has => @ih false id (.event notice) h has
      have hcarried := carryOutAll_steady hpublish hlist _ htaken
      refine ⟨hcarried.1, fun hfree => (hcarried.2 hfree).trans ?_⟩
      exact congrArg (fun s : Session K => s.settings.prompt) (takeCall_session id (h.note _))

/-- **The handlers of a modest host are discreet.** -/
theorem discreet_of_modest (n : Nat) : (within n : Playing K).Discreet Modest where
  equipped _ modest := modest.equipped
  journal _ _ modest := modest.of_fewer rfl (Bus.Fewer.refl _) rfl
  drawn _ _ modest := modest.of_fewer rfl (Bus.Fewer.refl _) rfl
  prompted _ _ modest := modest.of_fewer rfl (Bus.Fewer.refl _) rfl
  bus _ _ fewer modest := modest.of_fewer rfl fewer rfl
  told id notice b h waits fewer modest := by
    have hbus : (Host.site.withBus b h).Modest := modest.of_fewer rfl fewer rfl
    exact reactWithin_steady n (h := Host.site.withBus b h) (modest.waiting id waits) hbus
  commanded name id h calls modest := reactWithin_steady n (modest.commanded name id calls) modest

/-! ## Statements that the host says -/

/-- Saying a statement leaves a host modest. -/
theorem say_steady (n : Nat) (statement : Value) :
    Step.Keeps (Steady Modest true) ((within n : Playing K).say statement) := by
  have apart : Apart (Steady (K := K) Modest true) := steady_apart true
  have discreet : (within n : Playing K).Discreet Modest := discreet_of_modest n
  refine apart.bind (Act.onPart_keeps fun h => steady_onSession rfl rfl rfl) fun line => ?_
  refine apart.bind (fun h modest => ⟨?_, nofun⟩) fun _ => ?_
  · cases hran : (within n : Playing K).execute line h with
    | mk result k =>
      cases result with
      | ok _ => exact (discreet.execute modest hran).1
      | error f =>
        obtain ⟨before, name, after, m, id, -, hrun, hid, hreact⟩ := execute_error hran
        have hkept := (discreet.commanded name id m hid (discreet.run modest hrun).1).1
        rw [hreact] at hkept
        exact hkept
  refine apart.bind ?_ fun _ => apart.pure line
  unfold display
  split
  · refine apart.bind (Act.onPart_keeps fun h => apart.frame.refl h) fun options => ?_
    refine apart.bind (render_steady _ _) fun handle => ?_
    exact told_steady discreet.publish _
  · exact apart.pure ()

/-- Going on leaves a host modest. -/
theorem advance_steady (n : Nat) :
    Step.Keeps (Steady Modest true) ((within n : Playing K).advance) := by
  have apart : Apart (Steady (K := K) Modest true) := steady_apart true
  have discreet : (within n : Playing K).Discreet Modest := discreet_of_modest n
  unfold advance
  refine apart.bind apart.get fun h => ?_
  split
  · exact apart.pure _
  · refine apart.bind (clear_steady discreet.publish) fun _ => ?_
    refine apart.bind apart.get fun k => ?_
    exact apart.bind (told_steady discreet.publish _) fun _ => apart.pure _
  · refine apart.bind (clear_steady discreet.publish) fun _ => ?_
    refine apart.bind (Act.onPart_keeps fun h => steady_onSession rfl rfl rfl) fun statement => ?_
    exact apart.bind (say_steady n statement) fun _ => apart.pure _

end Playing

/-! ## Hosts -/

/-- Does the host itself say a statement or go on, or is this a modest request? -/
def Request.isFrank : Request K → Bool
  | .advance | .say _ => true
  | .attempt r => r.isFrank
  | r => r.modest true

/-- A frank request leaves a host modest. -/
theorem Playing.carryOut_frank (n : Nat) {r : Request K} (frank : r.isFrank = true) :
    Step.Keeps (Host.Steady Host.Modest true) ((within n : Playing K).carryOut r) := by
  have apart : Apart (Host.Steady (K := K) Host.Modest true) := Host.steady_apart true
  induction r with
  | attempt r ih => exact (ih frank).attempt .failed
  | advance => exact apart.bind (advance_steady n) fun _ => apart.pure _
  | say statement => exact apart.bind (say_steady n statement) fun _ => apart.pure _
  | _ => exact carryOut_steady (discreet_of_modest n).publish frank

namespace Host

variable {h : Host K}

/-- A new host is modest. -/
theorem modest_observing (surface : K.State) (settings : Settings) :
    (observing { surface, settings : Session K }).Modest where
  equipped := Commands.equipped_prompting
  waiting id waits := by
    have hobserver : ∀ (signals : List Signal) (bus : Bus HandlerId (Notice K.Handle)),
        (∀ id, bus.Waits id → id = 0) → ∀ id,
          (signals.foldl (fun bus signal => bus.subscribeFirst signal 0 (.int 1000000)) bus).Waits
            id → id = 0 := by
      intro signals
      induction signals with
      | nil => exact fun bus honly => honly
      | cons signal rest ih =>
        refine fun bus honly => ih _ fun id hwaits => ?_
        exact (Bus.waits_subscribeFirst hwaits).elim (fun hid => hid) (honly id)
    obtain rfl := hobserver Signal.all {} (fun id hwaits => absurd hwaits (Bus.not_waits_new id)) id
      waits
    exact ⟨.observer, rfl, rfl⟩
  commanded name id calls := by
    have hcalls : Commands.prompting.Calls name id := calls
    unfold Commands.Calls at hcalls
    have hhandlers : Commands.prompting.handlers =
        [(.text "enableNextPrompt", none), (.text "disableNextPrompt", none)] := by decide
    rw [hhandlers] at hcalls
    simp [Keyed.get?, Keyed.canonical, Table.get?, Value.asKey] at hcalls
    split at hcalls
    · cases hcalls
    · split at hcalls <;> cases hcalls

/-- **A modest host stays modest, whatever it performs**, as long as the handlers that it brings are
modest. -/
theorem perform_modest {r : Request K} (frank : r.isFrank = true) (modest : h.Modest) :
    (perform r h).2.Modest := by
  exact (Playing.carryOut_frank _ frank h modest).1

theorem performAll_modest {requests : List (Request K)} (frank : ∀ r ∈ requests, r.isFrank = true)
    (modest : h.Modest) : (performAll requests h).Modest := by
  induction requests generalizing h with
  | nil => exact modest
  | cons r rest ih =>
    exact ih (fun r hm => frank r (List.mem_cons_of_mem _ hm))
      (perform_modest (frank r List.mem_cons_self) modest)

end Host

end Dialogue
