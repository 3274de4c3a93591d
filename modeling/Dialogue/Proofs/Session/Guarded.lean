import Dialogue.Proofs.Session.Keeping
import Dialogue.Proofs.Session.Lists

/-!
# Invariants under requests of a sort

An invariant of a host may hold only as long as no request is made but those of a certain sort, neither
by the host nor by its handlers.  If it only minds the settings, the cast, the surface, the handlers and
what the journal tells of the surface (`Guard`), then all is left to be shown for what turns to these
themselves: the rest of a host keeps the invariant, at any depth of calls.

## Results

* `Guard.carryOut` — a request keeps a guarded invariant, if those do that turn to what it minds.
* `Guard.reactWithin` — so do handlers, at any depth of calls.
* `Guard.performAll` — so it is kept however many requests a host performs.
-/

set_option autoImplicit false

namespace Dialogue

variable {K : Surface}

/-! ## What an invariant minds -/

/-- Does this tell of the surface? -/
def Occurrence.isOfSurface : Occurrence K → Bool
  | .cleared _ | .rendered .. | .marked _ => true
  | _ => false

/-- Two hosts with the same settings, cast, surface, handlers and journal. -/
structure Host.Alike (h k : Host K) : Prop where
  settings : k.session.settings = h.session.settings
  cast : k.session.cast = h.session.cast
  surface : k.session.surface = h.session.surface
  handlers : k.handlers = h.handlers
  journal : k.journal = h.journal

/-- The second host has this property, if the first has. -/
def Maintains (I : Host K → Prop) (h k : Host K) : Prop :=
  I h → I k

theorem maintains_frame (I : Host K → Prop) : Step.Frame (Maintains I) :=
  ⟨fun _ holds => holds, fun hk kl holds => kl (hk holds)⟩

/-- An invariant that only minds settings, cast, surface, handlers and what the journal tells of the
surface, while all that handlers ask for is of a certain sort. -/
structure Guard (ok : Request K → Bool) (I : Host K → Prop) : Prop where
  held : ∀ {h}, I h → ∀ handler ∈ h.handlers, handler.every ok = true
  handed : ∀ {h} handlers, I h → (∀ handler ∈ handlers, handler.every ok = true) →
    I { h with handlers }
  noted : ∀ {h} o, I h → o.isOfSurface = false → I (h.note o)
  aside : ∀ {h k}, I h → h.Alike k → I k
  prompted : ∀ {h} b, I h →
    I (h.onSession fun s => { s with settings := { s.settings with prompt := .flag b } })

/-- Does this request turn to the settings, to the cast or to the surface itself? -/
def Request.isDelicate : Request K → Bool
  | .configure _ | .registerCharacters _ | .showText .. | .ask _ | .install _ => true
  | _ => false

namespace Guard

variable {ok : Request K → Bool} {I : Host K → Prop} (guard : Guard ok I)

include guard

theorem reports (rs : List Report) {h : Host K} (holds : I h) :
    I { h with journal := h.journal ++ rs.map Occurrence.reported } := by
  induction rs generalizing h with
  | nil => exact guard.aside holds ⟨rfl, rfl, rfl, rfl, List.append_nil _⟩
  | cons r rest ih =>
    refine guard.aside (ih (guard.noted (.reported r) holds rfl)) ⟨rfl, rfl, rfl, rfl, ?_⟩
    exact (List.append_assoc h.journal [_] _).symm

theorem apart : Apart (Maintains I) where
  frame := maintains_frame I
  reported rs _ _ holds := guard.reports rs holds
  disk _ _ holds := guard.aside holds ⟨rfl, rfl, rfl, rfl, rfl⟩
  library _ _ holds := guard.aside holds ⟨rfl, rfl, rfl, rfl, rfl⟩

theorem bus (b : Bus HandlerId (Notice K.Handle)) (h : Host K) :
    Maintains I h (Host.site.withBus b h) :=
  fun holds => guard.aside holds ⟨rfl, rfl, rfl, rfl, rfl⟩

/-- A new handler, whose requests are of the sort, keeps the invariant. -/
theorem addHandler {h : Host K} {handler : Handler K} (every : handler.every ok = true)
    (holds : I h) : I (h.addHandler handler) := by
  refine guard.handed _ holds fun other hm => ?_
  rcases List.mem_append.mp hm with hm | hm
  · exact guard.held holds other hm
  · exact List.mem_singleton.mp hm ▸ every

theorem registerCommand (p : Playing K) {name : Value} {calls : List (List (Request K))}
    (every : everyCall ok calls = true) :
    Step.Keeps (Maintains I) (p.carryOut (.registerCommand name calls)) := by
  intro h holds
  rcases Playing.carryOut_registerCommand p name calls h with hs | ⟨commands, hs⟩
  · rw [hs]
    exact holds
  · rw [hs]
    exact guard.addHandler every (guard.aside holds ⟨rfl, rfl, rfl, rfl, rfl⟩)

theorem subscribe (p : Playing K) {signal : Signal} {title priority : Value} {oneShot : Bool}
    {calls : List (List (Request K))} (every : everyCall ok calls = true) :
    Step.Keeps (Maintains I) (p.carryOut (.subscribe signal title calls priority oneShot)) := by
  intro h holds
  have hadded : I (h.addHandler (.held (some title) calls)) := guard.addHandler every holds
  rcases Playing.carryOut_subscribe p signal title calls priority oneShot h with
    hs | hs | ⟨bus, -, hs⟩
  · rw [hs]
    exact holds
  · rw [hs]
    exact hadded
  · rw [hs]
    exact guard.aside hadded ⟨rfl, rfl, rfl, rfl, rfl⟩

/-! ## One request -/

section

variable {p : Playing K} (react : ∀ id occasion, Step.Keeps (Maintains I) (p.react id occasion))

include react

theorem publish (notice : Notice K.Handle) : Step.Keeps (Maintains I) (p.publish notice) :=
  Playing.publish_of_react guard.apart.frame guard.apart.reported react guard.bus notice

/-- Clearing the surface and putting lines into boxes is all of going through a script that turns to what
the invariant minds. -/
theorem onward (cleared : Step.Keeps (Maintains I) p.clear)
    (displayed : ∀ line, Step.Keeps (Maintains I) (p.display line)) : Onward p (Maintains I) where
  toApart := guard.apart
  playhead _ _ holds := guard.aside holds ⟨rfl, rfl, rfl, rfl, rfl⟩
  cleared := cleared
  told notice _ := guard.publish react notice
  said statement :=
    Saying.say (p := p) { guard.apart with
      drawn := fun _ _ holds => guard.aside holds ⟨rfl, rfl, rfl, rfl, rfl⟩
      prompted := fun b _ holds => guard.prompted b holds
      displayed := displayed
      told := fun notice _ => guard.publish react notice
      handled := fun id name => react id (.command name)
      skipped := fun _ _ holds => guard.noted _ holds rfl } statement

/-- **A request of the sort keeps a guarded invariant**, if those do that turn to what it minds, and
clearing the surface and putting lines into boxes. -/
theorem carryOut (cleared : Step.Keeps (Maintains I) p.clear)
    (displayed : ∀ line, Step.Keeps (Maintains I) (p.display line))
    (delicate : ∀ r : Request K, r.every ok = true → r.isDelicate = true →
      Step.Keeps (Maintains I) (p.carryOut r))
    {r : Request K} (every : r.every ok = true) : Step.Keeps (Maintains I) (p.carryOut r) := by
  have apart := guard.apart
  induction r with
  | configure | registerCharacters | showText | ask | install => exact delicate _ every rfl
  | attempt r ih => exact (ih (Request.every_of_attempt every)).attempt _
  | nameCommand name =>
    intro h holds
    rcases Playing.carryOut_nameCommand p name h with hs | ⟨commands, hs⟩
    · rw [hs]
      exact holds
    · rw [hs]
      exact guard.aside holds ⟨rfl, rfl, rfl, rfl, rfl⟩
  | registerCommand name calls =>
    exact guard.registerCommand p (everyCall_of_registerCommand every)
  | subscribe signal title calls priority oneShot =>
    exact guard.subscribe p (everyCall_of_subscribe every)
  | unsubscribe signal title =>
    intro h holds
    rcases Playing.carryOut_unsubscribe p signal title h with hs | ⟨id, -, hs⟩
    · rw [hs]
      exact holds
    · rw [hs]
      exact guard.aside holds ⟨rfl, rfl, rfl, rfl, rfl⟩
  | consume =>
    refine apart.bind (Step.keeps_modify fun h holds => ?_) fun _ => apart.pure _
    exact guard.aside holds ⟨rfl, rfl, rfl, rfl, rfl⟩
  | parse statement =>
    refine apart.bind (Act.onPart_keeps fun h holds => ?_) fun _ => apart.pure _
    exact guard.aside holds ⟨rfl, rfl, rfl, rfl, rfl⟩
  | _ => exact (guard.onward react cleared displayed).carryOut rfl

end

/-! ## All requests -/

/-- If requests of the sort keep a guarded invariant, so do several of them. -/
theorem carryOutAll {p : Playing K}
    (carried : ∀ r, r.every ok = true → Step.Keeps (Maintains I) (p.carryOut r))
    {requests : List (Request K)} (every : everyRequest ok requests = true) :
    Step.Keeps (Maintains I) (p.carryOutAll requests) := by
  induction requests with
  | nil => exact guard.apart.pure ()
  | cons r rest ih =>
    unfold everyRequest at every
    obtain ⟨hfirst, hrest⟩ := Bool.and_eq_true_iff.mp every
    refine guard.apart.bind (carried r hfirst) fun reply => ?_
    cases Playing.isAnswered r with
    | false => exact ih hrest
    | true =>
      refine guard.apart.bind (Step.keeps_modify fun h holds => ?_) fun _ => ih hrest
      exact guard.noted _ holds rfl

section

variable (carried : ∀ p : Playing K,
  (∀ id occasion, Step.Keeps (Maintains I) (p.react id occasion)) →
    ∀ r, r.every ok = true → Step.Keeps (Maintains I) (p.carryOut r))

include carried

/-- **Handlers keep a guarded invariant, at any depth of calls.** -/
theorem reactWithin (n : Nat) (id : HandlerId) (occasion : Occasion K) :
    Step.Keeps (Maintains I) (Playing.reactWithin n id occasion) := by
  -- a handler with calls to spare carries out its requests with handlers that have one call fewer
  induction n generalizing id occasion with
  | zero => exact guard.apart.pure ()
  | succ n ih =>
    intro h holds
    rcases Playing.reactWithin_cases n id occasion h with
      hr | ⟨notice, -, -, hr⟩ | ⟨text, hr⟩ | ⟨title?, hr⟩
    · rw [hr]
      exact holds
    · rw [hr]
      exact guard.noted _ holds rfl
    · rw [hr]
      exact guard.noted _ holds rfl
    · rw [hr]
      have hnoted : I (h.note (Playing.occurrenceOf title? occasion)) := by
        cases occasion <;> exact guard.noted _ holds rfl
      obtain ⟨hcall, hleft⟩ := Host.takeCall_every id (guard.held hnoted)
      refine guard.carryOutAll (carried { react := Playing.reactWithin n, rounds := n + 1 } ih)
        hcall _ ?_
      rcases Host.takeCall_cases id (h.note (Playing.occurrenceOf title? occasion)) with
        hnone | ⟨_, _, _, -, hsome⟩
      · rw [hnone]
        exact hnoted
      · rw [hsome] at hleft ⊢
        exact guard.handed _ hnoted hleft

theorem perform {r : Request K} (every : r.every ok = true) :
    Step.Keeps (Maintains I) (Host.perform r) :=
  fun h => carried (Playing.within (h.depth r)) (guard.reactWithin carried _) r every h

/-- **A guarded invariant is kept however many requests a host performs.** -/
theorem performAll {requests : List (Request K)} (every : ∀ r ∈ requests, r.every ok = true)
    {h : Host K} (holds : I h) : I (Host.performAll requests h) := by
  induction requests generalizing h with
  | nil => exact holds
  | cons r rest ih =>
    exact ih (fun other hm => every other (List.mem_cons_of_mem _ hm))
      (guard.perform carried (every r List.mem_cons_self) h holds)

end

end Guard

end Dialogue
