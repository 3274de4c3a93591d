import Dialogue.Proofs.Session.Guarded
import Dialogue.Proofs.Session.Observing

/-!
# Recorded runs

A host performs requests one after the other and writes down how it answered them.  From its journal
alone one can tell what became of the board: which boxes were put on it, and how often it was cleared.
If a host observes its session from the start, the notices of the board that the observer saw mirror
this, and none waits when a request was performed or has failed.

## Results

* `Host.recordAll_recorded` — a board on which nothing was refused is what its journal says.
* `Host.recordAll_mirrors` — what an observer saw mirrors what became of the board.
-/

set_option autoImplicit false

namespace Dialogue

/-! ## Tidy requests -/

/-- Is every option tree that is given here a mapping? -/
def Settings.givesTrees (options : Keyed Value) : Bool :=
  options.all fun e => (e.1 != .text "pop" && e.1 != .text "vn") || e.2.kind == .tree

/-- Does this request give nothing but mappings for the option trees, and for the options of a box, if
any? -/
def Request.isTidy : Request .board → Bool
  | .configure options => Settings.givesTrees options
  | .showText _ _ options => !options.truthy || options.kind == .tree
  | _ => true

theorem Request.given_of_isTidy {kind : DialogKind} {text options : Value}
    (tidy : (Request.showText kind text options : Request .board).isTidy = true)
    (truthy : options.truthy = true) : options.kind = .tree := by
  simpa [Request.isTidy, truthy] using tidy

/-- Option trees that were mappings stay so when a mapping is laid over one of them. -/
theorem Settings.set_kind {s t : Settings} {name v : Value} (result : s.set name v = .ok t)
    (mapping : name = .text "pop" ∨ name = .text "vn" → v.kind = .tree)
    (trees : s.pop.kind = .tree ∧ s.vn.kind = .tree) : t.pop.kind = .tree ∧ t.vn.kind = .tree := by
  unfold set at result
  split at result
  · cases result
    exact trees
  · split at result
    · rename_i hname
      cases result
      exact ⟨(Value.merge_concat_kind [s.pop] v).trans (mapping (.inl hname)), trees.2⟩
    · split at result
      · rename_i hname
        cases result
        exact ⟨trees.1, (Value.merge_concat_kind [s.vn] v).trans (mapping (.inr hname))⟩
      · cases result

theorem Settings.update_kind {options : Keyed Value} (given : givesTrees options = true) {s : Settings}
    (trees : s.pop.kind = .tree ∧ s.vn.kind = .tree) :
    (update options s).2.pop.kind = .tree ∧ (update options s).2.vn.kind = .tree := by
  induction options generalizing s with
  | nil => exact trees
  | cons e rest ih =>
    obtain ⟨name, v⟩ := e
    unfold givesTrees at given
    rw [List.all_cons, Bool.and_eq_true_iff] at given
    obtain ⟨hfirst, hrest⟩ := given
    unfold update
    cases hset : s.set name v with
    | error f => exact trees
    | ok t =>
      refine ih hrest (set_kind hset (fun hname => ?_) trees)
      rcases hname with rfl | rfl <;> simpa using hfirst

/-! ## What a journal says of a board -/

/-- The box that this entry says was put on the board. -/
def Occurrence.put? : Occurrence .board → Option Box
  | .rendered handle intent options => some { handle, intent, options }
  | _ => none

/-- Does this entry say that the board was cleared? -/
def Occurrence.isClearing : Occurrence .board → Bool
  | .cleared _ => true
  | _ => false

/-- The boxes that a journal says were put on the board. -/
def boxesIn (journal : List (Occurrence .board)) : List Box :=
  journal.filterMap Occurrence.put?

/-- How often a journal says that the board was cleared. -/
def clearsIn (journal : List (Occurrence .board)) : Nat :=
  journal.countP Occurrence.isClearing

/-- Every box on the board, and every box that was ever on it, can be asked for its options. -/
def Board.Open (b : Board) : Prop :=
  ∀ box ∈ b.visible ++ b.history, box.hasOptions = true

theorem Board.Open.add {b : Board} {box : Box} (h : b.Open) (asked : box.hasOptions = true) :
    (b.add box).Open := by
  intro other hm
  have hm : other ∈ (b.visible ++ [box]) ++ (b.history ++ [box]) := hm
  simp only [List.mem_append, List.mem_singleton] at hm
  rcases hm with (hm | rfl) | (hm | rfl)
  · exact h other (List.mem_append_left _ hm)
  · exact asked
  · exact h other (List.mem_append_right _ hm)
  · exact asked

theorem Board.Open.wiped {b : Board} (h : b.Open) : b.wiped.Open := by
  intro box hm
  rcases List.mem_append.mp hm with hm | hm
  · exact h box (List.mem_append_left _ (List.mem_of_mem_filter hm))
  · exact h box (List.mem_append_right _ hm)

namespace Host

/-- The board is what it was at first, and what the journal says became of it since; nothing was
refused, and nothing will be. -/
structure Recorded (first : Board) (h : Host .board) : Prop where
  trees : h.Treelike
  tidy : ∀ handler ∈ h.handlers, handler.every Request.isTidy = true
  asked : h.session.surface.Open
  history : h.session.surface.history = first.history ++ boxesIn h.journal
  clears : h.session.surface.clears = first.clears + clearsIn h.journal

variable {first : Board} {h k : Host .board}

/-- What says nothing of the board may be written into the journal. -/
theorem Recorded.journal (recorded : Recorded first h) {more : List (Occurrence .board)}
    (nothing : ∀ o ∈ more, o.put? = none ∧ o.isClearing = false) :
    Recorded first { h with journal := h.journal ++ more } := by
  have hboxes : boxesIn (h.journal ++ more) = boxesIn h.journal := by
    have hnone : boxesIn more = [] :=
      List.filterMap_eq_nil_iff.mpr fun o ho => (nothing o ho).1
    unfold boxesIn at hnone ⊢
    rw [List.filterMap_append, hnone, List.append_nil]
  have hclears : clearsIn (h.journal ++ more) = clearsIn h.journal := by
    have hzero : clearsIn more = 0 :=
      List.countP_eq_zero.mpr fun o ho => by simp [(nothing o ho).2]
    unfold clearsIn at hzero ⊢
    rw [List.countP_append, hzero, Nat.add_zero]
  exact { recorded with
    history := recorded.history.trans (congrArg (first.history ++ ·) hboxes.symm)
    clears := recorded.clears.trans (congrArg (first.clears + ·) hclears.symm) }

theorem Recorded.note (recorded : Recorded first h) {o : Occurrence .board}
    (box : o.put? = none) (clearing : o.isClearing = false) : Recorded first (h.note o) := by
  refine recorded.journal fun other ho => ?_
  rw [List.mem_singleton.mp ho]
  exact ⟨box, clearing⟩

theorem Recorded.wiped (recorded : Recorded first h) : Recorded first h.wiped := by
  refine ⟨recorded.trees, recorded.tidy, recorded.asked.wiped, ?_, ?_⟩
  · show h.session.surface.history = first.history ++ boxesIn (h.journal ++ [_])
    unfold boxesIn
    rw [List.filterMap_append]
    exact recorded.history.trans (congrArg _ (List.append_nil _).symm)
  · show h.session.surface.clears + 1 = first.clears + clearsIn (h.journal ++ [_])
    unfold clearsIn
    rw [List.countP_append]
    exact congrArg (· + 1) recorded.clears

theorem Recorded.boxed (recorded : Recorded first h) {intent : Intent} {options : Value}
    (asked : (h.session.surface.next intent options).hasOptions = true) :
    Recorded first (h.boxed intent options) := by
  refine ⟨recorded.trees, recorded.tidy, recorded.asked.add asked, ?_, ?_⟩
  · show h.session.surface.history ++ [_] = first.history ++ boxesIn (h.journal ++ [_])
    unfold boxesIn
    rw [List.filterMap_append, ← List.append_assoc]
    exact congrArg (· ++ [_]) recorded.history
  · show h.session.surface.clears = first.clears + clearsIn (h.journal ++ [_])
    unfold clearsIn
    rw [List.countP_append]
    exact recorded.clears

/-- The board of the second host is what its journal says, if this is so of the first. -/
def KeepsRecord (first : Board) (h k : Host .board) : Prop :=
  Recorded first h → Recorded first k

/-- What became of a board is settled by the settings, the board, the handlers and what the journal tells
of the board. -/
theorem recorded_guard (first : Board) : Guard Request.isTidy (Recorded first) where
  held recorded := recorded.tidy
  handed _ recorded tidy := { recorded with tidy }
  noted o recorded aside := by
    cases o with
    | cleared | rendered | marked => cases aside
    | _ => exact recorded.note rfl rfl
  aside recorded alike := by
    refine ⟨?_, ?_, ?_, ?_, ?_⟩
    · rw [Treelike, alike.settings]
      exact recorded.trees
    · rw [alike.handlers]
      exact recorded.tidy
    · rw [alike.surface]
      exact recorded.asked
    · rw [alike.surface, alike.journal]
      exact recorded.history
    · rw [alike.surface, alike.journal]
      exact recorded.clears
  prompted _ recorded := { recorded with }

end Host

namespace Playing

open Host

variable {first : Board} {p : Playing .board}

section

variable (react : ∀ id occasion, Step.Keeps (KeepsRecord first) (p.react id occasion))

include react

theorem clear_record : Step.Keeps (KeepsRecord first) p.clear := by
  intro h recorded
  rcases clear_cases p h with hclear | ⟨-, f, hclear⟩
  · rw [hclear]
    exact (recorded_guard first).publish react .cleared _ recorded.wiped
  · rw [hclear]
    exact recorded

theorem display_record (line : Line) : Step.Keeps (KeepsRecord first) (p.display line) := by
  intro h recorded
  rcases display_cases p line h with hsame | ⟨options, hkind, hdisplay⟩
  · rw [hsame]
    exact recorded
  · rw [hdisplay]
    exact (recorded_guard first).publish react _ _ (recorded.boxed (Box.hasOptions_of_kind hkind))

/-- **A tidy request keeps a board what its journal says.** -/
theorem carryOut_record {r : Request .board} (tidy : r.every Request.isTidy = true) :
    Step.Keeps (KeepsRecord first) (p.carryOut r) := by
  have onward := (recorded_guard first).onward react (clear_record react) (display_record react)
  refine (recorded_guard first).carryOut react (clear_record react) (display_record react)
    (fun r tidy delicate => ?_) tidy
  cases r with
  | configure options =>
    refine onward.bind (Act.onPart_keeps fun h recorded => ?_) fun _ => onward.pure _
    have htrees := Settings.update_kind (Request.ok_of_every tidy) recorded.trees
    exact { recorded with trees := htrees }
  | registerCharacters entries =>
    refine onward.bind (Act.onPart_keeps fun h recorded => ?_) fun _ => onward.pure _
    exact { recorded with }
  | showText kind text options =>
    refine onward.bind (fun h recorded => ?_) fun _ => onward.pure _
    have hgiven := Request.given_of_isTidy (Request.ok_of_every tidy)
    have hkind := recorded.trees.resolve_kind kind hgiven
    have hasked : (h.session.surface.next (.ofText text)
        (h.session.settings.resolve kind none .null options)).hasOptions = true :=
      Box.hasOptions_of_kind hkind
    rcases showText_cases kind text options h with hs | hs | ⟨hnot, -⟩
    · rw [hs]
      exact recorded
    · rw [hs]
      exact recorded.boxed hasked
    · rw [hasked] at hnot
      cases hnot
  | ask r =>
    intro h recorded
    rw [carryOut_ask]
    exact recorded
  | install advance =>
    refine onward.bind onward.get fun _ => ?_
    refine onward.bind (onward.install advance ?_) fun _ => onward.pure _
    exact Act.onPart_keeps fun h recorded => { recorded with }
  | _ => cases delicate

end

/-- **Handlers keep a board what its journal says, at any depth of calls.** -/
theorem reactWithin_record (n : Nat) (id : HandlerId) (occasion : Occasion .board) :
    Step.Keeps (KeepsRecord first) (reactWithin n id occasion) :=
  (recorded_guard first).reactWithin (fun _ react _ tidy => carryOut_record react tidy) n id occasion

end Playing

/-! ## Whole runs -/

namespace Host

/-- Perform a request, and write the answer into the journal if it did not fail. -/
def record {K : Surface} (r : Request K) (h : Host K) : Host K :=
  match perform r h with
  | (.ok reply, k) => k.note (.replied reply)
  | (.error _, k) => k

/-- The host after it performed requests, with its answers in the journal, whether they failed or
not. -/
def recordAll {K : Surface} (requests : List (Request K)) (h : Host K) : Host K :=
  requests.foldl (fun h r => record r h) h

variable {first : Board} {h : Host .board} {r : Request .board} {requests : List (Request .board)}

/-- A host at rest that mirrors its board does so when it performed a request, or failed to. -/
theorem record_mirrored (modest : r.every Request.isModest = true) (mirrored : Mirrored [] h)
    (rests : h.session.bus.AtRest) :
    Mirrored [] (record r h) ∧ (record r h).session.bus.AtRest := by
  have hfit : Fit true (h.depth r) (r.lists + 0) h :=
    ⟨⟨Nat.lt_succ_self _, mirrored⟩, ⟨fun _ => rests, nofun⟩⟩
  have hperform : perform r h = (Playing.within (h.depth r)).carryOut r h := rfl
  unfold record
  rw [hperform]
  cases carried : (Playing.within (h.depth r)).carryOut r h with
  | mk result k =>
    obtain ⟨hkept, hnoted⟩ :=
      Playing.answer_fit (Playing.reactWithin_fit _) (Nat.le_refl _) modest hfit carried
    cases result with
    | ok reply => exact ⟨(hnoted reply rfl).mirrored, (hnoted reply rfl).stands.rests rfl⟩
    | error f => exact ⟨(hkept (.inr rfl)).mirrored, (hkept (.inr rfl)).stands.rests rfl⟩

theorem recordAll_mirrored (modest : ∀ r ∈ requests, r.every Request.isModest = true)
    (mirrored : Mirrored [] h) (rests : h.session.bus.AtRest) :
    Mirrored [] (recordAll requests h) ∧ (recordAll requests h).session.bus.AtRest := by
  induction requests generalizing h with
  | nil => exact ⟨mirrored, rests⟩
  | cons r rest ih =>
    obtain ⟨hmirrored, hrests⟩ := record_mirrored (modest r List.mem_cons_self) mirrored rests
    exact ih (fun r hm => modest r (List.mem_cons_of_mem _ hm)) hmirrored hrests

theorem record_recorded (tidy : r.every Request.isTidy = true) (recorded : Recorded first h) :
    Recorded first (record r h) := by
  have hcarried := Playing.carryOut_record (p := Playing.within (h.depth r))
    (Playing.reactWithin_record (h.depth r)) tidy h recorded
  have hperform : perform r h = (Playing.within (h.depth r)).carryOut r h := rfl
  unfold record
  rw [hperform]
  cases carried : (Playing.within (h.depth r)).carryOut r h with
  | mk result k =>
    rw [carried] at hcarried
    cases result with
    | ok reply => exact hcarried.note rfl rfl
    | error f => exact hcarried

/-- **A board on which nothing was refused is what its journal says.** -/
theorem recordAll_recorded (tidy : ∀ r ∈ requests, r.every Request.isTidy = true)
    (recorded : Recorded first h) : Recorded first (recordAll requests h) := by
  induction requests generalizing h with
  | nil => exact recorded
  | cons r rest ih =>
    exact ih (fun r hm => tidy r (List.mem_cons_of_mem _ hm))
      (record_recorded (tidy r List.mem_cons_self) recorded)

/-! ## From the start -/

section

variable {session : Session .board} (fresh : session.bus = {})

include fresh

theorem observing_run : ∃ trace, Bus.Run {} trace (observing session).session.bus := by
  have hplayed : (Bus.play session.bus (Signal.all.map fun signal =>
      some (.subscribe signal 0 observerPriority false false))).2 =
      (observing session).session.bus := by
    unfold observing
    rw [fresh]
    rfl
  rw [← hplayed, fresh]
  exact ⟨_, Bus.play_run {} _⟩

theorem observing_watched :
    Bus.Watched 0 observerPriority (observing session).session.bus := by
  unfold observing
  rw [fresh]
  refine ⟨fun signal => ?_, nofun, nofun⟩
  cases signal <;> exact ⟨_, _, rfl, ⟨rfl, rfl, rfl, rfl⟩, nofun⟩

theorem observing_rests : (observing session).session.bus.AtRest := by
  unfold observing
  rw [fresh]
  exact ⟨rfl, rfl⟩

/-- A host that observes its session from the start mirrors its board. -/
theorem observing_mirrored : Mirrored [] (observing session) where
  run := observing_run fresh
  watched := observing_watched fresh
  observer := rfl
  alone id hid := by
    cases id with
    | zero => rfl
    | succ n => cases hid
  modest handler hm := by
    rw [List.mem_singleton.mp hm]
    rfl
  boxes := nofun
  mirror := by
    rw [(observing_rests fresh).nothing]
    exact .nil

end

/-- A host that observes its session from the start knows its board. -/
theorem observing_recorded {session : Session .board} (trees : (observing session).Treelike)
    (asked : session.surface.Open) : Recorded session.surface (observing session) where
  trees := trees
  tidy handler hm := by
    rw [List.mem_singleton.mp hm]
    rfl
  asked := asked
  history := (List.append_nil _).symm
  clears := rfl

/-- **What an observer saw mirrors what became of the board.**  The host may perform any requests, and
its handlers may turn to the session at any depth of calls, as long as nobody subscribes before the
observer.  Whether the last request failed or not, no event waits or is being delivered.  The notices
of the board that the observer saw are those of what the journal tells of the board, one for one and
in order, each box with the line that was put into it and with its handle.  If the option trees, and
the options of boxes, were mappings all along, the journal tells all that became of the board: no box
was refused, and so the board was never kept from being cleared. -/
theorem recordAll_mirrors (session : Session .board) (requests : List (Request .board))
    (fresh : session.bus = {}) (modest : ∀ r ∈ requests, r.every Request.isModest = true) :
    let h := recordAll requests (observing session)
    h.session.bus.AtRest ∧ List.Forall₂ Mirrors (sights h.journal) (tidings h.journal) ∧
      ((observing session).Treelike → session.surface.Open →
        (∀ r ∈ requests, r.every Request.isTidy = true) →
          h.session.surface.Open ∧
            h.session.surface.history = session.surface.history ++ boxesIn h.journal ∧
            h.session.surface.clears = session.surface.clears + clearsIn h.journal) := by
  intro h
  obtain ⟨hmirrored, hrests⟩ :=
    recordAll_mirrored modest (observing_mirrored fresh) (observing_rests fresh)
  refine ⟨hrests, ?_, fun trees asked tidy => ?_⟩
  · have hmirror := hmirrored.mirror
    rw [hrests.nothing] at hmirror
    exact (List.append_nil (tidings h.journal)) ▸ hmirror
  · have hrecorded := recordAll_recorded tidy (observing_recorded trees asked)
    exact ⟨hrecorded.asked, hrecorded.history, hrecorded.clears⟩

/-- When the board was cleared, an usher has somebody speak whom nobody knows, goes on all the same, speaks
up, shows a text of its own and gives up; and a command goes on to the second statement before the first
one was put on the board. -/
def interlude : List (Request .board) :=
  [.registerCommand (.text "go") [[.advance]],
   .subscribe .dialogCleared (.text "usher")
     [[.attempt (.say (.text "q:glad Hello")), .say (.text "Hush"),
       .showText .pop (.text "Exit") .null, .raise (.raised "late")]]
     (.int 0) false,
   .loadSequence (.ofList [.text "go One", .text "Two"]) false,
   .advance, .advance]

/-- The general theorem for handlers that turn to the session while it is played. -/
theorem recordAll_mirrors_interlude :
    (∀ r ∈ interlude, r.every Request.isModest = true) ∧
      (∀ r ∈ interlude, r.every Request.isTidy = true) ∧
      let h := recordAll interlude (observing { surface := {} })
      h.session.bus.AtRest ∧ List.Forall₂ Mirrors (sights h.journal) (tidings h.journal) ∧
        h.session.surface.Open ∧ h.session.surface.history = boxesIn h.journal ∧
        h.session.surface.clears = clearsIn h.journal := by
  have modest : ∀ r ∈ interlude, r.every Request.isModest = true := by decide
  have tidy : ∀ r ∈ interlude, r.every Request.isTidy = true := by decide
  have hall := recordAll_mirrors { surface := {} } interlude rfl modest
  refine ⟨modest, tidy, ?_⟩
  -- what the run comes to is not to be worked out here
  generalize recordAll interlude (observing { surface := {} }) = k at hall ⊢
  obtain ⟨hrests, hmirrors, hknown⟩ := hall
  obtain ⟨hasked, hhistory, hclears⟩ := hknown ⟨rfl, rfl⟩ nofun tidy
  exact ⟨hrests, hmirrors, hasked, hhistory, hclears.trans (Nat.zero_add _)⟩

example : sights (recordAll interlude (observing { surface := {} })).journal =
    [.cleared,
      .boxed 1 { source := .text "Hush", who := some "narrator", text := .text "Hush" }, .cleared,
      .boxed 3 { source := .text "Two", who := some "narrator", text := .text "Two" },
      .boxed 4
        { source := .text "go One", who := some "narrator", text := .text "One", commands := ["go"] },
      .cleared] := by
  decide +kernel

end Host

end Dialogue
