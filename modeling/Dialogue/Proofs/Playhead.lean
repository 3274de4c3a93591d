import Dialogue.Playhead

/-!
# What a playhead takes

A playhead looks its list up anew for every statement, and labels may be defined again at any time,
so the list under the playhead may grow, shrink or be another one from one statement to the next.
The place in it moves by one with every statement that is taken and by nothing else.

What a playhead takes can therefore be told from the cues it was given alone: from the last
definition of each label, the last loose list, and the number of statements that were taken since
the list was begun.

## Results

* `Follows.follow`, `followAll_follows` — the labels are those of the last definitions, a loose list
  is the last one loaded, and the playhead holds a label or a loose list but never both.
* `cursor_followAll` — while no list is begun, the place in the list counts what is taken.
* `take_eq` — what is taken next is the item of the current list at that place.
* `idle_followAll` — an unknown label that was started leaves the playhead idle until another start
  or another loose list.
* `taken_in_order` — all of this of every run of cues.
-/

set_option autoImplicit false

namespace Dialogue

/-! ## Cues -/

/-- What a playhead can be asked to do. -/
inductive Cue where
  | define (labels : Keyed Value)
  | load (statements : Value)
  | start (label : Value)
  | take
  | reset
deriving Repr

namespace Cue

/-- Does this cue begin a list, or leave all lists?  A loose list that cannot be gone through is not
begun. -/
def opens : Cue → Bool
  | .load v => v.members?.isSome
  | .start _ | .reset => true
  | .define _ | .take => false

/-- Does this cue begin a list? -/
def begins : Cue → Bool
  | .reset => false
  | cue => cue.opens

end Cue

/-- The lists that labels are given one after the other, up to the first value that cannot be gone
through; one that has no length is the last. -/
def definitions : Keyed Value → Keyed (List Value)
  | [] => []
  | (label, v) :: rest =>
    match v.members? with
    | none => []
    | some statements =>
      match v.length? with
      | none => [(label, statements)]
      | some _ => (label, statements) :: definitions rest

namespace Cue

/-- The definitions that a cue makes. -/
def defines : Cue → Keyed (List Value)
  | .define labels => definitions labels
  | _ => []

/-- The loose list that a cue loads. -/
def loads? : Cue → Option (List Value)
  | .load v => v.members?
  | _ => none

end Cue

/-- What comes last under a key among several entries. -/
def lastUnder? {α : Type} (entries : Keyed α) (key : Value) : Option α :=
  (entries.reverse.find? fun e => e.1.asKey = key.asKey).map Prod.snd

/-- The last list that a label was given. -/
def lastDefinition? (history : List Cue) (label : Value) : Option (List Value) :=
  lastUnder? (history.flatMap Cue.defines) label

/-- The loose list that was loaded last. -/
def lastLoad? (history : List Cue) : Option (List Value) :=
  history.reverse.findSome? Cue.loads?

namespace Playhead

/-- The playhead after a cue, be it followed or refused. -/
def follow (p : Playhead) : Cue → Playhead
  | .define labels => (defineAll labels p).2
  | .load v => (p.loadMembers v).2
  | .start label => (p.start label).2
  | .take => p.take.2
  | .reset => p.reset

/-- The playhead after several cues. -/
def followAll (p : Playhead) (cues : List Cue) : Playhead :=
  cues.foldl follow p

/-- The statement that a cue takes. -/
def given? (p : Playhead) : Cue → Option Value
  | .take => p.take.1.toOption
  | _ => none

/-- The statements that several cues take. -/
def taken (p : Playhead) : List Cue → List Value
  | [] => []
  | cue :: rest => (p.given? cue).toList ++ (p.follow cue).taken rest

theorem followAll_append (first second : List Cue) (p : Playhead) :
    p.followAll (first ++ second) = (p.followAll first).followAll second :=
  List.foldl_append

/-- The list that is played after these cues: the last one that the label was given, or the loose
list that was loaded last, if one is held. -/
def current? (p : Playhead) (history : List Cue) : Option (List Value) :=
  match p.label?, p.loose? with
  | some label, _ => lastDefinition? history label
  | none, some _ => lastLoad? history
  | none, none => none

theorem follow_load (p : Playhead) (v : Value) :
    p.follow (.load v) = v.members?.elim p p.load := by
  rw [follow, loadMembers]
  cases v.members? <;> rfl

theorem follow_start (p : Playhead) (label : Value) :
    p.follow (.start label) = { p with
      loose? := none
      label? := if label.keyFault?.isSome then p.label?
        else if p.hasLabel label then label.given? else none
      cursor := 0 } := by
  rw [follow, Playhead.start]
  cases label.keyFault? <;> rfl

/-! ## The last definitions -/

section

variable {α : Type}

theorem lastUnder?_append (first second : Keyed α) (key : Value) :
    lastUnder? (first ++ second) key = (lastUnder? second key).or (lastUnder? first key) := by
  unfold lastUnder?
  rw [List.reverse_append, List.find?_append, Option.map_or]

theorem lastUnder?_cons (e : Value × α) (rest : Keyed α) (key : Value) :
    lastUnder? (e :: rest) key =
      (lastUnder? rest key).or (if e.1.asKey = key.asKey then some e.2 else none) := by
  have hone : lastUnder? [e] key = if e.1.asKey = key.asKey then some e.2 else none := by
    by_cases h : e.1.asKey = key.asKey <;> simp [lastUnder?, h]
  rw [← hone, ← lastUnder?_append]
  rfl

end

theorem get?_define (p : Playhead) (label : Value) (statements : List Value) (other : Value) :
    Keyed.get? (p.define label statements).labels other =
      if label.asKey = other.asKey then some statements else Keyed.get? p.labels other := by
  by_cases h : label.asKey = other.asKey
  · rw [if_pos h, ← Keyed.get?_congr _ h]
    exact Keyed.get?_put_self _ _ _
  · rw [if_neg h]
    exact Keyed.get?_put_of_ne _ _ (Ne.symm h)

/-- Definitions touch the labels alone, and each label has the last list that it was given. -/
theorem defineAll_snd (labels : Keyed Value) (p : Playhead) :
    (∀ label, Keyed.get? (defineAll labels p).2.labels label =
      (lastUnder? (definitions labels) label).or (Keyed.get? p.labels label)) ∧
      (defineAll labels p).2 = { p with labels := (defineAll labels p).2.labels } := by
  induction labels generalizing p with
  | nil => exact ⟨fun label => rfl, rfl⟩
  | cons entry rest ih =>
    obtain ⟨label, v⟩ := entry
    unfold defineAll definitions
    cases v.members? with
    | none => exact ⟨fun other => rfl, rfl⟩
    | some statements =>
      have hfirst : ∀ other, (lastUnder? [(label, statements)] other).or
          (Keyed.get? p.labels other) = Keyed.get? (p.define label statements).labels other := by
        intro other
        rw [get?_define, lastUnder?_cons]
        by_cases h : label.asKey = other.asKey <;> simp [h, lastUnder?]
      cases v.length? with
      | none => exact ⟨fun other => (hfirst other).symm, rfl⟩
      | some length =>
        obtain ⟨hlabels, hrest⟩ := ih (p.define label statements)
        refine ⟨fun other => ?_, hrest⟩
        rw [hlabels, ← hfirst other, ← Option.or_assoc, ← lastUnder?_append]
        rfl

/-! ## One cue -/

/-- What the cues so far have to do with where the playhead stands. -/
structure Follows (history : List Cue) (p : Playhead) : Prop where
  labels : ∀ label, Keyed.get? p.labels label = lastDefinition? history label
  label : ∀ label, p.label? = some label → p.hasLabel label = true ∧ p.loose? = none
  loose : ∀ statements, p.loose? = some statements → lastLoad? history = some statements
  rest : p.label? = none → p.loose? = none → p.cursor = 0

theorem Follows.new : Follows [] {} where
  labels _ := rfl
  label _ h := by cases h
  loose _ h := by cases h
  rest _ _ := rfl

theorem lastDefinition?_snoc (history : List Cue) (cue : Cue) (label : Value) :
    lastDefinition? (history ++ [cue]) label =
      (lastUnder? cue.defines label).or (lastDefinition? history label) := by
  unfold lastDefinition?
  rw [List.flatMap_append, lastUnder?_append, List.flatMap_singleton]

theorem lastLoad?_snoc (history : List Cue) (cue : Cue) :
    lastLoad? (history ++ [cue]) = cue.loads?.or (lastLoad? history) := by
  unfold lastLoad?
  rw [List.reverse_append, List.findSome?_append]
  cases h : cue.loads? <;> simp [h]

/-- A cue that neither defines nor loads leaves the last definitions and the last list as they
are. -/
theorem Follows.of_same {history : List Cue} {p q : Playhead} (h : Follows history p) {cue : Cue}
    (defines : cue.defines = []) (loads : cue.loads? = none) (labels : q.labels = p.labels)
    (label : ∀ label, q.label? = some label → p.hasLabel label = true ∧ q.loose? = none)
    (loose : ∀ statements, q.loose? = some statements → p.loose? = some statements)
    (rest : q.label? = none → q.loose? = none → q.cursor = 0) :
    Follows (history ++ [cue]) q where
  labels other := by
    rw [lastDefinition?_snoc, defines, labels, h.labels]
    rfl
  label other hl := by
    rw [hasLabel, labels]
    exact label other hl
  loose statements hs := by
    rw [lastLoad?_snoc, loads]
    exact h.loose statements (loose statements hs)
  rest := rest

theorem Follows.define {history : List Cue} {p : Playhead} (h : Follows history p)
    (labels : Keyed Value) :
    Follows (history ++ [.define labels]) (defineAll labels p).2 := by
  obtain ⟨hlabels, hrest⟩ := defineAll_snd labels p
  have hget : ∀ other, Keyed.get? (defineAll labels p).2.labels other =
      lastDefinition? (history ++ [.define labels]) other := by
    intro other
    rw [hlabels, lastDefinition?_snoc, h.labels]
    rfl
  refine ⟨hget, fun other hl => ?_, fun statements hs => ?_, fun hl hs => ?_⟩
  · rw [hrest] at hl ⊢
    obtain ⟨hknown, hloose⟩ := h.label other hl
    refine ⟨?_, hloose⟩
    unfold hasLabel Keyed.has at hknown ⊢
    rw [hlabels, Option.isSome_or, hknown, Bool.or_true]
  · rw [hrest] at hs
    rw [lastLoad?_snoc]
    exact h.loose statements hs
  · rw [hrest] at hl hs ⊢
    exact h.rest hl hs

theorem Follows.load {history : List Cue} {p : Playhead} (h : Follows history p) (v : Value) :
    Follows (history ++ [.load v]) (p.follow (.load v)) := by
  rw [follow_load]
  cases hv : v.members? with
  | none => exact h.of_same rfl hv rfl h.label (fun _ hs => hs) h.rest
  | some members =>
    refine ⟨fun other => ?_, fun other hl => ?_, fun statements hs => ?_, fun _ hs => ?_⟩
    · rw [lastDefinition?_snoc]
      exact h.labels other
    · cases hl
    · rw [lastLoad?_snoc]
      exact (congrArg (Option.or · _) hv).trans hs
    · cases hs

theorem Follows.start {history : List Cue} {p : Playhead} (h : Follows history p)
    (label : Value) : Follows (history ++ [.start label]) (p.follow (.start label)) := by
  rw [follow_start]
  refine h.of_same rfl rfl rfl (fun other hl => ⟨?_, rfl⟩) (fun _ hs => ?_) fun _ _ => rfl
  · -- the label is kept as it was written, and only if it is known
    simp only at hl
    split at hl
    · exact (h.label other hl).1
    · split at hl
      · rename_i hknown
        cases label with
        | null => cases hl
        | _ => cases hl; exact hknown
      · cases hl
  · cases hs

theorem Follows.take {history : List Cue} {p : Playhead} (h : Follows history p) :
    Follows (history ++ [.take]) p.take.2 := by
  unfold Playhead.take
  split
  · exact h.of_same rfl rfl rfl h.label (fun _ hs => hs) h.rest
  · rename_i statements hstatements
    split
    · exact h.of_same rfl rfl rfl h.label (fun _ hs => hs) h.rest
    · refine h.of_same rfl rfl rfl h.label (fun _ hs => hs) fun hl hs => ?_
      -- without a list there is nothing to take
      have hnone : p.statements? = none := by
        rw [statements?, show p.label? = none from hl]
        exact hs
      rw [hnone] at hstatements
      cases hstatements

/-- Every cue keeps the playhead in step with the cues so far. -/
theorem Follows.follow {history : List Cue} {p : Playhead} (h : Follows history p) (cue : Cue) :
    Follows (history ++ [cue]) (p.follow cue) := by
  cases cue with
  | define labels => exact h.define labels
  | load v => exact h.load v
  | start label => exact h.start label
  | take => exact h.take
  | reset =>
    refine h.of_same rfl rfl rfl (fun _ hl => ?_) (fun _ hs => ?_) fun _ _ => rfl
    · cases hl
    · cases hs

theorem Follows.followAll {history : List Cue} {p : Playhead} (h : Follows history p)
    (cues : List Cue) : Follows (history ++ cues) (p.followAll cues) := by
  induction cues generalizing history p with
  | nil =>
    rw [List.append_nil]
    exact h
  | cons cue rest ih =>
    rw [List.append_cons]
    exact ih (h.follow cue)

/-- **After every run of cues the labels and the list that is held are those that were given
last.** -/
theorem followAll_follows (history : List Cue) : Follows history (({} : Playhead).followAll history) :=
  Follows.new.followAll history

/-! ## The list under the playhead -/

theorem Follows.statements? {history : List Cue} {p : Playhead} (h : Follows history p) :
    p.statements? = p.current? history := by
  unfold Playhead.statements? current?
  cases hl : p.label? with
  | some label =>
    rw [(h.label label hl).2]
    exact h.labels label
  | none =>
    cases hs : p.loose? with
    | none => rfl
    | some statements => exact (h.loose statements hs).symm

/-- A playhead is idle just when it holds neither a label nor a loose list, and then it stands at
the start. -/
theorem Follows.idle_iff {history : List Cue} {p : Playhead} (h : Follows history p) :
    (p.standing = .idle ↔ p.label? = none ∧ p.loose? = none) ∧
      (p.standing = .idle → p.cursor = 0) := by
  have hiff : p.standing = .idle ↔ p.label? = none ∧ p.loose? = none := by
    unfold standing Playhead.statements?
    cases hl : p.label? with
    | some label =>
      -- the label is known, so it has a list
      have hknown := (h.label label hl).1
      unfold hasLabel Keyed.has at hknown
      obtain ⟨statements, hs⟩ := Option.isSome_iff_exists.mp hknown
      simp only [hs]
      split <;> simp
    | none =>
      cases hs : p.loose? with
      | none => simp
      | some statements =>
        simp only
        split <;> simp
  refine ⟨hiff, fun idle => ?_⟩
  obtain ⟨hl, hs⟩ := hiff.mp idle
  exact h.rest hl hs

/-! ## The place in the list -/

theorem take_eq (p : Playhead) :
    p.take = match p.statements?.bind (·[p.cursor]?) with
      | some statement => (.ok statement, { p with cursor := p.cursor + 1 })
      | none => (.error .noStatement, p) := by
  unfold Playhead.take
  cases p.statements? with
  | none => rfl
  | some statements =>
    rw [Option.bind_some]
    cases h : statements[p.cursor]? <;> simp only [h]

/-- A cue that begins a list puts the playhead at the start. -/
theorem cursor_follow_of_opens (p : Playhead) {cue : Cue} (opens : cue.opens = true) :
    (p.follow cue).cursor = 0 := by
  cases cue with
  | define labels => cases opens
  | load v =>
    rw [follow_load]
    cases hv : v.members? with
    | none => simp [Cue.opens, hv] at opens
    | some members => rfl
  | start label => rw [follow_start]
  | take => cases opens
  | reset => rfl

/-- Any other cue moves the playhead by the statement that it takes. -/
theorem cursor_follow (p : Playhead) {cue : Cue} (quiet : cue.opens = false) :
    (p.follow cue).cursor = p.cursor + (p.given? cue).toList.length := by
  cases cue with
  | define labels =>
    rw [follow, (defineAll_snd labels p).2]
    rfl
  | load v =>
    rw [follow_load]
    cases hv : v.members? with
    | none => rfl
    | some members => simp [Cue.opens, hv] at quiet
  | start label => cases quiet
  | take =>
    rw [follow, given?, take_eq]
    cases p.statements?.bind (·[p.cursor]?) <;> rfl
  | reset => cases quiet

/-- **While no list is begun, the place in the list counts the statements that are taken.** -/
theorem cursor_followAll (p : Playhead) {cues : List Cue}
    (quiet : ∀ cue ∈ cues, cue.opens = false) :
    (p.followAll cues).cursor = p.cursor + (p.taken cues).length := by
  induction cues generalizing p with
  | nil => rfl
  | cons cue rest ih =>
    have hfirst := cursor_follow p (quiet cue List.mem_cons_self)
    have hrest := ih (p.follow cue) fun other hm => quiet other (List.mem_cons_of_mem _ hm)
    show ((p.follow cue).followAll rest).cursor = _
    rw [hrest, hfirst, taken, List.length_append, Nat.add_assoc]

/-! ## Idleness -/

theorem idle_follow {p : Playhead} (idle : p.label? = none ∧ p.loose? = none) {cue : Cue}
    (stays : cue.begins = false) : (p.follow cue).label? = none ∧ (p.follow cue).loose? = none := by
  cases cue with
  | define labels =>
    rw [follow, (defineAll_snd labels p).2]
    exact idle
  | load v =>
    rw [follow_load]
    cases hv : v.members? with
    | none => exact idle
    | some members => simp [Cue.begins, Cue.opens, hv] at stays
  | start label => cases stays
  | take =>
    rw [follow, take_eq]
    cases p.statements?.bind (·[p.cursor]?) <;> exact idle
  | reset => exact ⟨rfl, rfl⟩

/-- A playhead that holds nothing holds nothing until a list is begun. -/
theorem idle_followAll {p : Playhead} (idle : p.label? = none ∧ p.loose? = none) {cues : List Cue}
    (stays : ∀ cue ∈ cues, cue.begins = false) :
    (p.followAll cues).label? = none ∧ (p.followAll cues).loose? = none := by
  induction cues generalizing p with
  | nil => exact idle
  | cons cue rest ih =>
    have hfirst := idle_follow idle (stays cue List.mem_cons_self)
    exact ih hfirst fun other hm => stays other (List.mem_cons_of_mem _ hm)

theorem idle_start {p : Playhead} {label : Value} (unknown : p.hasLabel label = false)
    (key : label.keyFault? = none) :
    (p.follow (.start label)).label? = none ∧ (p.follow (.start label)).loose? = none := by
  rw [follow_start]
  simp [key, unknown]

/-! ## Every run -/

/-- **A playhead takes the statements of a list one after the other, each from the list as it is
then.**  Whatever it was asked to do: it holds a label that is defined, or a loose list, or it is
idle and stands at the start; since a list was begun, the next statement that it takes is the one
whose place is the number of those that were taken since, in the last list that was loaded or that
the label was given; and after an unknown label was started it is idle until a list is begun. -/
theorem taken_in_order (history : List Cue) :
    let p := ({} : Playhead).followAll history
    (∀ label, p.label? = some label → p.hasLabel label = true ∧ p.loose? = none) ∧
      (p.standing = .idle ↔ p.label? = none ∧ p.loose? = none) ∧
      (p.standing = .idle → p.cursor = 0) ∧
      (∀ before opening between, history = before ++ opening :: between →
        opening.opens = true → (∀ cue ∈ between, cue.opens = false) →
          let begun := ({} : Playhead).followAll (before ++ [opening])
          p.take = match (p.current? history).bind (·[(begun.taken between).length]?) with
            | some statement => (.ok statement, { p with cursor := p.cursor + 1 })
            | none => (.error .noStatement, p)) ∧
      (∀ before label between, history = before ++ .start label :: between →
        label.keyFault? = none → (({} : Playhead).followAll before).hasLabel label = false →
          (∀ cue ∈ between, cue.begins = false) → p.standing = .idle) := by
  intro p
  have hfollows : Follows history p := followAll_follows history
  refine ⟨hfollows.label, hfollows.idle_iff.1, hfollows.idle_iff.2, ?_, ?_⟩
  · rintro before opening between rfl opens quiet begun
    have hp : p = begun.followAll between := by
      show ({} : Playhead).followAll _ = (({} : Playhead).followAll _).followAll _
      rw [← followAll_append, List.append_assoc]
      rfl
    have hzero : begun.cursor = 0 := by
      show (({} : Playhead).followAll (before ++ [opening])).cursor = 0
      rw [followAll_append]
      exact cursor_follow_of_opens _ opens
    have hcursor : p.cursor = (begun.taken between).length := by
      rw [hp, cursor_followAll begun quiet, hzero, Nat.zero_add]
    rw [take_eq, hfollows.statements?, hcursor]
  · rintro before label between rfl key unknown stays
    have hp : p = ((({} : Playhead).followAll before).follow (.start label)).followAll between :=
      followAll_append before (.start label :: between) {}
    have hidle := idle_followAll (idle_start unknown key) stays
    rw [← hp] at hidle
    exact hfollows.idle_iff.1.mpr hidle

/-- A label of three statements is started, one of them is taken, and the label is given two other
statements. -/
def revised : List Cue :=
  [.define [(.text "a", .ofList [.text "one", .text "two", .text "three"])], .start (.text "a"),
    .take, .define [(.text "a", .ofList [.text "first", .text "second"])]]

/-- A label is started before it is defined. -/
def premature : List Cue :=
  [.start (.text "a"), .define [(.text "a", .ofList [.text "one"])], .take]

/-- The general theorem for these two runs. -/
theorem taken_in_order_revised :
    (({} : Playhead).followAll revised).take.1 = .ok (.text "second") ∧
      (({} : Playhead).followAll premature).standing = .idle := by
  constructor
  · have htake := (taken_in_order revised).2.2.2.1 (revised.take 1) (.start (.text "a"))
      (revised.drop 2) rfl rfl (by decide)
    rw [htake]
    rfl
  · exact (taken_in_order premature).2.2.2.2 [] (.text "a") (premature.drop 1) rfl rfl rfl
      (by decide)

end Playhead

end Dialogue
