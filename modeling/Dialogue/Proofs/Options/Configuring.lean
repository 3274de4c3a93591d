import Dialogue.Proofs.Options.Precedence
import Mathlib.Data.List.TakeWhile

/-!
# What updates do to settings

An update takes its options one after the other, up to the first one that the settings do not know.
Whether it is refused for that one or not, the settings are then the old ones with the options that it
took laid over them.  So an update that is refused changes nothing just when none of the options before
the unknown one changes anything.

## Results

* `update_eq` — how an update ends, and what it leaves.
* `update_refused_iff` — when an update is refused, what it leaves, and when that is nothing new.
-/

set_option autoImplicit false

namespace Dialogue

namespace Settings

/-! ## One update -/

/-- Is this the name of a setting? -/
def isName (name : Value) : Bool :=
  names.any fun known => name == .text known

/-- The options that an update takes: those before the first one that is unknown. -/
def taken (options : Keyed Value) : Keyed Value :=
  options.takeWhile fun e => isName e.1

/-- What options give under a name. -/
def under (name : String) (options : Keyed Value) : List Value :=
  options.filterMap fun e => if e.1 = .text name then some e.2 else none

/-- Settings with options laid over them. -/
def overlaid (s : Settings) (options : Keyed Value) : Settings where
  prompt := (under "show_next_prompt" options).getLast?.elim s.prompt fun v => .flag v.truthy
  pop := (under "pop" options).foldl Value.lay s.pop
  vn := (under "vn" options).foldl Value.lay s.vn

theorem isName_iff (name : Value) :
    isName name = true ↔
      name = .text "show_next_prompt" ∨ name = .text "pop" ∨ name = .text "vn" := by
  simp [isName, names]

theorem under_cons_self (name : String) (v : Value) (rest : Keyed Value) :
    under name ((.text name, v) :: rest) = v :: under name rest :=
  List.filterMap_cons_some (if_pos rfl)

theorem under_cons_of_ne {name : Value} {other : String} (h : name ≠ .text other) (v : Value)
    (rest : Keyed Value) : under other ((name, v) :: rest) = under other rest :=
  List.filterMap_cons_none (if_neg h)

theorem overlaid_cons (s : Settings) (e : Value × Value) (rest : Keyed Value) :
    s.overlaid (e :: rest) = (s.overlaid [e]).overlaid rest := by
  obtain ⟨name, v⟩ := e
  have hone : ∀ other : String, under other ((name, v) :: rest) =
      under other [(name, v)] ++ under other rest := by
    intro other
    by_cases h : name = .text other
    · subst h
      simp only [under_cons_self]
      rfl
    · simp only [under_cons_of_ne h]
      rfl
  have hlast : ∀ front back : List Value,
      (front ++ back).getLast?.elim s.prompt (fun u => Value.flag u.truthy) =
        back.getLast?.elim (front.getLast?.elim s.prompt fun u => .flag u.truthy)
          fun u => .flag u.truthy := by
    intro front back
    rw [List.getLast?_append]
    cases back.getLast? <;> rfl
  simp only [overlaid, hone, hlast, List.foldl_append]

/-- One option that is known is laid over the settings, any other is refused. -/
theorem set_eq (s : Settings) (name v : Value) :
    s.set name v =
      if isName name then .ok (s.overlaid [(name, v)]) else .error (.unknownOption name) := by
  have hmerge : ∀ below : Value, Value.merge [below, v] = Value.lay below v :=
    fun below => Value.lay_owned below v
  unfold set
  split
  · rename_i hname
    subst hname
    rfl
  · split
    · rename_i hname
      subst hname
      rw [hmerge]
      rfl
    · split
      · rename_i hname
        subst hname
        rw [hmerge]
        rfl
      · rename_i hprompt hpop hvn
        have hno : ¬isName name = true := by
          rw [isName_iff]
          rintro (h | h | h)
          exacts [hprompt h, hpop h, hvn h]
        rw [if_neg hno]

/-- **How an update ends, and what it leaves.**  It is refused for the first option that is unknown;
in any case the options that it took are laid over the settings. -/
theorem update_eq (options : Keyed Value) (s : Settings) :
    update options s =
      ((options.find? fun e => !isName e.1).elim (.ok ()) fun e => .error (.unknownOption e.1),
        s.overlaid (taken options)) := by
  induction options generalizing s with
  | nil => rfl
  | cons e rest ih =>
    obtain ⟨name, v⟩ := e
    unfold update
    rw [set_eq]
    cases hname : isName name with
    | true =>
      have htaken : taken ((name, v) :: rest) = (name, v) :: taken rest :=
        List.takeWhile_cons_of_pos hname
      have hfind : (((name, v) :: rest).find? fun e => !isName e.1) =
          rest.find? fun e => !isName e.1 :=
        List.find?_cons_of_neg (by simp [hname])
      rw [if_pos rfl, htaken, hfind, overlaid_cons s (name, v) (taken rest)]
      exact ih (s.overlaid [(name, v)])
    | false =>
      have htaken : taken ((name, v) :: rest) = [] :=
        List.takeWhile_cons_of_neg (by simp [hname])
      have hfind : (((name, v) :: rest).find? fun e => !isName e.1) = some (name, v) :=
        List.find?_cons_of_pos (by simp [hname])
      rw [if_neg Bool.false_ne_true, htaken, hfind]
      rfl

theorem update_snd (options : Keyed Value) (s : Settings) :
    (update options s).2 = s.overlaid (taken options) :=
  congrArg Prod.snd (update_eq options s)

theorem taken_of_known {options : Keyed Value} (known : ∀ e ∈ options, isName e.1 = true) :
    taken options = options :=
  List.takeWhile_eq_self_iff.mpr known

theorem taken_of_unknown {before : Keyed Value} (known : ∀ e ∈ before, isName e.1 = true)
    {e : Value × Value} (unknown : isName e.1 = false) (after : Keyed Value) :
    taken (before ++ e :: after) = before := by
  unfold taken
  rw [List.takeWhile_append_of_pos known, List.takeWhile_cons_of_neg (by simp [unknown]),
    List.append_nil]

/-! ## Updates that are refused -/

/-- Options that give under each name what others do, or nothing, change nothing if these others
change nothing. -/
theorem overlaid_eq_self {s : Settings} {options others : Keyed Value}
    (same : ∀ name, under name options = under name others ∨ under name options = [])
    (still : s.overlaid others = s) : s.overlaid options = s := by
  have hprompt := congrArg prompt still
  have hpop := congrArg pop still
  have hvn := congrArg vn still
  have hone : ∀ {α : Type} (name : String) (read : List Value → α) (a : α),
      read [] = a → read (under name others) = a → read (under name options) = a := by
    intro α name read a hnil hothers
    rcases same name with h | h
    · rw [h]
      exact hothers
    · rw [h]
      exact hnil
  calc s.overlaid options = ⟨s.prompt, s.pop, s.vn⟩ := by
        unfold overlaid
        rw [hone "show_next_prompt" (fun vs => vs.getLast?.elim s.prompt fun v => .flag v.truthy)
            s.prompt rfl hprompt,
          hone "pop" (fun vs => vs.foldl Value.lay s.pop) s.pop rfl hpop,
          hone "vn" (fun vs => vs.foldl Value.lay s.vn) s.vn rfl hvn]
    _ = s := rfl

theorem under_of_not_mem {options : Keyed Value} {name : String}
    (h : Value.text name ∉ Table.keys options) : under name options = [] := by
  refine List.filterMap_eq_nil_iff.mpr fun e he => if_neg fun hname => h ?_
  rw [← hname]
  exact List.mem_map_of_mem he

theorem under_of_mem {options : Keyed Value} (distinct : Table.Distinct options) {name : String}
    {v : Value} (h : (.text name, v) ∈ options) : under name options = [v] := by
  induction options with
  | nil => cases h
  | cons e rest ih =>
    obtain ⟨hnot, hrest⟩ := List.nodup_cons.mp distinct
    rcases List.mem_cons.mp h with rfl | h
    · rw [under_cons_self, under_of_not_mem hnot]
    · have hne : e.1 ≠ .text name := by
        intro hname
        apply hnot
        rw [hname]
        exact List.mem_map_of_mem h
      rw [under_cons_of_ne hne, ih hrest h]

/-- Options with different names change nothing together just when none of them does alone. -/
theorem overlaid_eq_self_iff {s : Settings} {options : Keyed Value}
    (distinct : Table.Distinct options) :
    s.overlaid options = s ↔ ∀ e ∈ options, s.overlaid [e] = s := by
  constructor
  · rintro still ⟨name, v⟩ he
    refine overlaid_eq_self (fun other => ?_) still
    by_cases hname : name = .text other
    · subst hname
      exact .inl ((under_cons_self other v []).trans (under_of_mem distinct he).symm)
    · exact .inr (under_cons_of_ne hname v [])
  · intro still
    induction options with
    | nil => rfl
    | cons e rest ih =>
      rw [overlaid_cons, still e List.mem_cons_self]
      exact ih (List.nodup_cons.mp distinct).2 fun e he => still e (List.mem_cons_of_mem _ he)

/-- **When an update is refused, what it leaves, and when that is nothing new.**  It is refused for the
first option that is unknown, and the options before that one are laid over the settings.  They stay as
they were just when none of these options would change them. -/
theorem update_refused_iff {s t : Settings} {options : Keyed Value}
    (distinct : Table.Distinct options) {f : Fault} :
    update options s = (.error f, t) ↔
      ∃ before name v after, options = before ++ (name, v) :: after ∧
        (∀ e ∈ before, isName e.1 = true) ∧ isName name = false ∧ f = .unknownOption name ∧
        t = s.overlaid before ∧ (t = s ↔ ∀ e ∈ before, s.set e.1 e.2 = .ok s) := by
  have hsteps : ∀ before : Keyed Value, (∀ e ∈ before, isName e.1 = true) →
      ((∀ e ∈ before, s.set e.1 e.2 = .ok s) ↔ ∀ e ∈ before, s.overlaid [e] = s) := by
    intro before known
    refine forall₂_congr fun e he => ?_
    rw [set_eq, if_pos (known e he), Except.ok.injEq]
  rw [update_eq, Prod.mk.injEq]
  constructor
  · rintro ⟨hend, rfl⟩
    cases hfind : options.find? fun e => !isName e.1 with
    | none =>
      rw [hfind] at hend
      cases hend
    | some e =>
      rw [hfind] at hend
      cases hend
      obtain ⟨hname, before, after, rfl, hbefore⟩ := List.find?_eq_some_iff_append.mp hfind
      have known : ∀ e ∈ before, isName e.1 = true := fun e he => by simpa using hbefore e he
      have hname : isName e.1 = false := by simpa using hname
      rw [taken_of_unknown known hname]
      refine ⟨before, e.1, e.2, after, rfl, known, hname, rfl, rfl, ?_⟩
      rw [hsteps before known]
      refine overlaid_eq_self_iff ?_
      exact (List.nodup_append.mp (by simpa [Table.Distinct, Table.keys] using distinct)).1
  · rintro ⟨before, name, v, after, rfl, known, hname, rfl, rfl, -⟩
    refine ⟨?_, congrArg s.overlaid (taken_of_unknown known hname after)⟩
    rw [List.find?_append, List.find?_eq_none.mpr fun e he => by simp [known e he],
      List.find?_cons_of_pos (by simp [hname])]
    rfl

/-- An update that places boxes in the middle, and gives an option that nobody knows. -/
def colourful : Keyed Value :=
  [(.text "pop", .ofTable [("position", .text "center")]), (.text "colour", .text "red")]

/-- The general theorem for an update that is refused and yet changes something. -/
theorem update_refused_colourful : Table.Distinct colourful ∧
    ∃ before name v after, colourful = before ++ (name, v) :: after ∧
      (∀ e ∈ before, isName e.1 = true) ∧ isName name = false ∧
      Fault.unknownOption (.text "colour") = .unknownOption name ∧
      (update colourful {}).2 = ({} : Settings).overlaid before ∧
      ((update colourful {}).2 = {} ↔ ∀ e ∈ before, ({} : Settings).set e.1 e.2 = .ok {}) := by
  have distinct : Table.Distinct colourful := by
    unfold Table.Distinct
    decide
  have refused : update colourful {} =
      (.error (.unknownOption (.text "colour")), (update colourful {}).2) := rfl
  exact ⟨distinct, (update_refused_iff distinct).mp refused⟩

/-- An update that is refused can change the settings, and does so or not as its options are
ordered. -/
theorem update_refused_changes :
    (∃ t, update colourful {} = (.error (.unknownOption (.text "colour")), t) ∧
      t.pop.at? ["position"] = some (.text "center") ∧ t ≠ {}) ∧
    update colourful.reverse {} = (.error (.unknownOption (.text "colour")), {}) :=
  ⟨⟨_, rfl, by decide, by decide⟩, rfl⟩

end Settings

end Dialogue
