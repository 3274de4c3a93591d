import Dialogue.Library.Loading
import Dialogue.Proofs.Step

/-!
# What loading reports

Loading reports files that it cannot use, folders that it does not find, and what it has loaded in the
end.  That a command was passed over is never among its reports.

## Results

* `Library.load_quiet` — loading reports nothing of commands.
-/

set_option autoImplicit false

namespace Dialogue

/-- Does this report tell that a command was passed over? -/
def Report.skips : Report → Bool
  | .commandPassedOver _ => true
  | _ => false

/-- There is no report here that a command was passed over. -/
def Quiet (rs : List Report) : Prop :=
  ∀ r ∈ rs, r.skips = false

namespace Library

open Files

/-- More is reported, and nothing of commands. -/
def StaysQuiet (rs more : List Report) : Prop :=
  Quiet rs → Quiet more

theorem staysQuiet_frame : Step.Frame StaysQuiet :=
  ⟨fun _ quiet => quiet, fun first second quiet => second (first quiet)⟩

section

variable {α β : Type}

theorem pure_quiet (a : α) : Step.Keeps StaysQuiet (pure a : Loading α) :=
  Step.keeps_pure staysQuiet_frame a

theorem throw_quiet (f : Fault) : Step.Keeps StaysQuiet (throw f : Loading α) :=
  Step.keeps_throw staysQuiet_frame f

theorem bind_quiet {x : Loading α} {f : α → Loading β} (hx : Step.Keeps StaysQuiet x)
    (hf : ∀ a, Step.Keeps StaysQuiet (f a)) : Step.Keeps StaysQuiet (x >>= f) :=
  Step.Keeps.bind staysQuiet_frame hx hf

/-- Something else is reported, and this is the answer. -/
theorem report_quiet {r : Report} (quiet : r.skips = false) (a : α) :
    Step.Keeps StaysQuiet (Library.report r >>= fun _ => pure a) := by
  refine bind_quiet (Step.keeps_modify fun rs hrs => ?_) fun _ => pure_quiet a
  exact List.forall_mem_append.mpr ⟨hrs, List.forall_mem_singleton.mpr quiet⟩

end

theorem loadJson_quiet (form : Value → Bool) (path : Path) (n : Node) :
    Step.Keeps StaysQuiet (loadJson form path n) := by
  unfold loadJson
  split
  · exact throw_quiet _
  · exact report_quiet rfl _
  · split
    · exact report_quiet rfl _
    · exact throw_quiet _
    · split
      · exact pure_quiet _
      · exact report_quiet rfl _

theorem loadCharacterFiles_quiet (files : Table Node) (store : Table Value) :
    Step.Keeps StaysQuiet (loadCharacterFiles files store) := by
  induction files generalizing store with
  | nil => exact pure_quiet _
  | cons e rest ih =>
    exact bind_quiet (loadJson_quiet _ _ _) fun found => ih _

theorem loadCharacters_quiet (folder : Node) :
    Step.Keeps StaysQuiet (loadCharacters folder) := by
  unfold loadCharacters
  split
  · exact report_quiet rfl _
  · exact loadCharacterFiles_quiet _ _

theorem loadPages_quiet (path : Path) (n : Node) :
    Step.Keeps StaysQuiet (loadPages path n) := by
  unfold loadPages
  split
  · exact bind_quiet (loadJson_quiet _ _ _) fun _ => pure_quiet _
  · split
    · split
      · exact pure_quiet _
      · exact report_quiet rfl _
    · exact pure_quiet _

theorem loadScriptFiles_quiet (files : Table Node) (store : Pages) :
    Step.Keeps StaysQuiet (loadScriptFiles files store) := by
  induction files generalizing store with
  | nil => exact pure_quiet _
  | cons e rest ih =>
    refine bind_quiet (loadPages_quiet _ _) fun found => ?_
    cases found with
    | none => exact ih _
    | some pages => exact ih _

theorem loadScripts_quiet (folder : Node) : Step.Keeps StaysQuiet (loadScripts folder) := by
  unfold loadScripts
  split
  · exact report_quiet rfl _
  · exact throw_quiet _
  · exact loadScriptFiles_quiet _ _

/-- Loading reports nothing of commands. -/
theorem load_quiet (folder : Node) (old : Library) : Quiet (load folder old).2 := by
  have hnone : Quiet [] := by simp [Quiet]
  have hcharacters := loadCharacters_quiet folder [] hnone
  unfold load
  cases hc : (loadCharacters folder).run.run [] with
  | mk answer reports =>
    have hreports : Quiet reports := by
      rw [show reports = ((loadCharacters folder).run.run []).2 by rw [hc]]
      exact hcharacters
    cases answer with
    | error f => exact hreports
    | ok characters =>
      have hscripts := loadScripts_quiet folder reports hreports
      cases hs : (loadScripts folder).run.run reports with
      | mk answer more =>
        have hmore : Quiet more := by
          rw [show more = ((loadScripts folder).run.run reports).2 by rw [hs]]
          exact hscripts
        simp only [hs]
        cases answer with
        | error f => exact hmore
        | ok pages => exact List.forall_mem_append.mpr ⟨hmore, List.forall_mem_singleton.mpr rfl⟩

end Library

end Dialogue
