import Dialogue.Options.Merge
import Mathlib.Data.List.Induction

/-!
# What merged layers hold

Layers are merged one after the other, each laid over what those before it have made.  Here the
outcome is told from the layers themselves: only those at the end that are of one kind count, and
what a key holds is told in the same way from the values that these layers have under it.

## Results

* `exists_run` — layers end in a longest run of one kind.
* `get?_layEntries`, `Distinct.layEntries` — what a mapping holds after entries were laid over it.
* `Stacked.snoc` — what a key holds when one more value is put under it.
* `merge_run` — the layers before the last ones of one kind do not count.
* `merge_layered` — what merged layers are, told from the layers alone.
-/

set_option autoImplicit false

namespace Dialogue.Value

/-! ## The last layers of one kind -/

/-- The layers of a kind at the end of others: as many as there are. -/
structure Run (before run : List Value) (kind : Kind) : Prop where
  nonempty : run ≠ []
  same : ∀ v ∈ run, v.kind = kind
  stops : ∀ v, before.getLast? = some v → v.kind ≠ kind

theorem Run.single {before : List Value} {v : Value}
    (stops : ∀ u, before.getLast? = some u → u.kind ≠ v.kind) : Run before [v] v.kind where
  nonempty := List.cons_ne_nil v []
  same := by simp
  stops := stops

theorem Run.snoc {before run : List Value} {v : Value} (h : Run before run v.kind) :
    Run before (run ++ [v]) v.kind where
  nonempty := by simp
  same := by
    intro u hu
    rcases List.mem_append.mp hu with hu | hu
    · exact h.same u hu
    · rw [List.mem_singleton.mp hu]
  stops := h.stops

theorem Run.last {before run : List Value} {kind : Kind} (h : Run before run kind) :
    ∃ v, (before ++ run).getLast? = some v ∧ v.kind = kind := by
  have hlast := List.getLast?_eq_some_getLast h.nonempty
  refine ⟨run.getLast h.nonempty, ?_, h.same _ (List.getLast_mem h.nonempty)⟩
  rw [List.getLast?_append, hlast, Option.some_or]

theorem Run.getLast?_kind {before run : List Value} {kind : Kind} (h : Run before run kind)
    {v : Value} (hv : (before ++ run).getLast? = some v) : v.kind = kind := by
  obtain ⟨u, hu, hkind⟩ := h.last
  rw [hv] at hu
  cases hu
  exact hkind

/-- One more layer goes on with the last ones, or stands alone. -/
theorem Run.next {before run : List Value} {kind : Kind} (h : Run before run kind) (v : Value) :
    (v.kind = kind ∧ Run before (run ++ [v]) v.kind) ∨
      (v.kind ≠ kind ∧ Run (before ++ run) [v] v.kind) := by
  by_cases hkind : v.kind = kind
  · subst hkind
    exact .inl ⟨rfl, h.snoc⟩
  · refine .inr ⟨hkind, .single fun u hu hsame => hkind ?_⟩
    rw [← hsame, h.getLast?_kind hu]

theorem exists_run {layers : List Value} (h : layers ≠ []) :
    ∃ before run kind, layers = before ++ run ∧ Run before run kind := by
  induction layers using List.reverseRecOn with
  | nil => exact absurd rfl h
  | append_singleton layers v ih =>
    by_cases hnil : layers = []
    · subst hnil
      exact ⟨[], [v], v.kind, rfl, .single (by simp)⟩
    · obtain ⟨before, run, kind, rfl, hrun⟩ := ih hnil
      rcases hrun.next v with ⟨-, hnext⟩ | ⟨-, hnext⟩
      · exact ⟨before, run ++ [v], v.kind, List.append_assoc .., hnext⟩
      · exact ⟨before ++ run, [v], v.kind, rfl, hnext⟩

/-! ## One more layer -/

theorem merge_snoc {layers : List Value} (h : layers ≠ []) (v : Value) :
    merge (layers ++ [v]) = lay (merge layers) v := by
  cases layers with
  | nil => exact absurd rfl h
  | cons first rest => rw [List.cons_append, merge_append, List.foldl_cons, List.foldl_nil]

theorem lay_of_kind_ne {below v : Value} (h : below.kind ≠ v.kind) : lay below v = v.owned := by
  cases v <;> cases below <;> simp_all [lay, owned, kind]

theorem lay_of_scalar {v : Value} (h : v.kind = .scalar) (below : Value) : lay below v = v := by
  cases v <;> simp_all [lay, kind]

theorem lay_owned (below v : Value) : lay below.owned v = lay below v := by
  cases v <;> cases below <;> rfl

/-- The last layer decides the kind of the result. -/
theorem merge_concat_kind (layers : List Value) (v : Value) :
    (merge (layers ++ [v])).kind = v.kind := by
  by_cases hnil : layers = []
  · rw [hnil, List.nil_append]
    exact owned_kind v
  · rw [merge_snoc hnil, lay_kind]

theorem merge_kind {before run : List Value} {kind : Kind} (h : Run before run kind) :
    (merge (before ++ run)).kind = kind := by
  cases hlast : (before ++ run) using List.reverseRecOn with
  | nil => exact absurd (List.append_eq_nil_iff.mp hlast).2 h.nonempty
  | append_singleton layers v =>
    rw [merge_concat_kind]
    exact h.getLast?_kind (by rw [hlast, List.getLast?_concat])

/-- The layers before the last ones of one kind do not count. -/
theorem merge_run {before run : List Value} {kind : Kind} (h : Run before run kind) :
    merge (before ++ run) = merge run := by
  obtain ⟨nonempty, same, stops⟩ := h
  induction run using List.reverseRecOn with
  | nil => exact absurd rfl nonempty
  | append_singleton run v ih =>
    by_cases hnil : run = []
    · subst hnil
      by_cases hbefore : before = []
      · rw [hbefore, List.nil_append]
      · obtain ⟨front, below, kind', hsplit, hbelow⟩ := exists_run hbefore
        obtain ⟨u, hu, hkind⟩ := hbelow.last
        rw [← hsplit] at hu
        have hne : (merge before).kind ≠ v.kind := by
          rw [hsplit, merge_kind hbelow, ← hkind, same v (by simp)]
          exact stops u hu
        rw [List.nil_append, merge_snoc hbefore, lay_of_kind_ne hne]
        rfl
    · have hsame : ∀ u ∈ run, u.kind = kind := fun u hu => same u (List.mem_append_left _ hu)
      rw [← List.append_assoc, merge_snoc (by simp [hnil]), ih hnil hsame, merge_snoc hnil]

/-! ## One more entry -/

/-- No key of a mapping comes twice. -/
def Distinct : Value → Prop
  | .tree _ es => Table.Distinct es
  | _ => True

instance : DecidablePred Distinct := fun v =>
  match v with
  | .tree _ es => inferInstanceAs (Decidable (Table.keys es).Nodup)
  | .list .. | .null | .flag _ | .int _ | .double _ | .text _ | .choice .. =>
    inferInstanceAs (Decidable True)

/-- What a key holds when one more value is put under it. -/
def onto (held : Option Value) (v : Value) : Value :=
  match held with
  | some u => if u.kind = v.kind ∧ v.kind ≠ .scalar then lay u v else v
  | none => v

theorem onto_kind (held : Option Value) (v : Value) : (onto held v).kind = v.kind := by
  cases held with
  | none => rfl
  | some u =>
    simp only [onto]
    split
    · exact lay_kind u v
    · rfl

theorem onto_of_kind_ne {u v : Value} (h : u.kind ≠ v.kind) : onto (some u) v = v :=
  if_neg fun hc => h hc.1

theorem onto_of_scalar (held : Option Value) {v : Value} (h : v.kind = .scalar) :
    onto held v = v := by
  cases held with
  | none => rfl
  | some u => exact if_neg fun hc => hc.2 h

theorem onto_of_kind_eq {u v : Value} (h : u.kind = v.kind) (nested : v.kind ≠ .scalar) :
    onto (some u) v = lay u v :=
  if_pos ⟨h, nested⟩

theorem onto_of_trees {u v : Value} (hu : u.kind = .tree) (hv : v.kind = .tree) :
    onto (some u) v = lay u v :=
  onto_of_kind_eq (hu.trans hv.symm) (by simp [hv])

theorem layEntries_cons (below : Table Value) (key : String) (v : Value) (rest : Table Value) :
    layEntries below ((key, v) :: rest) =
      layEntries (Table.put below key (onto (Table.get? below key) v)) rest :=
  rfl

theorem get?_layEntries {es : Table Value} (distinct : Table.Distinct es) (below : Table Value)
    (key : String) :
    Table.get? (layEntries below es) key =
      (Table.get? es key).elim (Table.get? below key) fun v =>
        some (onto (Table.get? below key) v) := by
  induction es generalizing below with
  | nil => rfl
  | cons e rest ih =>
    obtain ⟨k, v⟩ := e
    obtain ⟨hk, hrest⟩ := List.nodup_cons.mp distinct
    rw [layEntries_cons, ih hrest]
    by_cases hkey : k = key
    · subst hkey
      have hnone : Table.get? rest k = none := (Table.get?_eq_none_iff rest k).mpr hk
      simp [Table.get?, hnone, Table.get?_put_self]
    · simp only [Table.get?, if_neg hkey, Table.get?_put_of_ne _ _ (Ne.symm hkey)]

theorem distinct_layEntries {below : Table Value} (h : Table.Distinct below) (es : Table Value) :
    Table.Distinct (layEntries below es) := by
  induction es generalizing below with
  | nil => exact h
  | cons e rest ih => exact ih (h.put e.1 _)

/-! ## Values under one key -/

/-- What values of a kind leave under a key: a value that is alone stays as it is, of scalars the
last one stays, and all others are merged. -/
inductive Leaves : List Value → Kind → Value → Prop where
  | alone {v : Value} {kind : Kind} : Leaves [v] kind v
  | scalar {run : List Value} {v : Value} (last : run.getLast? = some v) : Leaves run .scalar v
  | merged {run : List Value} {kind : Kind} (several : 2 ≤ run.length)
    (nested : kind ≠ .scalar) : Leaves run kind (merge run)

/-- What a key holds after values were put under it one after the other. -/
inductive Stacked : List Value → Option Value → Prop where
  | nothing : Stacked [] none
  | something {before run : List Value} {kind : Kind} {v : Value} (ends : Run before run kind)
    (leaves : Leaves run kind v) : Stacked (before ++ run) (some v)

theorem Leaves.kind_eq {before run : List Value} {kind : Kind} {v : Value}
    (ends : Run before run kind) (h : Leaves run kind v) : v.kind = kind := by
  cases h with
  | alone => exact ends.same v List.mem_cons_self
  | scalar last => exact ends.same v (List.mem_of_getLast? last)
  | merged => rw [← merge_run ends, merge_kind ends]

/-- One more value of the same kind is laid over what the others leave. -/
theorem Leaves.snoc {before run : List Value} {kind : Kind} {u v : Value}
    (ends : Run before run kind) (h : Leaves run kind u) (same : v.kind = kind) :
    Leaves (run ++ [v]) kind (onto (some u) v) := by
  have hu : u.kind = v.kind := (h.kind_eq ends).trans same.symm
  by_cases hscalar : kind = .scalar
  · rw [onto_of_scalar _ (same.trans hscalar), hscalar]
    exact .scalar List.getLast?_concat
  · have honto : onto (some u) v = lay u v := onto_of_kind_eq hu fun h => hscalar (same ▸ h)
    have hlay : lay u v = merge (run ++ [v]) := by
      rw [merge_snoc ends.nonempty]
      cases h with
      | alone => exact (lay_owned u v).symm
      | scalar => exact absurd rfl hscalar
      | merged => rfl
    rw [honto, hlay]
    refine .merged ?_ hscalar
    have := List.length_pos_iff.mpr ends.nonempty
    rw [List.length_append, List.length_singleton]
    omega

/-- One more value is put under a key. -/
theorem Stacked.snoc {values : List Value} {held : Option Value} (h : Stacked values held)
    (v : Value) : Stacked (values ++ [v]) (some (onto held v)) := by
  cases h with
  | nothing =>
    have hrun : Run [] [v] v.kind := .single (by simp)
    exact .something hrun .alone
  | @something before run kind u ends leaves =>
    rcases ends.next v with ⟨hkind, hnext⟩ | ⟨hkind, hnext⟩
    · rw [List.append_assoc]
      rw [hkind] at hnext
      exact .something hnext (leaves.snoc ends hkind)
    · have hu : u.kind = kind := leaves.kind_eq ends
      rw [onto_of_kind_ne fun h => hkind (h.symm.trans hu)]
      exact .something hnext .alone

theorem Stacked.isSome_iff {values : List Value} {held : Option Value} (h : Stacked values held) :
    held.isSome = true ↔ values ≠ [] := by
  cases h with
  | nothing => simp
  | something ends => simp [ends.nonempty]

/-! ## All layers -/

/-- The items of a list. -/
def items : Value → List Value
  | .list _ items => items
  | _ => []

/-- What layers of one kind make: of scalars the last one, of lists the one that goes through all of
their items, and of mappings one that has the keys of all of them. -/
inductive Layered (run : List Value) : Kind → Value → Prop where
  | scalar {v : Value} (last : run.getLast? = some v) : Layered run .scalar v
  | list : Layered run .list (.ofList (run.flatMap items))
  | tree {es : Table Value} (distinct : Table.Distinct es)
    (keys : ∀ key, key ∈ Table.keys es ↔ ∃ v ∈ run, (v.get? key).isSome = true)
    (values : ∀ key, Stacked (run.filterMap fun v => v.get? key) (Table.get? es key)) :
    Layered run .tree (.ofTable es)

theorem Layered.of_values {run : List Value} {es : Table Value} (distinct : Table.Distinct es)
    (values : ∀ key, Stacked (run.filterMap fun v => v.get? key) (Table.get? es key)) :
    Layered run .tree (.ofTable es) := by
  refine .tree distinct (fun key => ?_) values
  rw [← Table.get?_isSome_iff, (values key).isSome_iff]
  simp [List.filterMap_eq_nil_iff, Option.isSome_iff_ne_none]

theorem layered_single {v : Value} (distinct : v.Distinct) : Layered [v] v.kind v.owned := by
  cases v with
  | tree form es =>
    refine .of_values distinct fun key => ?_
    have hkey : (Value.tree form es).get? key = Table.get? es key := rfl
    cases hes : Table.get? es key with
    | none => simpa [hkey, hes] using Stacked.nothing
    | some u => simpa [hkey, hes, onto] using Stacked.nothing.snoc u
  | list form vs =>
    have hlist : Layered [.list form vs] .list (.ofList ([Value.list form vs].flatMap items)) :=
      .list
    rw [List.flatMap_singleton] at hlist
    exact hlist
  | null | flag | int | double | text | choice => exact .scalar rfl

theorem Layered.snoc {run : List Value} {below v : Value} (distinct : v.Distinct)
    (h : Layered run v.kind below) : Layered (run ++ [v]) v.kind (lay below v) := by
  by_cases hscalar : v.kind = .scalar
  · rw [hscalar, lay_of_scalar hscalar]
    exact .scalar List.getLast?_concat
  cases v with
  | tree form ds =>
    cases h with
    | @tree es hdistinct keys values =>
      refine .of_values (distinct_layEntries hdistinct ds) fun key => ?_
      have hkey : (Value.tree form ds).get? key = Table.get? ds key := rfl
      rw [List.filterMap_append, get?_layEntries distinct]
      cases hds : Table.get? ds key with
      | none => simpa [hkey, hds] using values key
      | some u => simpa [hkey, hds] using (values key).snoc u
  | list form vs =>
    cases h with
    | list =>
      have hlist : Layered (run ++ [.list form vs]) .list
          (.ofList ((run ++ [Value.list form vs]).flatMap items)) := .list
      rw [List.flatMap_append, List.flatMap_singleton] at hlist
      exact hlist
  | null | flag | int | double | text | choice => exact absurd rfl hscalar

theorem layered_run {run : List Value} {kind : Kind} (nonempty : run ≠ [])
    (same : ∀ v ∈ run, v.kind = kind) (distinct : ∀ v ∈ run, v.Distinct) :
    Layered run kind (merge run) := by
  induction run using List.reverseRecOn with
  | nil => exact absurd rfl nonempty
  | append_singleton run v ih =>
    have hkind : v.kind = kind := same v (by simp)
    have hdistinct : v.Distinct := distinct v (by simp)
    by_cases hnil : run = []
    · rw [hnil, ← hkind]
      exact layered_single hdistinct
    · have hrun := ih hnil (fun u hu => same u (List.mem_append_left _ hu))
        fun u hu => distinct u (List.mem_append_left _ hu)
      rw [← hkind] at hrun ⊢
      rw [merge_snoc hnil]
      exact hrun.snoc hdistinct

/-- **Merged layers are what their last layers of one kind make.**  Of scalars that is the last one,
of lists all items in order, and of mappings the one with all their keys, where a key holds what
the values under it leave: the last ones of one kind, merged when there are several. -/
theorem merge_layered {layers : List Value} (nonempty : layers ≠ [])
    (distinct : ∀ v ∈ layers, v.Distinct) :
    ∃ before run kind, layers = before ++ run ∧ Run before run kind ∧
      merge layers = merge run ∧ Layered run kind (merge run) := by
  obtain ⟨before, run, kind, rfl, hrun⟩ := exists_run nonempty
  refine ⟨before, run, kind, rfl, hrun, merge_run hrun, ?_⟩
  exact layered_run hrun.nonempty hrun.same fun v hv => distinct v (List.mem_append_right before hv)

/-- Layers of several kinds, with a list in a form that is not our own. -/
def motley : List Value :=
  [.ofTable [("position", .text "top")], .list .foreign [.int 1],
   .ofTable [("tags", .list .foreign [.text "a"]), ("box", .ofTable [("width", .int 1)])],
   .tree .foreign [("tags", .ofList [.text "b"]), ("box", .int 2)],
   .ofTable [("box", .ofTable [("margin", .int 3)])]]

/-- The general theorem for layers of several kinds, where three count. -/
theorem merge_layered_motley : (∀ v ∈ motley, v.Distinct) ∧
    ∃ before run kind, motley = before ++ run ∧ Run before run kind ∧
      merge motley = merge run ∧ Layered run kind (merge run) := by
  have distinct : ∀ v ∈ motley, v.Distinct := by decide
  exact ⟨distinct, merge_layered (List.cons_ne_nil _ _) distinct⟩

example : merge motley = .ofTable
    [("tags", .ofList [.text "a", .text "b"]), ("box", .ofTable [("margin", .int 3)])] := by
  decide

end Dialogue.Value
