import Dialogue.Proofs.Options.Premerging
import Dialogue.Proofs.Session.Keeping

/-!
# Layers laid again

A layer of mappings and scalars alone may be laid over something any number of times: what it says is
there after the first time.  A list is different, for it is joined to what it left there before.  So a
host may change settings in one way as often as it likes, as long as it gives no lists.

## Results

* `Value.layEntries_held` — entries that are held already change nothing when they are laid again.
* `Value.lay_again` — a plain layer that is laid again changes nothing.
* `Settings.update_again` — neither do options with plain trees, whether they are refused or not.
* `Host.configure_again` — nor does a host that configures them again.
-/

set_option autoImplicit false

namespace Dialogue

namespace Value

/-! ## Plain trees -/

mutual

/-- Is this made of mappings of our own and of scalars alone? -/
def isPlain : Value → Bool
  | .tree .own es => arePlain es
  | .tree .foreign _ | .list .. => false
  | _ => true
termination_by structural v => v

/-- Are the values of all these entries plain? -/
def arePlain : List (String × Value) → Bool
  | [] => true
  | (_, v) :: rest => isPlain v && arePlain rest
termination_by structural es => es

end

theorem arePlain_iff (es : Table Value) : arePlain es = true ↔ ∀ e ∈ es, e.2.isPlain = true := by
  induction es with
  | nil => simp [arePlain]
  | cons e rest ih => simp [arePlain, ih]

/-- A plain value is a scalar or a mapping of our own. -/
theorem isPlain_cases {v : Value} (plain : v.isPlain = true) :
    v.kind = .scalar ∨ ∃ es, v = .ofTable es := by
  cases v with
  | tree form es =>
    cases form with
    | own => exact .inr ⟨es, rfl⟩
    | foreign => cases plain
  | list => cases plain
  | null | flag | int | double | text | choice => exact .inl rfl

theorem isPlain_get? {v u : Value} {key : String} (plain : v.isPlain = true)
    (hget : v.get? key = some u) : u.isPlain = true := by
  obtain ⟨form, es, rfl⟩ := exists_tree_of_get? hget
  cases form with
  | own => exact (arePlain_iff es).mp plain _ (Table.mem_of_get? hget)
  | foreign => cases plain

/-! ## Laid again -/

/-- Entries that are held already, as they would be put there, change nothing when they are laid
again. -/
theorem layEntries_held {below es : Table Value}
    (held : ∀ e ∈ es, ∃ u, Table.get? below e.1 = some u ∧ onto (some u) e.2 = u) :
    layEntries below es = below := by
  induction es with
  | nil => rfl
  | cons e rest ih =>
    obtain ⟨u, hget, honto⟩ := held e List.mem_cons_self
    rw [layEntries_cons, hget, honto, Table.put_of_get? hget]
    exact ih fun e he => held e (List.mem_cons_of_mem _ he)

/-- What a plain value leaves when it is put over another one stays when it is put there again. -/
theorem onto_again {v : Value} (plain : v.isPlain = true) (unambiguous : v.isUnambiguous = true)
    (held : Option Value) : onto (some (onto held v)) v = onto held v := by
  induction v using entry_induction generalizing held with
  | step v ih =>
    rcases isPlain_cases plain with hscalar | ⟨es, rfl⟩
    · rw [onto_of_scalar _ hscalar, onto_of_scalar _ hscalar]
    have distinct : Table.Distinct es := distinct_of_isUnambiguous unambiguous
    have hget : ∀ e ∈ es, Table.get? es e.1 = some e.2 := fun e he =>
      Table.get?_of_mem distinct he
    have hentry : ∀ e ∈ es, ∀ under, onto (some (onto under e.2)) e.2 = onto under e.2 :=
      fun e he under => ih e.1 e.2 (hget e he) (isPlain_get? plain (hget e he))
        (isUnambiguous_get? unambiguous (hget e he)) under
    by_cases htree : ∃ form ds, held = some (.tree form ds)
    · obtain ⟨form, ds, rfl⟩ := htree
      refine congrArg Value.ofTable (layEntries_held fun e he =>
        ⟨onto (Table.get? ds e.1) e.2, ?_, hentry e he (Table.get? ds e.1)⟩)
      rw [get?_layEntries distinct, hget e he, Option.elim_some]
    · -- the value stands alone, and is laid over itself then
      have halone : onto held (.ofTable es) = .ofTable es := by
        cases held with
        | none => rfl
        | some u =>
          refine onto_of_kind_ne fun hkind => htree ?_
          obtain ⟨form, ds, rfl⟩ := exists_tree_of_kind hkind
          exact ⟨form, ds, rfl⟩
      rw [halone]
      exact congrArg Value.ofTable (layEntries_held fun e he => ⟨_, hget e he, hentry e he none⟩)

/-- **A plain layer that is laid again changes nothing.** -/
theorem lay_again {b : Value} (plain : b.isPlain = true) (unambiguous : b.isUnambiguous = true)
    (a : Value) : lay (lay a b) b = lay a b := by
  by_cases hscalar : b.kind = .scalar
  · rw [lay_of_scalar hscalar, lay_of_scalar hscalar]
  have hlaid : (lay a b).kind = b.kind := lay_kind a b
  by_cases hkind : a.kind = b.kind
  · calc lay (lay a b) b = onto (some (onto (some a) b)) b := by
          rw [onto_of_kind_eq hkind hscalar, onto_of_kind_eq hlaid hscalar]
      _ = onto (some a) b := onto_again plain unambiguous (some a)
      _ = lay a b := onto_of_kind_eq hkind hscalar
  · obtain ⟨es, rfl⟩ := (isPlain_cases plain).resolve_left hscalar
    rw [lay_of_kind_ne hkind]
    calc lay (.ofTable es) (.ofTable es) = onto (some (onto none (.ofTable es))) (.ofTable es) :=
          (onto_of_kind_eq rfl hscalar).symm
      _ = .ofTable es := onto_again plain unambiguous none

end Value

/-! ## Settings updated again -/

/-- What changes nothing the second time changes nothing however often it is done again. -/
theorem foldl_again {σ α : Type*} {f : σ → α → σ} {s : σ} {a : α} (again : f (f s a) a = f s a)
    (n : Nat) : (List.replicate (n + 1) a).foldl f s = f s a := by
  induction n with
  | zero => rfl
  | succ n ih =>
    rw [List.replicate_succ', List.foldl_append, ih, List.foldl_cons, again, List.foldl_nil]

namespace Settings

/-- The option trees that are given here are plain, and no key comes twice in them. -/
def GivesPlain (options : Keyed Value) : Prop :=
  ∀ kind : DialogKind, ∀ v ∈ under kind.name options, v.isPlain = true ∧ v.isUnambiguous = true

/-- Options under different names give at most one value under each. -/
theorem under_of_distinct {options : Keyed Value} (distinct : Table.Distinct options)
    (name : String) : under name options = [] ∨ ∃ v, under name options = [v] := by
  by_cases hname : Value.text name ∈ Table.keys options
  · obtain ⟨e, he, hkey⟩ := List.mem_map.mp hname
    have hentry : (Value.text name, e.2) ∈ options := by
      rw [← hkey]
      exact he
    exact .inr ⟨e.2, under_of_mem distinct hentry⟩
  · exact .inl (under_of_not_mem hname)

/-- Options with plain trees that are laid over settings again change nothing. -/
theorem overlaid_again {options : Keyed Value} (distinct : Table.Distinct options)
    (plain : GivesPlain options) (s : Settings) :
    (s.overlaid options).overlaid options = s.overlaid options := by
  refine eq_of_trees ?_ fun kind => ?_
  · unfold overlaid
    cases (under "show_next_prompt" options).getLast? <;> rfl
  · rw [tree_overlaid, tree_overlaid]
    rcases under_of_distinct distinct kind.name with hnone | ⟨v, hone⟩
    · rw [hnone]
      rfl
    · obtain ⟨hplain, hunambiguous⟩ := plain kind v (by simp [hone])
      rw [hone]
      exact Value.lay_again hplain hunambiguous (s.tree kind)

/-- **An update with plain trees that is made again changes nothing**, and ends as it did. -/
theorem update_again {options : Keyed Value} (distinct : Table.Distinct options)
    (plain : GivesPlain options) (s : Settings) :
    update options (update options s).2 = update options s := by
  have htaken : (taken options).Sublist options := List.takeWhile_sublist _
  have hdistinct : Table.Distinct (taken options) := distinct.sublist (htaken.map Prod.fst)
  have hplain : GivesPlain (taken options) := fun kind v hv =>
    plain kind v ((htaken.filterMap _).subset hv)
  rw [update_eq options s, update_eq, overlaid_again hdistinct hplain]

/-- However often an update with plain trees is made, it leaves what it left the first time. -/
theorem updates_again {options : Keyed Value} (distinct : Table.Distinct options)
    (plain : GivesPlain options) (s : Settings) (n : Nat) :
    updates (List.replicate (n + 1) options) s = (update options s).2 :=
  foldl_again (congrArg Prod.snd (update_again distinct plain s)) n

end Settings

namespace Host

variable {K : Surface}

/-- A host that configures something only changes its settings. -/
theorem perform_configure (options : Keyed Value) (h : Host K) :
    perform (.configure options) h =
      ((Settings.update options h.session.settings).1.map fun _ => .done,
        h.onSession fun s =>
          { s with settings := (Settings.update options h.session.settings).2 }) := by
  have hbind : perform (.configure options) h =
      ((Act.onPart Session.settings (fun settings s => { s with settings })
        (Settings.update options) >>= fun _ => pure .done : Act K (Reply K))) h := rfl
  rw [hbind, Step.bind_apply, Act.onPart_apply]
  cases (Settings.update options h.session.settings).1 <;> rfl

/-- A host that configures plain trees again stays as it is, and is answered as it was. -/
theorem perform_configure_again {options : Keyed Value} (distinct : Table.Distinct options)
    (plain : Settings.GivesPlain options) (h : Host K) :
    perform (.configure options) (perform (.configure options) h).2 =
      perform (.configure options) h := by
  have hagain := Settings.update_again distinct plain h.session.settings
  simp only [perform_configure, onSession, hagain]

/-- **To configure the same plain trees again changes nothing.**  A plain layer that is laid over
anything again leaves it as it is.  So an update of settings that gives nothing but plain trees leaves
the same settings however often it is made, refused or not, and so does a host that performs it. -/
theorem configure_again :
    (∀ a b : Value, b.isPlain = true → b.isUnambiguous = true →
      Value.merge [Value.merge [a, b], b] = Value.merge [a, b]) ∧
    ∀ options : Keyed Value, Table.Distinct options → Settings.GivesPlain options →
      (∀ (s : Settings) (n : Nat),
        Settings.updates (List.replicate (n + 1) options) s = (Settings.update options s).2 ∧
        Settings.update options (Settings.updates (List.replicate n options) s) =
          Settings.update options s) ∧
      ∀ (K : Surface) (h : Host K) (n : Nat),
        h.performAll (List.replicate (n + 1) (.configure options)) =
          h.performAll [.configure options] := by
  have hpair : ∀ below v : Value, Value.merge [below, v] = Value.lay below v := Value.lay_owned
  refine ⟨fun a b plain unambiguous => ?_, fun options distinct plain => ⟨fun s n => ⟨?_, ?_⟩,
    fun K h n => ?_⟩⟩
  · rw [hpair, hpair]
    exact Value.lay_again plain unambiguous a
  · exact Settings.updates_again distinct plain s n
  · cases n with
    | zero => rfl
    | succ n => rw [Settings.updates_again distinct plain, Settings.update_again distinct plain]
  · exact foldl_again (congrArg Prod.snd (perform_configure_again distinct plain h)) n

/-- Options that a host may configure at every turn: where boxes stand and how wide they are, and
something that no settings know. -/
def centred : Keyed Value :=
  [(.text "pop", .ofTable
     [("position", .text "center"), ("text_box", .ofTable [("width", .int 300)])]),
   (.text "show_next_prompt", .int 1), (.text "colour", .text "red")]

/-- The general theorem for options that hold nested mappings, where there was a list before, and that
are refused at last. -/
theorem configure_again_centred :
    let a : Value := .ofTable [("text_box", .ofList [.int 1]), ("tags", .ofList [.text "x"])]
    let b : Value := .ofTable
      [("position", .text "center"), ("text_box", .ofTable [("width", .int 300)])]
    Value.merge [Value.merge [a, b], b] = Value.merge [a, b] ∧
      (Settings.updates (List.replicate 3 centred) {} = (Settings.update centred {}).2 ∧
        Settings.update centred (Settings.updates (List.replicate 2 centred) {}) =
          Settings.update centred {}) := by
  obtain ⟨hlayers, hupdates⟩ := configure_again
  refine ⟨hlayers _ _ (by decide) (by decide), (hupdates centred ?_ fun kind => ?_).1 {} 2⟩
  · unfold Table.Distinct
    decide
  · cases kind <;> decide

-- a list is joined to what it left before
example :
    let b : Value := .ofTable [("tags", .ofList [.text "x"])]
    Value.merge [Value.merge [.ofTable [], b], b] ≠ Value.merge [.ofTable [], b] := by
  decide

end Host

end Dialogue
