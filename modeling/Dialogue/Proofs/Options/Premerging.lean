import Dialogue.Proofs.Options.Lasting

/-!
# Layers merged beforehand

Three layers give the same whether the upper two are merged first or the lower two, unless something
of another kind comes between two lists or two mappings: a list or mapping that was replaced is
forgotten, and what comes later is joined to nothing.  So two updates may be made at once with their
options merged beforehand.

## Results

* `keys_layEntries` — the keys of a mapping that others were laid over, in order.
* `onto_onto` — putting values over one another, three at a time.
* `merge_premerged`, `merge_empty` — merging is associative, and the empty mapping is neutral.
* `Settings.updates_premerged` — layers may be merged beforehand, and so may updates.
-/

set_option autoImplicit false

namespace Dialogue

namespace Value

/-! ## Mappings over mappings -/

/-- New keys come behind the old ones, in their own order. -/
theorem keys_layEntries {es : Table Value} (distinct : Table.Distinct es) (below : Table Value) :
    Table.keys (layEntries below es) =
      Table.keys below ++ (Table.keys es).filter fun key => key ∉ Table.keys below := by
  induction es generalizing below with
  | nil => exact (List.append_nil _).symm
  | cons e rest ih =>
    obtain ⟨key, v⟩ := e
    obtain ⟨hnot, hrest⟩ := List.nodup_cons.mp distinct
    have hcons : Table.keys ((key, v) :: rest) = key :: Table.keys rest := rfl
    rw [layEntries_cons, ih hrest, hcons]
    by_cases hkey : key ∈ Table.keys below
    · rw [Table.keys_put_of_mem _ hkey, List.filter_cons_of_neg (by simp [hkey])]
    · have hfilter : (Table.keys rest).filter (fun other => other ∉ Table.keys below ++ [key]) =
          (Table.keys rest).filter fun other => other ∉ Table.keys below := by
        refine List.filter_congr fun other hother => ?_
        have hne : other ≠ key := fun h => hnot (h ▸ hother)
        simp [hne]
      rw [Table.keys_put_of_not_mem _ hkey, List.filter_cons_of_pos (by simp [hkey]), hfilter,
        List.append_assoc, List.singleton_append]

/-- Mappings laid over one another give the same in either order of merging, if the values under each
key do. -/
theorem layEntries_layEntries {ds es fs : Table Value} (hds : Table.Distinct ds)
    (hes : Table.Distinct es) (hfs : Table.Distinct fs)
    (values : ∀ key u v w, Table.get? ds key = some u → Table.get? es key = some v →
      Table.get? fs key = some w → onto (some u) (onto (some v) w) = onto (some (onto (some u) v)) w) :
    layEntries ds (layEntries es fs) = layEntries (layEntries ds es) fs := by
  have hupper : Table.Distinct (layEntries es fs) := distinct_layEntries hes fs
  refine Table.eq_of_get? (distinct_layEntries hds _) ?_ fun key => ?_
  · rw [keys_layEntries hupper, keys_layEntries hfs, keys_layEntries hfs, keys_layEntries hes,
      List.filter_append, List.append_assoc, List.filter_filter]
    congr 2
    refine List.filter_congr fun key _ => ?_
    by_cases hd : key ∈ Table.keys ds <;> by_cases he : key ∈ Table.keys es <;> simp [hd, he]
  · rw [get?_layEntries hupper, get?_layEntries hfs, get?_layEntries hfs, get?_layEntries hes]
    cases hf : Table.get? fs key with
    | none => rfl
    | some w =>
      cases he : Table.get? es key with
      | none => rfl
      | some v =>
        cases hd : Table.get? ds key with
        | none => rfl
        | some u => exact congrArg some (values key u v w hd he hf)

/-! ## Three values -/

/-- At no key path do the outer two of three values hold lists or mappings both while the middle one
holds something of another kind. -/
def Premergeable (a b c : Value) : Prop :=
  ∀ path u v w, a.at? path = some u → b.at? path = some v → c.at? path = some w →
    u.kind = w.kind → u.kind ≠ .scalar → v.kind = u.kind

theorem Premergeable.entry {a b c u v w : Value} (h : Premergeable a b c) {key : String}
    (ha : a.get? key = some u) (hb : b.get? key = some v) (hc : c.get? key = some w) :
    Premergeable u v w := by
  intro path x y z hx hy hz
  exact h (key :: path) x y z ((at?_of_get? ha path).trans hx) ((at?_of_get? hb path).trans hy)
    ((at?_of_get? hc path).trans hz)

mutual

/-- Does nothing of another kind come between lists or mappings in these three values?  A check that
can be run. -/
def isPremergeable (a b : Value) : Value → Bool
  | .tree _ fs => (a.kind != .tree || b.kind == .tree) && arePremergeable a b fs
  | .list _ _ => a.kind != .list || b.kind == .list
  | _ => true
termination_by structural c => c

/-- Does nothing of another kind come between what two values hold under the keys of these entries and
what these hold? -/
def arePremergeable (a b : Value) : List (String × Value) → Bool
  | [] => true
  | (key, w) :: rest =>
    (match a.get? key, b.get? key with
      | some u, some v => isPremergeable u v w
      | _, _ => true) && arePremergeable a b rest
termination_by structural fs => fs

end

theorem isPremergeable_entry {a b u v w : Value} {key : String} {fs : Table Value}
    (h : arePremergeable a b fs = true) (ha : a.get? key = some u) (hb : b.get? key = some v)
    (hc : (key, w) ∈ fs) : isPremergeable u v w = true := by
  induction fs with
  | nil => cases hc
  | cons e rest ih =>
    rw [arePremergeable, Bool.and_eq_true] at h
    rcases List.mem_cons.mp hc with rfl | hc
    · simpa only [ha, hb] using h.1
    · exact ih h.2 hc

theorem premergeable_of_check {a b c : Value} (h : isPremergeable a b c = true) :
    Premergeable a b c := by
  intro path
  induction path generalizing a b c with
  | nil =>
    rintro u v w ⟨⟩ ⟨⟩ ⟨⟩ hkind hscalar
    cases c with
    | tree form fs =>
      have ha : a.kind = .tree := hkind
      rw [isPremergeable, Bool.and_eq_true] at h
      rw [ha]
      simpa [ha] using h.1
    | list form zs =>
      have ha : a.kind = .list := hkind
      rw [ha]
      simpa [isPremergeable, ha] using h
    | null | flag | int | double | text | choice => exact absurd hkind hscalar
  | cons key path ih =>
    intro u v w hu hv hw
    obtain ⟨x, hx, hxu⟩ := Option.bind_eq_some_iff.mp hu
    obtain ⟨y, hy, hyv⟩ := Option.bind_eq_some_iff.mp hv
    obtain ⟨z, hz, hzw⟩ := Option.bind_eq_some_iff.mp hw
    obtain ⟨form, fs, rfl⟩ := exists_tree_of_get? hz
    rw [isPremergeable, Bool.and_eq_true] at h
    exact ih (isPremergeable_entry h.2 hx hy (Table.mem_of_get? hz)) u v w hxu hyv hzw

/-- Of three values that are put over one another only those of one kind have to be laid. -/
theorem onto_onto_of_kinds {u v w : Value}
    (between : u.kind = w.kind → w.kind ≠ .scalar → v.kind = w.kind)
    (alike : u.kind = v.kind → v.kind = w.kind → w.kind ≠ .scalar →
      lay u (lay v w) = lay (lay u v) w) :
    onto (some u) (onto (some v) w) = onto (some (onto (some u) v)) w := by
  by_cases hscalar : w.kind = .scalar
  · simp only [onto_of_scalar _ hscalar]
  by_cases hvw : v.kind = w.kind
  · by_cases huv : u.kind = v.kind
    · rw [onto_of_kind_eq hvw hscalar, onto_of_kind_eq huv fun h => hscalar (hvw.symm.trans h),
        onto_of_kind_eq (by rw [lay_kind, huv, hvw]) (by rwa [lay_kind]),
        onto_of_kind_eq (by rw [lay_kind, hvw]) hscalar]
      exact alike huv hvw hscalar
    · -- the lowest is forgotten in either order
      have hupper : u.kind ≠ (onto (some v) w).kind := by
        rw [onto_kind, ← hvw]
        exact huv
      rw [onto_of_kind_ne huv, onto_of_kind_ne hupper]
  · -- the highest stays alone, as it would not in one order if the lowest were of its kind
    have huw : u.kind ≠ w.kind := fun huw => hvw (between huw hscalar)
    have hlower : (onto (some u) v).kind ≠ w.kind := by rwa [onto_kind]
    rw [onto_of_kind_ne hvw, onto_of_kind_ne huw, onto_of_kind_ne hlower]

/-- Values put over one another give the same whether the upper two or the lower two are put together
first. -/
theorem onto_onto {u v w : Value} (hu : u.isUnambiguous = true) (hv : v.isUnambiguous = true)
    (hw : w.isUnambiguous = true) (premergeable : Premergeable u v w) :
    onto (some u) (onto (some v) w) = onto (some (onto (some u) v)) w := by
  induction w using entry_induction generalizing u v with
  | step w ih =>
    refine onto_onto_of_kinds (fun huw hscalar => ?_) fun huv hvw hscalar => ?_
    · exact (premergeable [] u v w rfl rfl rfl huw fun h => hscalar (huw.symm.trans h)).trans huw
    cases w with
    | tree form fs =>
      obtain ⟨form', es, rfl⟩ := exists_tree_of_kind hvw
      obtain ⟨form'', ds, rfl⟩ := exists_tree_of_kind huv
      refine congrArg Value.ofTable (layEntries_layEntries (distinct_of_isUnambiguous hu)
        (distinct_of_isUnambiguous hv) (distinct_of_isUnambiguous hw) ?_)
      intro key x y z hx hy hz
      exact ih key z hz (isUnambiguous_get? hu hx) (isUnambiguous_get? hv hy)
        (isUnambiguous_get? hw hz) (premergeable.entry hx hy hz)
    | list form zs =>
      obtain ⟨form', ys, rfl⟩ := exists_list_of_kind hvw
      obtain ⟨form'', xs, rfl⟩ := exists_list_of_kind huv
      exact congrArg Value.ofList (List.append_assoc xs ys zs).symm
    | null | flag | int | double | text | choice => exact absurd rfl hscalar

/-- Laying mappings over a value is associative. -/
theorem lay_lay {a b c : Value} (hb : b.kind = .tree) (hc : c.kind = .tree)
    (ha' : a.isUnambiguous = true) (hb' : b.isUnambiguous = true) (hc' : c.isUnambiguous = true)
    (premergeable : Premergeable a b c) : lay a (lay b c) = lay (lay a b) c := by
  by_cases ha : a.kind = .tree
  · have hab : (lay a b).kind = .tree := (lay_kind a b).trans hb
    have hbc : (lay b c).kind = .tree := (lay_kind b c).trans hc
    calc lay a (lay b c) = onto (some a) (onto (some b) c) := by
          rw [onto_of_trees hb hc, onto_of_trees ha hbc]
      _ = onto (some (onto (some a) b)) c := onto_onto ha' hb' hc' premergeable
      _ = lay (lay a b) c := by rw [onto_of_trees ha hb, onto_of_trees hab hc]
  · have howned : (lay b c).owned = lay b c := by
      obtain ⟨form, fs, rfl⟩ := exists_tree_of_kind hc
      cases b <;> rfl
    rw [lay_of_kind_ne (by rw [lay_kind, hc]; exact ha), lay_of_kind_ne fun h => ha (h.trans hb),
      lay_owned, howned]

theorem layEntries_nil {es : Table Value} (distinct : Table.Distinct es) :
    layEntries [] es = es := by
  have hnil : Table.Distinct ([] : Table Value) := List.nodup_nil
  refine Table.eq_of_get? (distinct_layEntries hnil es) ?_ fun key => ?_
  · rw [keys_layEntries distinct]
    simp [Table.keys]
  · rw [get?_layEntries distinct]
    cases Table.get? es key <;> rfl

/-- **Layers may be merged beforehand,** the lower two or the upper two of three mappings. -/
theorem merge_premerged {a b c : Value} (hb : b.kind = .tree) (hc : c.kind = .tree)
    (ha' : a.isUnambiguous = true) (hb' : b.isUnambiguous = true) (hc' : c.isUnambiguous = true)
    (premergeable : Premergeable a b c) :
    merge [a, merge [b, c]] = merge [a, b, c] ∧ merge [merge [a, b], c] = merge [a, b, c] := by
  have hpair : ∀ below v : Value, merge [below, v] = lay below v := lay_owned
  have hall : merge [a, b, c] = lay (lay a b) c := by
    rw [← hpair a b]
    rfl
  rw [hall, hpair, hpair, hpair, hpair]
  exact ⟨lay_lay hb hc ha' hb' hc' premergeable, rfl⟩

-- what comes between two lists makes a difference
example :
    let layer (v : Value) : Value := .ofTable [("tags", v)]
    merge [layer (.ofList [.int 1]), merge [layer .null, layer (.ofList [.int 2])]] =
        layer (.ofList [.int 1, .int 2]) ∧
      merge [merge [layer (.ofList [.int 1]), layer .null], layer (.ofList [.int 2])] =
        layer (.ofList [.int 2]) := by
  decide

/-- The empty mapping is neutral, below a mapping and above it. -/
theorem merge_empty {es : Table Value} (distinct : Table.Distinct es) :
    merge [.ofTable [], .ofTable es] = .ofTable es ∧
      merge [.ofTable es, .ofTable []] = .ofTable es :=
  ⟨congrArg Value.ofTable (layEntries_nil distinct), rfl⟩

end Value

/-! ## Updates made at once -/

namespace Settings

/-- Options that are nothing but mappings for option trees. -/
structure OnlyTrees (options : Table Value) : Prop where
  names : ∀ key ∈ Table.keys options, ∃ kind : DialogKind, key = kind.name
  trees : ∀ e ∈ options, e.2.kind = .tree

/-- What options under names give under one name. -/
theorem under_keyed {options : Table Value} (distinct : Table.Distinct options) (name : String) :
    under name (Table.keyed options) = (Table.get? options name).toList := by
  induction options with
  | nil => rfl
  | cons e rest ih =>
    obtain ⟨key, v⟩ := e
    obtain ⟨hnot, hrest⟩ := List.nodup_cons.mp distinct
    have hcons : Table.keyed ((key, v) :: rest) = (.text key, v) :: Table.keyed rest := rfl
    rw [hcons]
    by_cases hkey : key = name
    · subst hkey
      rw [under_cons_self, ih hrest, (Table.get?_eq_none_iff rest key).mpr hnot]
      simp [Table.get?]
    · rw [under_cons_of_ne (by simpa using hkey), ih hrest]
      simp [Table.get?, hkey]

theorem tree_overlaid_keyed {options : Table Value} (distinct : Table.Distinct options)
    (s : Settings) (kind : DialogKind) :
    (s.overlaid (Table.keyed options)).tree kind =
      (Table.get? options kind.name).elim (s.tree kind) (Value.lay (s.tree kind)) := by
  rw [tree_overlaid, under_keyed distinct]
  cases Table.get? options kind.name <;> rfl

theorem prompt_overlaid_keyed {options : Table Value} (distinct : Table.Distinct options)
    (names : ∀ key ∈ Table.keys options, ∃ kind : DialogKind, key = kind.name) (s : Settings) :
    (s.overlaid (Table.keyed options)).prompt = s.prompt := by
  have hnone : Table.get? options "show_next_prompt" = none := by
    rw [Table.get?_eq_none_iff]
    intro hmem
    obtain ⟨kind, hkind⟩ := names _ hmem
    cases kind <;> simp [DialogKind.name] at hkind
  have hunder : under "show_next_prompt" (Table.keyed options) = [] := by
    rw [under_keyed distinct, hnone, Option.toList_none]
  unfold overlaid
  rw [hunder]
  rfl

/-- Options for option trees are all known. -/
theorem update_keyed {options : Table Value}
    (names : ∀ key ∈ Table.keys options, ∃ kind : DialogKind, key = kind.name) (s : Settings) :
    update (Table.keyed options) s = (.ok (), s.overlaid (Table.keyed options)) := by
  have known : ∀ e ∈ Table.keyed options, isName e.1 = true := by
    intro e he
    obtain ⟨d, hd, rfl⟩ := List.mem_map.mp he
    obtain ⟨kind, hkind⟩ := names d.1 (List.mem_map_of_mem hd)
    rw [isName_iff, hkind]
    cases kind <;> simp [DialogKind.name]
  rw [update_eq, taken_of_known known,
    List.find?_eq_none.mpr fun e he => by simp [known e he]]
  rfl

theorem eq_of_trees {s t : Settings} (prompt : s.prompt = t.prompt)
    (trees : ∀ kind, s.tree kind = t.tree kind) : s = t := by
  have hpop : s.pop = t.pop := trees .pop
  have hvn : s.vn = t.vn := trees .vn
  cases s
  cases t
  cases prompt
  cases hpop
  cases hvn
  rfl

/-- Two updates for option trees do what one does with their options merged beforehand. -/
theorem update_premerged {s : Settings} {x y : Table Value} (hx : OnlyTrees x) (hy : OnlyTrees y)
    (settings : ∀ kind, (s.tree kind).isUnambiguous = true)
    (ux : (Value.ofTable x).isUnambiguous = true) (uy : (Value.ofTable y).isUnambiguous = true)
    (premergeable : ∀ (kind : DialogKind) (v w : Value), Table.get? x kind.name = some v →
      Table.get? y kind.name = some w → Value.Premergeable (s.tree kind) v w) :
    ∃ z t, Value.merge [.ofTable x, .ofTable y] = .ofTable z ∧
      update (Table.keyed z) s = (.ok (), t) ∧ (update (Table.keyed x) s).1 = .ok () ∧
      update (Table.keyed y) (update (Table.keyed x) s).2 = (.ok (), t) := by
  have hdx : Table.Distinct x := Value.distinct_of_isUnambiguous ux
  have hdy : Table.Distinct y := Value.distinct_of_isUnambiguous uy
  have hdz : Table.Distinct (Value.layEntries x y) := Value.distinct_layEntries hdx y
  have hz : ∀ key ∈ Table.keys (Value.layEntries x y), ∃ kind : DialogKind, key = kind.name := by
    intro key hkey
    rcases (Value.mem_keys_layEntries x y key).mp hkey with hkey | hkey
    · exact hx.names key hkey
    · exact hy.names key hkey
  refine ⟨Value.layEntries x y, _, rfl, update_keyed hz s, ?_, ?_⟩
  · rw [update_keyed hx.names]
  rw [update_keyed hx.names, update_keyed hy.names]
  refine congrArg (Prod.mk _) (eq_of_trees ?_ fun kind => ?_)
  · rw [prompt_overlaid_keyed hdy hy.names, prompt_overlaid_keyed hdx hx.names,
      prompt_overlaid_keyed hdz hz]
  · rw [tree_overlaid_keyed hdy, tree_overlaid_keyed hdx, tree_overlaid_keyed hdz,
      Value.get?_layEntries hdy]
    cases hw : Table.get? y kind.name with
    | none => rfl
    | some w =>
      cases hv : Table.get? x kind.name with
      | none => rfl
      | some v =>
        have hvt : v.kind = .tree := hx.trees _ (Table.mem_of_get? hv)
        have hwt : w.kind = .tree := hy.trees _ (Table.mem_of_get? hw)
        have hlay := Value.lay_lay hvt hwt (settings kind) (Value.isUnambiguous_get? ux hv)
          (Value.isUnambiguous_get? uy hw) (premergeable kind v w hv hw)
        simp only [Option.elim_some, Value.onto_of_trees hvt hwt]
        exact hlay.symm

/-- **Layers may be merged beforehand, and so may updates.**  Three mappings make the same in either
order of merging, unless something of another kind comes between two lists or mappings; the empty
mapping is neutral; and two updates for option trees do what one does with their options merged
beforehand. -/
theorem updates_premerged :
    (∀ a b c : Value, a.kind = .tree → b.kind = .tree → c.kind = .tree →
      a.isUnambiguous = true → b.isUnambiguous = true → c.isUnambiguous = true →
      Value.Premergeable a b c →
      Value.merge [a, Value.merge [b, c]] = Value.merge [a, b, c] ∧
        Value.merge [Value.merge [a, b], c] = Value.merge [a, b, c]) ∧
    (∀ es : Table Value, (Value.ofTable es).isUnambiguous = true →
      Value.merge [.ofTable [], .ofTable es] = .ofTable es ∧
        Value.merge [.ofTable es, .ofTable []] = .ofTable es) ∧
    ∀ (s : Settings) (x y : Table Value), OnlyTrees x → OnlyTrees y →
      (∀ kind, (s.tree kind).isUnambiguous = true) →
      (Value.ofTable x).isUnambiguous = true → (Value.ofTable y).isUnambiguous = true →
      (∀ (kind : DialogKind) (v w : Value), Table.get? x kind.name = some v →
        Table.get? y kind.name = some w → Value.Premergeable (s.tree kind) v w) →
      ∃ z t, Value.merge [.ofTable x, .ofTable y] = .ofTable z ∧
        update (Table.keyed z) s = (.ok (), t) ∧ (update (Table.keyed x) s).1 = .ok () ∧
        update (Table.keyed y) (update (Table.keyed x) s).2 = (.ok (), t) := by
  refine ⟨fun a b c _ hb hc ha' hb' hc' premergeable => ?_, fun es unambiguous => ?_,
    fun s x y hx hy settings ux uy premergeable => ?_⟩
  · exact Value.merge_premerged hb hc ha' hb' hc' premergeable
  · exact Value.merge_empty (Value.distinct_of_isUnambiguous unambiguous)
  · exact update_premerged hx hy settings ux uy premergeable

/-- Options for boxes that are tagged and wide. -/
def tagged : Table Value :=
  [("text_box", .ofTable [("width", .int 600)]), ("tags", .ofList [.text "a"])]

/-- Options for boxes with another tag, in a list where the defaults have a mapping. -/
def plainer : Table Value :=
  [("tags", .ofList [.text "b"]), ("side_image", .ofList []),
   ("text_box", .ofTable [("padding", .ofTable [("top", .int 0)])])]

/-- The general theorem for updates of the defaults with nested options and lists. -/
theorem updates_premerged_tagged :
    (Value.merge [.ofTable Defaults.pop, Value.merge [.ofTable tagged, .ofTable plainer]] =
        Value.merge [.ofTable Defaults.pop, .ofTable tagged, .ofTable plainer] ∧
      Value.merge [Value.merge [.ofTable Defaults.pop, .ofTable tagged], .ofTable plainer] =
        Value.merge [.ofTable Defaults.pop, .ofTable tagged, .ofTable plainer]) ∧
    (Value.merge [.ofTable [], .ofTable tagged] = .ofTable tagged ∧
      Value.merge [.ofTable tagged, .ofTable []] = .ofTable tagged) ∧
    ∃ z t, Value.merge [.ofTable [("pop", .ofTable tagged)],
          .ofTable [("vn", .ofTable plainer), ("pop", .ofTable plainer)]] = .ofTable z ∧
      update (Table.keyed z) {} = (.ok (), t) ∧
      (update (Table.keyed [("pop", .ofTable tagged)]) {}).1 = .ok () ∧
      update (Table.keyed [("vn", .ofTable plainer), ("pop", .ofTable plainer)])
        (update (Table.keyed [("pop", .ofTable tagged)]) {}).2 = (.ok (), t) := by
  have premergeable : Value.Premergeable (.ofTable Defaults.pop) (.ofTable tagged)
      (.ofTable plainer) := Value.premergeable_of_check (by decide)
  obtain ⟨nested, empty, made⟩ := updates_premerged
  refine ⟨nested _ _ _ rfl rfl rfl (by decide) (by decide) (by decide) premergeable,
    empty tagged (by decide), made {} _ _ ⟨?_, ?_⟩ ⟨?_, ?_⟩ ?_ (by decide) (by decide) ?_⟩
  · intro key hkey
    exact ⟨.pop, List.mem_singleton.mp hkey⟩
  · intro e he
    rw [List.mem_singleton.mp he]
    rfl
  · intro key hkey
    rcases List.mem_cons.mp hkey with rfl | hkey
    · exact ⟨.vn, rfl⟩
    · exact ⟨.pop, List.mem_singleton.mp hkey⟩
  · intro e he
    rcases List.mem_cons.mp he with rfl | he
    · rfl
    · rw [List.mem_singleton.mp he]
      rfl
  · intro kind
    cases kind <;> decide
  · intro kind v w hv hw
    cases kind with
    | pop =>
      cases hv
      cases hw
      exact premergeable
    | vn => cases hv

end Settings

end Dialogue
