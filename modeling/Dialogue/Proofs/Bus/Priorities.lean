import Dialogue.Proofs.Bus.Run
import Mathlib.Algebra.Order.Field.Power
import Mathlib.Algebra.Order.Field.Rat
import Mathlib.Data.Prod.Lex
import Mathlib.Tactic.NormNum
import Mathlib.Tactic.Ring

/-!
# Priorities

A subscription is inserted before the first one of lower priority, so a roster stands in the order of
priorities, and of subscriptions with equal priorities the earlier one comes first.  Priorities are
numbers, whole or not; a priority that is no number at all has no place in the order, and does not
disturb the others.

## Results

* `Number.compare?_eq_gt_iff` — numbers are compared by what they amount to.
* `insertByPriority_pairwise` — inserting keeps the order.
* `Run.ranked` — after every run every roster is in order.
-/

set_option autoImplicit false

namespace Dialogue

namespace Number

/-- What a mantissa and an exponent amount to. -/
def amount (m e : ℤ) : ℚ :=
  (m : ℚ) * 2 ^ e

/-- Where a number stands: below, among or above the finite ones, and where among these. -/
def rank? : Number → Option (ℤ ×ₗ ℚ)
  | .int n => some (toLex (0, (n : ℚ)))
  | .double (.finite s m e) => some (toLex (0, amount (Double.signed s m) e))
  | .double (.infinite negative) => some (toLex (if negative then -1 else 1, 0))
  | .double .undefined => none

theorem rank?_of_parts {a : Number} {m e : ℤ} (h : a.parts? = some (m, e)) :
    a.rank? = some (toLex (0, amount m e)) ∧ a.side = 0 := by
  cases a with
  | int n =>
    cases h
    simp [rank?, side, amount]
  | double d =>
    cases d with
    | finite s n f =>
      cases h
      exact ⟨rfl, rfl⟩
    | infinite negative => cases h
    | undefined => cases h

theorem rank?_of_infinite {a : Number} (h : a.parts? = none) :
    a = .double .undefined ∧ a.rank? = none ∨
      a.rank? = some (toLex (a.side, 0)) ∧ a.side ≠ 0 ∧ a ≠ .double .undefined := by
  cases a with
  | int n => cases h
  | double d =>
    cases d with
    | finite s m e => cases h
    | infinite negative => cases negative <;> exact .inr ⟨rfl, by decide, by simp⟩
    | undefined => exact .inl ⟨rfl, rfl⟩

/-- Bringing a number to a smaller exponent. -/
theorem scaled (m : ℤ) {e g : ℤ} (h : g ≤ e) :
    amount (m * (Double.power 2 (e - g).toNat : Nat)) g = amount m e := by
  have hpower : ((Double.power 2 (e - g).toNat : Nat) : ℚ) = 2 ^ (e - g) := by
    have hcast : (((e - g).toNat : ℕ) : ℤ) = e - g := Int.toNat_of_nonneg (by omega)
    calc ((Double.power 2 (e - g).toNat : Nat) : ℚ) = 2 ^ (e - g).toNat := by
          simp [Double.power]
      _ = 2 ^ (((e - g).toNat : ℕ) : ℤ) := (zpow_natCast 2 _).symm
      _ = 2 ^ (e - g) := by rw [hcast]
  calc amount (m * (Double.power 2 (e - g).toNat : Nat)) g
      = m * (2 ^ (e - g) * 2 ^ g) := by
        rw [← hpower, amount]
        push_cast
        ring
    _ = amount m e := by rw [← zpow_add₀ (by norm_num), Int.sub_add_cancel, amount]

theorem amount_lt_amount (m n g : ℤ) : amount m g < amount n g ↔ m < n := by
  have hpos : (0 : ℚ) < 2 ^ g := zpow_pos (by norm_num) g
  rw [amount, amount, mul_lt_mul_iff_left₀ hpos, Int.cast_lt]

/-- **Numbers are compared by what they amount to.** -/
theorem compare?_eq_gt_iff {a b : Number} {q r : ℤ ×ₗ ℚ} (ha : a.rank? = some q)
    (hb : b.rank? = some r) : a.compare? b = some .gt ↔ r < q := by
  cases hp : a.parts? with
  | some part =>
    obtain ⟨m, e⟩ := part
    obtain ⟨hrank, hside⟩ := rank?_of_parts hp
    obtain rfl : toLex (0, amount m e) = q := Option.some.inj (hrank.symm.trans ha)
    cases hn : b.parts? with
    | some part =>
      obtain ⟨n, f⟩ := part
      obtain ⟨hother, -⟩ := rank?_of_parts hn
      obtain rfl : toLex (0, amount n f) = r := Option.some.inj (hother.symm.trans hb)
      -- both are brought to the smaller exponent
      have hcompare : a.compare? b = some (compare (m * (Double.power 2 (e - min e f).toNat : Nat))
          (n * (Double.power 2 (f - min e f).toNat : Nat))) := by
        simp [compare?, hp, hn]
      rw [hcompare, Option.some.injEq, Int.compare_eq_gt, Prod.Lex.toLex_lt_toLex,
        ← scaled m (Int.min_le_left e f), ← scaled n (Int.min_le_right e f), amount_lt_amount]
      simp
    | none =>
      rcases rank?_of_infinite hn with ⟨-, hnone⟩ | ⟨hother, hne, hdef⟩
      · rw [hnone] at hb
        cases hb
      · obtain rfl : toLex (b.side, 0) = r := Option.some.inj (hother.symm.trans hb)
        have hself : a ≠ .double .undefined := by
          rintro rfl
          cases hp
        simp [compare?, hp, hn, hside, hself, hdef, Int.compare_eq_gt, Prod.Lex.toLex_lt_toLex, hne]
  | none =>
    rcases rank?_of_infinite hp with ⟨-, hnone⟩ | ⟨hrank, hne, hdef⟩
    · rw [hnone] at ha
      cases ha
    · obtain rfl : toLex (a.side, 0) = q := Option.some.inj (hrank.symm.trans ha)
      cases hn : b.parts? with
      | some part =>
        obtain ⟨n, f⟩ := part
        obtain ⟨hother, hside⟩ := rank?_of_parts hn
        obtain rfl : toLex (0, amount n f) = r := Option.some.inj (hother.symm.trans hb)
        have hself : b ≠ .double .undefined := by
          rintro rfl
          cases hn
        simp [compare?, hp, hn, hside, hself, hdef, Int.compare_eq_gt, Prod.Lex.toLex_lt_toLex,
          Ne.symm hne]
      | none =>
        rcases rank?_of_infinite hn with ⟨-, hnone⟩ | ⟨hother, -, hself⟩
        · rw [hnone] at hb
          cases hb
        · obtain rfl : toLex (b.side, 0) = r := Option.some.inj (hother.symm.trans hb)
          simp [compare?, hp, hn, hself, hdef, Int.compare_eq_gt, Prod.Lex.toLex_lt_toLex]

/-- What is exceeded by a number has a place among the numbers. -/
theorem exists_rank?_of_gt {a b : Number} (h : a.compare? b = some .gt) :
    ∃ r, b.rank? = some r := by
  cases hparts : b.parts? with
  | some part => exact ⟨_, (rank?_of_parts hparts).1⟩
  | none =>
    rcases rank?_of_infinite hparts with ⟨rfl, -⟩ | ⟨hr, -⟩
    · simp [compare?, parts?] at h
    · exact ⟨_, hr⟩

end Number

namespace Value

/-- Where a value stands among the numbers, if it is one. -/
def rank? (v : Value) : Option (ℤ ×ₗ ℚ) :=
  v.number?.bind Number.rank?

theorem exceeds_of_number {v : Value} {a : Number} (h : v.number? = some a) (w : Value) :
    v.exceeds w =
      match w.number? with
      | some b => .ok (a.compare? b == some .gt)
      | none => .error (.notComparable v.typeName w.typeName) := by
  cases v with
  | null => cases h
  | text s => cases h
  | list form items => cases h
  | tree form entries => cases h
  | choice statement extra => cases h
  | flag b =>
    cases h
    unfold exceeds
    cases w.number? <;> simp [number?]
  | int n =>
    cases h
    unfold exceeds
    cases w.number? <;> simp [number?]
  | double d =>
    cases h
    unfold exceeds
    cases w.number? <;> simp [number?]

/-- Of two numbers the first exceeds the second when it stands higher. -/
theorem exceeds_iff {v w : Value} {q r : ℤ ×ₗ ℚ} (hv : v.rank? = some q) (hw : w.rank? = some r) :
    v.exceeds w = .ok true ↔ r < q := by
  obtain ⟨a, ha, hq⟩ := Option.bind_eq_some_iff.mp hv
  obtain ⟨b, hb, hr⟩ := Option.bind_eq_some_iff.mp hw
  rw [← Number.compare?_eq_gt_iff hq hr, exceeds_of_number ha, hb]
  simp

/-- What a number exceeds is a number too. -/
theorem exists_rank?_of_exceeds {v w : Value} {q : ℤ ×ₗ ℚ} (hv : v.rank? = some q)
    (h : v.exceeds w = .ok true) : ∃ r, w.rank? = some r := by
  obtain ⟨a, ha, hq⟩ := Option.bind_eq_some_iff.mp hv
  rw [exceeds_of_number ha] at h
  cases hb : w.number? with
  | none => simp [hb] at h
  | some b =>
    have hgt : a.compare? b = some .gt := by simpa [hb] using h
    obtain ⟨r, hr⟩ := Number.exists_rank?_of_gt hgt
    refine ⟨r, ?_⟩
    rw [rank?, hb]
    exact hr

end Value

namespace Bus

variable {η α : Type}

/-- The first subscription is called before the second one: its priority is higher, or it is the
same and the first subscribed earlier. -/
def Ahead (s t : Subscription η) : Prop :=
  ∀ q r, s.priority.rank? = some q → t.priority.rank? = some r →
    r < q ∨ r = q ∧ s.ticket < t.ticket

/-- **Inserting keeps a roster in order.** -/
theorem insertByPriority_pairwise {s : Subscription η} {entries new : List (Subscription η)}
    (ordered : entries.Pairwise Ahead) (later : ∀ t ∈ entries, t.ticket < s.ticket)
    (h : insertByPriority s entries = .ok new) : new.Pairwise Ahead := by
  induction entries generalizing new with
  | nil =>
    cases h
    exact List.pairwise_singleton _ s
  | cons t rest ih =>
    obtain ⟨hfirst, hrest⟩ := List.pairwise_cons.mp ordered
    unfold insertByPriority at h
    split at h
    · cases h
    · rename_i hexceeds
      cases h
      refine List.pairwise_cons.mpr ⟨fun u hu q r hq hr => .inl ?_, ordered⟩
      -- the new one exceeds the first, and nobody after the first exceeds that
      obtain ⟨p, hp⟩ := Value.exists_rank?_of_exceeds hq hexceeds
      have hpq : p < q := (Value.exceeds_iff hq hp).mp hexceeds
      rcases List.mem_cons.mp hu with rfl | hu
      · rw [hp] at hr
        exact Option.some.inj hr ▸ hpq
      · rcases hfirst u hu p r hp hr with hlt | ⟨heq, -⟩
        · exact hlt.trans hpq
        · exact heq ▸ hpq
    · rename_i hexceeds
      cases hr : insertByPriority s rest with
      | error f => simp [hr, Except.map] at h
      | ok more =>
        simp only [hr, Except.map, Except.ok.injEq] at h
        subst h
        have hmore := ih hrest (fun u hu => later u (List.mem_cons_of_mem t hu)) hr
        refine List.pairwise_cons.mpr ⟨fun u hu => ?_, hmore⟩
        rcases List.mem_cons.mp ((insertByPriority_perm hr).mem_iff.mp hu) with rfl | hu
        · intro q r hq hr
          have hnot : ¬ q < r := fun hlt => by
            have hyes := (Value.exceeds_iff hr hq).mpr hlt
            rw [hyes] at hexceeds
            cases hexceeds
          rcases lt_or_eq_of_le (not_lt.mp hnot) with hlt | heq
          · exact .inl hlt
          · exact .inr ⟨heq, later t (by simp)⟩
        · exact hfirst u hu

variable [DecidableEq η]

/-- **After every run every roster is in order.** -/
theorem Run.ranked {trace : List (Turn η α)} {b : Bus η α} (run : Run {} trace b)
    (signal : Signal) : (b.subscriptions signal).Pairwise Ahead := by
  induction run with
  | nil => exact List.Pairwise.nil
  | @snoc b c trace turn run move ih =>
    cases move with
    | @deed _ d result =>
      cases d.change result signal with
      | kept _ same => exact subscriptions_congr same ▸ ih
      | joined inserted now _ =>
        rw [subscriptions_eq_of_roster? now]
        exact insertByPriority_pairwise ih
          (fun t ht => run.orderly.fresh signal t (.inl ht)) inserted
      | nobody _ same => exact subscriptions_congr same ▸ ih
      | left before now _ =>
        rw [subscriptions_eq_of_roster? before] at ih
        rw [subscriptions_eq_of_roster? now]
        exact ih.sublist List.filter_sublist
      | cleared _ now => simp [subscriptions, now]
    | passed idle first nobody =>
      rw [start_of_nobody idle first nobody]
      exact ih
    | begun idle first somebody =>
      obtain ⟨r, -, hs⟩ := start_of_somebody idle first somebody
      rw [hs]
      exact ih
    | called running next =>
      obtain ⟨_, _, -, -, -, rfl⟩ := callNext_some running next
      exact ih
    | @ended _ d running none =>
      obtain ⟨spent, -, hf⟩ := callNext_none_finish running none
      rw [hf]
      have hstruck := roster?_finish
        (b := { b with running? := some { d with spent } }) rfl signal
      cases hb : b.roster? signal with
      | none => simp [subscriptions, hstruck.trans (congrArg _ hb)]
      | some r =>
        rw [subscriptions_eq_of_roster? (hstruck.trans (congrArg _ hb))]
        rw [subscriptions_eq_of_roster? hb] at ih
        unfold strike
        split
        · exact ih.sublist List.filter_sublist
        · exact ih

end Bus

end Dialogue
