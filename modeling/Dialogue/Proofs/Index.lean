import Dialogue.Cast

/-!
# The index of the cast

The cast finds the speaker at the front of a line in a list of its own, the keys with the longest
first, and not in the table of the records.  Here the two are compared after any registrations, also
after some that ended half-way.

## Results

* `longestFirst_perm`, `longestFirst_sorted` — the index is a rearrangement of the keys by length.
* `Covered.registerAll` — a registration that succeeds brings the index up to the table; one that is
  rejected leaves the index as it was, while the records before the rejected one stay in the table.
* `Covered.answers` — the index answers with the longest of the keys that were in the table when a
  registration last succeeded.
* `speaker?_agrees_iff` — so the answer is the one that the table gives just when the key that the
  table gives was in it at that time.
-/

set_option autoImplicit false

namespace Dialogue.Cast

/-! ## What the table knows -/

/-- Is there a record under this key? -/
def Knows (c : Cast) (key : String) : Prop :=
  Table.has c.records key = true

/-- Does a line begin with this key and a space? -/
def Begins (text : List Char) (key : String) : Prop :=
  key ≠ "" ∧ key.toList ++ [' '] <+: text

/-- The key that a line begins with, of several the longest. -/
structure Foremost (known : String → Prop) (text : List Char) (key : String) : Prop where
  registered : known key
  begins : Begins text key
  longest : ∀ other, known other → key.length < other.length → ¬ Begins text other

/-- What finding the speaker of a line in a table of keys should answer. -/
def Answers (known : String → Prop) (text : List Char) (answer : Option String) : Prop :=
  (∀ key, answer = some key ↔ Foremost known text key) ∧
    (answer = none ↔ ∀ key, known key → ¬ Begins text key)

theorem startsLine_iff (text : List Char) (key : String) :
    startsLine text key = true ↔ Begins text key := by
  simp [startsLine, Begins]

theorem knows_iff_mem_keys (c : Cast) (key : String) : c.Knows key ↔ key ∈ c.keys :=
  Table.get?_isSome_iff c.records key

/-- Two keys of one length that a line begins with are the same key. -/
theorem Begins.eq_of_length {text : List Char} {a b : String} (ha : Begins text a)
    (hb : Begins text b) (h : a.length = b.length) : a = b := by
  have hl : a.toList.length = b.toList.length := by
    rw [String.length_toList, String.length_toList, h]
  have hp : a.toList ++ [' '] <+: b.toList ++ [' '] :=
    List.prefix_of_prefix_length_le ha.2 hb.2 (by simp [hl])
  have := hp.eq_of_length (by simp [hl])
  exact String.toList_injective (List.append_cancel_right this)

theorem Foremost.eq {known : String → Prop} {text : List Char} {a b : String}
    (ha : Foremost known text a) (hb : Foremost known text b) : a = b := by
  have hab := ha.longest b hb.registered
  have hba := hb.longest a ha.registered
  refine ha.begins.eq_of_length hb.begins ?_
  rcases Nat.lt_trichotomy a.length b.length with h | h | h
  · exact absurd hb.begins (hab h)
  · exact h
  · exact absurd ha.begins (hba h)

/-! ## The index as a list -/

theorem insertLongest_perm (key : String) (ks : List String) :
    (insertLongest key ks).Perm (key :: ks) := by
  induction ks with
  | nil => exact List.Perm.refl _
  | cons k rest ih =>
    unfold insertLongest
    split
    · exact List.Perm.refl _
    · exact (ih.cons k).trans (List.Perm.swap key k rest)

theorem longestFirst_perm (ks : List String) : (longestFirst ks).Perm ks := by
  induction ks with
  | nil => exact List.Perm.refl _
  | cons k rest ih => exact (insertLongest_perm k _).trans (ih.cons k)

theorem insertLongest_sorted {key : String} {ks : List String}
    (h : ks.Pairwise fun a b => b.length ≤ a.length) :
    (insertLongest key ks).Pairwise fun a b => b.length ≤ a.length := by
  induction ks with
  | nil => simp [insertLongest]
  | cons k rest ih =>
    obtain ⟨hk, hrest⟩ := List.pairwise_cons.mp h
    unfold insertLongest
    split
    · rename_i hle
      refine List.pairwise_cons.mpr ⟨?_, h⟩
      intro other hm
      rcases List.mem_cons.mp hm with rfl | hm
      · exact hle
      · exact Nat.le_trans (hk other hm) hle
    · rename_i hlt
      refine List.pairwise_cons.mpr ⟨?_, ih hrest⟩
      intro other hm
      rcases List.mem_cons.mp ((insertLongest_perm key rest).mem_iff.mp hm) with rfl | hm
      · omega
      · exact hk other hm

theorem longestFirst_sorted (ks : List String) :
    (longestFirst ks).Pairwise fun a b => b.length ≤ a.length := by
  induction ks with
  | nil => exact List.Pairwise.nil
  | cons k rest ih => exact insertLongest_sorted ih

/-- The first fitting key of a list with the longest first is the longest fitting one. -/
theorem foremost_of_find? {ks : List String} {text : List Char} {key : String}
    (hs : ks.Pairwise fun a b => b.length ≤ a.length)
    (h : ks.find? (startsLine text) = some key) : Foremost (· ∈ ks) text key := by
  obtain ⟨hp, before, after, hks, hbefore⟩ := List.find?_eq_some_iff_append.mp h
  subst hks
  refine ⟨by simp, (startsLine_iff text key).mp hp, ?_⟩
  intro other hm hlt hb
  have hother := (startsLine_iff text other).mpr hb
  rcases List.mem_append.mp hm with hm | hm
  · have := hbefore other hm
    simp [hother] at this
  · have hsorted := (List.pairwise_append.mp hs).2.1
    rcases List.mem_cons.mp hm with rfl | hm
    · exact Nat.lt_irrefl _ hlt
    · have := (List.pairwise_cons.mp hsorted).1 other hm
      omega

/-- Looking through a list with the longest first answers as a table of its keys should. -/
theorem find?_answers {ks : List String} (text : List Char)
    (hs : ks.Pairwise fun a b => b.length ≤ a.length) :
    Answers (· ∈ ks) text (ks.find? (startsLine text)) := by
  have hnone : ks.find? (startsLine text) = none ↔ ∀ key, key ∈ ks → ¬ Begins text key := by
    simp only [List.find?_eq_none, startsLine_iff]
  refine ⟨fun key => ⟨foremost_of_find? hs, fun hf => ?_⟩, hnone⟩
  cases h : ks.find? (startsLine text) with
  | none => exact absurd hf.begins (hnone.mp h key hf.registered)
  | some found => rw [(foremost_of_find? hs h).eq hf]

theorem Answers.congr {known other : String → Prop} {text : List Char} {answer : Option String}
    (h : Answers known text answer) (heq : ∀ key, known key ↔ other key) :
    Answers other text answer := by
  have : known = other := funext fun key => propext (heq key)
  exact this ▸ h

theorem longestFirst_answers (c : Cast) (text : List Char) :
    Answers c.Knows text ((longestFirst c.keys).find? (startsLine text)) :=
  (find?_answers text (longestFirst_sorted c.keys)).congr fun key => by
    rw [(longestFirst_perm c.keys).mem_iff, knows_iff_mem_keys]

/-! ## Registrations, one after the other -/

/-- The cast after several registrations, whether they succeed or not. -/
def registerAll (calls : List (Table Entry)) (c : Cast) : Cast :=
  calls.foldl (fun c call => (register call c).2) c

/-- The cast as it was when one of several registrations last succeeded; `last` when none did. -/
def settled (last : Cast) : List (Table Entry) → Cast → Cast
  | [], _ => last
  | call :: rest, c =>
    match register call c with
    | (.ok (), c) => settled c rest c
    | (.error _, c) => settled last rest c

/-- The index of a cast holds the keys that were known at an earlier time. -/
structure Covered (last c : Cast) : Prop where
  index : c.byLength = longestFirst last.keys
  kept : ∀ key, last.Knows key → c.Knows key

theorem Covered.new : Covered {} {} :=
  ⟨rfl, fun _ h => h⟩

theorem knows_put {c : Cast} {key : String} (h : c.Knows key) (k : String) (record : Character) :
    Knows { c with records := Table.put c.records k record } key := by
  rw [knows_iff_mem_keys] at h ⊢
  exact (Table.mem_keys_put c.records k key record).mpr (.inl h)

/-- No registration takes a record away. -/
theorem knows_register (call : Table Entry) (c : Cast) {key : String} (h : c.Knows key) :
    (register call c).2.Knows key := by
  induction call generalizing c with
  | nil => exact h
  | cons e rest ih =>
    obtain ⟨k, entry⟩ := e
    unfold register
    split
    · exact ih _ (knows_put h k _)
    · exact h

theorem byLength_register_ok (call : Table Entry) (c : Cast) (h : (register call c).1 = .ok ()) :
    (register call c).2.byLength = longestFirst (register call c).2.keys := by
  induction call generalizing c with
  | nil => rfl
  | cons e rest ih =>
    obtain ⟨k, entry⟩ := e
    unfold register at h ⊢
    cases hr : recordOf k entry with
    | ok record =>
      simp only [hr] at h ⊢
      exact ih _ h
    | error f => simp [hr] at h

theorem byLength_register_error (call : Table Entry) (c : Cast) {f : Fault}
    (h : (register call c).1 = .error f) : (register call c).2.byLength = c.byLength := by
  induction call generalizing c with
  | nil => cases h
  | cons e rest ih =>
    obtain ⟨k, entry⟩ := e
    unfold register at h ⊢
    cases hr : recordOf k entry with
    | ok record =>
      simp only [hr] at h ⊢
      exact ih _ h
    | error f => rfl

theorem Covered.registerAll {last c : Cast} (h : Covered last c) (calls : List (Table Entry)) :
    Covered (settled last calls c) (registerAll calls c) := by
  -- a call that succeeds makes the index anew, and one that fails leaves it as it was
  induction calls generalizing last c with
  | nil => exact h
  | cons call rest ih =>
    cases hr : register call c with
    | mk result c' =>
      have hc : (register call c).2 = c' := by rw [hr]
      simp only [Cast.registerAll, List.foldl_cons, settled, hr]
      cases result with
      | ok u =>
        have hi := byLength_register_ok call c (by rw [hr])
        rw [hc] at hi
        exact ih ⟨hi, fun _ hk => hk⟩
      | error f =>
        have hi := byLength_register_error call c (f := f) (by rw [hr])
        rw [hc] at hi
        refine ih ⟨hi.trans h.index, fun key hk => ?_⟩
        exact hc ▸ knows_register call c (h.kept key hk)

/-! ## What the index answers -/

/-- The index answers with the longest of the keys that were known when it was made. -/
theorem Covered.answers {last c : Cast} (h : Covered last c) (text : List Char) :
    Answers last.Knows text (c.speaker? text) := by
  rw [speaker?, h.index]
  exact longestFirst_answers last text

/-- A cast comes from a new one by registrations that all succeeded. -/
inductive Registered : Cast → Prop where
  | new : Registered {}
  | step {c : Cast} {call : Table Entry} (before : Registered c)
    (succeeds : (register call c).1 = .ok ()) : Registered (register call c).2

theorem Registered.covered {c : Cast} (h : Registered c) : Covered c c := by
  cases h with
  | new => exact Covered.new
  | step _ succeeds => exact ⟨byLength_register_ok _ _ succeeds, fun _ hk => hk⟩

/-- A line that some key begins has a longest key. -/
theorem exists_foremost (c : Cast) {text : List Char} {key : String} (hk : c.Knows key)
    (hb : Begins text key) : ∃ key, Foremost c.Knows text key := by
  have h := longestFirst_answers c text
  cases hf : (longestFirst c.keys).find? (startsLine text) with
  | none => exact absurd hb (h.2.mp hf key hk)
  | some found => exact ⟨found, (h.1 found).mp hf⟩

/-- A longest key that was known before is the longest of those known before. -/
theorem Covered.foremost {last c : Cast} (h : Covered last c) {text : List Char} {key : String}
    (hf : Foremost c.Knows text key) (hk : last.Knows key) : Foremost last.Knows text key :=
  ⟨hk, hf.begins, fun other ho => hf.longest other (h.kept other ho)⟩

/-- **The index agrees with the table just on the lines whose longest key was in the table when a
registration last succeeded.**  This holds after any registrations, those that were rejected
half-way among them. -/
theorem speaker?_agrees_iff (calls : List (Table Entry)) (text : List Char) :
    Answers (registerAll calls {}).Knows text ((registerAll calls {}).speaker? text) ↔
      ∀ key, Foremost (registerAll calls {}).Knows text key → (settled {} calls {}).Knows key := by
  have hc : Covered (settled {} calls {}) (registerAll calls {}) := Covered.new.registerAll calls
  have hlast := hc.answers text
  constructor
  · intro hnow key hf
    have := (hnow.1 key).mpr hf
    exact ((hlast.1 key).mp this).registered
  · intro hcond
    refine ⟨fun key => ⟨fun ha => ?_, fun hf => ?_⟩, fun ha => ?_, fun hnone => ?_⟩
    · have hf := (hlast.1 key).mp ha
      refine ⟨hc.kept key hf.registered, hf.begins, fun other ho hlt hb => ?_⟩
      -- the longest key of the table was known before, so the answer is at least as long
      obtain ⟨top, htop⟩ := exists_foremost _ ho hb
      have := (hlast.1 top).mpr (hc.foremost htop (hcond top htop))
      rw [ha, Option.some.injEq] at this
      exact htop.longest other ho (this ▸ hlt) hb
    · exact (hlast.1 key).mpr (hc.foremost hf (hcond key hf))
    · intro key hk hb
      obtain ⟨top, htop⟩ := exists_foremost _ hk hb
      exact hlast.2.mp ha top (hcond top htop) htop.begins
    · exact hlast.2.mpr fun key hk => hnone key (hc.kept key hk)

/-- A rejected registration leaves a key in the table that the index has not. -/
theorem not_answers_after_rejected :
    ¬ Answers (registerAll [[("a", .fields (.ofTable [])), ("b", .fields .null)]] {}).Knows
        "a Hi".toList
        ((registerAll [[("a", .fields (.ofTable [])), ("b", .fields .null)]] {}).speaker?
          "a Hi".toList) := by
  intro h
  refine h.2.mp ?_ "a" ?_ ?_
  · decide
  · unfold Knows
    decide
  · rw [← startsLine_iff]
    decide

end Dialogue.Cast
