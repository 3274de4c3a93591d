import Dialogue.Files.Walking

/-!
# Files beside one another

A file lies in a folder under a name, and the name has a stem and a suffix.  A file of another suffix
can be written beside it: the way to it is walked in the same manner, and what else lies in the folder
stays as it is.

## Results

* `Path.divide_append`, `Path.divide_stem` — a name is its stem and its suffix, and another suffix may
  stand behind the stem.
* `Node.walk_snoc` — a path is walked up to its last part, and then this part is taken.
* `Node.write_beside` — where something can be read, another file with a name that is no longer can be
  written beside it.
* `Node.at?_put_append`, `Node.entry?_put_of_ne` — what a folder holds after something was put into it.
-/

set_option autoImplicit false

namespace Dialogue.Files

/-! ## Stems and suffixes -/

namespace Path

/-- A name is its stem and its suffix. -/
theorem divide_append (name : String) : (divide name).1 ++ (divide name).2 = name := by
  have hsplit := List.takeWhile_append_dropWhile (p := fun c => decide (c ≠ '.'))
    (l := name.toList.reverse)
  unfold divide
  dsimp only
  split
  · exact String.append_empty
  · rename_i dot stem hdot
    have hfirst : dot = '.' := by
      have := List.head?_dropWhile_not (fun c => decide (c ≠ '.')) name.toList.reverse
      rw [hdot] at this
      simpa using this
    split
    · exact String.append_empty
    · apply String.toList_injective
      rw [hdot, hfirst] at hsplit
      have hname := congrArg List.reverse hsplit
      rw [List.reverse_reverse, List.reverse_append, List.reverse_cons] at hname
      rw [String.toList_append, String.toList_ofList, String.toList_ofList]
      exact Eq.trans (by simp) hname

/-- A suffix may stand behind any stem. -/
theorem divide_stem {stem ending : String} (some : stem ≠ "") (plain : '.' ∉ ending.toList)
    (nonempty : ending ≠ "") : divide (stem ++ "." ++ ending) = (stem, "." ++ ending) := by
  have hback : (stem ++ "." ++ ending).toList.reverse =
      ending.toList.reverse ++ '.' :: stem.toList.reverse := by simp
  have hending : ∀ c ∈ ending.toList.reverse, decide (c ≠ '.') = true := by
    intro c hc
    refine decide_eq_true fun heq => plain ?_
    rw [← heq]
    exact List.mem_reverse.mp hc
  have htake : (ending.toList.reverse ++ '.' :: stem.toList.reverse).takeWhile
      (fun c => decide (c ≠ '.')) = ending.toList.reverse := by
    rw [List.takeWhile_append_of_pos hending, List.takeWhile_cons_of_neg (by simp), List.append_nil]
  have hdrop : (ending.toList.reverse ++ '.' :: stem.toList.reverse).dropWhile
      (fun c => decide (c ≠ '.')) = '.' :: stem.toList.reverse := by
    rw [List.dropWhile_append_of_pos hending, List.dropWhile_cons_of_neg (by simp)]
  unfold divide
  simp only [hback, htake, hdrop]
  rw [if_neg (by simpa using And.intro some nonempty)]
  simp only [List.reverse_reverse, String.ofList_toList, Prod.mk.injEq, true_and]
  apply String.toList_injective
  simp

/-- A name with a suffix has a stem, and the suffix begins with its dot. -/
theorem stem_ne_empty {name : String} (suffixed : (divide name).2 ≠ "") : (divide name).1 ≠ "" := by
  unfold divide at suffixed ⊢
  dsimp only at suffixed ⊢
  split at suffixed
  · exact absurd rfl suffixed
  · split at suffixed
    · exact absurd rfl suffixed
    · rename_i dot stem hdot hsome
      rw [if_neg hsome]
      simp only [Bool.or_eq_true, not_or, List.isEmpty_iff] at hsome
      simpa using hsome.1

theorem isTop_eq_false {part : String} (long : 2 < part.length) : isTop part = false := by
  unfold isTop
  rw [Bool.or_eq_false_iff]
  constructor <;>
  · refine decide_eq_false ?_
    rintro rfl
    exact absurd long (by decide)

theorem name_snoc (dir : Path) {part : String} (inner : isTop part = false) :
    name (dir ++ [part]) = part := by
  simp [name, inner]

/-! ## Paths as texts -/

theorem intercalate_snoc (sep : String) (parts : List String) :
    ∃ front, ∀ last, sep.intercalate (parts ++ [last]) = front ++ last := by
  induction parts with
  | nil => exact ⟨"", fun last => by simp⟩
  | cons part more ih =>
    obtain ⟨front, hfront⟩ := ih
    refine ⟨part ++ sep ++ front, fun last => ?_⟩
    obtain ⟨next, later, hlater⟩ : ∃ next later, more ++ [last] = next :: later := by
      cases more with
      | nil => exact ⟨last, [], rfl⟩
      | cons next later => exact ⟨next, later ++ [last], rfl⟩
    rw [List.cons_append, hlater, String.intercalate_cons_cons, ← hlater, hfront]
    simp only [String.append_assoc]

/-- The last part of a path stands at the end of its text. -/
theorem text_snoc (dir : Path) : ∃ front, ∀ last, text (dir ++ [last]) = front ++ last := by
  cases dir with
  | nil =>
    refine ⟨"", fun last => ?_⟩
    simp [text]
  | cons part rest =>
    obtain ⟨front, hfront⟩ := intercalate_snoc "/" rest
    obtain ⟨whole, hwhole⟩ := intercalate_snoc "/" (part :: rest)
    by_cases htop : isTop part = true
    · refine ⟨part ++ front, fun last => ?_⟩
      rw [List.cons_append, text, if_pos htop, hfront, String.append_assoc]
    · refine ⟨whole, fun last => ?_⟩
      rw [List.cons_append, text, if_neg htop]
      exact hwhole last

end Path

namespace Node

/-! ## The same way by another path -/

/-- How a part is taken does not depend on the path that it belongs to. -/
theorem step_eq_ok_iff {top : Node} {p : Path} {way next : Way} {part : String} :
    step top p way part = .ok next ↔
      (Path.isTop part = true ∧ [] = next) ∨
      (Path.isTop part = false ∧ ∃ entries, at? way top = some (.folder entries) ∧
        ((part = ".." ∧ way.dropLast = next) ∨
          (part ≠ ".." ∧ part.utf8ByteSize ≤ longestName ∧ Table.has entries part = true ∧
            way ++ [part] = next))) := by
  unfold step
  cases htop : Path.isTop part with
  | true => simp
  | false =>
    cases hat : at? way top with
    | none => simp
    | some n =>
      cases n with
      | file bytes => simp
      | folder entries =>
        by_cases hup : part = ".."
        · simp [hup]
        · by_cases hlong : longestName < part.utf8ByteSize
          · simp [hup, hlong, Nat.not_le.mpr hlong]
          · cases hhas : Table.has entries part <;> simp [hup, hlong, hhas, Nat.not_lt.mp hlong]

theorem foldlM_step_eq_ok {top : Node} {p : Path} (q : Path) {parts : List String}
    {way last : Way} (h : parts.foldlM (step top p) way = .ok last) :
    parts.foldlM (step top q) way = .ok last := by
  induction parts generalizing way with
  | nil => exact h
  | cons part rest ih =>
    rw [List.foldlM_cons] at h ⊢
    cases hstep : step top p way part with
    | error f =>
      rw [hstep] at h
      cases h
    | ok next =>
      rw [hstep] at h
      rw [step_eq_ok_iff.mpr (step_eq_ok_iff.mp hstep)]
      exact ih h

/-- A path is walked up to its last part, and then this part is taken. -/
theorem walk_snoc {top : Node} {dir : Path} {part : String} {place : Way}
    (h : walk top (dir ++ [part]) = .ok place) :
    pathFault? (dir ++ [part]) = none ∧ ∃ way,
      dir.foldlM (step top (dir ++ [part])) home = .ok way ∧
        step top (dir ++ [part]) way part = .ok place := by
  unfold walk at h
  cases hfault : pathFault? (dir ++ [part]) with
  | some f =>
    rw [hfault] at h
    cases h
  | none =>
    rw [hfault] at h
    simp only [List.foldlM_append] at h
    cases hdir : dir.foldlM (step top (dir ++ [part])) home with
    | error f =>
      rw [hdir] at h
      cases h
    | ok way =>
      rw [hdir] at h
      refine ⟨rfl, way, rfl, ?_⟩
      have hlast : [part].foldlM (step top (dir ++ [part])) way = .ok place := h
      rw [List.foldlM_cons] at hlast
      cases hstep : step top (dir ++ [part]) way part with
      | error f =>
        rw [hstep] at hlast
        cases hlast
      | ok next =>
        rw [hstep] at hlast
        exact hlast

/-! ## Writing beside -/

/-- Nothing is wrong with a path to a name that is no longer. -/
theorem pathFault?_snoc {dir : Path} {part other : String}
    (fine : pathFault? (dir ++ [part]) = none) (clean : '\x00' ∉ other.toList)
    (short : other.utf8ByteSize ≤ part.utf8ByteSize) : pathFault? (dir ++ [other]) = none := by
  unfold pathFault? at fine ⊢
  split at fine
  · cases fine
  · rename_i hnone
    split at fine
    · cases fine
    · rename_i hshort
      obtain ⟨front, hfront⟩ := Path.text_snoc dir
      rw [hfront, String.utf8ByteSize_append] at hshort
      rw [List.any_append, Bool.or_eq_true, not_or] at hnone
      have hany : ¬ (dir ++ [other]).any (fun part => part.toList.contains '\x00') = true := by
        rw [List.any_append, Bool.or_eq_true, not_or]
        exact ⟨hnone.1, by simpa using clean⟩
      rw [if_neg hany, if_neg]
      rw [hfront, String.utf8ByteSize_append]
      omega

theorem clean_of_pathFault? {dir : Path} {part : String}
    (fine : pathFault? (dir ++ [part]) = none) : '\x00' ∉ part.toList := by
  unfold pathFault? at fine
  split at fine
  · cases fine
  · rename_i hnone
    rw [List.any_append, Bool.or_eq_true, not_or] at hnone
    simpa using hnone.2

/-- **Where something can be read, another file with a name that is no longer can be written beside
it.** -/
theorem write_beside {top : Node} {dir : Path} {part other : String} {place way : Way}
    {entries : Table Node} (leads : walk top dir = .ok way)
    (found : walk top (dir ++ [part]) = .ok place) (folder : at? way top = some (.folder entries))
    (inner : Path.isTop part = false) (here : part ≠ "..") (inside : Path.isTop other = false)
    (below : other ≠ "..") (clean : '\x00' ∉ other.toList)
    (short : other.utf8ByteSize ≤ part.utf8ByteSize) (absent : Table.get? entries other = none)
    (bytes : ByteArray) :
    place = way ++ [part] ∧
      write top (dir ++ [other]) bytes = .ok (put (.file bytes) (way ++ [other]) top) := by
  obtain ⟨hfine, passed, hpassed, hstep⟩ := walk_snoc found
  have hway : passed = way := by
    have hdir : dir.foldlM (step top dir) home = .ok way := by
      unfold walk at leads
      split at leads
      · cases leads
      · exact leads
    have hsame := foldlM_step_eq_ok dir hpassed
    rw [hdir] at hsame
    exact (Except.ok.inj hsame).symm
  subst hway
  obtain ⟨htop, -⟩ | ⟨-, others, hothers, ⟨hup, -⟩ | ⟨-, hlong, -, hplace⟩⟩ := step_eq_ok_iff.mp hstep
  · rw [inner] at htop
    cases htop
  · exact absurd hup here
  · refine ⟨hplace.symm, ?_⟩
    have hstepped : step top (dir ++ [other]) passed other = .error .fileNotFound := by
      unfold step
      rw [if_neg (by simp [inside]), folder]
      simp only [if_neg below, if_neg (Nat.not_lt.mpr (Nat.le_trans short hlong)), Table.has, absent]
      rfl
    unfold write
    rw [pathFault?_snoc hfine clean short]
    simp only [List.getLast?_append, List.getLast?_singleton, Option.some_or,
      List.dropLast_concat, foldlM_step_eq_ok (dir ++ [other]) hpassed, hstepped, bind, Except.bind]
    rfl

/-! ## What a folder holds then -/

theorem at?_append (way rest : Way) (here : Node) :
    at? (way ++ rest) here = (at? way here).bind (at? rest) := by
  induction way generalizing here with
  | nil => rfl
  | cons name more ih =>
    show (here.entry? name).bind (at? (more ++ rest)) = ((here.entry? name).bind (at? more)).bind _
    cases here.entry? name with
    | none => rfl
    | some n => exact ih n

theorem entry?_put_self (new : Node) (name : String) (rest : Way) (here : Node) :
    entry? (put new (name :: rest) here) name =
      some (put new rest ((here.entry? name).getD (.folder []))) :=
  Table.get?_put_self _ _ _

theorem entry?_put_of_ne (new : Node) {name other : String} (rest : Way) (here : Node)
    (h : other ≠ name) : entry? (put new (name :: rest) here) other = here.entry? other := by
  show Table.get? (Table.put (here.entries?.getD []) name _) other = _
  rw [Table.get?_put_of_ne _ _ h]
  cases here <;> rfl

/-- What is put below a place changes what lies there, as it would alone. -/
theorem at?_put_append (new : Node) {way : Way} (rest : Way) {here n : Node}
    (h : at? way here = some n) : at? way (put new (way ++ rest) here) = some (put new rest n) := by
  induction way generalizing here with
  | nil =>
    cases h
    rfl
  | cons name more ih =>
    obtain ⟨next, hnext, hn⟩ := Option.bind_eq_some_iff.mp h
    show ( entry? (put new (name :: (more ++ rest)) here) name).bind (at? more) = _
    rw [entry?_put_self, hnext]
    exact ih hn

end Node

end Dialogue.Files
