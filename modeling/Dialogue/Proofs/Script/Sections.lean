import Dialogue.Proofs.Lines
import Dialogue.Proofs.Writing
import Dialogue.Script
import Mathlib.Data.List.Induction
import Mathlib.Logic.Relation

/-!
# The sections of a text script

The lines of a text script that count are divided at the headers.  What stands before the first one
belongs to no label, and each header has the lines up to the next one.  A script is what its text
says at the headers: the labels come in the order in which they first head something, and each has
the lines of all its parts, one part after the other.

So nothing depends on how a text is laid out, as long as the same lines count.

## Results

* `divides_iff` — lines are divided at their headers in one way.
* `read_of_divides` — a script is told by the division of its lines.
* `read_distinct` — no label of a text script comes twice.
* `read_retouched` — blanks around lines, lines that are passed over and the kinds of line ends do
  not matter.
* `read_by_sections` — what a text script holds, whatever its text.
-/

set_option autoImplicit false

namespace Dialogue

namespace Script

open Text (Blank Layout Stretch Ending)

/-! ## Headers -/

/-- A line heads the statements of a label: a number sign, perhaps blanks, and the label, which is
made of word characters. -/
def Heads (line : List Char) (label : String) : Prop :=
  (label ≠ "" ∧ ∀ c ∈ label.toList, Text.isWord c = true) ∧
    ∃ gap, Blank gap ∧ line = '#' :: (gap ++ label.toList)

/-- A line that heads nothing. -/
def Plain (line : List Char) : Prop :=
  ∀ label, ¬ Heads line label

theorem isBlank_of_isWord {c : Char} (h : Text.isWord c = true) : Text.isBlank c = false := by
  simpa [Text.isSolid] using Statement.isSolid_of_isWord h

theorem dropWhile_gap {gap label : List Char} (blank : Blank gap)
    (word : ∀ c ∈ label, Text.isWord c = true) :
    (gap ++ label).dropWhile Text.isBlank = label := by
  rw [List.dropWhile_append_of_pos blank]
  cases label with
  | nil => rfl
  | cons c cs =>
    have hc := isBlank_of_isWord (word c List.mem_cons_self)
    exact List.dropWhile_cons_of_neg (by simp [hc])

theorem header?_eq_some_iff {line : List Char} {label : String} :
    header? line = some label.toList ↔ Heads line label := by
  constructor
  · intro h
    unfold header? at h
    split at h
    · rename_i rest
      dsimp only at h
      split at h
      · rename_i hname
        have hlabel := Option.some.inj h
        rw [hlabel] at hname
        refine ⟨⟨by simpa using hname.1, List.all_eq_true.mp hname.2⟩,
          rest.takeWhile Text.isBlank, List.all_eq_true.mp List.all_takeWhile, ?_⟩
        rw [← hlabel, List.takeWhile_append_dropWhile]
      · cases h
    · cases h
  · rintro ⟨⟨hne, word⟩, gap, blank, rfl⟩
    unfold header?
    simp only [dropWhile_gap blank word]
    exact if_pos ⟨by simpa using hne, List.all_eq_true.mpr word⟩

theorem header?_eq_none_iff {line : List Char} : header? line = none ↔ Plain line := by
  constructor
  · intro h label hheads
    rw [header?_eq_some_iff.mpr hheads] at h
    cases h
  · intro h
    cases hlabel : header? line with
    | none => rfl
    | some label =>
      exact absurd (header?_eq_some_iff.mp (by rw [hlabel, String.toList_ofList]))
        (h (String.ofList label))

/-! ## Dividing lines at their headers -/

/-- A header and the lines between it and the next one. -/
structure Part where
  header : List Char
  label : String
  lines : List (List Char)

/-- All the lines of a part. -/
def Part.rows (part : Part) : List (List Char) :=
  part.header :: part.lines

/-- Lines are those before the first header, and then those of each part. -/
structure Divides (ls opening : List (List Char)) (parts : List Part) : Prop where
  whole : ls = opening ++ parts.flatMap Part.rows
  opening : ∀ line ∈ opening, Plain line
  headed : ∀ part ∈ parts, Heads part.header part.label
  lines : ∀ part ∈ parts, ∀ line ∈ part.lines, Plain line

/-- Divide lines at their headers. -/
def divide : List (List Char) → List (List Char) × List Part
  | [] => ([], [])
  | line :: rest =>
    match header? line with
    | some label => ([], ⟨line, String.ofList label, (divide rest).1⟩ :: (divide rest).2)
    | none => (line :: (divide rest).1, (divide rest).2)

theorem divides_divide (ls : List (List Char)) : Divides ls (divide ls).1 (divide ls).2 := by
  induction ls with
  | nil => exact ⟨rfl, by simp [divide], by simp [divide], by simp [divide]⟩
  | cons line rest ih =>
    unfold divide
    cases hline : header? line with
    | none =>
      exact ⟨congrArg (line :: ·) ih.whole,
        List.forall_mem_cons.mpr ⟨header?_eq_none_iff.mp hline, ih.opening⟩, ih.headed, ih.lines⟩
    | some label =>
      have hheads : Heads line (String.ofList label) :=
        header?_eq_some_iff.mp (by rw [hline, String.toList_ofList])
      exact ⟨congrArg (line :: ·) ih.whole, by simp,
        List.forall_mem_cons.mpr ⟨hheads, ih.headed⟩,
        List.forall_mem_cons.mpr ⟨ih.opening, ih.lines⟩⟩

/-- Lines are divided at their headers in one way. -/
theorem divides_iff {ls opening : List (List Char)} {parts : List Part} :
    Divides ls opening parts ↔ divide ls = (opening, parts) := by
  constructor
  · intro h
    induction ls generalizing opening parts with
    | nil =>
      obtain ⟨rfl, hparts⟩ := List.append_eq_nil_iff.mp h.whole.symm
      cases parts with
      | nil => rfl
      | cons part parts => cases hparts
    | cons line rest ih =>
      unfold divide
      cases opening with
      | cons first opening =>
        obtain ⟨rfl, hrest⟩ := List.cons.inj h.whole
        obtain ⟨hplain, hopening⟩ := List.forall_mem_cons.mp h.opening
        rw [header?_eq_none_iff.mpr hplain, ih ⟨hrest, hopening, h.headed, h.lines⟩]
      | nil =>
        cases parts with
        | nil => cases h.whole
        | cons part parts =>
          obtain ⟨hline, hrest⟩ := List.cons.inj h.whole
          obtain ⟨hheads, hheaded⟩ := List.forall_mem_cons.mp h.headed
          obtain ⟨hlines, hmore⟩ := List.forall_mem_cons.mp h.lines
          rw [hline, header?_eq_some_iff.mpr hheads, ih ⟨hrest, hlines, hheaded, hmore⟩]
          simp only [String.ofList_toList]
  · intro h
    have hdivides := divides_divide ls
    rwa [h] at hdivides

/-! ## What a script is, by its sections -/

/-- The statements of all parts that a label heads. -/
def under (parts : List Part) (label : String) : List String :=
  (parts.filter (·.label = label)).flatMap fun part => part.lines.map String.ofList

/-- The script that sections make: the labels in the order of their first parts. -/
def ofSections (opening : List (List Char)) (parts : List Part) : Script where
  labels := (parts.map Part.label).eraseDups.map fun label => (label, under parts label)
  loose := opening.map String.ofList

theorem keys_ofSections (opening : List (List Char)) (parts : List Part) :
    Table.keys (ofSections opening parts).labels = (parts.map Part.label).eraseDups := by
  unfold ofSections Table.keys
  rw [List.map_map]
  exact List.map_id _

theorem get?_tabulate {α : Type} (names : List String) (f : String → α) (key : String) :
    Table.get? (names.map fun name => (name, f name)) key =
      if key ∈ names then some (f key) else none := by
  induction names with
  | nil => rfl
  | cons name rest ih =>
    by_cases hname : name = key
    · simp [Table.get?, hname]
    · simp [Table.get?, hname, Ne.symm hname, ih]

theorem get?_ofSections (opening : List (List Char)) (parts : List Part) (label : String) :
    Table.get? (ofSections opening parts).labels label =
      if ∃ part ∈ parts, part.label = label then some (under parts label) else none := by
  simp only [ofSections, get?_tabulate, List.mem_eraseDups, List.mem_map]

/-! ## Reading the sections -/

/-- Add lines as statements. -/
def addAll (s : Script) (label? : Option String) (ls : List (List Char)) : Script :=
  ls.foldl (fun s line => s.add label? (String.ofList line)) s

theorem row_of_heads {line : List Char} {label : String} (h : Heads line label) :
    Row.ofTrimmed line = .header label := by
  have hpassed : isPassed line = false := by
    obtain ⟨-, gap, -, rfl⟩ := h
    rfl
  unfold Row.ofTrimmed
  rw [hpassed, header?_eq_some_iff.mpr h]
  simp

theorem row_of_plain {line : List Char} (counts : isPassed line = false) (h : Plain line) :
    Row.ofTrimmed line = .statement (String.ofList line) := by
  unfold Row.ofTrimmed
  rw [counts, header?_eq_none_iff.mpr h]
  simp

theorem ofRows_plain {ls : List (List Char)} (counts : ∀ line ∈ ls, isPassed line = false)
    (plain : ∀ line ∈ ls, Plain line) (rest : List Row) (label? : Option String) (s : Script) :
    ofRows (ls.map Row.ofTrimmed ++ rest) label? s = ofRows rest label? (s.addAll label? ls) := by
  induction ls generalizing s with
  | nil => rfl
  | cons line ls ih =>
    obtain ⟨hcounts, hmore⟩ := List.forall_mem_cons.mp counts
    obtain ⟨hplain, hrest⟩ := List.forall_mem_cons.mp plain
    rw [List.map_cons, row_of_plain hcounts hplain]
    exact ih hmore hrest _

theorem loose_addAll (s : Script) (label : String) (ls : List (List Char)) :
    (s.addAll (some label) ls).loose = s.loose := by
  induction ls generalizing s with
  | nil => rfl
  | cons line ls ih => exact ih _

theorem addAll_none (s : Script) (ls : List (List Char)) :
    s.addAll none ls = { s with loose := s.loose ++ ls.map String.ofList } := by
  induction ls generalizing s with
  | nil => simp [addAll]
  | cons line ls ih =>
    show (s.add none (String.ofList line)).addAll none ls = _
    rw [ih]
    simp [add]

theorem keys_addAll {s : Script} {label : String} (known : label ∈ Table.keys s.labels)
    (ls : List (List Char)) :
    Table.keys (s.addAll (some label) ls).labels = Table.keys s.labels := by
  induction ls generalizing s with
  | nil => rfl
  | cons line ls ih =>
    have hkeys : Table.keys (s.add (some label) (String.ofList line)).labels =
        Table.keys s.labels := Table.keys_put_of_mem _ known
    show Table.keys ((s.add (some label) (String.ofList line)).addAll (some label) ls).labels = _
    rw [ih (by rw [hkeys]; exact known), hkeys]

theorem get?_addAll {s : Script} {label : String} {texts : List String}
    (found : Table.get? s.labels label = some texts) (ls : List (List Char)) (key : String) :
    Table.get? (s.addAll (some label) ls).labels key =
      if key = label then some (texts ++ ls.map String.ofList) else Table.get? s.labels key := by
  induction ls generalizing s texts with
  | nil =>
    split
    · rename_i hkey
      simp [addAll, hkey, found]
    · rfl
  | cons line ls ih =>
    have hnext : Table.get? (s.add (some label) (String.ofList line)).labels label =
        some (texts ++ [String.ofList line]) := by
      simp [add, found, Table.get?_put_self]
    show Table.get? ((s.add (some label) (String.ofList line)).addAll (some label) ls).labels key = _
    rw [ih hnext]
    split
    · simp
    · rename_i hkey
      exact Table.get?_put_of_ne _ _ hkey

/-- Add a part: begin or go on with its label, then add its lines. -/
def addPart (s : Script) (part : Part) : Script :=
  (s.enter part.label).addAll (some part.label) part.lines

theorem get?_enter_self (s : Script) (label : String) :
    Table.get? (s.enter label).labels label = some ((Table.get? s.labels label).getD []) := by
  unfold enter Table.has
  split
  · rename_i hsome
    obtain ⟨texts, htexts⟩ := Option.isSome_iff_exists.mp hsome
    rw [htexts]
    rfl
  · rename_i hnone
    rw [Option.not_isSome_iff_eq_none.mp hnone]
    exact Table.get?_put_self ..

theorem get?_enter_of_ne (s : Script) {label key : String} (h : key ≠ label) :
    Table.get? (s.enter label).labels key = Table.get? s.labels key := by
  unfold enter
  split
  · rfl
  · exact Table.get?_put_of_ne _ _ h

theorem keys_enter (s : Script) (label : String) :
    Table.keys (s.enter label).labels =
      if label ∈ Table.keys s.labels then Table.keys s.labels
      else Table.keys s.labels ++ [label] := by
  unfold enter Table.has
  by_cases hmem : label ∈ Table.keys s.labels
  · rw [if_pos ((Table.get?_isSome_iff _ _).mpr hmem), if_pos hmem]
  · rw [if_neg fun h => hmem ((Table.get?_isSome_iff _ _).mp h), if_neg hmem]
    exact Table.keys_put_of_not_mem _ hmem

theorem loose_addPart (s : Script) (part : Part) : (s.addPart part).loose = s.loose := by
  unfold addPart
  rw [loose_addAll]
  unfold enter
  split <;> rfl

theorem keys_addPart (s : Script) (part : Part) :
    Table.keys (s.addPart part).labels =
      if part.label ∈ Table.keys s.labels then Table.keys s.labels
      else Table.keys s.labels ++ [part.label] := by
  have hknown : part.label ∈ Table.keys (s.enter part.label).labels := by
    rw [← Table.get?_isSome_iff, get?_enter_self]
    rfl
  unfold addPart
  rw [keys_addAll hknown, keys_enter]

theorem get?_addPart (s : Script) (part : Part) (key : String) :
    Table.get? (s.addPart part).labels key =
      if key = part.label then
        some ((Table.get? s.labels key).getD [] ++ part.lines.map String.ofList)
      else Table.get? s.labels key := by
  unfold addPart
  rw [get?_addAll (get?_enter_self s part.label)]
  split
  · rename_i hkey
    rw [hkey]
  · rename_i hkey
    exact get?_enter_of_ne s hkey

theorem under_append (parts : List Part) (part : Part) (label : String) :
    under (parts ++ [part]) label =
      under parts label ++ if part.label = label then part.lines.map String.ofList else [] := by
  unfold under
  rw [List.filter_append, List.flatMap_append]
  by_cases h : part.label = label <;> simp [h]

theorem under_of_not_headed {parts : List Part} {label : String}
    (h : ¬ ∃ part ∈ parts, part.label = label) : under parts label = [] := by
  have hnone : parts.filter (·.label = label) = [] :=
    List.filter_eq_nil_iff.mpr fun part hpart => by simpa using fun hlabel => h ⟨part, hpart, hlabel⟩
  rw [under, hnone]
  rfl

theorem eraseDups_concat (names : List String) (name : String) :
    (names ++ [name]).eraseDups =
      if name ∈ names then names.eraseDups else names.eraseDups ++ [name] := by
  rw [List.eraseDups_append]
  by_cases h : name ∈ names <;> simp [List.removeAll, h, List.eraseDups_cons]

theorem nodup_eraseDups (names : List String) : names.eraseDups.Nodup := by
  induction names using List.reverseRecOn with
  | nil => exact List.nodup_nil
  | append_singleton names name ih =>
    rw [eraseDups_concat]
    split
    · exact ih
    · rename_i hnew
      refine List.nodup_append.mpr ⟨ih, by simp, fun a ha b hb hab => hnew ?_⟩
      rw [List.mem_eraseDups, hab, List.mem_singleton.mp hb] at ha
      exact ha

/-- One more part is one more section. -/
theorem addPart_ofSections (opening : List (List Char)) (parts : List Part) (part : Part) :
    (ofSections opening parts).addPart part = ofSections opening (parts ++ [part]) := by
  have hkeys : Table.keys ((ofSections opening parts).addPart part).labels =
      Table.keys (ofSections opening (parts ++ [part])).labels := by
    simp only [keys_addPart, keys_ofSections, List.map_append, List.map_cons, List.map_nil,
      eraseDups_concat, List.mem_eraseDups]
  have hdistinct : Table.Distinct ((ofSections opening parts).addPart part).labels := by
    unfold Table.Distinct
    rw [hkeys, keys_ofSections]
    exact nodup_eraseDups _
  have hanswers : ∀ key, Table.get? ((ofSections opening parts).addPart part).labels key =
      Table.get? (ofSections opening (parts ++ [part])).labels key := by
    intro key
    rw [get?_addPart, get?_ofSections, get?_ofSections, under_append]
    by_cases hhere : part.label = key
    · by_cases hbefore : ∃ part ∈ parts, part.label = key
      · simp [hhere, hbefore]
      · simp [hhere, hbefore, under_of_not_headed hbefore]
    · simp [hhere, Ne.symm hhere]
  exact congrArg₂ Script.mk (Table.eq_of_get? hdistinct hkeys hanswers) (loose_addPart _ _)

theorem ofRows_parts {parts : List Part}
    (counts : ∀ line ∈ parts.flatMap Part.rows, isPassed line = false)
    (headed : ∀ part ∈ parts, Heads part.header part.label)
    (plain : ∀ part ∈ parts, ∀ line ∈ part.lines, Plain line) (label? : Option String)
    (s : Script) :
    ofRows ((parts.flatMap Part.rows).map Row.ofTrimmed) label? s = parts.foldl addPart s := by
  induction parts generalizing label? s with
  | nil => rfl
  | cons part parts ih =>
    obtain ⟨hheads, hheaded⟩ := List.forall_mem_cons.mp headed
    obtain ⟨hplain, hrest⟩ := List.forall_mem_cons.mp plain
    obtain ⟨hcounts, hmore⟩ := List.forall_mem_append.mp counts
    have hlines := (List.forall_mem_cons.mp hcounts).2
    rw [List.flatMap_cons, Part.rows, List.map_append, List.map_cons, row_of_heads hheads]
    calc ofRows (.header part.label :: part.lines.map Row.ofTrimmed ++
          (parts.flatMap Part.rows).map Row.ofTrimmed) label? s
        = ofRows ((parts.flatMap Part.rows).map Row.ofTrimmed) (some part.label)
            (s.addPart part) := ofRows_plain hlines hplain _ _ _
      _ = (part :: parts).foldl addPart s := ih hmore hheaded hrest _ _

/-! ## The lines that count -/

/-- Lines without the blanks around them, but for those that are passed over. -/
def counted (ls : List (List Char)) : List (List Char) :=
  (ls.map Text.trim).filter fun line => !isPassed line

theorem counts_of_mem_counted {ls : List (List Char)} {line : List Char} (h : line ∈ counted ls) :
    isPassed line = false := by
  simpa using (List.mem_filter.mp h).2

/-- Empty lines do not count. -/
theorem counted_filled (ls : List (List Char)) : counted (Text.filled ls) = counted ls := by
  induction ls with
  | nil => rfl
  | cons line ls ih =>
    unfold counted Text.filled at *
    cases line with
    | nil => exact ih
    | cons c cs => simp only [List.filter_cons, List.isEmpty_cons, Bool.not_false, if_true,
        List.map_cons, ih]

theorem ofRows_counted (ls : List (List Char)) (label? : Option String) (s : Script) :
    ofRows (ls.map fun line => Row.ofTrimmed (Text.trim line)) label? s =
      ofRows ((counted ls).map Row.ofTrimmed) label? s := by
  induction ls generalizing label? s with
  | nil => rfl
  | cons line ls ih =>
    cases hline : isPassed (Text.trim line) with
    | true =>
      have hrow : Row.ofTrimmed (Text.trim line) = .passed := by
        unfold Row.ofTrimmed
        rw [if_pos hline]
      have hcounted : counted (line :: ls) = counted ls := by
        simp [counted, hline]
      rw [List.map_cons, hrow, hcounted]
      exact ih _ _
    | false =>
      have hcounted : counted (line :: ls) = Text.trim line :: counted ls := by
        simp [counted, hline]
      rw [List.map_cons, hcounted, List.map_cons]
      cases Row.ofTrimmed (Text.trim line) with
      | passed => exact ih _ _
      | header label => exact ih _ _
      | statement text => exact ih _ _

/-- The lines of a text that count. -/
def countedLines (text : String) : List (List Char) :=
  counted (Text.lines text.toList)

/-- **A script is told by the division of its lines.** -/
theorem read_of_divides {text : String} {opening : List (List Char)} {parts : List Part}
    (h : Divides (countedLines text) opening parts) : read text = ofSections opening parts := by
  have hcounts : ∀ line ∈ countedLines text, isPassed line = false := fun _ =>
    counts_of_mem_counted
  rw [h.whole] at hcounts
  obtain ⟨hopening, hparts⟩ := List.forall_mem_append.mp hcounts
  have hfold : ∀ more before : List Part,
      more.foldl addPart (ofSections opening before) = ofSections opening (before ++ more) := by
    intro more
    induction more with
    | nil => simp
    | cons part more ih =>
      intro before
      rw [List.foldl_cons, addPart_ofSections, ih, List.append_assoc]
      rfl
  unfold read rows
  rw [ofRows_counted]
  show ofRows ((countedLines text).map Row.ofTrimmed) none {} = _
  calc ofRows ((countedLines text).map Row.ofTrimmed) none {}
      = ofRows ((parts.flatMap Part.rows).map Row.ofTrimmed) none (addAll {} none opening) := by
        rw [h.whole, List.map_append, ofRows_plain hopening h.opening]
    _ = parts.foldl addPart (addAll {} none opening) := ofRows_parts hparts h.headed h.lines _ _
    _ = parts.foldl addPart (ofSections opening []) := by rw [addAll_none]; rfl
    _ = ofSections opening parts := hfold parts []

/-- A script is told by its lines that count. -/
theorem read_eq_of_counted {text other : String} (h : countedLines text = countedLines other) :
    read text = read other := by
  rw [read_of_divides (divides_divide (countedLines text)), h,
    ← read_of_divides (divides_divide (countedLines other))]

/-- No label of a text script comes twice. -/
theorem read_distinct (text : String) : Table.Distinct (read text).labels := by
  rw [read_of_divides (divides_divide (countedLines text)), Table.Distinct, keys_ofSections]
  exact nodup_eraseDups _

/-! ## How a text is laid out -/

/-- There is nothing on a line, or a remark. -/
def Silent (line : List Char) : Prop :=
  Blank line ∨ ∃ gap remark, Blank gap ∧ line = gap ++ ['/', '/'] ++ remark

/-- What can be done to the layout of a text without changing its lines that count. -/
inductive Retouch : Layout → Layout → Prop where
  /-- put blanks around a line -/
  | indent {before after : List (Stretch × Ending)} {line moved : Stretch} {left right : List Char}
      (e : Ending) (last : Stretch) (blank : Blank left ∧ Blank right)
      (around : moved.1 = left ++ line.1 ++ right) :
      Retouch ⟨before ++ (line, e) :: after, last⟩ ⟨before ++ (moved, e) :: after, last⟩
  /-- put blanks around the last line -/
  | indentLast {rows : List (Stretch × Ending)} {line moved : Stretch} {left right : List Char}
      (blank : Blank left ∧ Blank right) (around : moved.1 = left ++ line.1 ++ right) :
      Retouch ⟨rows, line⟩ ⟨rows, moved⟩
  /-- add a line -/
  | insert {before after : List (Stretch × Ending)} {line : Stretch} (e : Ending) (last : Stretch)
      (silent : Silent line.1) :
      Retouch ⟨before ++ after, last⟩ ⟨before ++ (line, e) :: after, last⟩
  /-- add a line behind the last one -/
  | append {rows : List (Stretch × Ending)} {line : Stretch} (e : Ending) (last : Stretch)
      (silent : Silent line.1) : Retouch ⟨rows, last⟩ ⟨rows ++ [(last, e)], line⟩
  /-- end a line in another way -/
  | ending {before after : List (Stretch × Ending)} (line : Stretch) (e other : Ending)
      (last : Stretch) :
      Retouch ⟨before ++ (line, e) :: after, last⟩ ⟨before ++ (line, other) :: after, last⟩

theorem isPassed_of_silent {line : List Char} (h : Silent line) :
    isPassed (Text.trim line) = true := by
  rcases h with hblank | ⟨gap, remark, hblank, rfl⟩
  · rw [Text.trim_of_blank hblank]
    rfl
  · have hslash : Text.isBlank '/' = false := by decide
    have htrim : Text.trim (gap ++ ['/', '/'] ++ remark) = '/' :: '/' :: Text.trimEnd remark :=
      calc Text.trim (gap ++ ['/', '/'] ++ remark)
          = Text.trim (gap ++ ('/' :: '/' :: remark) ++ []) := by simp
        _ = Text.trim ('/' :: '/' :: remark) := Text.trim_surrounded hblank (by simp [Blank]) _
        _ = '/' :: '/' :: Text.trimEnd remark := by
          rw [Text.trim_cons hslash, Text.trimEnd_cons hslash]
    rw [htrim]
    rfl

theorem counted_append (ls more : List (List Char)) :
    counted (ls ++ more) = counted ls ++ counted more := by
  simp [counted]

theorem counted_cons (line : List Char) (ls : List (List Char)) :
    counted (line :: ls) = counted [line] ++ counted ls :=
  counted_append [line] ls

theorem counted_surrounded {left right : List Char} (blank : Blank left ∧ Blank right)
    (line : List Char) : counted [left ++ line ++ right] = counted [line] := by
  unfold counted
  rw [List.map_singleton, Text.trim_surrounded blank.1 blank.2, List.map_singleton]

theorem counted_silent {line : List Char} (h : Silent line) : counted [line] = [] := by
  simp [counted, isPassed_of_silent h]

theorem lines_insert (before after : List (Stretch × Ending)) (line : Stretch) (e : Ending)
    (last : Stretch) :
    Layout.lines ⟨before ++ (line, e) :: after, last⟩ =
      before.map (fun row => row.1.1) ++ line.1 :: Layout.lines ⟨after, last⟩ := by
  simp [Layout.lines]

theorem Retouch.counted_lines {a b : Layout} (h : Retouch a b) :
    counted b.lines = counted a.lines := by
  cases h with
  | @indent before after line moved left right e last blank around =>
    rw [lines_insert, lines_insert, counted_append, counted_append, counted_cons moved.1, around,
      counted_surrounded blank, ← counted_cons]
  | @indentLast rows line moved left right blank around =>
    unfold Layout.lines
    rw [counted_append, counted_append, around, counted_surrounded blank]
  | @insert before after line e last silent =>
    have hlines : Layout.lines ⟨before ++ after, last⟩ =
        before.map (fun row => row.1.1) ++ Layout.lines ⟨after, last⟩ := by simp [Layout.lines]
    rw [lines_insert, hlines, counted_append, counted_append, counted_cons, counted_silent silent,
      List.nil_append]
  | @append rows line e last silent =>
    unfold Layout.lines
    rw [counted_append, counted_silent silent, List.append_nil, List.map_append]
    rfl
  | ending line e other last => rw [lines_insert, lines_insert]

/-- A text with a layout holds what the lines say. -/
theorem countedLines_layout (l : Layout) :
    countedLines (String.ofList l.text) = counted l.lines := by
  unfold countedLines
  rw [String.toList_ofList, ← counted_filled, l.filled_lines, counted_filled]

/-- **The layout of a text does not matter**: blanks around lines, lines that are passed over and
the kinds of line ends can be changed, in any number and order. -/
theorem read_retouched {a b : Layout} (h : Relation.EqvGen Retouch a b) :
    read (String.ofList a.text) = read (String.ofList b.text) := by
  apply read_eq_of_counted
  rw [countedLines_layout, countedLines_layout]
  induction h with
  | rel a b h => exact h.counted_lines.symm
  | refl a => rfl
  | symm a b _ ih => exact ih.symm
  | trans a b c _ _ ih ih' => exact ih.trans ih'

/-- **What a text script holds**, whatever its text.  Its lines that count can be divided at the
headers in one way.  Statements before the first header belong to no label, the labels are those of
the headers in the order in which they come first, and each label has the lines of its parts, one
part after the other.  Another layout of the text makes the same script. -/
theorem read_by_sections (text : String) :
    (∃ opening parts, Divides (countedLines text) opening parts ∧
      (∀ opening' parts', Divides (countedLines text) opening' parts' →
        opening' = opening ∧ parts' = parts) ∧
      (read text).loose = opening.map String.ofList ∧
      Table.keys (read text).labels = (parts.map Part.label).eraseDups ∧
      ∀ label, Table.get? (read text).labels label =
        if ∃ part ∈ parts, part.label = label then
          some ((parts.filter (·.label = label)).flatMap fun part => part.lines.map String.ofList)
        else none) ∧
      (∃ l : Layout, String.ofList l.text = text) ∧
      ∀ l moved : Layout, String.ofList l.text = text → Relation.EqvGen Retouch l moved →
        read (String.ofList moved.text) = read text := by
  refine ⟨?_, ?_, ?_⟩
  · have hdivides := divides_divide (countedLines text)
    refine ⟨_, _, hdivides, ?_, ?_⟩
    · intro opening parts h
      exact Prod.mk.inj (divides_iff.mp h).symm
    · rw [read_of_divides hdivides]
      exact ⟨rfl, keys_ofSections _ _, get?_ofSections _ _⟩
  · obtain ⟨l, hl⟩ := Layout.exists_text text.toList
    exact ⟨l, by rw [hl, String.ofList_toList]⟩
  · rintro l moved rfl h
    exact (read_retouched h).symm

/-- The general theorem for a label with one statement, with another line end and an indented
statement. -/
theorem read_by_sections_indented :
    (∃ l moved : Layout, String.ofList l.text = "# a\nhi" ∧
      String.ofList moved.text = "# a\r\n\thi" ∧ Relation.EqvGen Retouch l moved) ∧
      read "# a\r\n\thi" = read "# a\nhi" := by
  have hunbroken : ∀ {cs : List Char}, (cs.all fun c => !Text.isBreak c) = true →
      Text.Unbroken cs := fun h c hc => by simpa using List.all_eq_true.mp h c hc
  let header : Stretch := ⟨['#', ' ', 'a'], hunbroken (by decide)⟩
  let line : Stretch := ⟨['h', 'i'], hunbroken (by decide)⟩
  let moved : Stretch := ⟨['\t', 'h', 'i'], hunbroken (by decide)⟩
  have hends : Retouch ⟨[(header, .feed)], line⟩ ⟨[(header, .returnFeed)], line⟩ :=
    @Retouch.ending [] [] header .feed .returnFeed line
  have hblank : Blank ['\t'] ∧ Blank [] := ⟨by simp [Blank]; decide, by simp [Blank]⟩
  have hindent : Retouch ⟨[(header, .returnFeed)], line⟩ ⟨[(header, .returnFeed)], moved⟩ :=
    .indentLast hblank rfl
  have hretouched := Relation.EqvGen.trans _ _ _ (.rel _ _ hends) (.rel _ _ hindent)
  exact ⟨⟨_, _, rfl, rfl, hretouched⟩,
    (read_by_sections "# a\nhi").2.2 ⟨[(header, .feed)], line⟩ ⟨[(header, .returnFeed)], moved⟩ rfl
      hretouched⟩

end Script

end Dialogue
