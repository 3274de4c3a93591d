import Dialogue.Proofs.Script.Sections

/-!
# Printing text scripts

A script is printed with its loose statements first, and then each label with its statements below
a header, one line for each.  What can be printed so that it is read again as it was: the labels are
different words, and no statement is empty, has blanks around it or the end of a line in it, or
would be taken for a remark or a header.  All that a text holds is of this kind, so printing and
reading a script that was read changes nothing.

## Results

* `read_layout` — any text whose lines are those of a printable script is read as that script.
* `read_print` — what is printed is read as it was.
* `printable_read` — what is read can be printed.
* `print_round_trip` — both, and what follows for a script that was read.
-/

set_option autoImplicit false

namespace Dialogue

namespace Script

open Text (Layout Unbroken)

/-! ## What is printed -/

/-- The header of a label. -/
def headerOf (label : String) : List Char :=
  '#' :: ' ' :: label.toList

/-- The lines of a script: the loose statements, and each label with its statements. -/
def lines (s : Script) : List (List Char) :=
  s.loose.map String.toList ++
    s.labels.flatMap fun e => headerOf e.1 :: e.2.map String.toList

/-- The text of a script, with a line feed behind every line. -/
def print (s : Script) : String :=
  String.ofList (s.lines.flatMap fun line => line ++ ['\n'])

/-- A line can be a statement: it is not empty, there are no blanks around it and no end of a line
in it, and it is no remark and no header. -/
structure Sayable (line : List Char) : Prop where
  ne_nil : line ≠ []
  trimmed : Text.trim line = line
  unbroken : Unbroken line
  unremarked : ¬ ['/', '/'] <+: line
  plain : Plain line

/-- The labels are different words, and all statements can be lines. -/
structure Printable (s : Script) : Prop where
  distinct : Table.Distinct s.labels
  words : ∀ e ∈ s.labels, e.1 ≠ "" ∧ ∀ c ∈ e.1.toList, Text.isWord c = true
  loose : ∀ text ∈ s.loose, Sayable text.toList
  statements : ∀ e ∈ s.labels, ∀ text ∈ e.2, Sayable text.toList

/-! ## The lines of a script -/

theorem isBlank_of_isBreak {c : Char} (h : Text.isBreak c = true) : Text.isBlank c = true := by
  have hblanks : ∀ n ∈ Text.breaks, Text.blanks.contains n = true := by decide
  exact hblanks c.toNat (by simpa [Text.isBreak] using h)

theorem isBreak_of_isWord {c : Char} (h : Text.isWord c = true) : Text.isBreak c = false := by
  cases hbreak : Text.isBreak c with
  | false => rfl
  | true =>
    have hblank := isBlank_of_isBreak hbreak
    rw [isBlank_of_isWord h] at hblank
    cases hblank

theorem isPassed_iff {line : List Char} :
    isPassed line = false ↔ line ≠ [] ∧ ¬ ['/', '/'] <+: line := by
  simp [isPassed, ← List.isPrefixOf_iff_prefix]

section Headers

variable {label : String} (word : label ≠ "" ∧ ∀ c ∈ label.toList, Text.isWord c = true)
include word

theorem heads_headerOf : Heads (headerOf label) label :=
  ⟨word, [' '], by simp [Text.Blank]; decide, rfl⟩

theorem trim_headerOf : Text.trim (headerOf label) = headerOf label := by
  obtain hnil | ⟨front, c, hlabel⟩ := List.eq_nil_or_concat label.toList
  · exact absurd hnil (by simpa using word.1)
  · have hc : Text.isBlank c = false := isBlank_of_isWord (word.2 c (by simp [hlabel]))
    have hheader : headerOf label = '#' :: ' ' :: front ++ [c] := by
      simp [headerOf, hlabel]
    rw [hheader, Text.trim, List.cons_append, List.dropWhile_cons_of_neg (by decide),
      ← List.cons_append, Text.trimEnd_concat hc]

theorem unbroken_headerOf : Unbroken (headerOf label) := by
  refine List.forall_mem_cons.mpr ⟨by decide, List.forall_mem_cons.mpr ⟨by decide, ?_⟩⟩
  exact fun c hc => isBreak_of_isWord (word.2 c hc)

end Headers

/-- A line that is printed: a statement or a header. -/
structure Printed (line : List Char) : Prop where
  trimmed : Text.trim line = line
  unbroken : Unbroken line
  counts : isPassed line = false

theorem Sayable.printed {line : List Char} (h : Sayable line) : Printed line :=
  ⟨h.trimmed, h.unbroken, isPassed_iff.mpr ⟨h.ne_nil, h.unremarked⟩⟩

theorem Printable.lines {s : Script} (h : Printable s) : ∀ line ∈ s.lines, Printed line := by
  refine List.forall_mem_append.mpr ⟨?_, ?_⟩
  · exact List.forall_mem_map.mpr fun text htext => (h.loose text htext).printed
  · refine List.forall_mem_flatMap.mpr fun e he => List.forall_mem_cons.mpr ⟨?_, ?_⟩
    · have hword := h.words e he
      exact ⟨trim_headerOf hword, unbroken_headerOf hword, rfl⟩
    · exact List.forall_mem_map.mpr fun text htext => (h.statements e he text htext).printed

/-! ## Reading what is printed -/

/-- The part that a label with its statements makes. -/
def Part.ofEntry (e : String × List String) : Part :=
  ⟨headerOf e.1, e.1, e.2.map String.toList⟩

theorem Printable.divides {s : Script} (h : Printable s) :
    Divides s.lines (s.loose.map String.toList) (s.labels.map Part.ofEntry) where
  whole := by
    unfold Script.lines
    rw [List.flatMap_map]
    rfl
  opening := List.forall_mem_map.mpr fun text htext => (h.loose text htext).plain
  headed := List.forall_mem_map.mpr fun e he => heads_headerOf (h.words e he)
  lines := List.forall_mem_map.mpr fun e he =>
    List.forall_mem_map.mpr fun text htext => (h.statements e he text htext).plain

theorem map_ofList_toList (texts : List String) :
    (texts.map String.toList).map String.ofList = texts := by
  simp [Function.comp_def]

/-- A label that comes once has the statements of its part. -/
theorem under_ofEntry {labels : Table (List String)} (distinct : Table.Distinct labels)
    {e : String × List String} (he : e ∈ labels) : under (labels.map Part.ofEntry) e.1 = e.2 := by
  induction labels using List.reverseRecOn with
  | nil => cases he
  | append_singleton labels last ih =>
    unfold Table.Distinct Table.keys at distinct ih
    rw [List.map_append] at distinct
    obtain ⟨hlabels, -, hnew⟩ := List.nodup_append.mp distinct
    rw [List.map_append, List.map_singleton, under_append]
    rcases List.mem_append.mp he with hbefore | hlast
    · have hne : last.1 ≠ e.1 := fun h =>
        hnew e.1 (List.mem_map_of_mem hbefore) last.1 (List.mem_singleton_self _) h.symm
      rw [ih hlabels hbefore]
      simp [Part.ofEntry, hne]
    · obtain rfl := List.mem_singleton.mp hlast
      have hnone : ¬ ∃ part ∈ labels.map Part.ofEntry, part.label = e.1 := by
        rintro ⟨part, hpart, hlabel⟩
        obtain ⟨d, hd, rfl⟩ := List.mem_map.mp hpart
        exact hnew d.1 (List.mem_map_of_mem hd) e.1 (List.mem_singleton_self _) hlabel
      rw [under_of_not_headed hnone, List.nil_append]
      exact (if_pos rfl).trans (map_ofList_toList e.2)

theorem eraseDups_of_nodup {names : List String} (h : names.Nodup) : names.eraseDups = names := by
  induction names using List.reverseRecOn with
  | nil => rfl
  | append_singleton names name ih =>
    obtain ⟨hnames, -, hnew⟩ := List.nodup_append.mp h
    rw [eraseDups_concat, ih hnames]
    exact if_neg fun hname => hnew name hname name (List.mem_singleton_self name) rfl

theorem ofSections_of_printable {s : Script} (h : Printable s) :
    ofSections (s.loose.map String.toList) (s.labels.map Part.ofEntry) = s := by
  have hkeys : (s.labels.map Part.ofEntry).map Part.label = Table.keys s.labels := by
    simp [Table.keys, Part.ofEntry, Function.comp_def]
  have hlabels : (Table.keys s.labels).map (fun label =>
      (label, under (s.labels.map Part.ofEntry) label)) = s.labels := by
    unfold Table.keys
    rw [List.map_map]
    conv_rhs => rw [← List.map_id s.labels]
    refine List.map_congr_left fun e he => ?_
    show (e.1, under _ e.1) = e
    rw [under_ofEntry h.distinct he]
  unfold ofSections
  rw [hkeys, eraseDups_of_nodup h.distinct, hlabels, map_ofList_toList]

theorem counted_of_printed {ls : List (List Char)} (h : ∀ line ∈ ls, Printed line) :
    counted ls = ls := by
  induction ls with
  | nil => rfl
  | cons line ls ih =>
    obtain ⟨hline, hrest⟩ := List.forall_mem_cons.mp h
    rw [counted_cons, ih hrest]
    simp [counted, hline.trimmed, hline.counts]

/-- Any text whose lines are those of a printable script, with any ends and with empty lines
anywhere, is read as that script. -/
theorem read_layout {s : Script} (h : Printable s) {l : Layout}
    (lines : Text.filled l.lines = s.lines) : read (String.ofList l.text) = s := by
  have hcounted : countedLines (String.ofList l.text) = s.lines := by
    rw [countedLines_layout, ← counted_filled, lines, counted_of_printed h.lines]
  have hdivides := h.divides
  rw [← hcounted] at hdivides
  rw [read_of_divides hdivides, ofSections_of_printable h]

theorem exists_layout {ls : List (List Char)} (h : ∀ line ∈ ls, Unbroken line) :
    ∃ l : Layout, l.lines = ls ++ [[]] ∧ l.text = ls.flatMap fun line => line ++ ['\n'] := by
  induction ls with
  | nil => exact ⟨⟨[], ⟨[], by simp [Unbroken]⟩⟩, rfl, rfl⟩
  | cons line ls ih =>
    obtain ⟨hline, hrest⟩ := List.forall_mem_cons.mp h
    obtain ⟨⟨rows, last⟩, hlines, htext⟩ := ih hrest
    refine ⟨⟨(⟨line, hline⟩, .feed) :: rows, last⟩, congrArg (line :: ·) hlines, ?_⟩
    rw [Layout.text_cons, htext]
    simp [Text.Ending.chars, Text.Ending.feed]

/-- **What is printed is read as it was.** -/
theorem read_print {s : Script} (h : Printable s) : read (print s) = s := by
  obtain ⟨l, hlines, htext⟩ := exists_layout fun line hline => (h.lines line hline).unbroken
  unfold print
  rw [← htext]
  refine read_layout h ?_
  have hfilled : ∀ line ∈ s.lines, (!line.isEmpty) = true := fun line hline => by
    simpa using (isPassed_iff.mp (h.lines line hline).counts).1
  unfold Text.filled
  rw [hlines, List.filter_append, List.filter_eq_self.mpr hfilled]
  exact List.append_nil _

/-! ## Printing what is read -/

theorem unbroken_trim {line : List Char} (h : Unbroken line) : Unbroken (Text.trim line) := by
  obtain ⟨before, after, -, -, hline⟩ := Text.exists_surrounded line
  intro c hc
  refine h c ?_
  rw [hline]
  exact List.mem_append_left _ (List.mem_append_right _ hc)

theorem sayable_of_mem {text : String} {line : List Char} (h : line ∈ countedLines text)
    (plain : Plain line) : Sayable line := by
  obtain ⟨hne, hunremarked⟩ := isPassed_iff.mp (counts_of_mem_counted h)
  obtain ⟨whole, hwhole, rfl⟩ := List.mem_map.mp (List.mem_filter.mp h).1
  exact ⟨hne, Text.trim_trim whole, unbroken_trim (Text.unbroken_of_mem_lines hwhole), hunremarked,
    plain⟩

/-- **What is read can be printed.** -/
theorem printable_read (text : String) : Printable (read text) := by
  have hdistinct := read_distinct text
  have h := divides_divide (countedLines text)
  rw [read_of_divides h] at hdistinct ⊢
  generalize (divide (countedLines text)).1 = opening at h hdistinct ⊢
  generalize (divide (countedLines text)).2 = parts at h hdistinct ⊢
  have hopening : ∀ line ∈ opening, line ∈ countedLines text := fun line hline => by
    rw [h.whole]
    exact List.mem_append_left _ hline
  have hparts : ∀ part ∈ parts, ∀ line ∈ part.lines, line ∈ countedLines text :=
    fun part hpart line hline => by
      rw [h.whole]
      exact List.mem_append_right _
        (List.mem_flatMap.mpr ⟨part, hpart, List.mem_cons_of_mem _ hline⟩)
  refine ⟨hdistinct, ?_, ?_, ?_⟩
  · intro e he
    obtain ⟨label, hlabel, rfl⟩ := List.mem_map.mp he
    obtain ⟨part, hpart, rfl⟩ := List.mem_map.mp (List.mem_eraseDups.mp hlabel)
    exact (h.headed part hpart).1
  · refine List.forall_mem_map.mpr fun line hline => ?_
    rw [String.toList_ofList]
    exact sayable_of_mem (hopening line hline) (h.opening line hline)
  · intro e he text' htext
    obtain ⟨label, -, rfl⟩ := List.mem_map.mp he
    obtain ⟨part, hpart, hmem⟩ := List.mem_flatMap.mp htext
    obtain ⟨line, hline, rfl⟩ := List.mem_map.mp hmem
    have hpart := (List.mem_filter.mp hpart).1
    rw [String.toList_ofList]
    exact sayable_of_mem (hparts part hpart line hline) (h.lines part hpart line hline)

/-- **Text scripts can be printed and read again.**  A script with different words for labels, and
statements that can be lines, is read as it was printed.  What any text holds is such a script, so
it can be printed and read without a change. -/
theorem print_round_trip :
    (∀ s : Script, Printable s → read (print s) = s) ∧
      (∀ text : String, Printable (read text)) ∧
      ∀ text : String, read (print (read text)) = read text :=
  ⟨fun _ => read_print, printable_read, fun text => read_print (printable_read text)⟩

/-- The general theorem for a loose statement and two labels, one of them empty. -/
theorem print_round_trip_greeting :
    print ⟨[("a", ["r Hi", "t Ho"]), ("b", [])], ["# no header"]⟩ =
        "# no header\n# a\nr Hi\nt Ho\n# b\n" ∧
      Printable ⟨[("a", ["r Hi", "t Ho"]), ("b", [])], ["# no header"]⟩ ∧
      read "# no header\n# a\nr Hi\nt Ho\n# b\n" =
        ⟨[("a", ["r Hi", "t Ho"]), ("b", [])], ["# no header"]⟩ := by
  have hread : read "# no header\n#a\n\nr Hi\n // x\nt Ho\n#b" =
      ⟨[("a", ["r Hi", "t Ho"]), ("b", [])], ["# no header"]⟩ := by decide +kernel
  have hprintable : Printable ⟨[("a", ["r Hi", "t Ho"]), ("b", [])], ["# no header"]⟩ :=
    hread ▸ print_round_trip.2.1 _
  have hprint : print ⟨[("a", ["r Hi", "t Ho"]), ("b", [])], ["# no header"]⟩ =
      "# no header\n# a\nr Hi\nt Ho\n# b\n" := by decide +kernel
  exact ⟨hprint, hprintable, hprint ▸ print_round_trip.1 _ hprintable⟩

end Script

end Dialogue
