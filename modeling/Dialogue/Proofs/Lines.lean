import Dialogue.Text.Blank
import Dialogue.Text.Lines
import Mathlib.Data.List.TakeWhile

/-!
# Texts in lines

A text can be laid out in lines: every line has something that ends it, but for the last one, behind
which nothing stands.  Breaking such a text gives the lines of its layout, with one reservation.  A
carriage return that happens to stand before a line feed ends one line together with it, so an empty
line between the two is lost.  No other line is.

## Results

* `Layout.exists_text` — every text has a layout.
* `Layout.filled_lines` — breaking a text gives the lines of any of its layouts, up to empty ones.
* `unbroken_of_mem_lines` — there is no end of a line in a line.
* `trim_surrounded`, `exists_surrounded` — trimming takes off blanks at both ends, and nothing else.
-/

set_option autoImplicit false

namespace Dialogue.Text

/-! ## Layouts -/

/-- No character here ends a line. -/
def Unbroken (cs : List Char) : Prop :=
  ∀ c ∈ cs, isBreak c = false

/-- A line, without what ends it. -/
abbrev Stretch : Type :=
  { cs : List Char // Unbroken cs }

/-- What ends a line: a carriage return with the line feed after it, or one character. -/
inductive Ending where
  | returnFeed
  | single (c : Char) (breaks : isBreak c = true)

/-- The characters that end a line. -/
def Ending.chars : Ending → List Char
  | .returnFeed => ['\r', '\n']
  | .single c _ => [c]

/-- A line feed. -/
def Ending.feed : Ending :=
  .single '\n' (by decide)

/-- The lines of a text, each with what ends it, and the line behind the last end. -/
structure Layout where
  rows : List (Stretch × Ending)
  last : Stretch

namespace Layout

/-- The text that is laid out. -/
def text (l : Layout) : List Char :=
  l.rows.flatMap (fun row => row.1.1 ++ row.2.chars) ++ l.last.1

/-- The lines of a layout, the last one among them. -/
def lines (l : Layout) : List (List Char) :=
  l.rows.map (fun row => row.1.1) ++ [l.last.1]

theorem text_cons (line : Stretch) (e : Ending) (rows : List (Stretch × Ending)) (last : Stretch) :
    text ⟨(line, e) :: rows, last⟩ = line.1 ++ (e.chars ++ text ⟨rows, last⟩) := by
  simp [text]

/-- Every text has a layout. -/
theorem exists_text (cs : List Char) : ∃ l : Layout, l.text = cs := by
  induction cs with
  | nil => exact ⟨⟨[], ⟨[], by simp [Unbroken]⟩⟩, rfl⟩
  | cons c cs ih =>
    obtain ⟨⟨rows, last⟩, rfl⟩ := ih
    cases hc : isBreak c with
    | true => exact ⟨⟨(⟨[], by simp [Unbroken]⟩, .single c hc) :: rows, last⟩, text_cons ..⟩
    | false =>
      -- the character comes to stand in front of the first line
      have hlonger : ∀ line : Stretch, Unbroken (c :: line.1) := fun line =>
        List.forall_mem_cons.mpr ⟨hc, line.2⟩
      cases rows with
      | nil => exact ⟨⟨[], ⟨c :: last.1, hlonger last⟩⟩, rfl⟩
      | cons row rows =>
        obtain ⟨line, e⟩ := row
        refine ⟨⟨(⟨c :: line.1, hlonger line⟩, e) :: rows, last⟩, ?_⟩
        rw [text_cons, text_cons]
        rfl

end Layout

/-! ## Breaking a text -/

/-- The lines that are not empty. -/
def filled (ls : List (List Char)) : List (List Char) :=
  ls.filter fun l => !l.isEmpty

theorem lines_of_not_break {c : Char} (h : isBreak c = false) (cs : List Char) :
    lines (c :: cs) =
      match lines cs with
      | [] => [[c]]
      | l :: ls => (c :: l) :: ls := by
  rw [lines.eq_def]
  split
  · rename_i heq
    cases heq
  · rename_i heq
    obtain ⟨rfl, -⟩ := List.cons.inj heq
    cases h
  · rename_i heq
    obtain ⟨rfl, rfl⟩ := List.cons.inj heq
    rw [h]
    rfl

theorem lines_of_unbroken {cs : List Char} (h : Unbroken cs) :
    lines cs = if cs = [] then [] else [cs] := by
  induction cs with
  | nil => rfl
  | cons c cs ih =>
    obtain ⟨hc, hcs⟩ := List.forall_mem_cons.mp h
    rw [lines_of_not_break hc, ih hcs]
    cases cs <;> rfl

/-- What follows the end of a line is broken on its own, unless an end at its front is spent
together with the first one. -/
theorem lines_ending (e : Ending) (rest : List Char) :
    ∃ ls, lines (e.chars ++ rest) = [] :: ls ∧ filled ls = filled (lines rest) := by
  cases e with
  | returnFeed => exact ⟨lines rest, rfl, rfl⟩
  | single c hc =>
    show ∃ ls, lines (c :: rest) = _ ∧ _
    rw [lines.eq_def]
    split
    · rename_i heq
      cases heq
    · rename_i more heq
      obtain ⟨-, rfl⟩ := List.cons.inj heq
      refine ⟨lines more, rfl, ?_⟩
      -- the line feed that was spent would have ended an empty line
      have hfeed : lines ('\n' :: more) = [] :: lines more := by
        simp [lines, isBreak, breaks]
      rw [hfeed]
      rfl
    · rename_i heq
      obtain ⟨rfl, rfl⟩ := List.cons.inj heq
      rw [hc]
      exact ⟨_, rfl, rfl⟩

theorem lines_line {line : List Char} (h : Unbroken line) (e : Ending) (rest : List Char) :
    ∃ ls, lines (line ++ (e.chars ++ rest)) = line :: ls ∧ filled ls = filled (lines rest) := by
  induction line with
  | nil => exact lines_ending e rest
  | cons c cs ih =>
    obtain ⟨hc, hcs⟩ := List.forall_mem_cons.mp h
    obtain ⟨ls, hls, hfilled⟩ := ih hcs
    refine ⟨ls, ?_, hfilled⟩
    rw [List.cons_append, lines_of_not_break hc, hls]

/-- **Breaking a text gives the lines of any of its layouts**, up to empty ones. -/
theorem Layout.filled_lines (l : Layout) : filled (Text.lines l.text) = filled l.lines := by
  obtain ⟨rows, last⟩ := l
  induction rows with
  | nil =>
    show filled (Text.lines last.1) = filled [last.1]
    rw [lines_of_unbroken last.2]
    split
    · rename_i hlast
      rw [hlast]
      rfl
    · rfl
  | cons row rows ih =>
    obtain ⟨line, e⟩ := row
    obtain ⟨ls, hls, hfilled⟩ := lines_line line.2 e (text ⟨rows, last⟩)
    have hcons : lines ⟨(line, e) :: rows, last⟩ = line.1 :: lines ⟨rows, last⟩ := rfl
    rw [text_cons, hls, hcons]
    unfold filled at *
    rw [List.filter_cons, List.filter_cons, hfilled, ih]

/-- There is no end of a line in a line. -/
theorem unbroken_of_mem_lines {cs line : List Char} (h : line ∈ lines cs) : Unbroken line := by
  obtain ⟨l, rfl⟩ := Layout.exists_text cs
  by_cases hempty : line = []
  · simp [hempty, Unbroken]
  · have hline : line ∈ filled l.lines := by
      rw [← l.filled_lines]
      exact List.mem_filter.mpr ⟨h, by simpa using hempty⟩
    rcases List.mem_append.mp (List.mem_filter.mp hline).1 with hrow | hlast
    · obtain ⟨row, -, rfl⟩ := List.mem_map.mp hrow
      exact row.1.2
    · obtain rfl := List.mem_singleton.mp hlast
      exact l.last.2

/-! ## Blanks around a line -/

/-- There are only blanks here. -/
def Blank (cs : List Char) : Prop :=
  ∀ c ∈ cs, isBlank c = true

theorem dropWhile_of_blank {cs : List Char} (h : Blank cs) : cs.dropWhile isBlank = [] :=
  List.dropWhile_eq_nil_iff.mpr h

/-- Blanks around a text do not change what is left of it. -/
theorem trim_surrounded {before after : List Char} (hbefore : Blank before) (hafter : Blank after)
    (cs : List Char) : trim (before ++ cs ++ after) = trim cs := by
  have hend : ∀ front : List Char, trimEnd (front ++ after) = trimEnd front := fun front => by
    have hreverse : Blank after.reverse := fun c hc => hafter c (List.mem_reverse.mp hc)
    unfold trimEnd
    rw [List.reverse_append, List.dropWhile_append_of_pos hreverse]
  unfold trim
  rw [List.append_assoc, List.dropWhile_append_of_pos hbefore, List.dropWhile_append]
  split
  · rename_i hempty
    rw [List.isEmpty_iff.mp hempty, dropWhile_of_blank hafter]
  · exact hend _

/-- A text is what is left of it, with blanks around. -/
theorem exists_surrounded (cs : List Char) :
    ∃ before after, Blank before ∧ Blank after ∧ cs = before ++ trim cs ++ after := by
  refine ⟨cs.takeWhile isBlank, ((cs.dropWhile isBlank).reverse.takeWhile isBlank).reverse,
    fun _ hc => List.mem_takeWhile_imp hc,
    fun _ hc => List.mem_takeWhile_imp (List.mem_reverse.mp hc), ?_⟩
  have hend : trim cs ++ ((cs.dropWhile isBlank).reverse.takeWhile isBlank).reverse =
      cs.dropWhile isBlank := by
    unfold trim trimEnd
    rw [← List.reverse_append, List.takeWhile_append_dropWhile, List.reverse_reverse]
  rw [List.append_assoc, hend, List.takeWhile_append_dropWhile]

theorem trimEnd_cons {c : Char} (h : isBlank c = false) (cs : List Char) :
    trimEnd (c :: cs) = c :: trimEnd cs := by
  unfold trimEnd
  rw [List.reverse_cons, List.dropWhile_append]
  split
  · rename_i hempty
    rw [List.isEmpty_iff.mp hempty, List.dropWhile_cons_of_neg (by simp [h])]
    rfl
  · rw [List.reverse_append]
    rfl

theorem trim_cons {c : Char} (h : isBlank c = false) (cs : List Char) :
    trim (c :: cs) = c :: trimEnd cs := by
  unfold trim
  rw [List.dropWhile_cons_of_neg (by simp [h]), trimEnd_cons h]

theorem trimEnd_concat {c : Char} (h : isBlank c = false) (cs : List Char) :
    trimEnd (cs ++ [c]) = cs ++ [c] := by
  unfold trimEnd
  rw [List.reverse_concat, List.dropWhile_cons_of_neg (by simp [h]), List.reverse_cons,
    List.reverse_reverse]

theorem trim_of_blank {cs : List Char} (h : Blank cs) : trim cs = [] := by
  unfold trim
  rw [dropWhile_of_blank h]
  rfl

@[simp] theorem trim_trim (cs : List Char) : trim (trim cs) = trim cs := by
  obtain ⟨before, after, hbefore, hafter, hcs⟩ := exists_surrounded cs
  calc trim (trim cs) = trim (before ++ trim cs ++ after) :=
        (trim_surrounded hbefore hafter _).symm
    _ = trim cs := by rw [← hcs]

end Dialogue.Text
