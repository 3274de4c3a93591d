import Dialogue.Proofs.Grammar

/-!
# Writing statements

A line is written as its commands, whoever speaks and the words, with single spaces between them.
Read again, the statement gives back the line it was written for, unless a part of it is taken for
something else: an expression for a command, a key for the beginning of a longer one, words for a
key.

## Results

* `Commands.Named.word` — only single words are known as commands.
* `takeCommands_written` — the commands at the front of what is written are found, and no more.
* `Legible.speaker`, `Legible.image` — whoever speaks is found, with the words and the image.
* `parse_written` — what is written is read as it was meant.
-/

set_option autoImplicit false

namespace Dialogue

/-! ## Names of commands -/

namespace Commands

variable {η β : Type}

/-- The commands are built-in ones with names of one word, and others registered one by one. -/
inductive Named : Commands η β → Prop where
  | new {builtins : Keyed β}
    (words : ∀ e ∈ builtins, ∃ name, e.1 = .text name ∧ isWordName name = true) :
    Named (ofBuiltins builtins)
  | step {c d : Commands η β} {name : Value} {handler : Option η} (before : Named c)
    (registered : c.register name handler = .ok d) : Named d

theorem has_of_has_put {α : Type} {t : Keyed α} {name : Value} {new : α} {word : String}
    (h : Keyed.has (Keyed.put t name new) (.text word) = true) :
    name = .text word ∨ Keyed.has t (.text word) = true := by
  by_cases hname : (Value.text word).asKey = name.asKey
  · exact .inl ((Value.asKey_eq_text_iff name word).mp hname.symm)
  · right
    unfold Keyed.has at h ⊢
    rwa [Keyed.get?_put_of_ne _ _ hname] at h

theorem exists_of_has_ofEntries {α : Type} {entries : Keyed α} {word : String}
    (h : Keyed.has (Keyed.ofEntries entries) (.text word) = true) :
    ∃ e ∈ entries, e.1 = .text word := by
  suffices hput : ∀ t : Keyed α,
      Keyed.has (entries.foldl (fun t e => Keyed.put t e.1 e.2) t) (.text word) = true →
        Keyed.has t (.text word) = true ∨ ∃ e ∈ entries, e.1 = .text word by
    rcases hput [] h with hnone | hfound
    · simp [Keyed.has, Keyed.get?, Keyed.canonical, Table.get?] at hnone
    · exact hfound
  clear h
  induction entries with
  | nil => exact fun t h => .inl h
  | cons e rest ih =>
    intro t h
    rcases ih _ h with hput | ⟨f, hf, hword⟩
    · rcases has_of_has_put hput with hword | hbefore
      · exact .inr ⟨e, List.mem_cons_self, hword⟩
      · exact .inl hbefore
    · exact .inr ⟨f, List.mem_cons_of_mem e hf, hword⟩

/-- Only single words are known as commands. -/
theorem Named.word {c : Commands η β} (named : c.Named) {word : String}
    (h : c.has word = true) : isWordName word = true := by
  induction named with
  | @new builtins words =>
    obtain ⟨e, he, hword⟩ := exists_of_has_ofEntries h
    obtain ⟨f, hf, rfl⟩ := List.mem_map.mp he
    obtain ⟨name, hname, hsingle⟩ := words f hf
    rw [hname, Value.text.injEq] at hword
    exact hword ▸ hsingle
  | @step c d name handler before registered ih =>
    unfold register at registered
    split at registered
    · cases registered
    · rename_i hfault
      cases registered
      rcases has_of_has_put h with hname | hbefore
      · -- a text is refused unless it is one word
        rw [hname, nameFault?_text] at hfault
        split at hfault
        · rename_i hsingle
          exact hsingle
        · cases hfault
      · exact ih hbefore

end Commands

namespace Statement

/-! ## Words in a row -/

theorem isBlank_space : Text.isBlank ' ' = true := by
  decide

theorem isSolid_colon : Text.isSolid ':' = true := by
  decide

/-- No character of a key written with an expression is blank. -/
theorem isSolid_of_isWord {c : Char} (h : Text.isWord c = true) : Text.isSolid c = true := by
  have hblanks : Text.blanks.all (fun n =>
      n != '_'.toNat && !Text.within Text.letterRanges n) = true := by
    decide +kernel
  cases hblank : Text.isBlank c with
  | false => simp [Text.isSolid, hblank]
  | true =>
    have hmem : c.toNat ∈ Text.blanks := by simpa [Text.isBlank] using hblank
    have hc := List.all_eq_true.mp hblanks c.toNat hmem
    simp only [Bool.and_eq_true, bne_iff_ne, ne_eq, Bool.not_eq_true'] at hc
    simp only [Text.isWord, Bool.or_eq_true, decide_eq_true_eq] at h
    rcases h with rfl | h
    · exact absurd rfl hc.1
    · simp [hc.2] at h

/-- A text does not begin with a blank. -/
def Flush (text : String) : Prop :=
  ∀ c, text.toList.head? = some c → Text.isBlank c = false

theorem exists_head {text : String} (h : text ≠ "") : ∃ c more, text.toList = c :: more :=
  List.exists_cons_of_ne_nil (by simpa using h)

theorem flush_of_solid {text : String} (h : ∀ c ∈ text.toList, Text.isSolid c = true) :
    Flush text := by
  intro c hc
  have hsolid := h c (List.mem_of_head? hc)
  simpa [Text.isSolid] using hsolid

theorem Flush.append {text more : String} (h : Flush text) (hne : text ≠ "") :
    Flush (text ++ more) := by
  obtain ⟨c, rest, hc⟩ := exists_head hne
  intro d hd
  refine h d ?_
  rw [String.toList_append, hc, List.cons_append, List.head?_cons] at hd
  rw [hc, List.head?_cons, hd]

/-- Commands and what follows them, with single spaces between. -/
def written (commands : List String) (rest : String) : String :=
  " ".intercalate (commands ++ [rest])

theorem written_nil (rest : String) : written [] rest = rest := by
  simp [written]

theorem written_cons (command : String) (commands : List String) (rest : String) :
    written (command :: commands) rest = command ++ " " ++ written commands rest := by
  simp [written, String.intercalate_cons_of_ne_nil]

theorem word_of_isWordName {name : String} (h : Commands.isWordName name = true) :
    name ≠ "" ∧ ∀ c ∈ name.toList, Text.isSolid c = true := by
  simpa [Commands.isWordName] using h

theorem flush_written {commands : List String} {rest : String}
    (words : ∀ c ∈ commands, Commands.isWordName c = true) (front : Flush rest) :
    Flush (written commands rest) := by
  cases commands with
  | nil => rwa [written_nil]
  | cons command commands =>
    obtain ⟨hne, hsolid⟩ := word_of_isWordName (words command List.mem_cons_self)
    rw [written_cons, String.append_assoc]
    exact (flush_of_solid hsolid).append hne

/-- The first word of a word, a space and more. -/
theorem firstWord_word {word : List Char} (more : List Char)
    (h : ∀ c ∈ word, Text.isSolid c = true) :
    firstWord (word ++ ' ' :: more) = word ∧
      afterWord (word ++ ' ' :: more) = more.dropWhile Text.isBlank := by
  have hspan : Span Text.isSolid (word ++ ' ' :: more) word (' ' :: more) := by
    refine ⟨rfl, h, fun c hc => ?_⟩
    cases hc
    exact (isSolid_eq_false_iff ' ').mpr isBlank_space
  obtain ⟨hword, hrest⟩ := hspan.eq
  refine ⟨hword.symm, ?_⟩
  unfold afterWord
  rw [← hrest, List.dropWhile_cons_of_pos isBlank_space]

theorem dropWhile_flush {text : String} (h : Flush text) :
    text.toList.dropWhile Text.isBlank = text.toList := by
  cases ht : text.toList with
  | nil => rfl
  | cons c tail => exact List.dropWhile_cons_of_neg (by simp [h c (by simp [ht])])

/-- The commands at the front of what is written are found, and no more than those. -/
theorem takeCommands_written {isCommand : String → Bool} {commands : List String} {rest : String}
    (words : ∀ c ∈ commands, Commands.isWordName c = true)
    (known : ∀ c ∈ commands, isCommand c = true) (front : commands ≠ [] → Flush rest)
    (free : isCommand (String.ofList (firstWord rest.toList)) = false) :
    takeCommands isCommand (written commands rest).toList = (commands, rest.toList) := by
  induction commands with
  | nil =>
    rw [written_nil]
    unfold takeCommands
    rw [dif_neg (by simp [free])]
  | cons command commands ih =>
    have hflush : Flush rest := front (List.cons_ne_nil _ _)
    obtain ⟨hne, hsolid⟩ := word_of_isWordName (words command List.mem_cons_self)
    have hwords : ∀ c ∈ commands, Commands.isWordName c = true :=
      fun c hc => words c (List.mem_cons_of_mem command hc)
    have htext : (written (command :: commands) rest).toList =
        command.toList ++ ' ' :: (written commands rest).toList := by
      simp [written_cons]
    obtain ⟨hfirst, hafter⟩ := firstWord_word (written commands rest).toList hsolid
    rw [dropWhile_flush (flush_written hwords hflush)] at hafter
    have hrest := ih hwords (fun c hc => known c (List.mem_cons_of_mem command hc))
      fun _ => hflush
    unfold takeCommands
    rw [htext, hfirst, hafter, hrest, String.ofList_toList,
      dif_pos ⟨by simpa using hne, known command List.mem_cons_self⟩]

/-! ## What is read as it was meant -/

/-- What follows the commands of a line can only be read as that line. -/
inductive Legible (cast : Cast) (isCommand : String → Bool) (commands : List String) :
    String → Line → Prop where
  /-- A key with an expression.  Together they must not be a command. -/
  | toned {key expression blanks text image : String} {record : Character}
    (word : key ≠ "" ∧ ∀ c ∈ key.toList, Text.isWord c = true)
    (tone : expression ≠ "" ∧ ∀ c ∈ expression.toList, Text.isSolid c = true)
    (gap : blanks ≠ "" ∧ ∀ c ∈ blanks.toList, Text.isBlank c = true) (front : Flush text)
    (registered : Table.get? cast.records key = some record)
    (pictured : Table.get? record.expressions expression = some image)
    (free : isCommand (key ++ ":" ++ expression) = false) :
    Legible cast isCommand commands (key ++ ":" ++ expression ++ blanks ++ text)
      { who := some key, expression := some expression, sideImage := some image, text, commands }
  /-- A key alone.  It must not be the beginning of a longer one, nor be taken for a command or for
  a key with an expression. -/
  | keyed {key text : String} {record : Character} {image? : Option String}
    (named : key ≠ "") (front : Flush key)
    (registered : Table.get? cast.records key = some record)
    (pictured : Pictured cast key record.defaultExpression image?)
    (free : isCommand (String.ofList (firstWord (key ++ " " ++ text).toList)) = false)
    (other : ∀ k e b r, ¬ Colon (key ++ " " ++ text).toList k e b r)
    (longest : ∀ other, cast.Knows other → key.length < other.length →
      ¬ Cast.Begins (key ++ " " ++ text).toList other) :
    Legible cast isCommand commands (key ++ " " ++ text)
      { who := some key, expression := record.defaultExpression, sideImage := image?, text,
        commands }
  /-- Words of the narrator.  They must not begin with a command or with whoever else speaks. -/
  | told {text : String} (something : text ≠ "") (front : commands ≠ [] → Flush text)
    (free : isCommand (String.ofList (firstWord text.toList)) = false)
    (other : ∀ k e b r, ¬ Colon text.toList k e b r)
    (nobody : ∀ key, cast.Knows key → ¬ Cast.Begins text.toList key) :
    Legible cast isCommand commands text { who := some narratorKey, text, commands }

variable {cast : Cast} {isCommand : String → Bool} {commands : List String} {rest : String}
  {line : Line}

theorem Legible.ne_empty (h : Legible cast isCommand commands rest line) : rest ≠ "" := by
  cases h with
  | toned word => simp [word.1]
  | keyed named => simp [named]
  | told something => exact something

theorem Legible.commands_eq (h : Legible cast isCommand commands rest line) :
    line.commands = commands := by
  cases h <;> rfl

/-- A key with an expression is one word. -/
theorem solid_of_toned {key expression : String} (word : ∀ c ∈ key.toList, Text.isWord c = true)
    (tone : ∀ c ∈ expression.toList, Text.isSolid c = true) :
    ∀ c ∈ (key ++ ":" ++ expression).toList, Text.isSolid c = true := by
  intro c hc
  simp only [String.toList_append, List.mem_append] at hc
  rcases hc with (hc | hc) | hc
  · exact isSolid_of_isWord (word c hc)
  · obtain rfl : c = ':' := by simpa using hc
    exact isSolid_colon
  · exact tone c hc

theorem Legible.flush (h : Legible cast isCommand commands rest line) (hne : commands ≠ []) :
    Flush rest := by
  cases h with
  | @toned key expression blanks text image record word =>
    have hkey : Flush key := flush_of_solid fun c hc => isSolid_of_isWord (word.2 c hc)
    rw [String.append_assoc, String.append_assoc, String.append_assoc]
    exact hkey.append word.1
  | keyed named front =>
    rw [String.append_assoc]
    exact front.append named
  | told something front => exact front hne

/-- No command is found after the ones that were written. -/
theorem Legible.free (h : Legible cast isCommand commands rest line) :
    isCommand (String.ofList (firstWord rest.toList)) = false := by
  cases h with
  | @toned key expression blanks text image record word tone gap front registered pictured free =>
    have hspan : Span Text.isSolid (key ++ ":" ++ expression ++ blanks ++ text).toList
        (key ++ ":" ++ expression).toList (blanks.toList ++ text.toList) := by
      refine ⟨by simp, solid_of_toned word.2 tone.2, fun c hc => ?_⟩
      obtain ⟨b, more, hb⟩ := exists_head gap.1
      rw [hb] at hc
      cases hc
      exact (isSolid_eq_false_iff c).mpr (gap.2 c (by simp [hb]))
    have hfirst : firstWord (key ++ ":" ++ expression ++ blanks ++ text).toList =
        (key ++ ":" ++ expression).toList := hspan.eq.1.symm
    rw [hfirst, String.ofList_toList]
    exact free
  | keyed named front registered pictured free => exact free
  | told something front free => exact free

/-- Whoever speaks is found, with the expression and the words. -/
theorem Legible.speaker (h : Legible cast isCommand commands rest line)
    (registered : cast.Registered) :
    ∃ who, line.who = some who ∧
      speaker cast rest.toList = .ok (who, line.expression, line.text.toList) := by
  have hanswers := registered.covered.answers
  unfold Statement.speaker
  cases h with
  | @toned key expression blanks text image record word tone gap front found =>
    have hcolon : Colon (key ++ ":" ++ expression ++ blanks ++ text).toList key.toList
        expression.toList blanks.toList text.toList :=
      ⟨by simp, ⟨by simpa using word.1, word.2⟩, ⟨by simpa using tone.1, tone.2⟩,
        ⟨by simpa using gap.1, gap.2⟩⟩
    refine ⟨key, rfl, ?_⟩
    rw [hcolon.colonForm?_eq, String.ofList_toList, String.ofList_toList, dropWhile_flush front]
    simp only [Cast.character_eq_ok word.1 found, Except.map]
  | @keyed key text record image? named front found pictured free other longest =>
    have hbegins : Cast.Begins (key ++ " " ++ text).toList key := ⟨named, text.toList, by simp⟩
    have hknows : cast.Knows key := by simp [Cast.Knows, Table.has, found]
    have hkey : cast.speaker? (key ++ " " ++ text).toList = some key :=
      ((hanswers _).1 key).mpr ⟨hknows, hbegins, longest⟩
    refine ⟨key, rfl, ?_⟩
    rw [colonForm?_eq_none_iff.mpr other]
    simp only [hkey, Cast.character_eq_ok named found, Except.map]
    rw [← String.length_toList]
    simp
  | told something front free other nobody =>
    refine ⟨narratorKey, rfl, ?_⟩
    rw [colonForm?_eq_none_iff.mpr other]
    simp only [(hanswers _).2.mpr nobody]

theorem image_of_pictured {who : String} {expression? image? : Option String} (hne : who ≠ "")
    (h : Pictured cast who expression? image?) :
    cast.image (.text who) (Value.optionalText expression?) = .ok image? := by
  cases expression? with
  | none =>
    have hnone : image? = none := h
    rw [hnone]
    rfl
  | some expression =>
    obtain ⟨record, image, hrecord, himage, rfl⟩ := h
    simp only [Value.optionalText, Cast.image, Cast.character_eq_ok hne hrecord, Table.find_text,
      himage]

/-- The image that was meant is found. -/
theorem Legible.image (h : Legible cast isCommand commands rest line) {who : String}
    (hwho : line.who = some who) :
    cast.image (.text who) (Value.optionalText line.expression) = .ok line.sideImage := by
  cases h with
  | toned word tone gap front found pictured =>
    cases hwho
    exact image_of_pictured word.1 ⟨_, _, found, pictured, rfl⟩
  | keyed named front found pictured =>
    cases hwho
    exact image_of_pictured named pictured
  | told => rfl

/-- **What is written is read as it was meant.**  However a statement comes to its text, when the
text is commands and something legible after them, the statement makes just the line that it was
written for. -/
theorem parse_written {η β : Type} {commands : Commands η β} (named : commands.Named)
    (registered : cast.Registered) {names : List String}
    (known : ∀ name ∈ names, commands.has name = true)
    (legible : Legible cast commands.has names rest line) {statement : Value}
    {draws left : List Value}
    (selected : select statement draws = (.ok (written names rest), left)) :
    parse cast commands.has statement draws = (.ok { line with source := statement }, left) := by
  have htake : takeCommands commands.has (written names rest).toList = (names, rest.toList) :=
    takeCommands_written (fun name hname => named.word (known name hname)) known legible.flush
      legible.free
  obtain ⟨who, hwho, hspeaker⟩ := legible.speaker registered
  have himage := legible.image hwho
  have hrest : rest.toList ≠ [] := by simpa using legible.ne_empty
  unfold parse
  rw [selected]
  simp only [readText, htake, if_neg hrest, hspeaker, himage, String.ofList_toList]
  rw [← hwho, ← legible.commands_eq]

/-- One command that does nothing. -/
def waving : Commands Unit Unit where
  handlers := [(.text "wave", none)]

/-- The general theorem for a key with an expression, and for a key alone, after two commands. -/
theorem parse_written_waving :
    Legible troupe waving.has ["wave", "wave"] "r:happy \tHello you"
        { who := some "r", expression := some "happy", sideImage := some "smile",
          text := "Hello you", commands := ["wave", "wave"] } ∧
      parse troupe waving.has (.text "wave wave r:happy \tHello you") [] =
        (.ok { source := .text "wave wave r:happy \tHello you", who := some "r",
               expression := some "happy", sideImage := some "smile", text := "Hello you",
               commands := ["wave", "wave"] }, []) ∧
      parse troupe waving.has (.text "wave wave r  Hello you") [] =
        (.ok { source := .text "wave wave r  Hello you", who := some "r", text := " Hello you",
               commands := ["wave", "wave"] }, []) := by
  have builtins : (Commands.ofBuiltins [] : Commands Unit Unit).Named := .new (by simp)
  have wave : (Commands.ofBuiltins [] : Commands Unit Unit).register (.text "wave") none =
      .ok waving := rfl
  have named : waving.Named := .step builtins wave
  have registered : troupe.Registered := .step .new rfl
  have known : ∀ name ∈ ["wave", "wave"], waving.has name = true := by decide
  have found : Table.get? troupe.records "r" =
      some { key := "r", expressions := [("happy", "smile")] } := rfl
  have toned : Legible troupe waving.has ["wave", "wave"]
      ("r" ++ ":" ++ "happy" ++ " \t" ++ "Hello you")
      { who := some "r", expression := some "happy", sideImage := some "smile",
        text := "Hello you", commands := ["wave", "wave"] } := by
    have word : ∀ c ∈ "r".toList, Text.isWord c = true := List.all_eq_true.mp (by decide +kernel)
    have tone : ∀ c ∈ "happy".toList, Text.isSolid c = true := List.all_eq_true.mp (by decide)
    have gap : ∀ c ∈ " \t".toList, Text.isBlank c = true := List.all_eq_true.mp (by decide)
    have flush : Flush "Hello you" := by
      intro c hc
      cases hc
      decide
    exact .toned ⟨by decide, word⟩ ⟨by decide, tone⟩ ⟨by decide, gap⟩ flush found rfl (by decide)
  have keyed : Legible troupe waving.has ["wave", "wave"] ("r" ++ " " ++ " Hello you")
      { who := some "r", text := " Hello you", commands := ["wave", "wave"] } := by
    have flush : Flush "r" := by
      intro c hc
      cases hc
      decide
    have other := colonForm?_eq_none_iff.mp
      (show colonForm? ("r" ++ " " ++ " Hello you").toList = none by decide +kernel)
    refine .keyed (by decide) flush found rfl (by decide) other fun longer hknows hlonger => ?_
    have hkeys : longer ∈ ["narrator", "r"] := (Cast.knows_iff_mem_keys troupe longer).mp hknows
    rcases List.mem_cons.mp hkeys with rfl | hr
    · rw [← Cast.startsLine_iff]
      decide
    · obtain rfl : longer = "r" := by simpa using hr
      exact absurd hlonger (Nat.lt_irrefl _)
  exact ⟨toned, parse_written named registered known toned rfl,
    parse_written named registered known keyed rfl⟩

end Statement

end Dialogue
