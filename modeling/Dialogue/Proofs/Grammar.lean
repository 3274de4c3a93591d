import Dialogue.Proofs.Reading

/-!
# The grammar of statements

A text is taken apart from its front: commands with the blanks after them, then whoever speaks, then
what is said.  Put together again the parts are the text, and nothing is lost between them.

## Results

* `Span.eq` — there is one longest run at the front of a text.
* `takeCommands_spells` — the commands at the front, the blanks after them and the rest make the text.
* `colonForm?_eq_some_iff`, `colonForm?_eq_none_iff` — a key with an expression is found just when
  there is one.
* `parse_sound` — a line says which commands, speaker and words its statement is made of.
-/

set_option autoImplicit false

namespace Dialogue.Statement

/-! ## Runs of characters -/

/-- A text begins with the longest run of such characters. -/
structure Span (p : Char → Bool) (text run rest : List Char) : Prop where
  whole : text = run ++ rest
  inside : ∀ c ∈ run, p c = true
  stops : ∀ c, rest.head? = some c → p c = false

theorem span_takeWhile (p : Char → Bool) (text : List Char) :
    Span p text (text.takeWhile p) (text.dropWhile p) where
  whole := List.takeWhile_append_dropWhile.symm
  inside := List.all_eq_true.mp List.all_takeWhile
  stops c hc := by
    have h := List.head?_dropWhile_not p text
    rw [hc] at h
    exact h

/-- There is one longest run. -/
theorem Span.eq {p : Char → Bool} {text run rest : List Char} (h : Span p text run rest) :
    run = text.takeWhile p ∧ rest = text.dropWhile p := by
  have hstop : rest.takeWhile p = [] ∧ rest.dropWhile p = rest := by
    cases rest with
    | nil => exact ⟨rfl, rfl⟩
    | cons c tail =>
      have hc : ¬ p c = true := by
        rw [h.stops c rfl]
        exact Bool.false_ne_true
      exact ⟨List.takeWhile_cons_of_neg hc, List.dropWhile_cons_of_neg hc⟩
  rw [h.whole, List.takeWhile_append_of_pos h.inside, List.dropWhile_append_of_pos h.inside,
    hstop.1, hstop.2, List.append_nil]
  exact ⟨rfl, rfl⟩

theorem isSolid_eq_false_iff (c : Char) : Text.isSolid c = false ↔ Text.isBlank c = true := by
  simp [Text.isSolid]

/-- A word is followed by blanks, or by nothing. -/
theorem blank_of_dropWhile_isSolid {text rest : List Char} {c : Char}
    (h : text.dropWhile Text.isSolid = c :: rest) : Text.isBlank c = true := by
  have hstops := (span_takeWhile Text.isSolid text).stops c (by rw [h]; rfl)
  exact (isSolid_eq_false_iff c).mp hstops

/-! ## Commands at the front -/

/-- A text is spelled by commands, each with the blanks after it, and a rest. -/
structure Spells (isCommand : String → Bool) (text : List Char)
    (pieces : List (String × List Char)) (rest : List Char) : Prop where
  whole : text = pieces.flatMap (fun e => e.1.toList ++ e.2) ++ rest
  command : ∀ e ∈ pieces, e.1 ≠ "" ∧ (∀ c ∈ e.1.toList, Text.isSolid c = true) ∧
    isCommand e.1 = true
  blank : ∀ e ∈ pieces, ∀ c ∈ e.2, Text.isBlank c = true
  /-- Only the last command may have no blank after it, and then nothing else follows. -/
  apart : ∀ before e after, pieces = before ++ e :: after → e.2 = [] → after = [] ∧ rest = []
  /-- The rest begins with no command; it begins with a blank only if there is no command. -/
  stops : rest ≠ [] → if firstWord rest = [] then pieces = [] else
    isCommand (String.ofList (firstWord rest)) = false

theorem Spells.none {isCommand : String → Bool} {text : List Char}
    (h : ¬ (firstWord text ≠ [] ∧ isCommand (String.ofList (firstWord text)) = true)) :
    Spells isCommand text [] text := by
  refine ⟨rfl, by simp, by simp, by simp, fun _ => ?_⟩
  split
  · rfl
  · rename_i hword
    simpa using fun hc => h ⟨hword, hc⟩

theorem Spells.eq_nil {isCommand : String → Bool} {pieces : List (String × List Char)}
    {rest : List Char} (h : Spells isCommand [] pieces rest) : pieces = [] ∧ rest = [] := by
  obtain ⟨hpieces, hrest⟩ := List.append_eq_nil_iff.mp h.whole.symm
  refine ⟨?_, hrest⟩
  cases pieces with
  | nil => rfl
  | cons e later =>
    have he := List.flatMap_eq_nil_iff.mp hpieces e List.mem_cons_self
    have hempty : e.1 = "" := by simpa using (List.append_eq_nil_iff.mp he).1
    exact absurd hempty (h.command e List.mem_cons_self).1

/-- One more command before others. -/
theorem Spells.cons {isCommand : String → Bool} {text rest : List Char}
    {pieces : List (String × List Char)} (hword : firstWord text ≠ [])
    (hcommand : isCommand (String.ofList (firstWord text)) = true)
    (h : Spells isCommand (afterWord text) pieces rest) :
    Spells isCommand text ((String.ofList (firstWord text),
      (text.dropWhile Text.isSolid).takeWhile Text.isBlank) :: pieces) rest := by
  have hsolid := span_takeWhile Text.isSolid text
  have hblank := span_takeWhile Text.isBlank (text.dropWhile Text.isSolid)
  refine ⟨?_, ?_, ?_, ?_, fun hrest => ?_⟩
  · calc
      text = firstWord text ++ text.dropWhile Text.isSolid := hsolid.whole
      _ = firstWord text ++ ((text.dropWhile Text.isSolid).takeWhile Text.isBlank ++
          afterWord text) := congrArg _ hblank.whole
      _ = _ := by rw [h.whole]; simp
  · intro e he
    rcases List.mem_cons.mp he with rfl | he
    · refine ⟨?_, ?_, hcommand⟩
      · intro hempty
        exact hword (by simpa using congrArg String.toList hempty)
      · rw [String.toList_ofList]
        exact hsolid.inside
    · exact h.command e he
  · intro e he
    rcases List.mem_cons.mp he with rfl | he
    · exact hblank.inside
    · exact h.blank e he
  · intro before e after heq hempty
    cases before with
    | nil =>
      -- without a blank after the word, the text ends with it
      obtain ⟨rfl, rfl⟩ := List.cons.inj heq
      have hend : afterWord text = [] := by
        unfold afterWord
        cases hd : text.dropWhile Text.isSolid with
        | nil => rfl
        | cons c tail =>
          rw [hd] at hempty
          simp [blank_of_dropWhile_isSolid hd] at hempty
      rw [hend] at h
      exact h.eq_nil
    | cons first before => exact h.apart before e after (List.cons.inj heq).2 hempty
  · have hstops := h.stops hrest
    split at hstops
    · rename_i hblankWord
      subst hstops
      have hafter : afterWord text = rest := h.whole
      exfalso
      cases rest with
      | nil => exact hrest rfl
      | cons c tail =>
        have hc : Text.isBlank c = false := hblank.stops c (by
          show (afterWord text).head? = some c
          rw [hafter]
          rfl)
        simp [firstWord, Text.isSolid, hc] at hblankWord
    · rename_i hne
      rw [if_neg hne]
      exact hstops

theorem takeCommands_spells (isCommand : String → Bool) (text : List Char) :
    ∃ pieces, (takeCommands isCommand text).1 = pieces.map Prod.fst ∧
      Spells isCommand text pieces (takeCommands isCommand text).2 := by
  fun_induction takeCommands isCommand text with
  | case1 text h commands rest htake ih =>
    obtain ⟨pieces, hpieces, hspells⟩ := ih
    rw [htake] at hpieces hspells
    refine ⟨_ :: pieces, ?_, hspells.cons h.1 h.2⟩
    simpa using hpieces
  | case2 text h => exact ⟨[], rfl, Spells.none h⟩

theorem readText_commands {cast : Cast} {isCommand : String → Bool} {source : Value} {text : String}
    {line : Line} (h : readText cast isCommand source text = .ok line) :
    line.commands = (takeCommands isCommand text.toList).1 := by
  unfold readText at h
  split at h
  rename_i commands rest htake
  rw [htake]
  split at h
  · cases h
    rfl
  · split at h
    · cases h
    · split at h
      · cases h
      · cases h
        rfl

/-- The commands of a line are known ones. -/
theorem parse_commands {cast : Cast} {isCommand : String → Bool} {statement : Value}
    {draws : List Value} {line : Line} (h : (parse cast isCommand statement draws).1 = .ok line) :
    ∀ name ∈ line.commands, isCommand name = true := by
  unfold parse at h
  split at h
  · cases h
  · rename_i text _ _
    intro name hm
    obtain ⟨pieces, hpieces, spells⟩ := takeCommands_spells isCommand text.toList
    rw [readText_commands h, hpieces] at hm
    obtain ⟨piece, hpiece, rfl⟩ := List.mem_map.mp hm
    exact (spells.command piece hpiece).2.2

/-! ## A key with an expression -/

/-- A text begins with a key, a colon, an expression and blanks. -/
structure Colon (text key expression blanks rest : List Char) : Prop where
  whole : text = key ++ ':' :: (expression ++ (blanks ++ rest))
  key : key ≠ [] ∧ ∀ c ∈ key, Text.isWord c = true
  expression : expression ≠ [] ∧ ∀ c ∈ expression, Text.isSolid c = true
  blanks : blanks ≠ [] ∧ ∀ c ∈ blanks, Text.isBlank c = true

theorem isWord_colon : Text.isWord ':' = false := by
  decide +kernel

/-- Where there is a key with an expression, it is found. -/
theorem Colon.colonForm?_eq {text key expression blanks rest : List Char}
    (h : Colon text key expression blanks rest) :
    colonForm? text = some (String.ofList key, String.ofList expression,
      rest.dropWhile Text.isBlank) := by
  have hkey : Span Text.isWord text key (':' :: (expression ++ (blanks ++ rest))) := by
    refine ⟨h.whole, h.key.2, fun c hc => ?_⟩
    cases hc
    exact isWord_colon
  have hexpression : Span Text.isSolid (expression ++ (blanks ++ rest)) expression
      (blanks ++ rest) := by
    refine ⟨rfl, h.expression.2, fun c hc => ?_⟩
    obtain ⟨b, more, hb⟩ := List.exists_cons_of_ne_nil h.blanks.1
    rw [hb] at hc
    cases hc
    exact (isSolid_eq_false_iff c).mpr (h.blanks.2 c (by simp [hb]))
  obtain ⟨hk, hk'⟩ := hkey.eq
  obtain ⟨he, he'⟩ := hexpression.eq
  have hword : firstWord (expression ++ (blanks ++ rest)) = expression := he.symm
  have hblanks : (blanks ++ rest).isEmpty = false := by
    cases hb : blanks with
    | nil => exact absurd hb h.blanks.1
    | cons b more => rfl
  have hafter : afterWord (expression ++ (blanks ++ rest)) = rest.dropWhile Text.isBlank := by
    unfold afterWord
    rw [← he', List.dropWhile_append_of_pos h.blanks.2]
  unfold colonForm?
  rw [← hk, ← hk']
  cases hkc : key with
  | nil => exact absurd hkc h.key.1
  | cons c more =>
    simp only [hword, ← he', hblanks, hafter, h.expression.1, decide_false, Bool.or_false,
      Bool.false_eq_true, if_false]

/-- What is found is a key with an expression and all the blanks after it. -/
theorem colonForm?_eq_some_iff {text rest : List Char} {key expression : String} :
    colonForm? text = some (key, expression, rest) ↔
      (∃ blanks, Colon text key.toList expression.toList blanks rest) ∧
        ∀ c, rest.head? = some c → Text.isBlank c = false := by
  constructor
  · intro h
    unfold colonForm? at h
    split at h
    · cases h
    · rename_i found hcolon hkey
      split at h
      · cases h
      · rename_i hfound
        cases h
        have hword := span_takeWhile Text.isWord text
        have hsolid := span_takeWhile Text.isSolid found
        have hblank := span_takeWhile Text.isBlank (found.dropWhile Text.isSolid)
        rw [hcolon] at hword
        simp only [Bool.or_eq_true, decide_eq_true_eq, List.isEmpty_iff, not_or] at hfound
        have hblanks : (found.dropWhile Text.isSolid).takeWhile Text.isBlank ≠ [] := by
          obtain ⟨c, tail, hc⟩ := List.exists_cons_of_ne_nil hfound.2
          rw [hc, List.takeWhile_cons_of_pos (blank_of_dropWhile_isSolid hc)]
          exact List.cons_ne_nil _ _
        refine ⟨⟨(found.dropWhile Text.isSolid).takeWhile Text.isBlank, ?_⟩, hblank.stops⟩
        rw [String.toList_ofList, String.toList_ofList]
        refine ⟨?_, ⟨hkey, hword.inside⟩, ⟨hfound.1, hsolid.inside⟩, hblanks, hblank.inside⟩
        calc
          text = text.takeWhile Text.isWord ++ ':' :: found := hword.whole
          _ = _ := congrArg _ (congrArg _ (hsolid.whole.trans (congrArg _ hblank.whole)))
    · cases h
  · rintro ⟨⟨blanks, h⟩, hstops⟩
    have hrest : rest.dropWhile Text.isBlank = rest := by
      cases rest with
      | nil => rfl
      | cons c tail => exact List.dropWhile_cons_of_neg (by simp [hstops c rfl])
    rw [h.colonForm?_eq, String.ofList_toList, String.ofList_toList, hrest]

theorem colonForm?_eq_none_iff {text : List Char} :
    colonForm? text = none ↔ ∀ key expression blanks rest, ¬ Colon text key expression blanks rest := by
  constructor
  · intro h key expression blanks rest hcolon
    rw [hcolon.colonForm?_eq] at h
    cases h
  · intro h
    cases hf : colonForm? text with
    | none => rfl
    | some found =>
      obtain ⟨key, expression, rest⟩ := found
      obtain ⟨⟨blanks, hcolon⟩, -⟩ := colonForm?_eq_some_iff.mp hf
      exact absurd hcolon (h _ _ _ _)

/-! ## Who speaks -/

/-- The image of an expression is the one that the record of its speaker has for it. -/
def Pictured (cast : Cast) (who : String) (expression? image? : Option String) : Prop :=
  match expression? with
  | none => image? = none
  | some expression => ∃ record image, Table.get? cast.records who = some record ∧
      Table.get? record.expressions expression = some image ∧ image? = some image

/-- How a line says what is left of a statement when the commands are taken off. -/
inductive Said (cast : Cast) (rest : List Char) (line : Line) : Prop where
  /-- A key names the speaker together with an expression; all blanks after it are dropped. -/
  | colon {key expression : String} {blanks : List Char}
    (form : Colon rest key.toList expression.toList blanks line.text.toList)
    (stops : ∀ c, line.text.toList.head? = some c → Text.isBlank c = false)
    (known : cast.Knows key) (who : line.who = some key) (tone : line.expression = some expression)
    (image : Pictured cast key line.expression line.sideImage)
  /-- The longest key that is registered names the speaker; one space after it is dropped. -/
  | key {key : String} {record : Character}
    (other : ∀ key expression blanks said, ¬ Colon rest key expression blanks said)
    (foremost : Cast.Foremost cast.Knows rest key)
    (whole : rest = key.toList ++ ' ' :: line.text.toList)
    (found : Table.get? cast.records key = some record) (who : line.who = some key)
    (tone : line.expression = record.defaultExpression)
    (image : Pictured cast key line.expression line.sideImage)
  /-- Nobody is named, so the narrator says all of it. -/
  | narrator (other : ∀ key expression blanks said, ¬ Colon rest key expression blanks said)
    (nobody : ∀ key, cast.Knows key → ¬ Cast.Begins rest key) (whole : rest = line.text.toList)
    (who : line.who = some narratorKey) (tone : line.expression = none)
    (image : line.sideImage = none)

theorem pictured_of_image {cast : Cast} {who : String} {expression? image? : Option String}
    (hne : who ≠ "") (h : cast.image (.text who) (Value.optionalText expression?) = .ok image?) :
    Pictured cast who expression? image? := by
  cases expression? with
  | none =>
    cases h
    rfl
  | some expression =>
    simp only [Value.optionalText, Cast.image] at h
    cases hr : Table.get? cast.records who with
    | none => simp [Cast.character_eq_error hne hr] at h
    | some record =>
      simp only [Cast.character_eq_ok hne hr, Table.find_text] at h
      cases hi : Table.get? record.expressions expression with
      | none => simp [hi] at h
      | some image =>
        simp only [hi, Except.ok.injEq] at h
        exact ⟨record, image, hr, hi, h.symm⟩

theorem said_of_speaker {cast : Cast} (registered : cast.Registered) {rest : List Char}
    {line : Line} {who : String}
    (hspeaker : speaker cast rest = .ok (who, line.expression, line.text.toList))
    (hwho : line.who = some who)
    (himage : cast.image (.text who) (Value.optionalText line.expression) = .ok line.sideImage) :
    Said cast rest line := by
  have hanswers := registered.covered.answers rest
  unfold speaker at hspeaker
  split at hspeaker
  · rename_i key expression said hform
    cases hc : cast.character (.text key) with
    | error f => simp [hc, Except.map] at hspeaker
    | ok record =>
      simp only [hc, Except.map, Except.ok.injEq, Prod.mk.injEq] at hspeaker
      obtain ⟨rfl, htone, rfl⟩ := hspeaker
      have hne := key_ne_of_colonForm? hform
      obtain ⟨⟨blanks, hcolon⟩, hstops⟩ := colonForm?_eq_some_iff.mp hform
      exact .colon hcolon hstops (Cast.knows_of_character hne hc) hwho htone.symm
        (pictured_of_image hne himage)
  · rename_i hform
    have hother := colonForm?_eq_none_iff.mp hform
    split at hspeaker
    · rename_i key hkey
      have hforemost := (hanswers.1 key).mp hkey
      have hne := hforemost.begins.1
      cases hr : Table.get? cast.records key with
      | none => simp [Cast.character_eq_error hne hr, Except.map] at hspeaker
      | some record =>
        simp only [Cast.character_eq_ok hne hr, Except.map, Except.ok.injEq,
          Prod.mk.injEq] at hspeaker
        obtain ⟨rfl, htone, hsaid⟩ := hspeaker
        refine .key hother hforemost ?_ hr hwho htone.symm (pictured_of_image hne himage)
        obtain ⟨said, hrest⟩ := hforemost.begins.2
        rw [← hsaid, ← hrest, ← String.length_toList]
        simp
    · rename_i hkey
      simp only [Except.ok.injEq, Prod.mk.injEq] at hspeaker
      obtain ⟨rfl, htone, hsaid⟩ := hspeaker
      rw [← htone] at himage
      have himage : line.sideImage = none := (Except.ok.inj himage).symm
      exact .narrator hother (hanswers.2.mp hkey) hsaid hwho htone.symm himage

/-- **What a line says is what its statement is made of, and nothing is lost.**  The text begins
with the commands of the line and the blanks after them; the rest names the speaker with an
expression, or with a key alone, or not at all, and then says the words. -/
theorem parse_sound {cast : Cast} (registered : cast.Registered) {isCommand : String → Bool}
    {statement : Value} {draws left : List Value} {text : String} {line : Line}
    (selected : select statement draws = (.ok text, left))
    (parsed : (parse cast isCommand statement draws).1 = .ok line) :
    ∃ pieces rest, line.source = statement ∧ line.commands = pieces.map Prod.fst ∧
      Spells isCommand text.toList pieces rest ∧
      (rest = [] → line.who = none ∧ line.expression = none ∧ line.sideImage = none ∧
        line.text = "") ∧
      (rest ≠ [] → Said cast rest line) := by
  obtain ⟨pieces, hcommands, hspells⟩ := takeCommands_spells isCommand text.toList
  simp only [parse, selected, readText] at parsed
  cases htake : takeCommands isCommand text.toList with
  | mk commands rest =>
    rw [htake] at hcommands hspells
    simp only [htake] at parsed
    refine ⟨pieces, rest, ?_⟩
    split at parsed
    · rename_i hrest
      cases parsed
      exact ⟨rfl, hcommands, hspells, fun _ => ⟨rfl, rfl, rfl, rfl⟩, fun h => absurd hrest h⟩
    · rename_i hrest
      split at parsed
      · cases parsed
      · rename_i who expression? said hs
        split at parsed
        · cases parsed
        · rename_i image? hi
          cases parsed
          refine ⟨rfl, hcommands, hspells, fun h => absurd h hrest, fun _ => ?_⟩
          refine said_of_speaker registered ?_ rfl hi
          rw [hs, String.toList_ofList]

/-- A cast of one who can be happy. -/
def troupe : Cast :=
  (Cast.register [("r", .fields (.ofTable
    [("expressions", .ofTable [("happy", .text "smile")])]))] {}).2

/-- What a happy speaker says after a command. -/
def greeting : Line where
  source := .text "wave r:happy  Hello you"
  who := some "r"
  expression := some "happy"
  sideImage := some "smile"
  text := "Hello you"
  commands := ["wave"]

/-- The general theorem for a statement of one command, a speaker and words. -/
theorem parse_sound_greeting : ∃ pieces rest, ["wave"] = pieces.map Prod.fst ∧
    Spells (· == "wave") "wave r:happy  Hello you".toList pieces rest ∧
    (rest ≠ [] → Said troupe rest greeting) := by
  have hread : (parse troupe (· == "wave") greeting.source []).1.toOption = some greeting := by
    decide +kernel
  have hparsed : (parse troupe (· == "wave") greeting.source []).1 = .ok greeting := by
    cases hp : (parse troupe (· == "wave") greeting.source []).1 with
    | error f =>
      rw [hp] at hread
      cases hread
    | ok line =>
      rw [hp] at hread
      exact congrArg Except.ok (Option.some.inj hread)
  obtain ⟨pieces, rest, -, hcommands, hspells, -, hsaid⟩ :=
    parse_sound (.step .new rfl) rfl hparsed
  exact ⟨pieces, rest, hcommands, hspells, hsaid⟩

end Dialogue.Statement
