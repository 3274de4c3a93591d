import Dialogue.Proofs.Grammar
import Dialogue.Proofs.Records

/-!
# Statements that are refused

A statement cannot be read when it says no text, when its text names a speaker that is not
registered, or when the speaker has no image for the expression.  These are asked in this order, and
there is no other reason.

## Results

* `Spells.unique` — a text is spelled by commands and a rest in one way only.
* `Cast.Registered.titled` — a record bears the key that it is registered under.
* `select_of_spoken`, `select_of_silent` — when a text can be chosen from a statement, and what is wrong
  otherwise.
* `refused_iff` — a text is refused just for a speaker or an image that is missing.
* `parse_refused` — the exact conditions under which a statement is refused, and how.
-/

set_option autoImplicit false

namespace Dialogue

/-! ## Records bear their keys -/

theorem Character.key_of_readAs {key : String} {v : Value} {record : Character}
    (h : Character.readAs key v = .ok record) : record.key = key := by
  unfold readAs at h
  cases hv : v.entries? with
  | none => simp [hv] at h
  | some entries =>
    simp only [hv, ofEntries, readFrom_key] at h
    split at h
    · rename_i hkey _ _ _ _ _ _ _
      cases h
      exact (Except.ok.inj hkey).symm
    · cases h

namespace Cast

/-- Every record bears the key that it stands under. -/
def Titled (c : Cast) : Prop :=
  ∀ key record, Table.get? c.records key = some record → record.key = key

theorem titled_new : Titled {} := by
  intro key record h
  by_cases hkey : narratorKey = key
  · subst hkey
    cases h
    rfl
  · have hnone : Table.get? ({} : Cast).records key = none := by
      simp [Table.get?, hkey]
    rw [hnone] at h
    cases h

theorem key_of_recordOf {key : String} {entry : Entry} {record : Character}
    (h : recordOf key entry = .ok record) : record.key = key := by
  cases entry with
  | fields v => exact Character.key_of_readAs h
  | record c =>
    cases h
    rfl

/-- Registrations keep the keys, also those that end half-way. -/
theorem Titled.register {c : Cast} (titled : c.Titled) (call : Table Entry) :
    (c.register call).2.Titled := by
  induction call generalizing c with
  | nil => exact titled
  | cons e rest ih =>
    obtain ⟨place, entry⟩ := e
    unfold Cast.register
    cases hrecord : recordOf place entry with
    | error f => exact titled
    | ok new =>
      refine ih fun key record found => ?_
      by_cases hplace : key = place
      · subst hplace
        rw [Table.get?_put_self] at found
        cases found
        exact key_of_recordOf hrecord
      · rw [Table.get?_put_of_ne _ _ hplace] at found
        exact titled key record found

theorem Registered.titled {c : Cast} (registered : c.Registered) : c.Titled := by
  induction registered with
  | new => exact titled_new
  | step _ _ ih => exact ih.register _

theorem knows_iff {c : Cast} {key : String} :
    c.Knows key ↔ ∃ record, Table.get? c.records key = some record :=
  Option.isSome_iff_exists

end Cast

namespace Statement

/-! ## The text of a statement -/

/-- A statement says this text, if the alternative is counted out by this number. -/
inductive Says : Value → Int → String → Prop where
  | text (s : String) (n : Int) : Says (.text s) n s
  | choice (s : String) (extra : List (String × Value)) (n : Int) : Says (.choice s extra) n s
  | mapping {form : Form} {entries : List (String × Value)} {s : String} (n : Int)
    (found : Table.get? entries "statement" = some (.text s)) : Says (.tree form entries) n s
  | alternative {form : Form} {items : List Value} {n : Int} {s : String} (some : items ≠ [])
    (chosen : items[(n % items.length).toNat]? = .some (.text s)) : Says (.list form items) n s

/-- The next alternative is counted out by this number; by none when all draws are used up. -/
def Counted : List Value → Int → Prop
  | [], n => n = 0
  | draw :: _, n => draw.number? = some (.int n)

/-- What is wrong with a statement that says no text. -/
def blame : Value → Malformation
  | .list _ [] => .noAlternatives
  | .list .. => .alternativeNotText
  | .tree .. => .noStatementField
  | v => .unsupported v.typeName

variable {draws : List Value} {n : Int}

/-- The alternative that is drawn is the one that is counted out. -/
theorem draw_of_counted (counted : Counted draws n) (form : Form) (first : Value)
    (rest : List Value) : ∃ chosen left, draw form first rest draws = (.ok chosen, left) ∧
      (first :: rest)[(n % (first :: rest).length).toNat]? = some chosen := by
  cases draws with
  | nil =>
    obtain rfl : n = 0 := counted
    exact ⟨first, [], rfl, by simp⟩
  | cons next more =>
    have hnumber : next.number? = some (.int n) := counted
    have hlt : (n % ((first :: rest).length : Int)).toNat < (first :: rest).length := by
      have hpos : (0 : Int) < (first :: rest).length := by simp only [List.length_cons]; omega
      have := Int.emod_lt_of_pos n hpos
      have := Int.emod_nonneg n (Int.ne_of_gt hpos)
      omega
    refine ⟨(first :: rest)[(n % ((first :: rest).length : Int)).toNat], more, ?_,
      List.getElem?_eq_getElem hlt⟩
    have hget : (first :: rest).getD (n % ((first :: rest).length : Int)).toNat first =
        (first :: rest)[(n % ((first :: rest).length : Int)).toNat] := by
      rw [List.getD_eq_getElem?_getD, List.getElem?_eq_getElem hlt]
      rfl
    rw [← hget]
    simp only [draw, drawn, hnumber]
    rfl

/-- A text that a statement says is chosen from it. -/
theorem select_of_spoken (counted : Counted draws n) {statement : Value} {s : String}
    (spoken : Says statement n s) : (select statement draws).1 = .ok s := by
  cases spoken with
  | text | choice => rfl
  | mapping n found => simp only [select, found]
  | @alternative form items n s hsome chosen =>
    cases items with
    | nil => exact absurd rfl hsome
    | cons first rest =>
      obtain ⟨drawn, left, hdraw, hdrawn⟩ := draw_of_counted counted form first rest
      rw [hdrawn] at chosen
      cases chosen
      simp only [select, hdraw]

/-- No text can be chosen from a statement that says none. -/
theorem select_of_silent (counted : Counted draws n) {statement : Value}
    (silent : ∀ s, ¬ Says statement n s) :
    (select statement draws).1 = .error (.malformed statement (blame statement)) := by
  cases statement with
  | text s => exact absurd (.text s n) (silent s)
  | choice s extra => exact absurd (.choice s extra n) (silent s)
  | tree form entries =>
    cases hfound : Table.get? entries "statement" with
    | none => simp only [select, hfound, blame]
    | some v =>
      cases v with
      | text s => exact absurd (.mapping n hfound) (silent s)
      | _ => simp only [select, hfound, blame]
  | list form items =>
    cases items with
    | nil => rfl
    | cons first rest =>
      obtain ⟨chosen, left, hdraw, hchosen⟩ := draw_of_counted counted form first rest
      simp only [select, hdraw]
      cases chosen with
      | text s => exact absurd (.alternative (List.cons_ne_nil _ _) hchosen) (silent s)
      | _ => rfl
  | _ => rfl

/-! ## What is left of a text -/

variable {isCommand : String → Bool} {text rest : List Char} {pieces : List (String × List Char)}

/-- The first command of a text is its first word. -/
theorem Spells.uncons {e : String × List Char} (h : Spells isCommand text (e :: pieces) rest) :
    e.1.toList = firstWord text ∧
      e.2 = (text.dropWhile Text.isSolid).takeWhile Text.isBlank ∧
      Spells isCommand (afterWord text) pieces rest := by
  obtain ⟨name, blanks⟩ := e
  let later := pieces.flatMap (fun e => e.1.toList ++ e.2) ++ rest
  have hwhole : text = name.toList ++ (blanks ++ later) := by
    rw [h.whole]
    simp [later]
  obtain ⟨hne, hsolid, -⟩ := h.command _ List.mem_cons_self
  have hblank := h.blank _ List.mem_cons_self
  -- without a blank after it the command is all there is
  have hword : Span Text.isSolid text name.toList (blanks ++ later) := by
    refine ⟨hwhole, hsolid, fun c hc => (isSolid_eq_false_iff c).mpr ?_⟩
    cases hb : blanks with
    | nil =>
      obtain ⟨rfl, rfl⟩ := h.apart [] _ pieces rfl hb
      simp [hb, later] at hc
    | cons b more =>
      rw [hb] at hc
      cases hc
      exact hblank c (by simp [hb])
  -- what follows the blanks is a command, or the rest, which begins with a word
  have hgap : Span Text.isBlank (blanks ++ later) blanks later := by
    refine ⟨rfl, hblank, fun c hc => ?_⟩
    cases hp : pieces with
    | cons e more =>
      obtain ⟨hfirst, hsolidFirst, -⟩ := h.command e (by simp [hp])
      obtain ⟨d, tail, hd⟩ := List.exists_cons_of_ne_nil
        (show e.1.toList ≠ [] by simpa using hfirst)
      have hcd : d = c := by simpa [later, hp, hd] using hc
      have hdsolid := hsolidFirst d (by simp [hd])
      rw [hcd] at hdsolid
      simpa [Text.isSolid] using hdsolid
    | nil =>
      have hrest : rest.head? = some c := by simpa [later, hp] using hc
      have hstops := h.stops (by rintro rfl; cases hrest)
      split at hstops
      · cases hstops
      · rename_i hfirst
        obtain ⟨tail, rfl⟩ := List.head?_eq_some_iff.mp hrest
        cases hc : Text.isBlank c with
        | false => rfl
        | true => exact absurd (by simp [firstWord, Text.isSolid, hc]) hfirst
  obtain ⟨hfirst, hafter⟩ := hword.eq
  obtain ⟨hblanks, hlater⟩ := hgap.eq
  refine ⟨hfirst, by rw [← hafter]; exact hblanks, ?_⟩
  have htext : afterWord text = later := by
    unfold afterWord
    rw [← hafter]
    exact hlater.symm
  rw [htext]
  refine ⟨rfl, fun e he => h.command e (List.mem_cons_of_mem _ he),
    fun e he => h.blank e (List.mem_cons_of_mem _ he), ?_, fun hne => ?_⟩
  · intro before e after hsplit hempty
    exact h.apart ((name, blanks) :: before) e after (by rw [hsplit]; rfl) hempty
  · have hstops := h.stops hne
    split at hstops
    · cases hstops
    · rename_i hfirst
      rw [if_neg hfirst]
      exact hstops

/-- A text that begins with a command is not all rest. -/
theorem Spells.not_nil {e : String × List Char} (h : Spells isCommand text (e :: pieces) rest)
    {more : List Char} : ¬ Spells isCommand text [] more := by
  intro k
  obtain ⟨hne, -, hcommand⟩ := h.command _ List.mem_cons_self
  have hfirst := h.uncons.1
  have hmore : text = more := k.whole
  have hword : firstWord text ≠ [] := by
    rw [← hfirst]
    simpa using hne
  subst hmore
  have hstops := k.stops (by rintro rfl; exact hword rfl)
  rw [if_neg hword, ← hfirst, String.ofList_toList, hcommand] at hstops
  cases hstops

/-- **A text is spelled by commands and a rest in one way only.** -/
theorem Spells.unique {others : List (String × List Char)} {more : List Char}
    (h : Spells isCommand text pieces rest) (k : Spells isCommand text others more) :
    others = pieces ∧ more = rest := by
  induction pieces generalizing text others with
  | nil =>
    cases others with
    | nil => exact ⟨rfl, k.whole.symm.trans h.whole⟩
    | cons e others => exact absurd h k.not_nil
  | cons e pieces ih =>
    cases others with
    | nil => exact absurd k h.not_nil
    | cons f others =>
      obtain ⟨hname, hblanks, hlater⟩ := h.uncons
      obtain ⟨kname, kblanks, klater⟩ := k.uncons
      obtain ⟨rfl, rfl⟩ := ih hlater klater
      refine ⟨?_, rfl⟩
      have hfirst : f.1 = e.1 := String.toList_injective (kname.trans hname.symm)
      rw [Prod.ext hfirst (kblanks.trans hblanks.symm)]

/-! ## Speakers and images that are missing -/

/-- What is left of a text, when the commands are taken off, is refused for this fault. -/
inductive Refused (cast : Cast) (rest : List Char) : Fault → Prop where
  /-- A key with an expression names nobody who is registered. -/
  | stranger {key expression : String} {blanks said : List Char}
    (form : Colon rest key.toList expression.toList blanks said) (unknown : ¬ cast.Knows key) :
    Refused cast rest (.unknownCharacter key)
  /-- The speaker has no image for the expression that is named. -/
  | named {key expression : String} {blanks said : List Char} {record : Character}
    (form : Colon rest key.toList expression.toList blanks said)
    (found : Table.get? cast.records key = some record)
    (missing : Table.get? record.expressions expression = none) :
    Refused cast rest (.unknownExpression key expression)
  /-- The longest key that the text begins with names the speaker, who has no image for the
  expression of their own. -/
  | own {key expression : String} {record : Character}
    (other : ∀ key expression blanks said, ¬ Colon rest key expression blanks said)
    (foremost : Cast.Foremost cast.Knows rest key)
    (found : Table.get? cast.records key = some record)
    (tone : record.defaultExpression = some expression)
    (missing : Table.get? record.expressions expression = none) :
    Refused cast rest (.unknownExpression key expression)

variable {cast : Cast}

theorem key_ne_of_colon {key : String} {expression blanks said : List Char}
    (form : Colon rest key.toList expression blanks said) : key ≠ "" := by
  simpa using form.key.1

theorem Refused.ne_nil {f : Fault} (refused : Refused cast rest f) : rest ≠ [] := by
  rintro rfl
  cases refused with
  | stranger form => exact absurd form.whole (by simp)
  | named form => exact absurd form.whole (by simp)
  | own _ foremost =>
    obtain ⟨said, hsaid⟩ := foremost.begins.2
    simp at hsaid

/-- An image that a record does not have is missing under the key of the record. -/
theorem image_of_missing (titled : cast.Titled) {key expression : String} {record : Character}
    (hne : key ≠ "") (found : Table.get? cast.records key = some record)
    (missing : Table.get? record.expressions expression = none) :
    cast.image (.text key) (.text expression) = .error (.unknownExpression key expression) := by
  have hkey : record.key = key := titled key record found
  simp only [Cast.image, Cast.character_eq_ok hne found, Table.find_text, missing, hkey]
  rfl

/-- A text is refused as its rest is. -/
theorem Refused.readText (registered : cast.Registered) {source : Value} {text : String} {f : Fault}
    (refused : Refused cast (takeCommands isCommand text.toList).2 f) :
    readText cast isCommand source text = .error f := by
  have hrest := refused.ne_nil
  unfold Statement.readText
  cases htake : takeCommands isCommand text.toList with
  | mk commands rest =>
    rw [htake] at refused hrest
    simp only [if_neg hrest, speaker]
    cases refused with
    | stranger form unknown =>
      have hmissing := Option.not_isSome_iff_eq_none.mp unknown
      simp only [form.colonForm?_eq, String.ofList_toList,
        Cast.character_eq_error (key_ne_of_colon form) hmissing, Except.map]
    | named form found missing =>
      have hne := key_ne_of_colon form
      simp only [form.colonForm?_eq, String.ofList_toList, Cast.character_eq_ok hne found,
        Except.map, Value.optionalText, image_of_missing registered.titled hne found missing]
    | @own key expression record other foremost found tone missing =>
      have hne := foremost.begins.1
      have hkey : cast.speaker? rest = some key :=
        ((registered.covered.answers rest).1 key).mpr foremost
      simp only [colonForm?_eq_none_iff.mpr other, hkey, Cast.character_eq_ok hne found, Except.map,
        tone, Value.optionalText, image_of_missing registered.titled hne found missing]

/-- A text is refused for no other reason than its rest. -/
theorem refused_of_readText (registered : cast.Registered) {source : Value} {text : String}
    {f : Fault} (h : readText cast isCommand source text = .error f) :
    Refused cast (takeCommands isCommand text.toList).2 f := by
  unfold readText at h
  cases htake : takeCommands isCommand text.toList with
  | mk commands rest =>
    simp only [htake] at h
    split at h
    · cases h
    · cases hform : colonForm? rest with
      | some found =>
        obtain ⟨key, expression, said⟩ := found
        obtain ⟨⟨blanks, form⟩, -⟩ := colonForm?_eq_some_iff.mp hform
        have hne := key_ne_of_colon form
        cases hrecord : Table.get? cast.records key with
        | none =>
          simp only [speaker, hform, Cast.character_eq_error hne hrecord, Except.map] at h
          cases h
          exact .stranger form (by simp [Cast.Knows, Table.has, hrecord])
        | some record =>
          cases himage : Table.get? record.expressions expression with
          | none =>
            simp only [speaker, hform, Cast.character_eq_ok hne hrecord, Except.map,
              Value.optionalText, image_of_missing registered.titled hne hrecord himage] at h
            cases h
            exact .named form hrecord himage
          | some image =>
            simp only [speaker, hform, Cast.character_eq_ok hne hrecord, Except.map, Cast.image,
              Value.optionalText, Table.find_text, himage] at h
            cases h
      | none =>
        have hother := colonForm?_eq_none_iff.mp hform
        cases hkey : cast.speaker? rest with
        | none =>
          simp only [speaker, hform, hkey, Value.optionalText, Cast.image] at h
          cases h
        | some key =>
          have hforemost := ((registered.covered.answers rest).1 key).mp hkey
          have hne := hforemost.begins.1
          obtain ⟨record, hrecord⟩ := Cast.knows_iff.mp hforemost.registered
          simp only [speaker, hform, hkey, Cast.character_eq_ok hne hrecord, Except.map] at h
          cases htone : record.defaultExpression with
          | none =>
            simp only [htone, Value.optionalText, Cast.image] at h
            cases h
          | some expression =>
            cases himage : Table.get? record.expressions expression with
            | none =>
              simp only [htone, Value.optionalText,
                image_of_missing registered.titled hne hrecord himage] at h
              cases h
              exact .own hother hforemost hrecord htone himage
            | some image =>
              simp only [htone, Cast.image, Cast.character_eq_ok hne hrecord, Value.optionalText,
                Table.find_text, himage] at h
              cases h

theorem refused_iff (registered : cast.Registered) (source : Value) {text : String} {f : Fault} :
    readText cast isCommand source text = .error f ↔
      Refused cast (takeCommands isCommand text.toList).2 f :=
  ⟨refused_of_readText registered, Refused.readText registered⟩

/-- **A statement is refused when it says no text, and else just for a speaker or an image that is
missing.**  The alternative is counted out by any number; what is said is spelled in one way by
commands and a rest, and the rest alone decides.  Whenever there is nothing to refuse, a line is
read. -/
theorem parse_refused (registered : cast.Registered) {statement : Value}
    (counted : Counted draws n) :
    let answer := (parse cast isCommand statement draws).1
    (answer = .error (.malformed statement (blame statement)) ↔ ∀ s, ¬ Says statement n s) ∧
      ∀ s, Says statement n s → ∃ pieces rest,
        (∀ others more, Spells isCommand s.toList others more ↔ others = pieces ∧ more = rest) ∧
        (∀ f, answer = .error f ↔ Refused cast rest f) ∧
        ((∃ line, answer = .ok line) ↔ ∀ f, ¬ Refused cast rest f) := by
  intro answer
  -- what a statement says is what is read of it
  have hspoken : ∀ s, Says statement n s → answer = readText cast isCommand statement s := by
    intro s spoken
    have hselect := select_of_spoken counted spoken
    show (parse cast isCommand statement draws).1 = _
    unfold parse
    split
    · rename_i hchosen
      rw [hchosen] at hselect
      cases hselect
    · rename_i hchosen
      rw [hchosen] at hselect
      cases hselect
      rfl
  refine ⟨⟨fun h s spoken => ?_, fun silent => ?_⟩, fun s spoken => ?_⟩
  · rw [hspoken s spoken] at h
    cases refused_of_readText registered h
  · have hselect := select_of_silent counted silent
    show (parse cast isCommand statement draws).1 = _
    unfold parse
    split
    · rename_i hchosen
      rw [hchosen] at hselect
      cases hselect
      rfl
    · rename_i hchosen
      rw [hchosen] at hselect
      cases hselect
  · obtain ⟨pieces, -, hspells⟩ := takeCommands_spells isCommand s.toList
    refine ⟨pieces, (takeCommands isCommand s.toList).2, fun others more => ⟨hspells.unique, ?_⟩,
      fun f => ?_, ?_⟩
    · rintro ⟨rfl, rfl⟩
      exact hspells
    · rw [hspoken s spoken]
      exact refused_iff registered statement
    · rw [hspoken s spoken]
      cases hread : readText cast isCommand statement s with
      | ok line => simp [← refused_iff registered statement, hread]
      | error f => simp [← refused_iff registered statement, hread]

/-- A speaker whose own expression has no image, and what they say after a command. -/
def grumpy : Cast :=
  (Cast.register [("r", .fields (.ofTable [("default_expression", .text "grim")]))] {}).2

/-- The general theorem for a list of alternatives of which the second is drawn: the speaker is
known, but has no image. -/
theorem parse_refused_grumpy :
    (parse grumpy (· == "wave") (.ofList [.null, .text "wave r Hi"]) [.int 3]).1 =
        .error (.unknownExpression "r" "grim") ∧
      ∃ pieces rest, Spells (· == "wave") "wave r Hi".toList pieces rest ∧
        Refused grumpy rest (.unknownExpression "r" "grim") := by
  have registered : grumpy.Registered := .step .new rfl
  have spoken : Says (.ofList [.null, .text "wave r Hi"]) 3 "wave r Hi" :=
    .alternative (List.cons_ne_nil _ _) rfl
  have hanswer : (parse grumpy (· == "wave") (.ofList [.null, .text "wave r Hi"]) [.int 3]).1 =
      .error (.unknownExpression "r" "grim") := by
    have htold : (match (parse grumpy (· == "wave") (.ofList [.null, .text "wave r Hi"])
        [.int 3]).1 with
      | .error (.unknownExpression who expression) => who == "r" && expression == "grim"
      | _ => false) = true := by decide +kernel
    split at htold
    · rename_i who expression hread
      obtain ⟨rfl, rfl⟩ : who = "r" ∧ expression = "grim" := by simpa using htold
      exact hread
    · cases htold
  have counted : Counted [.int 3] 3 := rfl
  obtain ⟨pieces, rest, hspells, hrefused, -⟩ :=
    (@parse_refused [.int 3] 3 (· == "wave") grumpy registered _ counted).2 _ spoken
  exact ⟨hanswer, pieces, rest, (hspells pieces rest).mpr ⟨rfl, rfl⟩, (hrefused _).mp hanswer⟩

end Statement

end Dialogue
