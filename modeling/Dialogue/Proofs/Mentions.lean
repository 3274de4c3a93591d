import Mathlib.Data.Option.Basic
import Dialogue.Proofs.Grammar

/-!
# What the reading of a line depends on

How a text is read depends on which of its words are commands, and on the records whose keys it
mentions: a key is mentioned when a space or a colon follows it somewhere in the text.  So the order in
which characters and commands were registered does not matter, and registering those that the text has
nothing to do with changes nothing.

## Results

* `takeCommands_congr` — only the words of a text are ever asked for.
* `Cast.Answers.eq_of_begins` — the key at the front of a line is determined by those known keys that
  the line begins with.
* `readText_congr` — a text is read alike by two casts that agree on the keys that it mentions.
* `parse_eq_of_same_records` — the order of registrations does not matter for parsing.
* `parse_registerAll_of_unmentioned` — neither do registrations that have nothing to do with the text.
-/

set_option autoImplicit false

namespace Dialogue

/-! ## Words and keys in a text -/

namespace Text

/-- The words of a text, which blanks separate. -/
def words (text : List Char) : List String :=
  ((text.splitOnP isBlank).filter (· ≠ [])).map String.ofList

/-- Does a key occur in a text with a space or a colon after it? -/
def Mentions (text : List Char) (key : String) : Prop :=
  key.toList ++ [' '] <:+: text ∨ key.toList ++ [':'] <:+: text

instance (text : List Char) (key : String) : Decidable (Mentions text key) :=
  inferInstanceAs (Decidable (_ ∨ _))

theorem Mentions.of_suffix {text rest : List Char} {key : String} (mentioned : Mentions rest key)
    (suffix : rest <:+ text) : Mentions text key :=
  mentioned.imp (·.trans suffix.isInfix) (·.trans suffix.isInfix)

theorem words_cons_blank {c : Char} (blank : isBlank c = true) (text : List Char) :
    words (c :: text) = words text := by
  have hnone : ∀ c ∈ ([] : List Char), isBlank c = false := fun _ hm => nomatch hm
  have hsplit : (c :: text).splitOnP isBlank = [] :: text.splitOnP isBlank :=
    List.splitOnP_append_cons_of_forall_mem hnone c blank text
  unfold words
  rw [hsplit]
  rfl

theorem words_dropWhile_isBlank (text : List Char) : words (text.dropWhile isBlank) = words text := by
  induction text with
  | nil => rfl
  | cons c rest ih =>
    by_cases blank : isBlank c = true
    · rw [List.dropWhile_cons_of_pos blank, ih, words_cons_blank blank]
    · rw [List.dropWhile_cons_of_neg blank]

end Text

namespace Statement

/-- A text that begins with a word has this word before those of what follows. -/
theorem words_eq_cons {text : List Char} (word : firstWord text ≠ []) :
    Text.words text = String.ofList (firstWord text) :: Text.words (afterWord text) := by
  have hspan := span_takeWhile Text.isSolid text
  have hsolid : ∀ c ∈ firstWord text, Text.isBlank c = false := by
    intro c hc
    have := hspan.inside c hc
    simpa [Text.isSolid] using this
  cases hrest : text.dropWhile Text.isSolid with
  | nil =>
    have htext : text = firstWord text := by
      have := hspan.whole
      rwa [hrest, List.append_nil] at this
    have hafter : afterWord text = [] := by
      unfold afterWord
      rw [hrest]
      rfl
    have hsplit : text.splitOnP Text.isBlank = [firstWord text] := by
      conv => lhs; rw [htext]
      exact List.splitOnP_eq_singleton hsolid
    rw [hafter]
    unfold Text.words
    rw [hsplit, List.filter_cons_of_pos (by simpa using word)]
    rfl
  | cons c rest =>
    have hblank := blank_of_dropWhile_isSolid hrest
    have htext : text = firstWord text ++ c :: rest := by
      have := hspan.whole
      rwa [hrest] at this
    have hafter : afterWord text = (c :: rest).dropWhile Text.isBlank := by
      unfold afterWord
      rw [hrest]
    have hsplit : text.splitOnP Text.isBlank = firstWord text :: rest.splitOnP Text.isBlank := by
      conv => lhs; rw [htext]
      exact List.splitOnP_append_cons_of_forall_mem hsolid c hblank rest
    rw [hafter, Text.words_dropWhile_isBlank, Text.words_cons_blank hblank]
    unfold Text.words
    rw [hsplit, List.filter_cons_of_pos (by simpa using word), List.map_cons]

/-! ## Commands at the front -/

/-- Only the words of a text are ever asked for. -/
theorem takeCommands_congr {isCommand other : String → Bool} {text : List Char}
    (same : ∀ word ∈ Text.words text, isCommand word = other word) :
    takeCommands isCommand text = takeCommands other text := by
  fun_induction takeCommands isCommand text with
  | case1 text h commands rest htake ih =>
    have hwords := words_eq_cons h.1
    rw [hwords] at same
    have hother : other (String.ofList (firstWord text)) = true :=
      (same _ List.mem_cons_self).symm.trans h.2
    have hafter := ih fun word hm => same word (List.mem_cons_of_mem _ hm)
    rw [takeCommands, dif_pos ⟨h.1, hother⟩, ← hafter, htake]
  | case2 text h =>
    have hother : ¬ (firstWord text ≠ [] ∧ other (String.ofList (firstWord text)) = true) := by
      rintro ⟨hword, hother⟩
      rw [words_eq_cons hword] at same
      exact h ⟨hword, (same _ List.mem_cons_self).trans hother⟩
    rw [takeCommands, dif_neg hother]

/-- What follows the commands is the end of the text. -/
theorem takeCommands_suffix (isCommand : String → Bool) (text : List Char) :
    (takeCommands isCommand text).2 <:+ text := by
  obtain ⟨pieces, -, spells⟩ := takeCommands_spells isCommand text
  exact ⟨_, spells.whole.symm⟩

end Statement

/-! ## The speaker at the front -/

namespace Cast

/-- A line mentions the keys that it begins with. -/
theorem Begins.mentions {text : List Char} {key : String} (begins : Begins text key) :
    Text.Mentions text key :=
  .inl begins.2.isInfix

theorem Foremost.congr {known other : String → Prop} {text : List Char}
    (same : ∀ key, Begins text key → (known key ↔ other key)) {key : String}
    (foremost : Foremost known text key) : Foremost other text key where
  registered := (same key foremost.begins).mp foremost.registered
  begins := foremost.begins
  longest longer hknown hlt hbegins :=
    foremost.longest longer ((same longer hbegins).mpr hknown) hlt hbegins

/-- The key at the front of a line is determined by those known keys that the line begins with: two of
one length are the same key, so there is one longest. -/
theorem Answers.eq_of_begins {known other : String → Prop} {text : List Char}
    {first second : Option String} (hfirst : Answers known text first)
    (hsecond : Answers other text second)
    (same : ∀ key, Begins text key → (known key ↔ other key)) : first = second := by
  cases first with
  | none =>
    have hnone := hfirst.2.mp rfl
    refine (hsecond.2.mpr fun key hknown hbegins => ?_).symm
    exact hnone key ((same key hbegins).mpr hknown) hbegins
  | some key =>
    have hforemost := (hfirst.1 key).mp rfl
    exact ((hsecond.1 key).mpr (hforemost.congr same)).symm

end Cast

namespace Character

/-- Two records are alike for lines when they have one key and one default expression, and the same
image for every expression. -/
structure Alike (a b : Character) : Prop where
  key : a.key = b.key
  defaultExpression : a.defaultExpression = b.defaultExpression
  image : ∀ expression, Table.get? a.expressions expression = Table.get? b.expressions expression

theorem Alike.refl (a : Character) : Alike a a :=
  ⟨rfl, rfl, fun _ => rfl⟩

end Character

namespace Cast

/-- Two casts have records under this key that are alike, or none. -/
def AlikeAt (c d : Cast) (key : String) : Prop :=
  Option.Rel Character.Alike (Table.get? c.records key) (Table.get? d.records key)

theorem AlikeAt.of_eq {c d : Cast} {key : String}
    (h : Table.get? d.records key = Table.get? c.records key) : AlikeAt c d key := by
  unfold AlikeAt
  rw [h]
  cases Table.get? c.records key with
  | none => exact .none
  | some record => exact .some (.refl record)

theorem AlikeAt.knows_iff {c d : Cast} {key : String} (alike : AlikeAt c d key) :
    c.Knows key ↔ d.Knows key := by
  unfold AlikeAt at alike
  unfold Knows Table.has
  generalize Table.get? c.records key = first at alike
  generalize Table.get? d.records key = second at alike
  cases alike <;> rfl

/-- Under such a key both casts find records that are alike, or both fail for the same reason. -/
theorem AlikeAt.character {c d : Cast} {key : String} (alike : AlikeAt c d key) (hne : key ≠ "") :
    (∃ f, c.character (.text key) = .error f ∧ d.character (.text key) = .error f) ∨
      ∃ a b, c.character (.text key) = .ok a ∧ d.character (.text key) = .ok b ∧ a.Alike b := by
  unfold AlikeAt at alike
  generalize hc : Table.get? c.records key = first at alike
  generalize hd : Table.get? d.records key = second at alike
  cases alike with
  | none => exact .inl ⟨_, character_eq_error hne hc, character_eq_error hne hd⟩
  | some same => exact .inr ⟨_, _, character_eq_ok hne hc, character_eq_ok hne hd, same⟩

theorem AlikeAt.image {c d : Cast} {key : String} (alike : AlikeAt c d key) (hne : key ≠ "")
    (expression? : Option String) : c.image (.text key) (Value.optionalText expression?) =
      d.image (.text key) (Value.optionalText expression?) := by
  cases expression? with
  | none => rfl
  | some expression =>
    simp only [Value.optionalText, Cast.image]
    rcases alike.character hne with ⟨f, hc, hd⟩ | ⟨a, b, hc, hd, same⟩
    · rw [hc, hd]
    · rw [hc, hd]
      simp only [Table.find_text, same.image, same.key]

/-- Two casts agree on a text when their records under the keys that it mentions are alike, and their
indices find the same key wherever a line may begin. -/
structure Agrees (text : List Char) (c d : Cast) : Prop where
  records : ∀ key, Text.Mentions text key → AlikeAt c d key
  index : ∀ rest, rest <:+ text → c.speaker? rest = d.speaker? rest

/-- The indices agree when the keys in them are the same as far as the text mentions them. -/
theorem Agrees.of_covered {text : List Char} {c d last other : Cast} (hc : Covered last c)
    (hd : Covered other d) (records : ∀ key, Text.Mentions text key → AlikeAt c d key)
    (indexed : ∀ key, Text.Mentions text key → (last.Knows key ↔ other.Knows key)) :
    Agrees text c d where
  records := records
  index rest suffix := (hc.answers rest).eq_of_begins (hd.answers rest) fun key begins =>
    indexed key (begins.mentions.of_suffix suffix)

end Cast

/-! ## Reading -/

namespace Statement

variable {cast other : Cast} {text : List Char}

theorem mentions_of_colonForm? {key expression : String} {rest : List Char}
    (form : colonForm? text = some (key, expression, rest)) : Text.Mentions text key := by
  obtain ⟨⟨blanks, colon⟩, -⟩ := colonForm?_eq_some_iff.mp form
  refine .inr ⟨[], expression.toList ++ (blanks ++ rest), ?_⟩
  rw [List.nil_append, List.append_assoc]
  exact colon.whole.symm

theorem begins_of_speaker? {key : String} (found : cast.speaker? text = some key) :
    Cast.Begins text key :=
  (Cast.startsLine_iff text key).mp (List.find?_some found)

theorem speaker_congr (agrees : Cast.Agrees text cast other) :
    speaker cast text = speaker other text := by
  unfold speaker
  split
  · rename_i key expression said hform
    have alike := agrees.records key (mentions_of_colonForm? hform)
    rcases alike.character (key_ne_of_colonForm? hform) with ⟨f, hc, hd⟩ | ⟨a, b, hc, hd, -⟩
    · rw [hc, hd]
    · rw [hc, hd]
      rfl
  · rw [agrees.index text (List.suffix_refl text)]
    split
    · rename_i key hkey
      have begins := begins_of_speaker? hkey
      have alike := agrees.records key begins.mentions
      rcases alike.character begins.1 with ⟨f, hc, hd⟩ | ⟨a, b, hc, hd, same⟩
      · rw [hc, hd]
      · rw [hc, hd]
        simp only [Except.map, same.defaultExpression]
    · rfl

/-- Whoever speaks with an expression is mentioned. -/
theorem mentions_of_speaker {who expression : String} {said : List Char}
    (hspeaker : speaker cast text = .ok (who, some expression, said)) :
    who ≠ "" ∧ Text.Mentions text who := by
  unfold speaker at hspeaker
  split at hspeaker
  · rename_i key _ _ hform
    cases hc : cast.character (.text key) with
    | error f => simp [hc, Except.map] at hspeaker
    | ok record =>
      simp only [hc, Except.map, Except.ok.injEq, Prod.mk.injEq] at hspeaker
      obtain ⟨rfl, -⟩ := hspeaker
      exact ⟨key_ne_of_colonForm? hform, mentions_of_colonForm? hform⟩
  · split at hspeaker
    · rename_i key hkey
      cases hc : cast.character (.text key) with
      | error f => simp [hc, Except.map] at hspeaker
      | ok record =>
        simp only [hc, Except.map, Except.ok.injEq, Prod.mk.injEq] at hspeaker
        obtain ⟨rfl, -⟩ := hspeaker
        exact ⟨(begins_of_speaker? hkey).1, (begins_of_speaker? hkey).mentions⟩
    · simp at hspeaker

theorem image_congr (agrees : Cast.Agrees text cast other) {who : String}
    {expression? : Option String} {said : List Char}
    (hspeaker : speaker cast text = .ok (who, expression?, said)) :
    cast.image (.text who) (Value.optionalText expression?) =
      other.image (.text who) (Value.optionalText expression?) := by
  cases expression? with
  | none => rfl
  | some expression =>
    obtain ⟨hne, mentioned⟩ := mentions_of_speaker hspeaker
    exact (agrees.records who mentioned).image hne (some expression)

/-- A text is read alike when its words are the same commands and the casts agree on it. -/
theorem readText_congr {isCommand isOther : String → Bool} {source : Value} {text : String}
    (commands : ∀ word ∈ Text.words text.toList, isCommand word = isOther word)
    (agrees : Cast.Agrees text.toList cast other) :
    readText cast isCommand source text = readText other isOther source text := by
  have htake := takeCommands_congr commands
  have hsuffix := takeCommands_suffix isCommand text.toList
  unfold readText
  rw [← htake]
  generalize takeCommands isCommand text.toList = taken at hsuffix
  obtain ⟨names, rest⟩ := taken
  have hrest : Cast.Agrees rest cast other :=
    ⟨fun key mentioned => agrees.records key (mentioned.of_suffix hsuffix),
      fun part suffix => agrees.index part (suffix.trans hsuffix)⟩
  simp only [← speaker_congr hrest]
  cases hspeaker : speaker cast rest with
  | error f => rfl
  | ok spoken =>
    obtain ⟨who, expression?, said⟩ := spoken
    simp only [image_congr hrest hspeaker]

/-- A statement is read alike when the text that is chosen from it is. -/
theorem parse_congr {isCommand isOther : String → Bool} {statement : Value} {draws : List Value}
    (same : ∀ text left, select statement draws = (.ok text, left) →
      readText cast isCommand statement text = readText other isOther statement text) :
    parse cast isCommand statement draws = parse other isOther statement draws := by
  unfold parse
  split
  · rfl
  · rename_i text left selected
    rw [same text left selected]

end Statement

/-! ## The order of registrations -/

theorem Commands.has_iff_mem_names {η β : Type} (c : Commands η β) (word : String) :
    c.has word = true ↔ .text word ∈ c.names := by
  have hk : (Value.text word).asKey = .text word := rfl
  rw [Commands.has, Keyed.has, Keyed.get?, Table.get?_isSome_iff, hk]
  simp only [Table.keys, Keyed.canonical, List.map_map, List.mem_map, Function.comp,
    Value.asKey_eq_text_iff, Commands.names, Keyed.keys]

namespace Statement

variable {cast other : Cast}

/-- **The order of registrations does not matter for parsing.**  Two casts that were registered in any
way, with the same records in the end, and two tables of commands with the same names make the same of
every statement and draws. -/
theorem parse_eq_of_same_records {η β η' β' : Type} (registered : cast.Registered)
    (registered' : other.Registered) (records : ∀ key, cast.AlikeAt other key)
    {commands : Commands η β} {commands' : Commands η' β'}
    (names : ∀ word, .text word ∈ commands.names ↔ .text word ∈ commands'.names)
    (statement : Value) (draws : List Value) :
    parse cast commands.has statement draws = parse other commands'.has statement draws := by
  have hhas : ∀ word, commands.has word = commands'.has word := fun word => by
    rw [Bool.eq_iff_iff, commands.has_iff_mem_names, commands'.has_iff_mem_names, names]
  have hagrees : ∀ text, Cast.Agrees text cast other := fun text =>
    .of_covered registered.covered registered'.covered (fun key _ => records key)
      fun key _ => (records key).knows_iff
  exact parse_congr fun text left _ =>
    readText_congr (fun word _ => hhas word) (hagrees text.toList)

/-- Two characters of one length, registered together. -/
def duo : Cast :=
  (Cast.register [("Ann", .fields (.ofTable [])), ("Bob", .fields (.ofTable []))] {}).2

/-- The same two, registered one after the other and the other way round. -/
def duoReversed : Cast :=
  (Cast.register [("Ann", .fields (.ofTable []))]
    (Cast.register [("Bob", .fields (.ofTable []))] {}).2).2

theorem alikeAt_duo (key : String) : duo.AlikeAt duoReversed key := by
  have hduo : duo.records = [(narratorKey, Character.narrator),
      ("Ann", { key := "Ann" }), ("Bob", { key := "Bob" })] := by
    decide +kernel
  have hreversed : duoReversed.records = [(narratorKey, Character.narrator),
      ("Bob", { key := "Bob" }), ("Ann", { key := "Ann" })] := by
    decide +kernel
  refine .of_eq ?_
  rw [hduo, hreversed]
  simp only [Table.get?]
  grind

/-- The two indices differ, and the line is read alike. -/
theorem parse_eq_of_same_records_duo :
    let commands : Commands Unit Unit := { handlers := [(.text "wave", none), (.text "bow", none)] }
    let commands' : Commands Unit Unit := { handlers := [(.text "bow", none), (.text "wave", none)] }
    duo.byLength ≠ duoReversed.byLength ∧
      (parse duo commands.has (.text "wave Bob Hi") []).1.toOption.map Line.who =
        some (some "Bob") ∧
      parse duo commands.has (.text "wave Bob Hi") [] =
        parse duoReversed commands'.has (.text "wave Bob Hi") [] := by
  intro commands commands'
  refine ⟨by decide +kernel, by decide +kernel, ?_⟩
  refine parse_eq_of_same_records (.step .new rfl) (.step (.step .new rfl) rfl) alikeAt_duo ?_ _ _
  intro word
  simp only [Commands.names, Keyed.keys, Table.keys, commands, commands', List.map_cons,
    List.map_nil, List.mem_cons, List.not_mem_nil, or_false]
  exact or_comm

end Statement

/-! ## Registrations that have nothing to do with a text -/

namespace Cast

variable {key : String}

/-- Do these registrations put nothing under this key? -/
def Spare (calls : List (Table Entry)) (key : String) : Prop :=
  ∀ call ∈ calls, ∀ e ∈ call, e.1 ≠ key

theorem get?_register_of_ne {call : Table Entry} (spares : ∀ e ∈ call, e.1 ≠ key) (c : Cast) :
    Table.get? (register call c).2.records key = Table.get? c.records key := by
  induction call generalizing c with
  | nil => rfl
  | cons e rest ih =>
    obtain ⟨place, entry⟩ := e
    have hplace : key ≠ place := Ne.symm (spares _ List.mem_cons_self)
    unfold register
    split
    · rw [ih fun e hm => spares e (List.mem_cons_of_mem _ hm)]
      exact Table.get?_put_of_ne _ _ hplace
    · rfl

theorem get?_registerAll_of_spare {calls : List (Table Entry)} (spares : Spare calls key) (c : Cast) :
    Table.get? (registerAll calls c).records key = Table.get? c.records key := by
  induction calls generalizing c with
  | nil => rfl
  | cons call rest ih =>
    have hrest : Spare rest key := fun call hm => spares call (List.mem_cons_of_mem _ hm)
    exact (ih hrest _).trans (get?_register_of_ne (spares call List.mem_cons_self) c)

theorem knows_register_iff {call : Table Entry} (spares : ∀ e ∈ call, e.1 ≠ key) (c : Cast) :
    (register call c).2.Knows key ↔ c.Knows key := by
  unfold Knows Table.has
  rw [get?_register_of_ne spares]

/-- The keys of the index are the same as before, as far as nothing was put under them. -/
theorem knows_settled_iff {calls : List (Table Entry)} (spares : Spare calls key) {last c : Cast}
    (same : last.Knows key ↔ c.Knows key) : (settled last calls c).Knows key ↔ c.Knows key := by
  induction calls generalizing last c with
  | nil => exact same
  | cons call rest ih =>
    have hrest : Spare rest key := fun call hm => spares call (List.mem_cons_of_mem _ hm)
    have hcall := knows_register_iff (spares call List.mem_cons_self) c
    unfold settled
    cases hregister : register call c with
    | mk result d =>
      rw [hregister] at hcall
      cases result with
      | ok _ => exact (ih hrest Iff.rfl).trans hcall
      | error f => exact (ih hrest (same.trans hcall.symm)).trans hcall

/-- A cast agrees with what it was before on a text that mentions none of the keys registered since. -/
theorem Registered.agrees_registerAll {c : Cast} (registered : c.Registered)
    {calls : List (Table Entry)} {text : List Char}
    (spares : ∀ key, Text.Mentions text key → Spare calls key) :
    Agrees text (registerAll calls c) c :=
  .of_covered (registered.covered.registerAll calls) registered.covered
    (fun key mentioned => .of_eq (get?_registerAll_of_spare (spares key mentioned) c).symm)
    fun key mentioned => knows_settled_iff (spares key mentioned) Iff.rfl

end Cast

namespace Commands

variable {η β : Type}

/-- The table after several commands were registered; a name that is rejected leaves it as it was. -/
def registerAll (entries : Keyed (Option η)) (c : Commands η β) : Commands η β :=
  entries.foldl (fun c e => (c.register e.1 e.2).toOption.getD c) c

theorem has_register_of_ne {name : Value} {word : String} (other : name ≠ .text word)
    (handler : Option η) (c : Commands η β) :
    ((c.register name handler).toOption.getD c).has word = c.has word := by
  have hname : (Value.text word).asKey ≠ name.asKey := fun h =>
    other ((Value.asKey_eq_text_iff name word).mp h.symm)
  unfold register
  split
  · rfl
  · show Keyed.has (Keyed.put c.handlers name handler) (.text word) = c.has word
    unfold has Keyed.has
    rw [Keyed.get?_put_of_ne _ _ hname]

theorem has_registerAll_of_ne {entries : Keyed (Option η)} {word : String}
    (others : ∀ e ∈ entries, e.1 ≠ .text word) (c : Commands η β) :
    (registerAll entries c).has word = c.has word := by
  induction entries generalizing c with
  | nil => rfl
  | cons e rest ih =>
    have hrest := ih (fun e hm => others e (List.mem_cons_of_mem _ hm))
      ((c.register e.1 e.2).toOption.getD c)
    exact hrest.trans (has_register_of_ne (others e List.mem_cons_self) e.2 c)

end Commands

namespace Statement

/-- **Unrelated registrations do not change how a line is read.**  When the text mentions no key that is
registered, and no word of it is a name that is registered, the statement makes the same line or is
rejected for the same reason, however the registrations end. -/
theorem parse_registerAll_of_unmentioned {η β : Type} {cast : Cast} (registered : cast.Registered)
    (commands : Commands η β) {statement : Value} {draws left : List Value} {text : String}
    (selected : select statement draws = (.ok text, left)) {characters : List (Table Entry)}
    (unmentioned : ∀ call ∈ characters, ∀ e ∈ call, ¬ Text.Mentions text.toList e.1)
    {names : Keyed (Option η)}
    (unsaid : ∀ e ∈ names, ∀ word ∈ e.1.text?, word ∉ Text.words text.toList) :
    parse (cast.registerAll characters) (commands.registerAll names).has statement draws =
      parse cast commands.has statement draws := by
  have hhas : ∀ word ∈ Text.words text.toList,
      (commands.registerAll names).has word = commands.has word := fun word hword =>
    Commands.has_registerAll_of_ne
      (fun e hm hname => unsaid e hm word (by rw [hname]; rfl) hword) commands
  have hagrees : Cast.Agrees text.toList (cast.registerAll characters) cast :=
    registered.agrees_registerAll fun key mentioned call hcall e hm hkey =>
      unmentioned call hcall e hm (hkey.symm ▸ mentioned)
  refine parse_congr fun chosen rest hchosen => ?_
  obtain ⟨hok, -⟩ := Prod.mk.inj (selected.symm.trans hchosen)
  obtain rfl := Except.ok.inj hok
  exact readText_congr hhas hagrees

/-- A longer key and a word with a mark behind it have nothing to do with the line; the registration of
the key is rejected half-way. -/
theorem parse_registerAll_of_unmentioned_greeting :
    let commands : Commands Unit Unit := { handlers := [(.text "wave", none)] }
    let text := "wave r:happy  Hello you"
    let characters : List (Table Entry) :=
      [[("rr", .fields (.ofTable [])), ("rrr", .fields .null)]]
    let names : Keyed (Option Unit) := [(.text "Hello!", none)]
    (∀ call ∈ characters, ∀ e ∈ call, ¬ Text.Mentions text.toList e.1) ∧
    (∀ e ∈ names, ∀ word ∈ e.1.text?, word ∉ Text.words text.toList) ∧
    (troupe.registerAll characters).records ≠ troupe.records ∧
    parse (troupe.registerAll characters) (commands.registerAll names).has (.text text) [] =
      parse troupe commands.has (.text text) [] := by
  intro commands text characters names
  have registered : troupe.Registered := .step .new rfl
  have unmentioned : ∀ call ∈ characters, ∀ e ∈ call, ¬ Text.Mentions text.toList e.1 := by
    decide +kernel
  have unsaid : ∀ e ∈ names, ∀ word ∈ e.1.text?, word ∉ Text.words text.toList := by
    decide +kernel
  refine ⟨unmentioned, unsaid, by decide +kernel, ?_⟩
  exact parse_registerAll_of_unmentioned registered commands rfl unmentioned unsaid

end Statement

end Dialogue
