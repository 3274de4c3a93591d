import Dialogue.Files.Folder
import Dialogue.Json.Reader
import Dialogue.Json.Writer
import Mathlib.Tactic.SplitIfs

/-!
# Documents that were written

A JSON document that was written is read as the value that it was written for, and it is still the
same document when it was kept in a file.  This is told of plain values: texts, lists of plain values
and mappings of plain values, not too many of them within one another.

## Results

* `quotedText_quote` — a text between quotes reads back.
* `readValue_writeAt` — so does a plain value that stands anywhere in a document.
* `read_write` — so does a plain value with nothing around it.
* `decode_toUTF8_write` — a document with a plain value can be kept in a file.
-/

set_option autoImplicit false

namespace Dialogue

/-! ## Tables of distinct names -/

namespace Table

variable {κ α : Type} [DecidableEq κ]

theorem put_of_not_mem {t : List (κ × α)} {key : κ} (new : α) (h : key ∉ keys t) :
    put t key new = t ++ [(key, new)] := by
  induction t with
  | nil => rfl
  | cons e rest ih =>
    obtain ⟨k, v⟩ := e
    obtain ⟨hk, hrest⟩ : key ≠ k ∧ key ∉ keys rest := by simpa [keys] using h
    rw [put, if_neg (Ne.symm hk), ih hrest]
    rfl

theorem putAll_of_distinct {t u : List (κ × α)} (distinct : Distinct (t ++ u)) :
    putAll t u = t ++ u := by
  induction u generalizing t with
  | nil => exact (List.append_nil t).symm
  | cons e rest ih =>
    have hsplit : t ++ e :: rest = t ++ [e] ++ rest := by simp
    have hnot : e.1 ∉ keys t := by
      intro hm
      obtain ⟨-, -, hne⟩ := List.nodup_append.mp (by simpa [Distinct, keys] using distinct)
      exact hne e.1 hm e.1 List.mem_cons_self rfl
    rw [hsplit] at distinct ⊢
    rw [← ih distinct, ← put_of_not_mem e.2 hnot]
    rfl

/-- The table that distinct entries make holds just these entries. -/
theorem ofEntries_of_distinct {entries : List (κ × α)} (distinct : Distinct entries) :
    ofEntries entries = entries :=
  putAll_of_distinct distinct

end Table

namespace Json

open Text (hexDigit hexUnit hexUnit?)

/-! ## Texts between quotes -/

/-- The code units of a character. -/
def unitsOf (c : Char) : List Nat :=
  if c.toNat < 0x10000 then [c.toNat]
  else [0xd800 + (c.toNat - 0x10000) / 0x400, 0xdc00 + (c.toNat - 0x10000) % 0x400]

/-- Characters are numbered up to a certain number, and halves of pairs are left out. -/
theorem toNat_valid (c : Char) : c.toNat < 0xd800 ∨ 0xdfff < c.toNat ∧ c.toNat < 0x110000 :=
  c.valid

theorem unquoteUnits?_escapeUnit {n : Nat} (small : n < 0x10000) (rest : List Char) :
    unquoteUnits? (escapeUnit n ++ rest) =
      (unquoteUnits? rest).map fun p => (n :: p.1, p.2) := by
  have hunit := Text.hexUnit?_hexUnit small
  simp only [escapeUnit, hexUnit, List.cons_append, List.nil_append, unquoteUnits?, hunit]
  cases unquoteUnits? rest <;> rfl

/-- A backslash and a letter stand for one character. -/
theorem unquoteUnits?_short {e d : Char} (other : e ≠ 'u') (short : shortEscape? e = some d)
    (rest : List Char) :
    unquoteUnits? ('\\' :: e :: rest) = (unquoteUnits? rest).map fun p => (d.toNat :: p.1, p.2) := by
  rw [unquoteUnits?.eq_def]
  split
  · rename_i h
    cases h
  · rename_i h
    exact absurd (List.cons.inj h).1 (by decide)
  · rename_i h
    exact absurd (List.cons.inj (List.cons.inj h).2).1 other
  · rename_i h
    obtain ⟨rfl, rfl⟩ := List.cons.inj (List.cons.inj h).2
    rw [short]
    cases unquoteUnits? rest <;> rfl
  · rename_i hno h
    obtain ⟨rfl, rfl⟩ := List.cons.inj h
    exact (hno _ _ rfl rfl).elim

theorem unquoteUnits?_plain {c : Char} (low : 0x20 ≤ c.toNat) (quote : c ≠ '"')
    (slash : c ≠ '\\') (rest : List Char) :
    unquoteUnits? (c :: rest) = (unquoteUnits? rest).map fun p => (c.toNat :: p.1, p.2) := by
  rw [unquoteUnits?.eq_def]
  split
  · rename_i h
    cases h
  · rename_i h
    exact absurd (List.cons.inj h).1 quote
  · rename_i h
    exact absurd (List.cons.inj h).1 slash
  · rename_i h
    exact absurd (List.cons.inj h).1 slash
  · rename_i h
    obtain ⟨rfl, rfl⟩ := List.cons.inj h
    rw [if_neg (by simp [low, slash])]

theorem unitsOf_of_small {c : Char} (small : c.toNat < 0x10000) : unitsOf c = [c.toNat] :=
  if_pos small

/-- A character that was written is read as its code units. -/
theorem unquoteUnits?_escapeChar (c : Char) (rest : List Char) :
    unquoteUnits? (escapeChar c ++ rest) =
      (unquoteUnits? rest).map fun p => (unitsOf c ++ p.1, p.2) := by
  have hvalid := toNat_valid c
  unfold escapeChar
  split_ifs with h1 h2 h3 h4 h5 h6 h7 low small
  · subst h1
    exact unquoteUnits?_short (by decide) rfl rest
  · subst h2
    exact unquoteUnits?_short (by decide) rfl rest
  · subst h3
    exact unquoteUnits?_short (by decide) rfl rest
  · subst h4
    exact unquoteUnits?_short (by decide) rfl rest
  · subst h5
    exact unquoteUnits?_short (by decide) rfl rest
  · subst h6
    exact unquoteUnits?_short (by decide) rfl rest
  · subst h7
    exact unquoteUnits?_short (by decide) rfl rest
  · rw [unitsOf_of_small (by omega)]
    exact unquoteUnits?_plain low.1 h1 h2 rest
  · rw [unitsOf_of_small small]
    exact unquoteUnits?_escapeUnit small rest
  · have hunits : unitsOf c = [0xd800 + (c.toNat - 0x10000) / 0x400,
        0xdc00 + (c.toNat - 0x10000) % 0x400] := if_neg small
    rw [hunits, List.append_assoc, unquoteUnits?_escapeUnit (by omega),
      unquoteUnits?_escapeUnit (by omega)]
    cases unquoteUnits? rest <;> rfl

/-- The code units of a character make this character, whatever stands behind it. -/
theorem joinHalves_unitsOf (c : Char) (units : List Nat) :
    joinHalves (unitsOf c ++ units) = c :: joinHalves units := by
  have hvalid := toNat_valid c
  by_cases small : c.toNat < 0x10000
  · have hhigh : isHighHalf c.toNat = false := by simp [isHighHalf]; omega
    have hlow : isLowHalf c.toNat = false := by simp [isLowHalf]; omega
    have hlone : loneUnit c.toNat = c := by simp [loneUnit, hhigh, hlow]
    rw [unitsOf_of_small small]
    cases units with
    | nil => simp [joinHalves, hlone]
    | cons m rest => simp [joinHalves, hhigh, hlone]
  · have hunits : unitsOf c = [0xd800 + (c.toNat - 0x10000) / 0x400,
        0xdc00 + (c.toNat - 0x10000) % 0x400] := if_neg small
    have hhigh : isHighHalf (0xd800 + (c.toNat - 0x10000) / 0x400) = true := by
      simp [isHighHalf]; omega
    have hlow : isLowHalf (0xdc00 + (c.toNat - 0x10000) % 0x400) = true := by
      simp [isLowHalf]; omega
    have hsum : 0x10000 + (0xd800 + (c.toNat - 0x10000) / 0x400 - 0xd800) * 0x400 +
        (0xdc00 + (c.toNat - 0x10000) % 0x400 - 0xdc00) = c.toNat := by omega
    rw [hunits]
    simp only [List.cons_append, List.nil_append, joinHalves, hhigh, hlow, Bool.and_self, if_true,
      hsum, Char.ofNat_toNat]

/-- Characters that were written are read as their code units, and end where the quote is. -/
theorem unquoteUnits?_flatMap (cs rest : List Char) :
    unquoteUnits? (cs.flatMap escapeChar ++ '"' :: rest) = some (cs.flatMap unitsOf, rest) := by
  induction cs with
  | nil => simp [unquoteUnits?]
  | cons c more ih =>
    rw [List.flatMap_cons, List.append_assoc, unquoteUnits?_escapeChar, ih]
    rfl

theorem joinHalves_flatMap (cs : List Char) : joinHalves (cs.flatMap unitsOf) = cs := by
  induction cs with
  | nil => rfl
  | cons c more ih => rw [List.flatMap_cons, joinHalves_unitsOf, ih]

theorem quote_toList (s : String) :
    (quote s).toList = '"' :: (s.toList.flatMap escapeChar ++ ['"']) :=
  String.toList_ofList

/-- **A text between quotes reads back.** -/
theorem quotedText_quote (s : String) (rest : List Char) :
    quotedText (s.toList.flatMap escapeChar ++ '"' :: rest) = .ok (s, rest) := by
  unfold quotedText unquote?
  rw [unquoteUnits?_flatMap]
  simp only [Option.map_some, joinHalves_flatMap, String.ofList_toList]

/-! ## Plain values -/

/-- A value made of texts, lists and mappings, of which no more than so many are within one another,
and in which no name comes twice. -/
inductive Plain : Nat → Value → Prop where
  | text (levels : Nat) (s : String) : Plain levels (.text s)
  | list {levels : Nat} {items : List Value} (plain : ∀ v ∈ items, Plain levels v) :
    Plain (levels + 1) (.ofList items)
  | table {levels : Nat} {entries : Table Value} (distinct : Table.Distinct entries)
    (plain : ∀ e ∈ entries, Plain levels e.2) : Plain (levels + 1) (.ofTable entries)

/-! ## Blocks -/

/-- What stands between the parts of a block. -/
def between (depth : Nat) : List Char :=
  ',' :: (newLine depth).toList

/-- The parts of a block with what stands between them. -/
def spread (depth : Nat) (parts : List String) : List Char :=
  (between depth).intercalate (parts.map String.toList)

theorem spread_singleton (depth : Nat) (part : String) : spread depth [part] = part.toList := by
  simp [spread]

theorem spread_cons_cons (depth : Nat) (part next : String) (parts : List String) :
    spread depth (part :: next :: parts) =
      part.toList ++ between depth ++ spread depth (next :: parts) := by
  simp [spread]

theorem block_nil (first last : String) (depth : Nat) :
    (block first last depth []).toList = first.toList ++ last.toList :=
  String.toList_append

theorem block_cons (first last : String) (depth : Nat) (part : String) (parts : List String) :
    (block first last depth (part :: parts)).toList =
      first.toList ++ (newLine (depth + 1)).toList ++ spread (depth + 1) (part :: parts) ++
        (newLine depth).toList ++ last.toList := by
  simp [block, spread, between, String.toList_intercalate]

theorem newLine_toList (depth : Nat) :
    (newLine depth).toList = '\n' :: List.replicate (2 * depth) ' ' :=
  String.toList_ofList

/-- A line break counts as space, and so does what stands before a line. -/
theorem skipSpace_newLine (depth : Nat) (cs : List Char) :
    skipSpace ((newLine depth).toList ++ cs) = skipSpace cs := by
  rw [newLine_toList]
  unfold skipSpace
  rw [List.cons_append, List.dropWhile_cons_of_pos rfl,
    List.dropWhile_append_of_pos fun c hc => (List.eq_of_mem_replicate hc) ▸ rfl]

theorem skipSpace_of_head {c : Char} {cs : List Char} (h : isSpace c = false) :
    skipSpace (c :: cs) = c :: cs :=
  List.dropWhile_cons_of_neg (by simp [h])

/-- How a plain value begins. -/
theorem writeAt_begins {levels : Nat} {v : Value} (plain : Plain levels v) (depth : Nat) :
    ∃ c cs, (writeAt depth v).toList = c :: cs ∧ isSpace c = false ∧ c ≠ ']' := by
  have hblock : ∀ (first last : String) (parts : List String) (c : Char),
      first.toList = [c] → ∃ cs, (block first last depth parts).toList = c :: cs := by
    intro first last parts c hfirst
    cases parts with
    | nil => exact ⟨_, by rw [block_nil, hfirst]; rfl⟩
    | cons part parts => exact ⟨_, by rw [block_cons, hfirst]; rfl⟩
  cases plain with
  | text _ s => exact ⟨'"', _, quote_toList s, rfl, by decide⟩
  | list _ =>
    obtain ⟨cs, hcs⟩ := hblock "[" "]" (writeItems (depth + 1) _) '[' rfl
    exact ⟨'[', cs, hcs, rfl, by decide⟩
  | table _ _ =>
    obtain ⟨cs, hcs⟩ := hblock "\x7b" "\x7d" (writeEntries (depth + 1) _) '\x7b' rfl
    exact ⟨'\x7b', cs, hcs, rfl, by decide⟩

/-! ## Reading back -/

/-- What is written of a value at this depth is read as the value, whatever stands behind it. -/
def ReadsBack (depth levels : Nat) (v : Value) : Prop :=
  ∀ n rest, (writeAt depth v).toList.length ≤ n →
    readValue n levels ((writeAt depth v).toList ++ rest) = .ok (v, rest)

theorem readValue_text (n levels : Nat) (rest : List Char) :
    readValue (n + 1) levels ('"' :: rest) = (quotedText rest).map fun p => (.text p.1, p.2) := by
  rw [readValue]

theorem readValue_list {n levels : Nat} {rest cs : List Char} {c : Char}
    (next : skipSpace rest = c :: cs) (other : c ≠ ']') :
    readValue (n + 1) (levels + 1) ('[' :: rest) =
      (readItems n levels (c :: cs)).map fun p => (.ofList p.1, p.2) := by
  rw [readValue, next]
  split
  · rename_i h
    exact absurd (List.cons.inj h).1 other
  · rfl

theorem readValue_table {n levels : Nat} {rest cs : List Char} {c : Char}
    (next : skipSpace rest = c :: cs) (other : c ≠ '\x7d') :
    readValue (n + 1) (levels + 1) ('\x7b' :: rest) =
      (readEntries n levels (c :: cs)).map fun p => (.ofTable (Table.ofEntries p.1), p.2) := by
  rw [readValue, next]
  split
  · rename_i h
    exact absurd (List.cons.inj h).1 other
  · rfl

theorem readItems_last {n levels : Nat} {cs rest more : List Char} {v : Value}
    (read : readValue n levels cs = .ok (v, rest)) (close : skipSpace rest = ']' :: more) :
    readItems (n + 1) levels cs = .ok ([v], more) := by
  simp only [readItems, read, close, bind, Except.bind]
  rfl

theorem readItems_more {n levels : Nat} {cs rest more last : List Char} {v : Value}
    {vs : List Value} (read : readValue n levels cs = .ok (v, rest))
    (comma : skipSpace rest = ',' :: more)
    (later : readItems n levels (skipSpace more) = .ok (vs, last)) :
    readItems (n + 1) levels cs = .ok (v :: vs, last) := by
  simp only [readItems, read, comma, later, bind, Except.bind]
  rfl

theorem readEntries_last {n levels : Nat} {cs colon value rest more : List Char} {key : String}
    {v : Value} (name : quotedText cs = .ok (key, colon)) (assigns : skipSpace colon = ':' :: value)
    (read : readValue n levels (skipSpace value) = .ok (v, rest))
    (close : skipSpace rest = '\x7d' :: more) :
    readEntries (n + 1) levels ('"' :: cs) = .ok ([(key, v)], more) := by
  simp only [readEntries, name, assigns, read, close, bind, Except.bind]
  rfl

theorem readEntries_more {n levels : Nat} {cs colon value rest more last : List Char}
    {key : String} {v : Value} {es : List (String × Value)}
    (name : quotedText cs = .ok (key, colon)) (assigns : skipSpace colon = ':' :: value)
    (read : readValue n levels (skipSpace value) = .ok (v, rest))
    (comma : skipSpace rest = ',' :: more)
    (later : readEntries n levels (skipSpace more) = .ok (es, last)) :
    readEntries (n + 1) levels ('"' :: cs) = .ok ((key, v) :: es, last) := by
  simp only [readEntries, name, assigns, read, comma, later, bind, Except.bind]
  rfl

theorem spread_begins (depth : Nat) {part : String} {c : Char} {cs : List Char}
    (begins : part.toList = c :: cs) (parts : List String) :
    ∃ more, spread depth (part :: parts) = c :: more := by
  cases parts with
  | nil => exact ⟨cs, by rw [spread_singleton, begins]⟩
  | cons next parts => exact ⟨_, by rw [spread_cons_cons, begins]; rfl⟩

theorem skipSpace_between (depth : Nat) (cs : List Char) :
    skipSpace (between depth ++ cs) = ',' :: ((newLine depth).toList ++ cs) :=
  skipSpace_of_head rfl

/-- Items with line breaks between them are read up to the bracket after them. -/
theorem readItems_spread {depth levels : Nat} {items : List Value} (nonempty : items ≠ [])
    (plain : ∀ v ∈ items, Plain levels v) (reads : ∀ v ∈ items, ReadsBack depth levels v)
    (low n : Nat) (rest : List Char) (enough : (spread depth (writeItems depth items)).length < n) :
    readItems n levels (spread depth (writeItems depth items) ++ ((newLine low).toList ++
      ']' :: rest)) = .ok (items, rest) := by
  induction items generalizing n with
  | nil => exact absurd rfl nonempty
  | cons v more ih =>
    obtain ⟨n, rfl⟩ := Nat.exists_eq_succ_of_ne_zero (Nat.ne_of_gt (Nat.zero_lt_of_lt enough))
    cases more with
    | nil =>
      simp only [writeItems, spread_singleton] at enough ⊢
      refine readItems_last (reads v List.mem_cons_self n _ (Nat.le_of_lt_succ enough)) ?_
      rw [skipSpace_newLine]
      exact skipSpace_of_head rfl
    | cons w later =>
      have hspread : spread depth (writeItems depth (v :: w :: later)) =
          (writeAt depth v).toList ++ (between depth ++
            spread depth (writeItems depth (w :: later))) := by
        simp only [writeItems, spread_cons_cons, List.append_assoc]
      rw [hspread, List.length_append, List.length_append] at enough
      rw [hspread, List.append_assoc, List.append_assoc]
      refine readItems_more (reads v List.mem_cons_self n _ (by omega))
        (skipSpace_between depth _) ?_
      obtain ⟨c, cs, hw, hspace, -⟩ := writeAt_begins (plain w (by simp)) depth
      obtain ⟨next, hnext⟩ := spread_begins depth hw (writeItems depth later)
      have hskip : skipSpace (spread depth (writeItems depth (w :: later)) ++
          ((newLine low).toList ++ ']' :: rest)) =
          spread depth (writeItems depth (w :: later)) ++ ((newLine low).toList ++ ']' :: rest) := by
        simp only [writeItems, hnext, List.cons_append]
        exact skipSpace_of_head hspace
      rw [skipSpace_newLine, hskip]
      refine ih (List.cons_ne_nil _ _) (fun v hv => plain v (List.mem_cons_of_mem _ hv))
        (fun v hv => reads v (List.mem_cons_of_mem _ hv)) n ?_
      rw [between, List.length_cons] at enough
      omega

/-- How an entry is written at this depth. -/
theorem writeEntries_cons (depth : Nat) (key : String) (v : Value)
    (entries : List (String × Value)) :
    writeEntries depth ((key, v) :: entries) =
      (quote key ++ ": " ++ writeAt depth v) :: writeEntries depth entries := by
  rw [writeEntries]

theorem entry_begins (depth : Nat) (key : String) (v : Value) :
    ∃ cs, (quote key ++ ": " ++ writeAt depth v).toList = '"' :: cs := by
  rw [String.toList_append, String.toList_append, quote_toList]
  exact ⟨_, rfl⟩

theorem entry_toList (depth : Nat) (key : String) (v : Value) (rest : List Char) :
    (quote key ++ ": " ++ writeAt depth v).toList ++ rest =
      '"' :: (key.toList.flatMap escapeChar ++
        '"' :: (':' :: ' ' :: ((writeAt depth v).toList ++ rest))) := by
  simp [quote_toList]

/-- The value of an entry is read behind the colon and a blank. -/
theorem readValue_entry {depth levels : Nat} {v : Value} (plain : Plain levels v)
    (reads : ReadsBack depth levels v) {n : Nat} (rest : List Char)
    (enough : (writeAt depth v).toList.length ≤ n) :
    readValue n levels (skipSpace (' ' :: ((writeAt depth v).toList ++ rest))) =
      .ok (v, rest) := by
  obtain ⟨c, cs, hv, hspace, -⟩ := writeAt_begins plain depth
  have hskip : skipSpace (' ' :: ((writeAt depth v).toList ++ rest)) =
      (writeAt depth v).toList ++ rest := by
    rw [hv]
    exact skipSpace_of_head hspace
  rw [hskip]
  exact reads n rest enough

/-- Entries with line breaks between them are read up to the brace after them. -/
theorem readEntries_spread {depth levels : Nat} {entries : List (String × Value)}
    (nonempty : entries ≠ []) (plain : ∀ e ∈ entries, Plain levels e.2)
    (reads : ∀ e ∈ entries, ReadsBack depth levels e.2) (low n : Nat) (rest : List Char)
    (enough : (spread depth (writeEntries depth entries)).length < n) :
    readEntries n levels (spread depth (writeEntries depth entries) ++ ((newLine low).toList ++
      '\x7d' :: rest)) = .ok (entries, rest) := by
  induction entries generalizing n with
  | nil => exact absurd rfl nonempty
  | cons e more ih =>
    obtain ⟨key, v⟩ := e
    obtain ⟨n, rfl⟩ := Nat.exists_eq_succ_of_ne_zero (Nat.ne_of_gt (Nat.zero_lt_of_lt enough))
    have hv : ReadsBack depth levels v := reads (key, v) List.mem_cons_self
    have hplain : Plain levels v := plain (key, v) List.mem_cons_self
    cases more with
    | nil =>
      have hspread : spread depth (writeEntries depth [(key, v)]) =
          (quote key ++ ": " ++ writeAt depth v).toList := by
        rw [writeEntries_cons]
        exact spread_singleton depth _
      rw [hspread] at enough ⊢
      rw [entry_toList]
      refine readEntries_last (quotedText_quote key _) (skipSpace_of_head rfl)
        (readValue_entry hplain hv _ ?_) ?_
      · simp only [String.toList_append, List.length_append] at enough
        omega
      · rw [skipSpace_newLine]
        exact skipSpace_of_head rfl
    | cons f later =>
      obtain ⟨next, w⟩ := f
      have hspread : spread depth (writeEntries depth ((key, v) :: (next, w) :: later)) =
          (quote key ++ ": " ++ writeAt depth v).toList ++ (between depth ++
            spread depth (writeEntries depth ((next, w) :: later))) := by
        rw [writeEntries_cons, writeEntries_cons, spread_cons_cons, List.append_assoc]
      rw [hspread, List.length_append, List.length_append] at enough
      rw [hspread, List.append_assoc, List.append_assoc, entry_toList]
      refine readEntries_more (quotedText_quote key _) (skipSpace_of_head rfl)
        (readValue_entry hplain hv _ ?_) (skipSpace_between depth _) ?_
      · simp only [String.toList_append, List.length_append] at enough
        omega
      obtain ⟨cs, hw⟩ := entry_begins depth next w
      obtain ⟨after, hafter⟩ := spread_begins depth hw (writeEntries depth later)
      have hskip : skipSpace (spread depth (writeEntries depth ((next, w) :: later)) ++
            ((newLine low).toList ++ '\x7d' :: rest)) =
          spread depth (writeEntries depth ((next, w) :: later)) ++
            ((newLine low).toList ++ '\x7d' :: rest) := by
        rw [writeEntries_cons, hafter]
        exact skipSpace_of_head rfl
      rw [skipSpace_newLine, hskip]
      refine ih (List.cons_ne_nil _ _) (fun e he => plain e (List.mem_cons_of_mem _ he))
        (fun e he => reads e (List.mem_cons_of_mem _ he)) n ?_
      rw [between, List.length_cons] at enough
      omega

/-- **A plain value that stands anywhere in a document reads back.** -/
theorem readValue_writeAt {levels : Nat} {v : Value} (plain : Plain levels v) (depth : Nat) :
    ReadsBack depth levels v := by
  induction plain generalizing depth with
  | text levels s =>
    intro n rest enough
    have hwrite : (writeAt depth (.text s)).toList =
        '"' :: (s.toList.flatMap escapeChar ++ ['"']) := quote_toList s
    rw [hwrite] at enough ⊢
    obtain ⟨n, rfl⟩ := Nat.exists_eq_succ_of_ne_zero (Nat.ne_of_gt (Nat.zero_lt_of_lt enough))
    rw [List.cons_append, List.append_assoc, readValue_text]
    exact congrArg (Except.map fun p => (Value.text p.1, p.2)) (quotedText_quote s rest)
  | @list levels items plain ih =>
    intro n rest enough
    have hwrite : (writeAt depth (.ofList items)).toList =
        (block "[" "]" depth (writeItems (depth + 1) items)).toList := by rw [writeAt]
    rw [hwrite] at enough ⊢
    cases items with
    | nil =>
      have hblock := block_nil "[" "]" depth
      rw [writeItems, hblock] at enough ⊢
      obtain ⟨n, rfl⟩ := Nat.exists_eq_succ_of_ne_zero (Nat.ne_of_gt (Nat.zero_lt_of_lt enough))
      show readValue (n + 1) (levels + 1) ('[' :: ']' :: rest) = _
      rw [readValue, skipSpace_of_head rfl]
      rfl
    | cons v more =>
      have hblock : (block "[" "]" depth (writeItems (depth + 1) (v :: more))).toList =
          '[' :: ((newLine (depth + 1)).toList ++ (spread (depth + 1)
            (writeItems (depth + 1) (v :: more)) ++ ((newLine depth).toList ++ [']']))) := by
        rw [writeItems, block_cons]
        simp
      rw [hblock] at enough ⊢
      obtain ⟨n, rfl⟩ := Nat.exists_eq_succ_of_ne_zero (Nat.ne_of_gt (Nat.zero_lt_of_lt enough))
      have hitems := readItems_spread (List.cons_ne_nil v more) plain
        (fun w hw => ih w hw (depth + 1)) depth n rest (by
          simp only [List.length_cons, List.length_append, newLine_toList] at enough
          omega)
      obtain ⟨c, cs, hv, hspace, hclose⟩ := writeAt_begins (plain v List.mem_cons_self) (depth + 1)
      obtain ⟨next, hnext⟩ := spread_begins (depth + 1) hv (writeItems (depth + 1) more)
      rw [writeItems, hnext, List.cons_append] at hitems
      rw [writeItems, hnext]
      simp only [List.cons_append, List.append_assoc, List.nil_append]
      rw [readValue_list (by rw [skipSpace_newLine]; exact skipSpace_of_head hspace) hclose, hitems]
      rfl
  | @table levels entries distinct plain ih =>
    intro n rest enough
    have hwrite : (writeAt depth (.ofTable entries)).toList =
        (block "\x7b" "\x7d" depth (writeEntries (depth + 1) entries)).toList := by rw [writeAt]
    rw [hwrite] at enough ⊢
    cases entries with
    | nil =>
      have hblock := block_nil "\x7b" "\x7d" depth
      rw [writeEntries, hblock] at enough ⊢
      obtain ⟨n, rfl⟩ := Nat.exists_eq_succ_of_ne_zero (Nat.ne_of_gt (Nat.zero_lt_of_lt enough))
      show readValue (n + 1) (levels + 1) ('\x7b' :: '\x7d' :: rest) = _
      rw [readValue, skipSpace_of_head rfl]
      rfl
    | cons e more =>
      obtain ⟨key, v⟩ := e
      have hblock : (block "\x7b" "\x7d" depth
          (writeEntries (depth + 1) ((key, v) :: more))).toList =
          '\x7b' :: ((newLine (depth + 1)).toList ++ (spread (depth + 1)
            (writeEntries (depth + 1) ((key, v) :: more)) ++
              ((newLine depth).toList ++ ['\x7d']))) := by
        rw [writeEntries_cons, block_cons]
        simp
      rw [hblock] at enough ⊢
      obtain ⟨n, rfl⟩ := Nat.exists_eq_succ_of_ne_zero (Nat.ne_of_gt (Nat.zero_lt_of_lt enough))
      have hentries := readEntries_spread (List.cons_ne_nil (key, v) more) plain
        (fun e he => ih e he (depth + 1)) depth n rest (by
          simp only [List.length_cons, List.length_append, newLine_toList] at enough
          omega)
      obtain ⟨cs, hv⟩ := entry_begins (depth + 1) key v
      obtain ⟨next, hnext⟩ := spread_begins (depth + 1) hv (writeEntries (depth + 1) more)
      rw [writeEntries_cons, hnext, List.cons_append] at hentries
      rw [writeEntries_cons, hnext]
      simp only [List.cons_append, List.append_assoc, List.nil_append]
      rw [readValue_table (by rw [skipSpace_newLine]; exact skipSpace_of_head rfl) (by decide),
        hentries]
      simp only [Except.map, Table.ofEntries_of_distinct distinct]

/-- **What was written for a plain value reads back.** -/
theorem read_write {v : Value} (plain : Plain mostLevels v) : read (write v) = .ok v := by
  obtain ⟨c, cs, hv, hspace, -⟩ := writeAt_begins plain 0
  have hskip : skipSpace (write v).toList = (writeAt 0 v).toList ++ [] := by
    rw [List.append_nil]
    show skipSpace (writeAt 0 v).toList = _
    rw [hv]
    exact skipSpace_of_head hspace
  have hread := readValue_writeAt plain 0 (2 * (write v).length + 2) []
    (by
      show (writeAt 0 v).toList.length ≤ 2 * (writeAt 0 v).length + 2
      rw [String.length_toList]
      omega)
  unfold read
  rw [hskip, hread]
  rfl

/-! ## Documents in files -/

theorem hexDigit_ne_return {n : Nat} (h : n < 16) : hexDigit n ≠ '\r' := by
  have all : ∀ n, n < 16 → hexDigit n ≠ '\r' := by decide
  exact all n h

theorem escapeUnit_no_return (n : Nat) : '\r' ∉ escapeUnit n := by
  simp only [escapeUnit, hexUnit, List.mem_cons, List.not_mem_nil, or_false, not_or]
  exact ⟨by decide, by decide, (hexDigit_ne_return (Nat.mod_lt _ (by decide))).symm,
    (hexDigit_ne_return (Nat.mod_lt _ (by decide))).symm,
    (hexDigit_ne_return (Nat.mod_lt _ (by decide))).symm,
    (hexDigit_ne_return (Nat.mod_lt _ (by decide))).symm⟩

theorem escapeChar_no_return (c : Char) : '\r' ∉ escapeChar c := by
  unfold escapeChar
  split_ifs with h1 h2 h3 h4 h5 h6 h7 low small
  iterate 7 decide
  · exact fun h => h4 (List.mem_singleton.mp h).symm
  · exact escapeUnit_no_return _
  · intro h
    rcases List.mem_append.mp h with h | h <;> exact escapeUnit_no_return _ h

theorem quote_no_return (s : String) : '\r' ∉ (quote s).toList := by
  rw [quote_toList]
  intro h
  rcases List.mem_append.mp ((List.mem_cons.mp h).resolve_left (by decide)) with h | h
  · obtain ⟨c, -, hc⟩ := List.mem_flatMap.mp h
    exact escapeChar_no_return c hc
  · exact absurd h (by decide)

theorem newLine_no_return (depth : Nat) : '\r' ∉ (newLine depth).toList := by
  rw [newLine_toList]
  intro h
  rcases List.mem_cons.mp h with h | h
  · exact absurd h (by decide)
  · exact absurd (List.eq_of_mem_replicate h) (by decide)

theorem spread_no_return {depth : Nat} {parts : List String}
    (clean : ∀ part ∈ parts, '\r' ∉ part.toList) : '\r' ∉ spread depth parts := by
  induction parts with
  | nil => exact List.not_mem_nil
  | cons part more ih =>
    have hfirst := clean part List.mem_cons_self
    cases more with
    | nil =>
      rw [spread_singleton]
      exact hfirst
    | cons next later =>
      rw [spread_cons_cons, List.mem_append, List.mem_append, between, List.mem_cons]
      rintro ((h | h | h) | h)
      · exact hfirst h
      · exact absurd h (by decide)
      · exact newLine_no_return depth h
      · exact ih (fun part hp => clean part (List.mem_cons_of_mem _ hp)) h

theorem block_no_return {first last : String} (depth : Nat) {parts : List String}
    (opening : '\r' ∉ first.toList) (closing : '\r' ∉ last.toList)
    (clean : ∀ part ∈ parts, '\r' ∉ part.toList) :
    '\r' ∉ (block first last depth parts).toList := by
  cases parts with
  | nil =>
    rw [block_nil, List.mem_append]
    exact fun h => h.elim opening closing
  | cons part more =>
    rw [block_cons]
    simp only [List.mem_append]
    rintro ((((h | h) | h) | h) | h)
    · exact opening h
    · exact newLine_no_return _ h
    · exact spread_no_return clean h
    · exact newLine_no_return _ h
    · exact closing h

theorem mem_writeItems {depth : Nat} {items : List Value} {part : String}
    (h : part ∈ writeItems depth items) : ∃ v ∈ items, part = writeAt depth v := by
  induction items with
  | nil => exact absurd h List.not_mem_nil
  | cons v more ih =>
    rw [writeItems] at h
    rcases List.mem_cons.mp h with h | h
    · exact ⟨v, List.mem_cons_self, h⟩
    · obtain ⟨w, hw, hpart⟩ := ih h
      exact ⟨w, List.mem_cons_of_mem _ hw, hpart⟩

theorem mem_writeEntries {depth : Nat} {entries : List (String × Value)} {part : String}
    (h : part ∈ writeEntries depth entries) :
    ∃ e ∈ entries, part = quote e.1 ++ ": " ++ writeAt depth e.2 := by
  induction entries with
  | nil => exact absurd h List.not_mem_nil
  | cons e more ih =>
    rw [writeEntries_cons] at h
    rcases List.mem_cons.mp h with h | h
    · exact ⟨e, List.mem_cons_self, h⟩
    · obtain ⟨f, hf, hpart⟩ := ih h
      exact ⟨f, List.mem_cons_of_mem _ hf, hpart⟩

/-- No carriage return stands in what was written for a plain value. -/
theorem writeAt_no_return {levels : Nat} {v : Value} (plain : Plain levels v) (depth : Nat) :
    '\r' ∉ (writeAt depth v).toList := by
  induction plain generalizing depth with
  | text levels s => exact quote_no_return s
  | list plain ih =>
    rw [writeAt]
    refine block_no_return depth (by decide) (by decide) fun part hp => ?_
    obtain ⟨v, hv, rfl⟩ := mem_writeItems hp
    exact ih v hv (depth + 1)
  | table distinct plain ih =>
    rw [writeAt]
    refine block_no_return depth (by decide) (by decide) fun part hp => ?_
    obtain ⟨e, he, rfl⟩ := mem_writeEntries hp
    rw [String.toList_append, String.toList_append, List.mem_append, List.mem_append]
    rintro ((h | h) | h)
    · exact quote_no_return e.1 h
    · exact absurd h (by decide)
    · exact ih e he (depth + 1) h

end Json

theorem Text.feedBreaks_of_no_return {cs : List Char} (clean : '\r' ∉ cs) :
    Text.feedBreaks cs = cs := by
  induction cs with
  | nil => rfl
  | cons c rest ih =>
    obtain ⟨hc, hrest⟩ : '\r' ≠ c ∧ '\r' ∉ rest := by simpa using clean
    rw [feedBreaks]
    · rw [if_neg (Ne.symm hc), ih hrest]
    · rintro _ rfl
      exact absurd rfl hc

/-- A text without a carriage return can be kept in a file. -/
theorem Files.Node.decode_toUTF8 {s : String} (clean : '\r' ∉ s.toList) :
    decode s.toUTF8 = .ok s := by
  have hbytes : String.fromUTF8? s.toUTF8 = some s := by
    unfold String.fromUTF8?
    rw [dif_pos (show s.toUTF8.IsValidUTF8 from s.isValidUTF8)]
    rfl
  unfold decode
  simp only [hbytes, Text.feedBreaks_of_no_return clean, String.ofList_toList]

/-- **A document with a plain value can be kept in a file.** -/
theorem Json.decode_toUTF8_write {levels : Nat} {v : Value} (plain : Plain levels v) :
    Files.Node.decode (write v).toUTF8 = .ok (write v) :=
  Files.Node.decode_toUTF8 (writeAt_no_return plain 0)

end Dialogue
