import Dialogue.Proofs.Documents
import Dialogue.Proofs.Library.Gathering
import Dialogue.Proofs.Paths
import Dialogue.Proofs.Records
import Dialogue.Proofs.Script.Sections
import Dialogue.Script.Compiling

/-!
# Scripts compiled in place

A text script is compiled to a JSON file beside it.  This file comes before the script by name, and
says what the script says.  So whatever stands between them, the script has the last word on its
labels and its loose statements, as it had before, and a data folder with the compiled script loads
as one without it.

## Results

* `valueIn?_document`, `pagesOf_toValue` — the compiled script passes as a script file, and holds the
  pages of the script.
* `Pages.Under.turn`, `Pages.Under.alike` — pages that differ below others are the same when these
  others were turned over.
* `gather_shadowed` — a copy that comes before its original does not change what is read.
* `Script.compile_keeps_library` — a data folder loads as before when a script in it was compiled in
  place.
-/

set_option autoImplicit false

namespace Dialogue

open Files

/-! ## The document of a script -/

namespace Script

theorem statements_plain (levels : Nat) (texts : List String) :
    Json.Plain (levels + 1) (statements texts) := by
  refine .list fun v hv => ?_
  obtain ⟨s, -, rfl⟩ := List.mem_map.mp hv
  exact .text levels s

/-- A script has the form of plain values, of three levels: its labels are an object of lists. -/
theorem toValue_plain {s : Script} (distinct : Table.Distinct s.labels) (id : String) (levels : Nat) :
    Json.Plain (levels + 3) (s.toValue id) := by
  refine .table (by simp [Table.Distinct, Table.keys]) fun e he => ?_
  simp only [List.mem_cons, List.not_mem_nil, or_false] at he
  rcases he with rfl | rfl | rfl
  · exact .text _ id
  · refine .table ?_ fun e he => ?_
    · have hkeys : Table.keys (s.labels.map fun e => (e.1, statements e.2)) = Table.keys s.labels := by
        simp [Table.keys]
      unfold Table.Distinct
      rw [hkeys]
      exact distinct
    · obtain ⟨f, -, rfl⟩ := List.mem_map.mp he
      exact statements_plain levels f.2
  · exact statements_plain (levels + 1) s.loose

/-- A script has the form of script files. -/
theorem toValue_isScriptFile (s : Script) (id : String) :
    Library.isScriptFile (s.toValue id) = true := by
  have hstatements : ∀ texts, Library.isListOf Library.isStatement (statements texts) = true := by
    intro texts
    simp [Library.isListOf, statements, Library.isStatement, Library.isText]
  simp [Library.isScriptFile, toValue, Library.required, Library.optional, Value.get?, Value.entries?,
    Table.get?, Library.isMappingOf, hstatements, Library.isText]

/-- The pages of a script as a value are those of the script. -/
theorem pagesOf_toValue (s : Script) (id : String) :
    Library.Pages.ofValue (s.toValue id) = .ofScript s := by
  simp [Library.Pages.ofValue, Library.Pages.ofScript, toValue, Value.get?, Value.entries?,
    Table.get?, statements, Value.members?]

end Script

namespace Library

/-- The file that a script is compiled to can be used: it has the form of script files. -/
theorem valueIn?_document {s : Script} (distinct : Table.Distinct s.labels) (id : String) :
    valueIn? isScriptFile (.file (s.document id).toUTF8) = some (s.toValue id) := by
  have hplain : Json.Plain Json.mostLevels (s.toValue id) :=
    s.toValue_plain distinct id (Json.mostLevels - 3)
  have hdecode : Node.decode (s.document id).toUTF8 = .ok (s.document id) := by
    unfold Script.document
    exact Json.decode_toUTF8_write hplain
  have hread : Json.read (s.document id) = .ok (s.toValue id) := Json.read_write hplain
  unfold valueIn? Node.readText
  simp only [hdecode, Except.toOption, Option.bind_some, hread, Option.filter_some,
    s.toValue_isScriptFile id, if_true]

/-! ## The order of files -/

/-- A file that is added stands somewhere among the others, which stay as they are. -/
theorem exists_byName_concat {entries : Table Node} {e : String × Node}
    (distinct : Table.Distinct entries) (new : e.1 ∉ Table.keys entries) :
    ∃ before after, Node.byName (entries ++ [e]) = before ++ e :: after ∧
      Node.byName entries = before ++ after := by
  have hperm : (Node.byName (entries ++ [e])).Perm (entries ++ [e]) := by
    rw [Node.byName_eq]
    exact List.perm_insertionSort _ _
  have hmem : e ∈ Node.byName (entries ++ [e]) := hperm.mem_iff.mpr (by simp)
  obtain ⟨before, after, hsplit⟩ := List.append_of_mem hmem
  -- the names of the others are different
  have hnodup : ((before ++ e :: after).map Prod.fst).Nodup := by
    rw [← hsplit, (hperm.map Prod.fst).nodup_iff, List.map_append, List.nodup_append]
    refine ⟨distinct, by simp, fun a ha b hb => ?_⟩
    rw [List.map_singleton, List.mem_singleton] at hb
    rintro rfl
    exact new (hb ▸ ha)
  have hother : ∀ f ∈ before ++ after, decide (f.1 ≠ e.1) = true := by
    intro f hf
    refine decide_eq_true fun heq => ?_
    rw [List.map_append, List.map_cons, List.nodup_middle, List.nodup_cons] at hnodup
    rw [← List.map_append, ← heq] at hnodup
    exact hnodup.1 (List.mem_map_of_mem hf)
  have hentries : (entries ++ [e]).filter (fun f => decide (f.1 ≠ e.1)) = entries := by
    rw [List.filter_append, List.filter_eq_self.mpr]
    · simp
    · intro f hf
      refine decide_eq_true fun heq => new ?_
      rw [← heq]
      exact List.mem_map_of_mem hf
  refine ⟨before, after, hsplit, ?_⟩
  rw [← hentries, ← Node.filter_byName, hsplit, List.filter_append, List.filter_cons_of_neg (by simp),
    ← List.filter_append, List.filter_eq_self.mpr hother]

/-- A file whose name comes before that of another one stands before it. -/
theorem exists_byName_before {entries : Table Node} {e f : String × Node}
    (distinct : Table.Distinct entries) (new : e.1 ∉ Table.keys entries) (old : f ∈ entries)
    (order : e.1 < f.1) :
    ∃ before between after, Node.byName (entries ++ [e]) = before ++ e :: (between ++ f :: after) ∧
      Node.byName entries = before ++ (between ++ f :: after) := by
  obtain ⟨before, rest, hwith, hwithout⟩ := exists_byName_concat distinct new
  have hsorted : (before ++ e :: rest).Pairwise Node.Before := by
    rw [← hwith, Node.byName_eq]
    exact List.pairwise_insertionSort _ _
  have hrest : f ∈ rest := by
    have hf : f ∈ before ++ rest := by
      rw [← hwithout]
      exact Node.mem_byName.mpr old
    refine (List.mem_append.mp hf).resolve_left fun hbefore => ?_
    have hle : f.1 ≤ e.1 :=
      (List.pairwise_append.mp hsorted).2.2 f hbefore e List.mem_cons_self
    exact String.not_lt.mpr hle order
  obtain ⟨between, after, rfl⟩ := List.append_of_mem hrest
  exact ⟨before, between, after, hwith, hwithout⟩

/-! ## Pages below others -/

end Library

namespace Table

variable {κ α : Type} [DecidableEq κ] {t u : List (κ × α)} {key : κ}

/-- What is put into two tables that answer alike is answered alike. -/
theorem get?_putAll_congr (alike : get? t key = get? u key) (more : List (κ × α)) :
    get? (putAll t more) key = get? (putAll u more) key := by
  induction more generalizing t u with
  | nil => exact alike
  | cons e rest ih =>
    refine ih ?_
    by_cases hkey : key = e.1
    · rw [hkey, get?_put_self, get?_put_self]
    · rw [get?_put_of_ne _ _ hkey, get?_put_of_ne _ _ hkey, alike]

/-- What is put into tables under a key is what they answer. -/
theorem get?_putAll_of_mem {more : List (κ × α)} (h : key ∈ keys more) :
    get? (putAll t more) key = get? (putAll u more) key := by
  induction more generalizing t u with
  | nil => exact absurd h List.not_mem_nil
  | cons e rest ih =>
    by_cases hrest : key ∈ keys rest
    · exact ih hrest
    · have hkey : key = e.1 := by
        rcases List.mem_cons.mp h with rfl | h
        · rfl
        · exact absurd h hrest
      refine get?_putAll_congr ?_ rest
      rw [hkey, get?_put_self, get?_put_self]

theorem get?_putAll_of_not_mem {more : List (κ × α)} (h : key ∉ keys more) :
    get? (putAll t more) key = get? t key := by
  induction more generalizing t with
  | nil => rfl
  | cons e rest ih =>
    obtain ⟨hkey, hrest⟩ : key ≠ e.1 ∧ key ∉ keys rest := by simpa [keys] using h
    exact (ih hrest).trans (get?_put_of_ne t e.2 hkey)

end Table

namespace Library

/-- Pages that say the same: under every label, and under none. -/
structure Pages.Alike (s t : Pages) : Prop where
  labels : ∀ label, Table.get? t.labels label = Table.get? s.labels label
  loose : t.loose = s.loose

/-- Pages that say the same except where further pages have the last word. -/
structure Pages.Under (top s t : Pages) : Prop where
  labels : ∀ label, label ∈ Table.keys top.labels ∨
    Table.get? t.labels label = Table.get? s.labels label
  loose : top.loose ≠ [] ∨ t.loose = s.loose

namespace Pages

variable {top s t : Pages}

theorem Alike.turn (alike : s.Alike t) (next : Pages) : (s.turn next).Alike (t.turn next) where
  labels label := Table.get?_putAll_congr (alike.labels label) next.labels
  loose := by
    unfold Pages.turn
    rw [alike.loose]

/-- Pages that are turned over make a difference only below themselves. -/
theorem under_turn (top s : Pages) : top.Under s (s.turn top) where
  labels label := by
    by_cases h : label ∈ Table.keys top.labels
    · exact .inl h
    · exact .inr (Table.get?_putAll_of_not_mem h)
  loose := by
    cases h : top.loose with
    | nil => exact .inr (by simp [Pages.turn, h])
    | cons v rest => exact .inl (List.cons_ne_nil _ _)

/-- Turning over other pages leaves them so. -/
theorem Under.turn (under : top.Under s t) (next : Pages) :
    top.Under (s.turn next) (t.turn next) where
  labels label := (under.labels label).imp id fun h => Table.get?_putAll_congr h next.labels
  loose := under.loose.imp id fun h => by
    unfold Pages.turn
    rw [h]

/-- When the pages on top are turned over, nothing is left of the difference. -/
theorem Under.alike (under : top.Under s t) : (s.turn top).Alike (t.turn top) where
  labels label := by
    rcases under.labels label with h | h
    · exact Table.get?_putAll_of_mem h
    · exact Table.get?_putAll_congr h top.labels
  loose := by
    unfold Pages.turn
    rcases under.loose with h | h
    · simp [h]
    · rw [h]

end Pages

/-! ## Gathering side by side -/

/-- Two answers agree: both are the same failure, or they are related. -/
inductive Agree {σ : Type} (R : σ → σ → Prop) : Except Fault σ → Except Fault σ → Prop where
  | ok {s t : σ} (related : R s t) : Agree R (.ok s) (.ok t)
  | error (f : Fault) : Agree R (.error f) (.error f)

theorem Agree.bind {σ τ : Type} {R : σ → σ → Prop} {Q : τ → τ → Prop} {x y : Except Fault σ}
    {f g : σ → Except Fault τ} (agree : Agree R x y) (later : ∀ s t, R s t → Agree Q (f s) (g t)) :
    Agree Q (x.bind f) (y.bind g) := by
  cases agree with
  | ok related => exact later _ _ related
  | error f => exact .error f

/-- What every file keeps, all files keep. -/
theorem gather_agree {R : Pages → Pages → Prop}
    (turn : ∀ {s t}, R s t → ∀ next, R (s.turn next) (t.turn next)) {s t : Pages} (related : R s t)
    (files : Table Node) :
    Agree R (gather pagesIn addPages s files) (gather pagesIn addPages t files) := by
  induction files generalizing s t with
  | nil => exact .ok related
  | cons e rest ih =>
    rw [gather_cons, gather_cons]
    cases pagesIn e with
    | error f => exact .error f
    | ok found =>
      cases found with
      | none => exact ih related
      | some next => exact ih (turn related next)

theorem gather_append {α σ : Type} {read : String × Node → Except Fault α} {put : σ → α → σ}
    (store : σ) (first second : Table Node) :
    gather read put store (first ++ second) =
      (gather read put store first).bind fun store => gather read put store second := by
  unfold gather
  rw [List.foldlM_append]
  rfl

/-- **A copy that comes before its original does not change what is read.** -/
theorem gather_shadowed {e f : String × Node} {pages : Pages} (copy : pagesIn e = .ok (some pages))
    (original : pagesIn f = .ok (some pages)) (before between after : Table Node) :
    Agree Pages.Alike
      (gather pagesIn addPages {} (before ++ (between ++ f :: after)))
      (gather pagesIn addPages {} (before ++ e :: (between ++ f :: after))) := by
  rw [gather_append, gather_append]
  cases gather pagesIn addPages {} before with
  | error f => exact .error f
  | ok store =>
    show Agree _ (gather pagesIn addPages store _) (gather pagesIn addPages store _)
    rw [gather_cons, copy]
    show Agree _ _ (gather pagesIn addPages (store.turn pages) (between ++ f :: after))
    rw [gather_append, gather_append]
    -- between the two, the pages of the copy are below those of the original
    refine (gather_agree Pages.Under.turn (Pages.under_turn pages store) between).bind ?_
    intro s t under
    rw [gather_cons, gather_cons, original]
    exact gather_agree Pages.Alike.turn under.alike after

/-- Two libraries say the same: of every key, under every label, and under none. -/
structure Alike (a b : Library) : Prop where
  characters : b.characters = a.characters
  labels : ∀ label, Table.get? b.labels label = Table.get? a.labels label
  loose : b.loose = a.loose

/-- Data folders with the same characters and with scripts that are read alike are loaded alike. -/
theorem load_alike {folder other : Node}
    (characters : readCharacters other = readCharacters folder)
    (scripts : Agree Pages.Alike (readScripts folder) (readScripts other)) (old : Library) :
    (load other old).1.1 = (load folder old).1.1 ∧
      (load folder old).1.2.Alike (load other old).1.2 := by
  rw [load_fst, load_fst, characters]
  cases readCharacters folder with
  | error f => exact ⟨rfl, rfl, fun _ => rfl, rfl⟩
  | ok records =>
    generalize readScripts folder = x at scripts ⊢
    generalize readScripts other = y at scripts ⊢
    cases scripts with
    | ok alike => exact ⟨rfl, rfl, alike.labels, alike.loose⟩
    | error f => exact ⟨rfl, rfl, fun _ => rfl, rfl⟩

end Library

/-! ## Compiling in place -/

namespace Script

/-- The name of the file that a text script is compiled to. -/
def compiledName (name : String) : String :=
  (Path.divide name).1 ++ ".json"

section

variable {name : String} (script : (Path.divide name).2 = ".script")

include script

theorem name_eq : name = (Path.divide name).1 ++ ".script" := by
  rw [← script]
  exact (Path.divide_append name).symm

theorem stem_ne_empty : (Path.divide name).1 ≠ "" :=
  Path.stem_ne_empty (by rw [script]; decide)

theorem divide_compiledName : (Path.divide (compiledName name)).2 = ".json" := by
  have hname : compiledName name = (Path.divide name).1 ++ "." ++ "json" := by
    rw [String.append_assoc]
    rfl
  rw [hname, Path.divide_stem (stem_ne_empty script) (by decide) (by decide)]
  rfl

/-- The compiled script comes before the script. -/
theorem compiledName_lt : compiledName name < name := by
  have hlt : compiledName name < (Path.divide name).1 ++ ".script" := by
    unfold compiledName
    rw [String.lt_iff, String.toList_append, String.toList_append]
    exact List.append_left_lt (by decide)
  rwa [← name_eq script] at hlt

theorem compiledName_short : (compiledName name).utf8ByteSize ≤ name.utf8ByteSize := by
  have hsize := congrArg String.utf8ByteSize (name_eq script)
  rw [String.utf8ByteSize_append] at hsize
  unfold compiledName
  rw [String.utf8ByteSize_append, hsize]
  exact Nat.add_le_add_left (by decide) _

theorem compiledName_clean (clean : '\x00' ∉ name.toList) : '\x00' ∉ (compiledName name).toList := by
  rw [name_eq script, String.toList_append, List.mem_append, not_or] at clean
  unfold compiledName
  rw [String.toList_append, List.mem_append, not_or]
  exact ⟨clean.1, by decide⟩

theorem long_name : 2 < name.length := by
  have hlength := congrArg String.length (name_eq script)
  have hscript : ".script".length = 7 := rfl
  rw [String.length_append, hscript] at hlength
  omega

end

theorem long_compiledName (name : String) : 2 < (compiledName name).length := by
  have hjson : ".json".length = 5 := rfl
  unfold compiledName
  rw [String.length_append, hjson]
  omega

/-- What has the suffix of text scripts is a name with it. -/
theorem divide_of_suffix {dir : Path} {name : String}
    (suffix : Path.suffix (dir ++ [name]) = ".script") :
    Path.isTop name = false ∧ (Path.divide name).2 = ".script" := by
  cases htop : Path.isTop name with
  | true =>
    have hname : Path.name (dir ++ [name]) = "" := by simp [Path.name, htop]
    unfold Path.suffix at suffix
    rw [hname] at suffix
    exact absurd suffix (by decide)
  | false =>
    unfold Path.suffix at suffix
    rw [Path.name_snoc dir htop] at suffix
    exact ⟨rfl, suffix⟩

/-- A script is read from the text of the file that its path leads to. -/
theorem exists_of_ofFile {top : Node} {p : Path} {s : Script} (h : ofFile top p = .ok s) :
    ∃ place n text, Node.walk top p = .ok place ∧ Node.at? place top = some n ∧
      n.readText = .ok text ∧ s = read text := by
  unfold ofFile Node.find at h
  cases hwalk : Node.walk top p with
  | error f =>
    rw [hwalk] at h
    cases h
  | ok place =>
    rw [hwalk] at h
    cases hat : Node.at? place top with
    | none =>
      simp only [bind, Except.bind, hat] at h
      cases h
    | some n =>
      simp only [bind, Except.bind, hat, pure, Except.pure] at h
      cases htext : n.readText with
      | error f =>
        rw [htext] at h
        cases h
      | ok text =>
        rw [htext] at h
        exact ⟨place, n, text, rfl, hat, htext, (Except.ok.inj h).symm⟩

open Library

theorem compile_eq {top after : Node} {dir : Path} {name : String} {s : Script}
    (readable : ofFile top (dir ++ [name]) = .ok s) (inner : Path.isTop name = false)
    (written : top.write (dir ++ [compiledName name])
      (s.document (Path.divide name).1).toUTF8 = .ok after) :
    compile top (dir ++ [name]) none = .ok (dir ++ [compiledName name], after,
      .compiled (dir ++ [name]).text (dir ++ [compiledName name]).text) := by
  have hstem : Path.stem (dir ++ [name]) = (Path.divide name).1 := by
    unfold Path.stem
    rw [Path.name_snoc dir inner]
  have houtput : outputPath (dir ++ [name]) none = dir ++ [compiledName name] := by
    show (dir ++ [name]).dropLast ++ [Path.stem (dir ++ [name]) ++ ".json"] = _
    rw [hstem, List.dropLast_concat]
    rfl
  unfold compile
  simp only [houtput, readable, hstem, bind, Except.bind, written]
  rfl

/-- The compiled script can be written beside the script. -/
theorem write_compiled {top : Node} {dir : Path} {name : String} {entries : Table Node}
    {place way : Way} (leads : Node.walk top dir = .ok way)
    (folder : Node.at? way top = some (.folder entries))
    (suffix : Path.suffix (dir ++ [name]) = ".script")
    (found : Node.walk top (dir ++ [name]) = .ok place)
    (alone : Table.get? entries (compiledName name) = none) (bytes : ByteArray) :
    place = way ++ [name] ∧ top.write (dir ++ [compiledName name]) bytes =
      .ok (Node.put (.file bytes) (way ++ [compiledName name]) top) := by
  obtain ⟨hinner, script⟩ := divide_of_suffix suffix
  have hhere : name ≠ ".." := by
    rintro rfl
    exact absurd (long_name script) (by decide)
  have hbelow : compiledName name ≠ ".." := by
    intro h
    have hlong := long_compiledName name
    rw [h] at hlong
    exact absurd hlong (by decide)
  have hclean : '\x00' ∉ name.toList := Node.clean_of_pathFault? (Node.walk_snoc found).1
  exact Node.write_beside leads found folder hinner hhere
    (Path.isTop_eq_false (long_compiledName name)) hbelow (compiledName_clean script hclean)
    (compiledName_short script) alone bytes

/-- A folder of scripts is read as before when what a text script holds was put beside it. -/
theorem load_beside {data original copy : Node} {name text : String} {entries : Table Node}
    {v : Value} (scripts : data.entry? scriptsName = some (.folder entries))
    (distinct : Table.Distinct entries) (inner : Path.isTop name = false)
    (script : (Path.divide name).2 = ".script") (file : Table.get? entries name = some original)
    (reads : original.readText = .ok text) (alone : Table.get? entries (compiledName name) = none)
    (usable : valueIn? isScriptFile copy = some v) (same : Pages.ofValue v = .ofScript (read text))
    (old : Library) :
    let fuller := Node.put copy [scriptsName, compiledName name] data
    (load fuller old).1.1 = (load data old).1.1 ∧ (load data old).1.2.Alike (load fuller old).1.2 := by
  intro fuller
  have hnew : compiledName name ∉ Table.keys entries := (Table.get?_eq_none_iff _ _).mp alone
  have hscripts : fuller.entry? scriptsName =
      some (.folder (entries ++ [(compiledName name, copy)])) := by
    rw [Node.entry?_put_self, scripts, ← Table.put_of_not_mem copy hnew]
    rfl
  have hcharacters : fuller.entry? charactersName = data.entry? charactersName :=
    Node.entry?_put_of_ne _ _ _ (by decide)
  have hcopy : pagesIn (compiledName name, copy) = .ok (some (.ofScript (read text))) := by
    have hsuffix : Path.suffix [scriptsName, compiledName name] = ".json" := by
      unfold Path.suffix
      rw [← divide_compiledName script]
      exact congrArg (fun s => (Path.divide s).2)
        (Path.name_snoc [scriptsName] (Path.isTop_eq_false (long_compiledName name)))
    refine pagesIn_eq_ok_iff.mpr ⟨fun h => not_halts_of_valueIn? usable h.2, ?_⟩
    unfold pagesIn?
    rw [if_pos hsuffix, usable, Option.map_some, same]
  have horiginal : pagesIn (name, original) = .ok (some (.ofScript (read text))) := by
    have hsuffix : Path.suffix [scriptsName, name] = ".script" := by
      unfold Path.suffix
      rw [← script]
      exact congrArg (fun s => (Path.divide s).2) (Path.name_snoc [scriptsName] inner)
    refine pagesIn_eq_ok_iff.mpr ⟨fun h => ?_, ?_⟩
    · rw [hsuffix] at h
      exact absurd h.1 (by decide)
    · unfold pagesIn?
      rw [hsuffix, if_neg (by decide), if_pos rfl, reads]
      rfl
  obtain ⟨before, between, after, hwith, hwithout⟩ := exists_byName_before distinct
    (e := (compiledName name, copy)) hnew (Table.mem_of_get? file) (compiledName_lt script)
  refine load_alike ?_ ?_ old
  · unfold readCharacters recordFiles entriesIn
    rw [hcharacters]
  · unfold readScripts scriptFiles entriesIn
    rw [hscripts, scripts]
    simp only [Option.bind_some, Node.entries?, Option.getD_some, hwith, hwithout]
    exact gather_shadowed hcopy horiginal before between after

/-- **A data folder loads as before when a script in it was compiled in place.**  The script lies in
the folder of scripts under a name with the suffix of text scripts, some path leads to this folder, and
no file has the name that the script is compiled to.  Then compiling succeeds; the new file can be used
and holds just the pages of the script; and whatever else the folder holds, loading answers as it did
before, and makes a library that says the same. -/
theorem compile_keeps_library {top : Node} {dir : Path} {name : String} {entries : Table Node}
    {s : Script} (folder : Node.at? (Node.home ++ [scriptsName]) top = some (.folder entries))
    (distinct : Table.Distinct entries)
    (leads : Node.walk top dir = .ok (Node.home ++ [scriptsName]))
    (suffix : Path.suffix (dir ++ [name]) = ".script")
    (readable : ofFile top (dir ++ [name]) = .ok s)
    (alone : Table.get? entries (compiledName name) = none) :
    ∃ after report,
      compile top (dir ++ [name]) none = .ok (dir ++ [compiledName name], after, report) ∧
      (∃ n v, Node.at? (Node.home ++ [scriptsName, compiledName name]) after = some n ∧
        valueIn? isScriptFile n = some v ∧ Pages.ofValue v = .ofScript s) ∧
      ∀ old, (load after.working old).1.1 = (load top.working old).1.1 ∧
        (load top.working old).1.2.Alike (load after.working old).1.2 := by
  obtain ⟨hinner, script⟩ := divide_of_suffix suffix
  obtain ⟨place, original, text, hwalk, hat, htext, rfl⟩ := exists_of_ofFile readable
  let stem := (Path.divide name).1
  let copy : Node := .file ((read text).document stem).toUTF8
  obtain ⟨rfl, hwrite⟩ := write_compiled leads folder suffix hwalk alone
    ((read text).document stem).toUTF8
  have hvalue : valueIn? isScriptFile copy = some ((read text).toValue stem) :=
    valueIn?_document (read_distinct text) stem
  -- the script is one of the files, and the compiled script is added to them
  obtain ⟨data, hdata, hscripts⟩ : ∃ data, Node.at? Node.home top = some data ∧
      data.entry? scriptsName = some (.folder entries) := by
    rw [Node.at?_append] at folder
    obtain ⟨data, hdata, hentry⟩ := Option.bind_eq_some_iff.mp folder
    obtain ⟨n, hn, hfolder⟩ := Option.bind_eq_some_iff.mp hentry
    exact ⟨data, hdata, hn.trans hfolder⟩
  have hwith : Node.at? Node.home (Node.put copy (Node.home ++ [scriptsName, compiledName name]) top) =
      some (Node.put copy [scriptsName, compiledName name] data) :=
    Node.at?_put_append copy _ hdata
  have hfile : Table.get? entries name = some original := by
    rw [Node.at?_append, folder, Option.bind_some] at hat
    obtain ⟨n, hn, horiginal⟩ := Option.bind_eq_some_iff.mp hat
    exact hn.trans horiginal
  refine ⟨_, _, compile_eq readable hinner hwrite, ⟨copy, _, ?_, hvalue, pagesOf_toValue _ _⟩, ?_⟩
  · exact Node.at?_put_self copy _ top
  · intro old
    have hafter : (Node.put copy (Node.home ++ [scriptsName] ++ [compiledName name]) top).working =
        Node.put copy [scriptsName, compiledName name] data := by
      unfold Node.working
      rw [List.append_assoc, List.singleton_append, hwith]
      rfl
    have hbefore : top.working = data := by
      unfold Node.working
      rw [hdata]
      rfl
    rw [hafter, hbefore]
    exact load_beside hscripts distinct hinner script hfile htext alone hvalue
      (pagesOf_toValue _ _) old

/-- A data folder with a text script, and with a file between it and what it is compiled to. -/
def shelf : Node :=
  .folder [("", .folder [("script", .folder
    [("a.script", .file "# begin\nHi".toUTF8),
     ("a.m.json", .file "\x7b\"labels\": \x7b\"begin\": [\"No\"]\x7d\x7d".toUTF8)])])]

/-- The general theorem for this folder: the script still has the last word. -/
theorem compile_keeps_library_shelf :
    ∃ after report,
      compile shelf ["script", "a.script"] none = .ok (["script", "a.json"], after, report) ∧
      (load after.working {}).1.1 = .ok () ∧
      Table.get? (load after.working {}).1.2.labels "begin" = some [.text "Hi"] := by
  have leads : Node.walk shelf ["script"] = .ok (Node.home ++ [scriptsName]) :=
    Step.ok_of_toOption (by decide +kernel)
  have suffix : Path.suffix (["script"] ++ ["a.script"]) = ".script" := by decide +kernel
  have readable : ofFile shelf (["script"] ++ ["a.script"]) =
      .ok { labels := [("begin", ["Hi"])] } := Step.ok_of_toOption (by decide +kernel)
  obtain ⟨after, report, hcompile, -, hload⟩ := compile_keeps_library rfl
    (by simp [Table.Distinct, Table.keys]) leads suffix readable rfl
  obtain ⟨hanswer, halike⟩ := hload {}
  refine ⟨after, report, hcompile, hanswer.trans (Step.ok_of_toOption (by decide +kernel)), ?_⟩
  rw [halike.labels]
  decide +kernel

end Script

end Dialogue
