import Mathlib.Algebra.GroupWithZero.Nat
import Mathlib.Tactic.SplitIfs
import SceneLoad.Proofs.DecimalIndices
import SceneLoad.Scene.Report

/-!
# Lines of a printed report

A report is printed as one part a line, and a text has one line more than it has line feeds. So the
lines are the parts exactly if no part has a line feed in it (`lines_render_iff`). Ids and component
kinds are printed as they are, and a line feed in one of them breaks a line. A name is quoted, and
quoting leaves no line feed (`oneLine_quoted`), so names may be anything
(`length_lines_renamed`).
-/

namespace SceneLoad

/-! ## Texts and their lines -/

namespace Text

/-- The lines of a text : what stands between its line feeds, and at its ends. -/
def lines (text : String) : List String := (text.toList.splitOn '\n').map String.ofList

/-- How many line feeds there are in a text. -/
def lineFeeds (text : String) : Nat := text.toList.count '\n'

/-- A text without a line feed. -/
def OneLine (text : String) : Prop := '\n' ∉ text.toList

instance (text : String) : Decidable (OneLine text) := inferInstanceAs (Decidable (_ ∉ _))

theorem lineFeeds_eq_zero_iff {text : String} : lineFeeds text = 0 ↔ OneLine text :=
  List.count_eq_zero

theorem lineFeeds_append (first second : String) :
    lineFeeds (first ++ second) = lineFeeds first + lineFeeds second := by
  rw [lineFeeds, String.toList_append, List.count_append, lineFeeds, lineFeeds]

theorem oneLine_append {first second : String} :
    OneLine (first ++ second) ↔ OneLine first ∧ OneLine second := by
  rw [OneLine, String.toList_append, List.mem_append, not_or, OneLine, OneLine]

theorem length_splitOn {α : Type} [BEq α] [LawfulBEq α] (a : α) (items : List α) :
    (items.splitOn a).length = items.count a + 1 := by
  induction items with
  | nil => simp
  | cons item rest ih =>
    rw [List.splitOn_cons_eq_if_modifyHead, List.count_cons]
    split_ifs
    · rw [List.length_cons, ih]
    · rw [List.length_modifyHead, ih, Nat.add_zero]

/-- A text has one line more than it has line feeds. -/
theorem length_lines (text : String) : (lines text).length = lineFeeds text + 1 := by
  rw [lines, List.length_map, length_splitOn, lineFeeds]

/-- Between parts that are put one a line, there is one line feed less than there are parts. -/
theorem lineFeeds_intercalate : ∀ (part : String) (rest : List String),
    lineFeeds (String.intercalate "\n" (part :: rest)) =
      rest.length + ((part :: rest).map lineFeeds).sum
  | part, [] => by simp [lineFeeds]
  | part, next :: rest => by
    have ih := lineFeeds_intercalate next rest
    simp only [lineFeeds, String.toList_intercalate, List.map_cons] at ih ⊢
    rw [List.intercalate_cons_cons, List.count_append, List.count_append, ih]
    simp only [List.sum_cons, List.length_cons, show "\n".toList = ['\n'] from rfl,
      List.count_singleton_self]
    omega

/-- Parts that are one line each are the lines of the text that has them one a line. -/
theorem lines_intercalate {parts : List String} (hne : parts ≠ [])
    (h : ∀ part ∈ parts, OneLine part) : lines (String.intercalate "\n" parts) = parts := by
  have hsplit : (String.intercalate "\n" parts).toList.splitOn '\n' = parts.map String.toList := by
    rw [String.toList_intercalate]
    refine List.splitOn_intercalate '\n' (fun line hline => ?_) (by simpa using hne)
    obtain ⟨part, hpart, rfl⟩ := List.mem_map.1 hline
    exact h part hpart
  rw [lines, hsplit, List.map_map]
  exact (List.map_congr_left fun part _ => String.ofList_toList).trans (List.map_id parts)

theorem oneLine_intercalate {separator : String} (hseparator : OneLine separator) :
    ∀ parts : List String,
      OneLine (String.intercalate separator parts) ↔ ∀ part ∈ parts, OneLine part
  | [] => by simp [OneLine]
  | [part] => by simp [OneLine]
  | part :: next :: rest => by
    have ih := oneLine_intercalate hseparator (next :: rest)
    rw [OneLine, String.toList_intercalate, List.map_cons] at ih ⊢
    rw [List.map_cons, List.intercalate_cons_cons, List.forall_mem_cons, ← ih, List.mem_append,
      List.mem_append, not_or, not_or, and_assoc]
    exact and_congr_right fun _ => and_iff_right hseparator

/-! ### Numbers and quotes -/

theorem lineFeed_notMem_toDigits {base : Nat} (hbase : 1 < base) (n : Nat) :
    '\n' ∉ Nat.toDigits base n := by
  induction n using Nat.strongRecOn with
  | ind n ih =>
    rcases Nat.lt_or_ge n base with hlt | hge
    · rw [Nat.toDigits_of_lt_base hlt, List.mem_singleton]
      exact (Nat.digitChar_ne '\n' rfl).symm
    · rw [Nat.toDigits_of_base_le hbase hge, List.mem_append, List.mem_singleton]
      have hpos : 0 < n := Nat.lt_of_lt_of_le (Nat.zero_lt_of_lt hbase) hge
      exact not_or.2 ⟨ih _ (Nat.div_lt_self hpos hbase), (Nat.digitChar_ne '\n' rfl).symm⟩

theorem oneLine_toString (n : Nat) : OneLine (toString n) := by
  rw [OneLine, toList_toString]
  exact lineFeed_notMem_toDigits (by decide) n

theorem oneLine_escapeChar (c : Char) : OneLine (escapeChar c) := by
  rcases escapeChar_cases c with hshort | ⟨hfeed, hself⟩ | hnumber
  · have hescapes : ∀ escape ∈ ["\\\"", "\\\\", "\\n", "\\r", "\\t", "\\0"],
        OneLine escape := by
      decide
    exact hescapes _ hshort
  · rw [hself, OneLine, String.toList_singleton, List.mem_singleton]
    exact fun heq => hfeed heq.symm
  · rw [hnumber, hexDigits, oneLine_append, oneLine_append]
    refine ⟨⟨by decide, ?_⟩, by decide⟩
    rw [OneLine, String.toList_ofList]
    exact lineFeed_notMem_toDigits (by decide) c.toNat

/-- Quoted text is one line, whatever the text is. -/
theorem oneLine_quoted (text : String) : OneLine (quoted text) := by
  rw [quoted, oneLine_append, oneLine_append]
  refine ⟨⟨by decide, ?_⟩, by decide⟩
  rw [OneLine, String.toList_join, List.mem_flatMap]
  rintro ⟨escaped, hescaped, hmem⟩
  obtain ⟨c, -, rfl⟩ := List.mem_map.1 hescaped
  exact oneLine_escapeChar c hmem

end Text

open Text

/-! ## Records and reports -/

namespace Record

/-- A record's line around its name. -/
theorem render_eq (record : Record) :
    record.render =
      "entity=" ++ record.persistentId ++ " runtime=" ++ record.runtimeId.render ++ " name=" ++
        quoted record.name ++ " parent=" ++ record.parentPersistentId.getD "-" ++
        " components=[" ++ String.intercalate "," record.kinds ++ "]" := rfl

theorem oneLine_render_iff (record : Record) :
    OneLine record.render ↔ OneLine record.persistentId ∧
      (∀ parent, record.parentPersistentId = some parent → OneLine parent) ∧
      ∀ kind ∈ record.kinds, OneLine kind := by
  have hruntime : OneLine record.runtimeId.render := by
    rw [EntityId.render, oneLine_append]
    exact ⟨by decide, oneLine_toString _⟩
  have hparent : OneLine (record.parentPersistentId.getD "-") ↔
      ∀ parent, record.parentPersistentId = some parent → OneLine parent := by
    cases record.parentPersistentId with
    | none => exact iff_of_true (by decide) nofun
    | some parent => simp
  have hlabels : OneLine "entity=" ∧ OneLine " runtime=" ∧ OneLine " name=" ∧ OneLine " parent=" ∧
      OneLine " components=[" ∧ OneLine "]" := by decide
  obtain ⟨hentity, hruntimeLabel, hname, hparentLabel, hcomponents, hclose⟩ := hlabels
  simp only [render_eq, oneLine_append, hentity, hruntimeLabel, hruntime, hname,
    oneLine_quoted, hparentLabel, hcomponents, hclose, hparent, and_true, true_and, and_assoc,
    oneLine_intercalate (show OneLine "," by decide)]

/-- The record under another name. -/
def renamed (name : String) (record : Record) : Record := { record with name }

/-- A name breaks no line. -/
theorem lineFeeds_renamed (name : String) (record : Record) :
    lineFeeds (record.renamed name).render = lineFeeds record.render := by
  have hquoted : ∀ text, lineFeeds (quoted text) = 0 := fun text =>
    lineFeeds_eq_zero_iff.2 (oneLine_quoted text)
  simp only [render_eq, renamed, kinds, lineFeeds_append, hquoted]

end Record

namespace Report

theorem oneLine_summary (report : Report) : OneLine report.summary := by
  delta summary
  simp only [oneLine_append, oneLine_toString, and_true]
  decide

/-- There is one line for each part, and one more for each line feed in a part. -/
theorem length_lines_render (report : Report) :
    (Text.lines report.render).length =
      1 + report.records.length + report.skippedSeeds.length +
        (report.lines.map lineFeeds).sum := by
  rw [length_lines, render, lines, List.cons_append, lineFeeds_intercalate, List.length_append,
    List.length_map, List.length_map]
  omega

/-- What is printed as it is has no line feed in it. -/
structure Unbroken (report : Report) : Prop where
  persistentId : ∀ record ∈ report.records, OneLine record.persistentId
  parent : ∀ record ∈ report.records, ∀ parent, record.parentPersistentId = some parent →
    OneLine parent
  kind : ∀ record ∈ report.records, ∀ kind ∈ record.kinds, OneLine kind
  seed : ∀ seed ∈ report.skippedSeeds, OneLine seed

theorem unbroken_iff (report : Report) :
    report.Unbroken ↔ ∀ part ∈ report.lines, OneLine part := by
  have hseed : ∀ seed, OneLine ("skipped_seed=" ++ seed) ↔ OneLine seed := fun seed =>
    oneLine_append.trans (and_iff_right (by decide))
  simp only [lines, List.cons_append, List.forall_mem_cons, List.forall_mem_append,
    List.forall_mem_map, Record.oneLine_render_iff, hseed, report.oneLine_summary, true_and]
  constructor
  · rintro ⟨hid, hparent, hkind, hseeds⟩
    exact ⟨fun record hmem => ⟨hid record hmem, hparent record hmem, hkind record hmem⟩, hseeds⟩
  · rintro ⟨hrecords, hseeds⟩
    exact ⟨fun record hmem => (hrecords record hmem).1,
      fun record hmem => (hrecords record hmem).2.1,
      fun record hmem => (hrecords record hmem).2.2, hseeds⟩

theorem sum_lineFeeds_eq_zero_iff (report : Report) :
    (report.lines.map lineFeeds).sum = 0 ↔ report.Unbroken := by
  rw [unbroken_iff, List.sum_eq_zero_iff_forall_eq_nat, List.forall_mem_map]
  exact forall₂_congr fun part _ => lineFeeds_eq_zero_iff

/-- The report with a name given to each record by its position. -/
def renamed (names : Nat → String) (report : Report) : Report :=
  { report with records := report.records.mapIdx fun index => Record.renamed (names index) }

theorem length_lines_renamed (names : Nat → String) (report : Report) :
    (Text.lines (report.renamed names).render).length = (Text.lines report.render).length := by
  have hsame : (report.renamed names).lines.map lineFeeds = report.lines.map lineFeeds := by
    have hsummary : (report.renamed names).summary = report.summary := by
      delta summary renamed
      dsimp only
      rw [List.length_mapIdx]
    rw [lines, hsummary, lines]
    simp only [List.cons_append, List.map_cons, List.map_append, List.map_map, renamed]
    congr 2
    refine List.ext_getElem (by simp) fun index _ _ => ?_
    simp [Record.lineFeeds_renamed]
  rw [length_lines_render, hsame, length_lines_render]
  simp [renamed]

/-- A report is printed as one line for the summary and one for each record and each skipped seed,
exactly if no id and no component kind in it has a line feed. Names do not matter, because a record
is printed with its name in quotes, and quoted text is one line. -/
theorem lines_render_iff (report : Report) :
    ((Text.lines report.render).length =
          1 + report.records.length + report.skippedSeeds.length ∧
        (∀ index record, report.records[index]? = some record →
          (Text.lines report.render)[index + 1]? = some record.render) ↔
      report.Unbroken) ∧
    (∀ names, (Text.lines (report.renamed names).render).length =
      (Text.lines report.render).length) ∧
    ∀ record ∈ report.records, ∃ before after, ∀ name,
      (record.renamed name).render = before ++ quoted name ++ after ∧ OneLine (quoted name) := by
  refine ⟨⟨fun ⟨hlength, _⟩ => ?_, fun hunbroken => ⟨?_, fun index record hrecord => ?_⟩⟩,
    fun names => length_lines_renamed names report, fun record _ => ?_⟩
  · have hlines := report.length_lines_render
    exact report.sum_lineFeeds_eq_zero_iff.1 (by omega)
  · rw [length_lines_render, report.sum_lineFeeds_eq_zero_iff.2 hunbroken, Nat.add_zero]
  · have hparts : Text.lines report.render = report.lines :=
      lines_intercalate (by simp [lines]) (report.unbroken_iff.1 hunbroken)
    obtain ⟨hindex, rfl⟩ := List.getElem?_eq_some_iff.1 hrecord
    rw [hparts, lines, List.cons_append, List.getElem?_cons_succ,
      List.getElem?_append_left (by simpa using hindex), List.getElem?_map, hrecord,
      Option.map_some]
  · refine ⟨"entity=" ++ record.persistentId ++ " runtime=" ++ record.runtimeId.render ++ " name=",
      " parent=" ++ record.parentPersistentId.getD "-" ++ " components=[" ++
        String.intercalate "," record.kinds ++ "]", fun name => ⟨?_, oneLine_quoted name⟩⟩
    simp only [Record.render_eq, Record.renamed, Record.kinds, String.append_assoc]

/-- A sun whose name is two lines, beside one that was skipped. -/
def sunrise : Report where
  records :=
    [{ runtimeId := ⟨0⟩
       persistentId := "sun"
       name := "morning\nevening"
       parentPersistentId := none
       tags := []
       components := [] }]
  skippedSeeds := ["moon"]

example :
    (Text.lines ({ sunrise with skippedSeeds := ["new\nmoon"] } : Report).render).length = 4 := by
  decide +kernel

theorem lines_render_iff_sunrise :
    (Text.lines sunrise.render).length = 3 ∧
      (Text.lines sunrise.render)[1]? =
        some "entity=sun runtime=#0 name=\"morning\\nevening\" parent=- components=[]" := by
  have hunbroken : sunrise.Unbroken := by
    refine ⟨?_, ?_, ?_, ?_⟩ <;> decide
  obtain ⟨hlength, hrecords⟩ := (lines_render_iff sunrise).1.2 hunbroken
  exact ⟨hlength, (hrecords 0 _ rfl).trans (by decide +kernel)⟩

end Report

end SceneLoad
