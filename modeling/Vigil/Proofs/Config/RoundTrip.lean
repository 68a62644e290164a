import Vigil.Config.File
import Vigil.Proofs.Except
import Vigil.Proofs.Files.Tree
import Vigil.Proofs.Toml.Document
import Vigil.Proofs.Toml.Scalar
import Vigil.Proofs.Toml.Text

/-!
# Configurations are read as they were written

Every setting is read as it was written, so a text of some sections with some settings is read
as the tables with these settings. What a table leaves out is as in the standard configuration.
Hence a file with any choice of settings is read as a configuration with these settings
(`Config.only`), and a configuration that was saved as a whole is loaded as it was.
-/

namespace Vigil

namespace Config

open Toml (Spells Reads IsKey Distinct pairsOf statementsOf tablesOf)
open Vigil.Except (eq_ok_of_toOption)

variable {text : String}

/-! ### Settings -/

namespace Setting

/-- The value of a setting in a document. -/
def value : Setting → Toml
  | .text s => .text s
  | word n => .integer n.toNat
  | integer i => .integer i.toInt

theorem spells_text (s : String) : Spells (Toml.writeText s).toList (.text s) := by
  obtain ⟨q, more, heq, hq⟩ := Toml.exists_writeText_eq s
  have hread (rest : List Char) :
      Toml.readText? ((Toml.writeText s).toList ++ '\n' :: rest) = some (s, '\n' :: rest) := by
    refine Toml.readText?_writeText s ?_ ?_ <;> simp
  refine ⟨?_, fun rest => ?_⟩
  · rw [heq]
    rintro c ⟨⟩
    rcases hq with rfl | rfl <;> rfl
  · have hthis := hread rest
    rw [heq] at hthis ⊢
    rcases hq with rfl | rfl <;> simp only [List.cons_append] at hthis ⊢ <;>
      rw [Toml.readValue?, hthis] <;> rfl

theorem spells_integer {i : Int} (hlow : Int64.minValue.toInt ≤ i)
    (hhigh : i ≤ Int64.maxValue.toInt) : Spells (Toml.numeral i) (.integer i) := by
  have hchar {c x : Char} {more : List Char} (heq : Toml.numeral i = c :: more)
      (hx : Toml.isWordChar x = false) : c ≠ x := by
    rintro rfl
    have hword := Toml.isWordChar_numeral i c (heq ▸ List.mem_cons_self)
    rw [hx] at hword
    cases hword
  obtain ⟨c, more, heq⟩ := List.exists_cons_of_ne_nil (Toml.numeral_ne_nil i)
  refine ⟨?_, fun rest => ?_⟩
  · rw [heq]
    rintro c ⟨⟩
    rw [Toml.isSpace, Bool.or_eq_false_iff, beq_eq_false_iff_ne, beq_eq_false_iff_ne]
    exact ⟨hchar heq rfl, hchar heq rfl⟩
  · have hread := Toml.readWord?_numeral hlow hhigh rest
    rw [heq, List.cons_append] at hread ⊢
    unfold Toml.readValue?
    split
    · next h => exact absurd (List.cons.inj h).1 (hchar heq rfl)
    · next h => exact absurd (List.cons.inj h).1 (hchar heq rfl)
    · next h => exact absurd (List.cons.inj h).1 (hchar heq rfl)
    · next h => exact absurd (List.cons.inj h).1 (hchar heq rfl)
    · exact hread

/-- A setting that can be written is read as its value. -/
theorem spells_toml? {v : Setting} (h : v.toml? = some text) : Spells text.toList v.value := by
  cases v with
  | text s =>
      cases h
      exact spells_text s
  | word n =>
      simp only [toml?] at h
      split at h
      · next hhigh =>
        cases h
        rw [Toml.toList_toString_nat]
        exact spells_integer (Int.le_trans (by decide) (Int.natCast_nonneg n.toNat)) hhigh
      · cases h
  | integer i =>
      cases h
      rw [Toml.toList_toString_int]
      exact spells_integer i.minValue_le_toInt i.toInt_le

end Setting

/-! ### Sections -/

/-- The values of the settings of sections. -/
def values (sections : List (String × List (String × Setting))) : List (String × Toml.Fields) :=
  sections.map fun p => (p.1, p.2.map fun q => (q.1, q.2.value))

theorem reads_settings {settings : List (String × Setting)} {lines : List String}
    (h : (settings.mapM fun (key, v) => return key ++ " = " ++ (← Setting.toml? v) ++ "\n") =
      some lines)
    (hkeys : ∀ q ∈ settings, IsKey q.1) {s : List Char} {statements : List Toml.Statement}
    (hs : Reads s statements) :
    Reads ((String.join lines).toList ++ s)
      (pairsOf (settings.map fun q => (q.1, q.2.value)) ++ statements) := by
  induction settings generalizing lines with
  | nil =>
      cases h
      exact hs
  | cons q settings ih =>
      obtain ⟨key, v⟩ := q
      rw [List.mapM_cons] at h
      simp only [Option.bind_eq_bind, Option.bind_eq_some_iff, Option.pure_def,
        Option.some.injEq] at h
      obtain ⟨line, ⟨text, htext, rfl⟩, lines, hlines, rfl⟩ := h
      have hline : (key ++ " = " ++ text ++ "\n").toList = Toml.pairLine key text.toList := by
        simp [Toml.pairLine]
      have hjoin : (String.join ((key ++ " = " ++ text ++ "\n") :: lines)).toList ++ s =
          Toml.pairLine key text.toList ++ ((String.join lines).toList ++ s) := by
        rw [String.toList_join, List.flatMap_cons, hline, String.toList_join, List.append_assoc]
      rw [hjoin]
      exact (ih hlines fun q hq => hkeys q (List.mem_cons_of_mem _ hq)).pair
        (hkeys _ List.mem_cons_self) (Setting.spells_toml? htext)

/-- A section is read as its header and its settings. -/
theorem reads_section {name : String} {settings : List (String × Setting)}
    (h : sectionToml? name settings = some text) (hname : IsKey name)
    (hkeys : ∀ q ∈ settings, IsKey q.1) {s : List Char} {statements : List Toml.Statement}
    (hs : Reads s statements) :
    Reads (text.toList ++ s) (.header false [name] ::
      (pairsOf (settings.map fun q => (q.1, q.2.value)) ++ statements)) := by
  obtain ⟨lines, hlines, htext⟩ := Option.bind_eq_some_iff.1 h
  cases htext
  have hheader : ("[" ++ name ++ "]\n" ++ String.join lines).toList ++ s =
      Toml.headerLine name ++ ((String.join lines).toList ++ s) := by
    simp [Toml.headerLine]
  rw [hheader]
  exact (reads_settings hlines hkeys hs).header hname

/-- Sections are read one after another. -/
theorem reads_sections {sections : List (String × List (String × Setting))} {texts : List String}
    (h : (sections.mapM fun (name, settings) => sectionToml? name settings) = some texts)
    (hnames : ∀ p ∈ sections, IsKey p.1) (hkeys : ∀ p ∈ sections, ∀ q ∈ p.2, IsKey q.1) :
    Reads ("\n".intercalate texts).toList (statementsOf (values sections)) := by
  induction sections generalizing texts with
  | nil =>
      cases h
      exact .nil
  | cons p sections ih =>
      obtain ⟨name, settings⟩ := p
      rw [List.mapM_cons] at h
      simp only [Option.bind_eq_bind, Option.bind_eq_some_iff, Option.pure_def,
        Option.some.injEq] at h
      obtain ⟨text, htext, texts, htexts, rfl⟩ := h
      have hrest := ih htexts (fun p hp => hnames p (List.mem_cons_of_mem _ hp))
        fun p hp => hkeys p (List.mem_cons_of_mem _ hp)
      have hsection {s : List Char} {statements : List Toml.Statement} (hs : Reads s statements) :=
        reads_section htext (hnames _ List.mem_cons_self) (hkeys _ List.mem_cons_self) hs
      cases texts with
      | nil =>
          have hjoin : ("\n".intercalate [text]).toList =
              text.toList ++ ("\n".intercalate []).toList := by
            simp
          rw [hjoin]
          exact hsection hrest
      | cons next texts =>
          have hjoin : ("\n".intercalate (text :: next :: texts)).toList =
              text.toList ++ '\n' :: ("\n".intercalate (next :: texts)).toList := by
            simp [String.toList_intercalate, List.intercalate]
          rw [hjoin]
          exact hsection hrest.blank

/-- A text of sections starts with a bracket, or it is empty. -/
theorem head?_sectionsToml? {sections : List (String × List (String × Setting))}
    {texts : List String}
    (h : (sections.mapM fun (name, settings) => sectionToml? name settings) = some texts) :
    ("\n".intercalate texts).toList.head? ≠ some '\ufeff' := by
  cases sections with
  | nil =>
      cases h
      decide
  | cons p sections =>
      obtain ⟨name, settings⟩ := p
      rw [List.mapM_cons] at h
      simp only [Option.bind_eq_bind, Option.bind_eq_some_iff, Option.pure_def,
        Option.some.injEq] at h
      obtain ⟨text, htext, texts, -, rfl⟩ := h
      obtain ⟨lines, -, heq⟩ := Option.bind_eq_some_iff.1 htext
      cases heq
      cases texts <;> simp [String.toList_intercalate, List.intercalate]

/-- The document that a text of sections writes. -/
theorem ofText?_sectionsToml? {sections : List (String × List (String × Setting))}
    (h : sectionsToml? sections = some text) (hnames : ∀ p ∈ sections, IsKey p.1)
    (hkeys : ∀ p ∈ sections, ∀ q ∈ p.2, IsKey q.1) (hdistinct : Distinct (values sections)) :
    Toml.ofText? text = some (.table .headed (tablesOf (values sections))) := by
  obtain ⟨texts, htexts, htext⟩ := Option.bind_eq_some_iff.1 h
  cases htext
  exact Toml.ofText?_of_reads hdistinct (reads_sections htexts hnames hkeys)
    (head?_sectionsToml? htexts)

/-! ### Choices of settings -/

/-- A choice of sections and of settings in them. -/
structure Choice where
  hasSection : String → Bool
  hasKey : String → String → Bool

namespace Choice

/-- Everything is chosen. -/
def all : Choice := ⟨fun _ => true, fun _ _ => true⟩

/-- Whether a setting is chosen. -/
def has (k : Choice) (name key : String) : Bool := k.hasSection name && k.hasKey name key

/-- The chosen settings, in the chosen sections. -/
def of (k : Choice) (sections : List (String × List (String × Setting))) :
    List (String × List (String × Setting)) :=
  (sections.filter fun p => k.hasSection p.1).map fun p =>
    (p.1, p.2.filter fun q => k.hasKey p.1 q.1)

theorem of_all (sections : List (String × List (String × Setting))) :
    all.of sections = sections := by
  have hall {α : Type} (l : List α) : (l.filter fun _ => true) = l :=
    List.filter_eq_self.2 fun _ _ => rfl
  simp only [of, all, hall]
  exact List.map_id sections

end Choice

/-- A configuration with the chosen settings; the others are as in the standard one. -/
def only (k : Choice) (c : Config) : Config where
  database :=
    { path := if k.has "database" "path" then c.database.path else standard.database.path
      poolSize :=
        if k.has "database" "pool_size" then c.database.poolSize else standard.database.poolSize }
  scheduler :=
    { tickSeconds := if k.has "scheduler" "tick_seconds" then c.scheduler.tickSeconds
        else standard.scheduler.tickSeconds
      lookaheadSeconds := if k.has "scheduler" "lookahead_seconds" then c.scheduler.lookaheadSeconds
        else standard.scheduler.lookaheadSeconds
      staggerMillis := if k.has "scheduler" "stagger_ms" then c.scheduler.staggerMillis
        else standard.scheduler.staggerMillis
      shutdownGraceSeconds :=
        if k.has "scheduler" "shutdown_grace_seconds" then c.scheduler.shutdownGraceSeconds
        else standard.scheduler.shutdownGraceSeconds
      budgetGraceSeconds :=
        if k.has "scheduler" "budget_grace_seconds" then c.scheduler.budgetGraceSeconds
        else standard.scheduler.budgetGraceSeconds }
  retention :=
    { historyDays := if k.has "retention" "history_days" then c.retention.historyDays
        else standard.retention.historyDays
      eventLogDays := if k.has "retention" "event_log_days" then c.retention.eventLogDays
        else standard.retention.eventLogDays
      intervalSeconds := if k.has "retention" "interval_seconds" then c.retention.intervalSeconds
        else standard.retention.intervalSeconds }
  exportPath := if k.has "export" "path" then c.exportPath else standard.exportPath
  logLevel := if k.has "logging" "level" then c.logLevel else standard.logLevel

theorem only_all (c : Config) : c.only .all = c := rfl

/-- The names of sections are keys and given once, and so are the keys in each section. -/
structure WellNamed (sections : List (String × List (String × Setting))) : Prop where
  isKey_name : ∀ p ∈ sections, IsKey p.1
  isKey_key : ∀ p ∈ sections, ∀ q ∈ p.2, IsKey q.1
  nodup_names : (sections.map (·.1)).Nodup
  nodup_keys : ∀ p ∈ sections, (p.2.map (·.1)).Nodup

theorem wellNamed_sections (c : Config) : WellNamed c.sections := by
  have hnames : c.sections.map (·.1) =
      ["database", "scheduler", "retention", "export", "logging"] := rfl
  have hkeys : ∀ keys ∈ c.sections.map (fun p => p.2.map (·.1)),
      keys.Nodup ∧ ∀ key ∈ keys, IsKey key := by
    have hsections : c.sections.map (fun p => p.2.map (·.1)) =
        [["path", "pool_size"], ["tick_seconds", "lookahead_seconds", "stagger_ms",
          "shutdown_grace_seconds", "budget_grace_seconds"],
          ["history_days", "event_log_days", "interval_seconds"],
          if c.exportPath.isSome then ["path"] else [], ["level"]] := by
      cases hpath : c.exportPath <;> simp [sections, hpath]
    rw [hsections]
    cases c.exportPath.isSome <;> decide
  constructor
  · intro p hp
    have hall : ∀ name ∈ c.sections.map (·.1), IsKey name := by
      rw [hnames]
      decide
    exact hall p.1 (List.mem_map_of_mem hp)
  · intro p hp q hq
    exact (hkeys _ (List.mem_map_of_mem hp)).2 q.1 (List.mem_map_of_mem hq)
  · rw [hnames]
    decide
  · intro p hp
    exact (hkeys _ (List.mem_map_of_mem hp)).1

namespace WellNamed

variable {sections : List (String × List (String × Setting))}

theorem choice (h : WellNamed sections) (k : Choice) : WellNamed (k.of sections) := by
  have hmem {p : String × List (String × Setting)} (hp : p ∈ k.of sections) :
      ∃ q ∈ sections, q.1 = p.1 ∧ p.2.Sublist q.2 := by
    obtain ⟨q, hq, rfl⟩ := List.mem_map.1 hp
    exact ⟨q, (List.mem_filter.1 hq).1, rfl, List.filter_sublist⟩
  constructor
  · intro p hp
    obtain ⟨q, hq, hname, -⟩ := hmem hp
    exact hname ▸ h.isKey_name q hq
  · intro p hp setting hsetting
    obtain ⟨q, hq, -, hsublist⟩ := hmem hp
    exact h.isKey_key q hq setting (hsublist.subset hsetting)
  · have hnames : (k.of sections).map (·.1) =
        (sections.filter fun p => k.hasSection p.1).map (·.1) := by
      rw [Choice.of, List.map_map]
      rfl
    rw [hnames]
    exact h.nodup_names.sublist (List.filter_sublist.map _)
  · intro p hp
    obtain ⟨q, hq, -, hsublist⟩ := hmem hp
    exact (h.nodup_keys q hq).sublist (hsublist.map _)

theorem distinct_values (h : WellNamed sections) : Distinct (values sections) where
  names := by
    rw [values, List.map_map]
    exact h.nodup_names
  keys := by
    intro p hp
    obtain ⟨q, hq, rfl⟩ := List.mem_map.1 hp
    rw [List.map_map]
    exact h.nodup_keys q hq

end WellNamed

/-! ### What a choice of settings is read as -/

theorem lookup_map_key {α β : Type} (f : String → α → β) (entries : List (String × α))
    (key : String) :
    (entries.map fun p => (p.1, f p.1 p.2)).lookup key = (entries.lookup key).map (f key) := by
  induction entries with
  | nil => rfl
  | cons p entries ih =>
      rw [List.map_cons, List.lookup_cons, List.lookup_cons, ih]
      by_cases hkey : key = p.1
      · rw [hkey, beq_self_eq_true]
        rfl
      · rw [beq_eq_false_iff_ne.2 hkey]

/-- The fields of the chosen settings of a section. -/
def chosenFields (k : Choice) (name : String) (settings : List (String × Setting)) : Toml.Fields :=
  (settings.filter fun q => k.hasKey name q.1).map fun q => (q.1, q.2.value)

theorem lookup_tablesOf (k : Choice) (sections : List (String × List (String × Setting)))
    (name : String) :
    (tablesOf (values (k.of sections))).lookup name =
      if k.hasSection name then
        (sections.lookup name).map fun settings => .table .headed (chosenFields k name settings)
      else none := by
  have htables : tablesOf (values (k.of sections)) =
      (sections.filter fun p => k.hasSection p.1).map fun p =>
        (p.1, .table .headed (chosenFields k p.1 p.2)) := by
    simp only [tablesOf, values, Choice.of, List.map_map, Function.comp_def, chosenFields]
  have hlookup := lookup_map_key
    (fun name (settings : List (String × Setting)) =>
      Toml.table .headed (chosenFields k name settings))
    (sections.filter fun p => k.hasSection p.1) name
  rw [htables, hlookup, lookup_filter_key]
  split <;> rfl

theorem lookup_chosenFields (k : Choice) (name : String) (settings : List (String × Setting))
    (key : String) :
    (chosenFields k name settings).lookup key =
      if k.hasKey name key then (settings.lookup key).map Setting.value else none := by
  rw [chosenFields, lookup_map_key fun _ v => Setting.value v, lookup_filter_key (k.hasKey name)]
  split <;> rfl

theorem word64?_value (n : UInt64) : word64? (Setting.word n).value = some n := by
  have hlt : (n.toNat : Int) < UInt64.size := by exact_mod_cast n.toNat_lt
  have hinteger : Settled.integer? (Setting.word n).value = some (n.toNat : Int) := rfl
  rw [word64?, hinteger, Option.bind_some, if_pos ⟨Int.natCast_nonneg _, hlt⟩]
  simp

theorem int64?_value (i : Int64) : int64? (Setting.integer i).value = some i := by
  have hinteger : Settled.integer? (Setting.integer i).value = some i.toInt := rfl
  rw [int64?, hinteger, Option.bind_some, if_pos ⟨i.minValue_le_toInt, i.toInt_le⟩]
  simp

/-- A setting is read if it is chosen, and is as in the standard configuration otherwise. -/
theorem orStandard_value {β : Type} {f : Toml → Option β} {v : Setting} {w : β}
    (h : f v.value = some w) (d : β) (chosen : Bool) :
    orStandard f d (if chosen then some v.value else none) = some (if chosen then w else d) := by
  cases chosen with
  | false => rfl
  | true => exact h

theorem orStandard_text (s d : String) (chosen : Bool) :
    orStandard Settled.text? d (if chosen then some (Setting.text s).value else none) =
      some (if chosen then s else d) :=
  orStandard_value (f := Settled.text?) (v := .text s) rfl d chosen

theorem orStandard_word (n d : UInt64) (chosen : Bool) :
    orStandard word64? d (if chosen then some (Setting.word n).value else none) =
      some (if chosen then n else d) :=
  orStandard_value (word64?_value n) d chosen

theorem orStandard_integer (i d : Int64) (chosen : Bool) :
    orStandard int64? d (if chosen then some (Setting.integer i).value else none) =
      some (if chosen then i else d) :=
  orStandard_value (int64?_value i) d chosen

theorem fields?_chosenFields (k : Choice) (name : String) (settings : List (String × Setting))
    (keys : List String) :
    Settled.fields? keys (Toml.table .headed (chosenFields k name settings)) =
      some (keys.map fun key =>
        if k.hasKey name key then (settings.lookup key).map Setting.value else none) := by
  have hlookup : Settled.fields? keys (Toml.table .headed (chosenFields k name settings)) =
      some (keys.map fun key => (chosenFields k name settings).lookup key) := rfl
  simp only [hlookup, lookup_chosenFields]

/-- A section is read if it is chosen, and is as in the standard configuration otherwise. -/
theorem orStandard_section {β : Type} {f : Toml → Option β} {d w : β} {c : Config} {k : Choice}
    {name : String} {settings : List (String × Setting)}
    (hsettings : c.sections.lookup name = some settings)
    (hout : k.hasSection name = false → d = w)
    (hin : k.hasSection name = true →
      f (.table .headed (chosenFields k name settings)) = some w) :
    orStandard f d ((tablesOf (values (k.of c.sections))).lookup name) = some w := by
  rw [lookup_tablesOf, hsettings, Option.map_some]
  cases hsection : k.hasSection name with
  | false => exact congrArg some (hout hsection)
  | true => exact hin hsection

section

variable (k : Choice) (c : Config)

theorem database?_chosen :
    orStandard database? .standard ((tablesOf (values (k.of c.sections))).lookup "database") =
      some (c.only k).database := by
  refine orStandard_section rfl (fun hout => ?_) fun hin => ?_
  · simp only [only, Choice.has, hout]
    rfl
  · simp only [database?, fields?_chosenFields, List.map_cons, List.map_nil, Option.bind_eq_bind,
      Option.bind_some, List.lookup_cons, beq_self_eq_true, String.reduceBEq, Option.map_some,
      orStandard_text, orStandard_word, only, Choice.has, hin, Bool.true_and]
    rfl

theorem scheduler?_chosen :
    orStandard scheduler? .standard ((tablesOf (values (k.of c.sections))).lookup "scheduler") =
      some (c.only k).scheduler := by
  refine orStandard_section rfl (fun hout => ?_) fun hin => ?_
  · simp only [only, Choice.has, hout]
    rfl
  · simp only [scheduler?, fields?_chosenFields, List.map_cons, List.map_nil, Option.bind_eq_bind,
      Option.bind_some, List.lookup_cons, beq_self_eq_true, String.reduceBEq, Option.map_some,
      orStandard_word, only, Choice.has, hin, Bool.true_and]
    rfl

theorem retention?_chosen :
    orStandard retention? .standard ((tablesOf (values (k.of c.sections))).lookup "retention") =
      some (c.only k).retention := by
  refine orStandard_section rfl (fun hout => ?_) fun hin => ?_
  · simp only [only, Choice.has, hout]
    rfl
  · simp only [retention?, fields?_chosenFields, List.map_cons, List.map_nil, Option.bind_eq_bind,
      Option.bind_some, List.lookup_cons, beq_self_eq_true, String.reduceBEq, Option.map_some,
      orStandard_word, orStandard_integer, only, Choice.has, hin, Bool.true_and]
    rfl

theorem exportPath?_chosen :
    orStandard exportPath? none ((tablesOf (values (k.of c.sections))).lookup "export") =
      some (c.only k).exportPath := by
  refine orStandard_section rfl (fun hout => ?_) fun hin => ?_
  · simp only [only, Choice.has, hout]
    rfl
  · simp only [exportPath?, fields?_chosenFields, List.map_cons, List.map_nil, Option.bind_eq_bind,
      Option.bind_some, only, Choice.has, hin, Bool.true_and]
    cases c.exportPath with
    | none => cases k.hasKey "export" "path" <;> rfl
    | some path => cases k.hasKey "export" "path" <;> rfl

theorem logLevel?_chosen :
    orStandard logLevel? standard.logLevel
        ((tablesOf (values (k.of c.sections))).lookup "logging") =
      some (c.only k).logLevel := by
  refine orStandard_section rfl (fun hout => ?_) fun hin => ?_
  · simp only [only, Choice.has, hout]
    rfl
  · simp only [logLevel?, fields?_chosenFields, List.map_cons, List.map_nil, Option.bind_eq_bind,
      Option.bind_some, List.lookup_cons, beq_self_eq_true, Option.map_some, orStandard_text, only,
      Choice.has, hin, Bool.true_and]

/-- A document with some settings is read as a configuration with these settings. -/
theorem of?_chosen :
    of? (Toml.table .headed (tablesOf (values (k.of c.sections)))) = some (c.only k) := by
  have hfields : Settled.fields? ["database", "scheduler", "retention", "export", "logging"]
      (Toml.table .headed (tablesOf (values (k.of c.sections)))) =
        some (["database", "scheduler", "retention", "export", "logging"].map fun name =>
          (tablesOf (values (k.of c.sections))).lookup name) := rfl
  simp only [of?, hfields, List.map_cons, List.map_nil, Option.bind_eq_bind, Option.bind_some,
    database?_chosen, scheduler?_chosen, retention?_chosen, exportPath?_chosen, logLevel?_chosen]
  rfl

/-- A text of some settings is read as a configuration with these settings. -/
theorem ofText?_chosen (h : sectionsToml? (k.of c.sections) = some text) :
    ofText? text = some (c.only k) := by
  have hnamed := c.wellNamed_sections.choice k
  rw [ofText?, ofText?_sectionsToml? h hnamed.isKey_name hnamed.isKey_key hnamed.distinct_values,
    Option.bind_some, of?_chosen]

end

/-! ### What can be written -/

/-- The whole numbers of a configuration. -/
def integers (c : Config) : List Int :=
  [c.database.poolSize.toNat, c.scheduler.tickSeconds.toNat, c.scheduler.lookaheadSeconds.toNat,
    c.scheduler.staggerMillis.toNat, c.scheduler.shutdownGraceSeconds.toNat,
    c.scheduler.budgetGraceSeconds.toNat, c.retention.historyDays.toInt,
    c.retention.eventLogDays.toInt, c.retention.intervalSeconds.toNat]

/-- No whole number is too great for TOML. -/
def Fits (c : Config) : Prop := ∀ i ∈ c.integers, i ≤ Int64.maxValue.toInt

instance (c : Config) : Decidable c.Fits :=
  inferInstanceAs (Decidable (∀ i ∈ c.integers, i ≤ Int64.maxValue.toInt))

theorem isSome_mapM {α β : Type} {f : α → Option β} {l : List α} :
    (l.mapM f).isSome = true ↔ ∀ a ∈ l, (f a).isSome = true := by
  induction l with
  | nil => simp
  | cons a l ih =>
      rw [List.mapM_cons, List.forall_mem_cons, ← ih]
      cases f a <;> cases l.mapM f <;> simp

/-- Whether a setting can be written. -/
def Setting.Fits : Setting → Prop
  | .text _ => True
  | word n => (n.toNat : Int) ≤ Int64.maxValue.toInt
  | integer _ => True

@[simp] theorem Setting.fits_text (s : String) : (Setting.text s).Fits ↔ True := .rfl

@[simp] theorem Setting.fits_word (n : UInt64) :
    (Setting.word n).Fits ↔ (n.toNat : Int) ≤ Int64.maxValue.toInt := .rfl

@[simp] theorem Setting.fits_integer (i : Int64) : (Setting.integer i).Fits ↔ True := .rfl

theorem Setting.isSome_toml? (v : Setting) : v.toml?.isSome = true ↔ v.Fits := by
  cases v with
  | text s => exact ⟨fun _ => trivial, fun _ => rfl⟩
  | word n =>
      simp only [toml?, Fits]
      by_cases h : (n.toNat : Int) ≤ Int64.maxValue.toInt
      · rw [if_pos h]
        exact ⟨fun _ => h, fun _ => rfl⟩
      · rw [if_neg h]
        exact ⟨fun hnone => absurd hnone Bool.false_ne_true, fun hle => absurd hle h⟩
  | integer i => exact ⟨fun _ => trivial, fun _ => rfl⟩

theorem isSome_sectionToml? (name : String) (settings : List (String × Setting)) :
    (sectionToml? name settings).isSome = true ↔ ∀ q ∈ settings, q.2.Fits := by
  have hsection : (sectionToml? name settings).isSome =
      (settings.mapM fun (key, v) =>
        return key ++ " = " ++ (← Setting.toml? v) ++ "\n").isSome := by
    unfold sectionToml?
    cases settings.mapM fun (key, v) => return key ++ " = " ++ (← Setting.toml? v) ++ "\n" <;> rfl
  rw [hsection, isSome_mapM]
  refine forall₂_congr fun q _ => ?_
  obtain ⟨key, v⟩ := q
  rw [← Setting.isSome_toml?]
  cases htext : v.toml? <;> simp [htext]

theorem isSome_sectionsToml? (sections : List (String × List (String × Setting))) :
    (sectionsToml? sections).isSome = true ↔ ∀ p ∈ sections, ∀ q ∈ p.2, q.2.Fits := by
  have hsections : (sectionsToml? sections).isSome =
      (sections.mapM fun (name, settings) => sectionToml? name settings).isSome := by
    unfold sectionsToml?
    cases sections.mapM fun (name, settings) => sectionToml? name settings <;> rfl
  rw [hsections, isSome_mapM]
  exact forall₂_congr fun p _ => isSome_sectionToml? p.1 p.2

theorem fits_iff (c : Config) : c.Fits ↔ ∀ p ∈ c.sections, ∀ q ∈ p.2, q.2.Fits := by
  have hdays : ∀ i : Int64, i.toInt ≤ Int64.maxValue.toInt := Int64.toInt_le
  have hexport : (∀ q ∈ (c.exportPath.map fun path => ("path", Setting.text path)).toList,
      q.2.Fits) ↔ True := by
    cases c.exportPath <;> simp
  simp only [Fits, integers, sections, List.forall_mem_cons, List.not_mem_nil, Setting.fits_text,
    Setting.fits_word, Setting.fits_integer, hexport, hdays, true_and, and_true,
    false_imp_iff, implies_true, and_assoc]

/-- What fits can be written, and so can any choice of its settings. -/
theorem exists_sectionsToml? {c : Config} (h : c.Fits) (k : Choice) :
    ∃ text, sectionsToml? (k.of c.sections) = some text := by
  refine Option.isSome_iff_exists.1 ((isSome_sectionsToml? _).2 fun p hp q hq => ?_)
  obtain ⟨r, hr, rfl⟩ := List.mem_map.1 hp
  exact c.fits_iff.1 h r (List.mem_filter.1 hr).1 q (List.mem_filter.1 hq).1

theorem toml?_eq_none {c : Config} (h : ¬c.Fits) : c.toml? = none := by
  rw [← Option.not_isSome_iff_eq_none, toml?, isSome_sectionsToml?, ← fits_iff]
  exact h

/-! ### Files -/

theorem isExtension_toml : Path.IsExtension "toml" where
  ne_nil := by decide
  plain := by simp

section

variable {c : Config} {path : String} {t made : FileTree} {place : Place}

theorem load_of_readText (h : t.readText path = .ok text) (hc : ofText? text = some c) :
    load path t = (.ok c, t) := by
  rw [load, if_pos (FileTree.contains_of_readText h), h]
  simp only [hc]

theorem save_of_toml? (h : c.toml? = some text) (hparents : t.makeParents path = (.ok (), made))
    (hplace : made.placeOfFile path = .ok place) :
    c.save path t = (.ok (), made.set place (.file text.toUTF8.toList)) := by
  simp only [save, h, hparents, FileTree.write, hplace, bind, Except.bind, pure, Except.pure,
    octets]

/-- What was saved is loaded. -/
theorem load_save (h : c.Fits) (hpath : Path.HasExtension "toml" path)
    (hparents : t.makeParents path = (.ok (), made)) (hplace : made.placeOfFile path = .ok place) :
    ∃ after, c.save path t = (.ok (), after) ∧ load (filePath path) after = (.ok c, after) := by
  obtain ⟨text, htext⟩ := exists_sectionsToml? h .all
  have hread : ofText? text = some c := by rw [ofText?_chosen .all c htext, only_all]
  rw [Choice.of_all] at htext
  refine ⟨_, save_of_toml? htext hparents hplace, ?_⟩
  rw [filePath, Path.withExtension_of_hasExtension isExtension_toml hpath]
  exact load_of_readText (FileTree.readText_set hplace text) hread

end

/-- A configuration that fits is saved and loaded as it was, if the path has the extension and
can be written to; a file with any choice of its settings is loaded as a configuration with
these settings; and one that does not fit is not saved, and nothing is touched. -/
theorem round_trip (c : Config) :
    (c.Fits → ∀ (path : String) (t made : FileTree) (place : Place),
      Path.HasExtension "toml" path → t.makeParents path = (.ok (), made) →
      made.placeOfFile path = .ok place →
        ∃ after, c.save path t = (.ok (), after) ∧ load (filePath path) after = (.ok c, after)) ∧
    (c.Fits → ∀ k : Choice, ∃ text, sectionsToml? (k.of c.sections) = some text ∧
      ∀ (path : String) (t : FileTree), t.readText path = .ok text →
        load path t = (.ok (c.only k), t)) ∧
    (¬c.Fits → ∀ (path : String) (t : FileTree), c.save path t = (.error .serializeFailed, t)) := by
  refine ⟨fun h path t made place hpath hparents hplace => load_save h hpath hparents hplace,
    fun h k => ?_, fun h path t => ?_⟩
  · obtain ⟨text, htext⟩ := exists_sectionsToml? h k
    exact ⟨text, htext, fun path t hread => load_of_readText hread (ofText?_chosen k c htext)⟩
  · rw [save, toml?_eq_none h]

namespace Sample

/-- The standard configuration, but for the level of the log. -/
def verbose : Config := { standard with logLevel := "debug" }

/-- As `verbose`, with another number of connections. -/
def pooled : Config :=
  { verbose with database := { standard.database with poolSize := 7 } }

/-- The level of the log, and nothing else. -/
def level : Choice := ⟨(· == "logging"), fun _ key => key == "level"⟩

/-- A configuration with a number that is too great. -/
def crowded : Config :=
  { standard with database := { standard.database with poolSize := 9223372036854775808 } }

/-- A tree with one directory. -/
def tree : FileTree := FileTree.empty.set ["etc"] .directory

/-- A tree with a file that holds the level of the log. -/
def levelTree : FileTree :=
  tree.set ["etc", "c.toml"] (.file (octets "[logging]\nlevel = \"debug\"\n"))

end Sample

theorem round_trip_sample :
    (∃ after, Sample.verbose.save "etc/c.toml" Sample.tree = (.ok (), after) ∧
      load (filePath "etc/c.toml") after = (.ok Sample.verbose, after)) ∧
    load "etc/c.toml" Sample.levelTree = (.ok Sample.verbose, Sample.levelTree) ∧
    Sample.crowded.save "etc/c.toml" Sample.tree = (.error .serializeFailed, Sample.tree) := by
  have hfits : Sample.verbose.Fits := by decide +kernel
  have hpath : Path.HasExtension "toml" "etc/c.toml" :=
    ⟨['e', 't', 'c', '/'], 'c', by decide, by decide +kernel⟩
  have hplace : Sample.tree.placeOfFile "etc/c.toml" = .ok ["etc", "c.toml"] :=
    eq_ok_of_toOption (by decide +kernel)
  have hlevel : load "etc/c.toml" Sample.levelTree = (.ok Sample.verbose, Sample.levelTree) := by
    have hpooled : Sample.pooled.Fits := by decide +kernel
    obtain ⟨text, htext, hload⟩ := (round_trip Sample.pooled).2.1 hpooled Sample.level
    have hknown : sectionsToml? (Sample.level.of Sample.pooled.sections) =
        some "[logging]\nlevel = \"debug\"\n" := by decide +kernel
    cases hknown.symm.trans htext
    exact hload _ _ (eq_ok_of_toOption (by decide +kernel))
  have hgreat : ¬Sample.crowded.Fits := by decide +kernel
  exact ⟨(round_trip Sample.verbose).1 hfits _ _ _ _ hpath rfl hplace, hlevel,
    (round_trip Sample.crowded).2.2 hgreat _ _⟩

/-- A name that is the extension alone has none, so what is saved there is not loaded: another
file is made beside it. -/
theorem not_round_trip_bare_extension :
    ¬∀ (c : Config) (path : String) (t made : FileTree) (place : Place), c.Fits →
      path.endsWith ".toml" = true → t.makeParents path = (.ok (), made) →
      made.placeOfFile path = .ok place →
        ∃ after, c.save path t = (.ok (), after) ∧ (load (filePath path) after).1 = .ok c := by
  intro h
  have hplace : FileTree.empty.placeOfFile ".toml" = .ok [".toml"] :=
    eq_ok_of_toOption (by decide +kernel)
  obtain ⟨after, hsave, hload⟩ := h Sample.verbose ".toml" .empty .empty [".toml"]
    (by decide +kernel) (by decide +kernel) rfl hplace
  have hstandard : (load (filePath ".toml") (Sample.verbose.save ".toml" .empty).2).1.toOption =
      some standard := by
    decide +kernel
  rw [hsave, hload] at hstandard
  exact absurd (Option.some.inj hstandard) (by decide +kernel)

end Config

end Vigil
