import Mathlib.Data.List.Forall2
import Nullability.Proofs.ColourSequences
import Nullability.Report.Document

/-!
What a report for a terminal holds, in colour and without. The plain text is made of lines: for each record its
heading and the table of its fields, for each failure one line, and a last line that counts both. Control
characters stand in these lines only where they stand in the names and messages that are reported, so with
none of these an escape character belongs to a colour sequence, and a line break ends a line.
-/

namespace Nullability

theorem Text.Lacks.of_mem_lines {c : Char} {text line : String} (h : Lacks c text) (hline : line ∈ lines text) :
    Lacks c line := by
  obtain ⟨piece, hpiece, rfl⟩ := List.mem_map.mp hline
  rw [Lacks, String.toList_ofList]
  intro hmem
  have hjoined : c ∈ joinPieces '\n' (pieces '\n' text.toList) := mem_joinPieces_of_mem hpiece hmem
  rw [joinPieces_pieces] at hjoined
  exact h hjoined

/-- The names of a specification do not hold a character. -/
structure BuilderSpec.Lacks (c : Char) (s : BuilderSpec) : Prop where
  record : Text.Lacks c s.record
  file : ∀ file ∈ s.file, Text.Lacks c file
  fields : ∀ f ∈ s.fields, Text.Lacks c f.name

/-- The texts of a failure do not hold a character. -/
structure Failure.Lacks (c : Char) (f : Failure) : Prop where
  path : Text.Lacks c f.path
  record : ∀ record ∈ f.record, Text.Lacks c record
  error : Text.Lacks c f.error

namespace Report

open Text

variable {c : Char}

/-! ### Tables -/

namespace Grid

/-- The characters of a rule. -/
def Rule.chars (r : Rule) : List Char := r.fill :: (r.left ++ r.cross ++ r.right).toList

theorem Rule.lacks_line {r : Rule} (h : c ∉ r.chars) (widths : List Nat) : Lacks c (r.line widths) := by
  rw [chars, List.mem_cons, not_or] at h
  obtain ⟨hfill, hends⟩ := h
  rw [← Lacks, lacks_append_iff, lacks_append_iff] at hends
  refine (hends.1.1.append (hends.1.2.intercalate fun t ht => ?_)).append hends.2
  obtain ⟨w, -, rfl⟩ := List.mem_map.mp ht
  exact lacks_replicate hfill _

theorem lacks_padded (hc : c.toNat < 32) {line : String} (h : Lacks c line) (width : Nat) :
    Lacks c (padded width line) := by
  have hblank : Lacks c " " := lacks_of_printable hc rfl
  have hne : c ≠ ' ' := fun heq => absurd (heq ▸ hc) (by decide)
  exact ((hblank.append h).append (lacks_replicate hne _)).append hblank

/-- The lines of a row have the characters of its cells and of the frame. -/
theorem lacks_rowLines (hc : c.toNat < 32) {row : List String} (widths : List Nat)
    (h : ∀ cell ∈ row, Lacks c cell) : ∀ line ∈ rowLines widths row, Lacks c line := by
  intro line hline
  obtain ⟨i, -, rfl⟩ := List.mem_map.mp hline
  have hleft : Lacks c "│" := lacks_of_printable hc rfl
  have hcross : Lacks c "┆" := lacks_of_printable hc rfl
  refine (hleft.append (hcross.intercalate fun t ht => ?_)).append hleft
  rw [← List.map_uncurry_zip_eq_zipWith] at ht
  obtain ⟨⟨w, cell⟩, hmem, rfl⟩ := List.mem_map.mp ht
  obtain ⟨whole, hwhole, rfl⟩ := List.mem_map.mp (List.of_mem_zip hmem).2
  refine lacks_padded hc ?_ w
  rw [List.getD_eq_getElem?_getD]
  cases hi : (Text.lines whole)[i]? with
  | none => exact List.not_mem_nil
  | some line => exact (h whole hwhole).of_mem_lines (List.mem_of_getElem? hi)

/-- The lines of a table have the characters of its cells and of the frame. -/
theorem lacks_lines (hc : c.toNat < 32) {g : Grid}
    (h : ∀ row ∈ g.header :: g.rows, ∀ cell ∈ row, Lacks c cell) :
    ∀ line ∈ g.lines, Lacks c line := by
  rw [List.forall_mem_cons] at h
  have hrule (r : Rule) (hr : r.chars.all fun d => decide (32 ≤ d.toNat)) (widths : List Nat) :
      Lacks c (r.line widths) := by
    refine r.lacks_line (fun hmem => ?_) widths
    have hprintable : 32 ≤ c.toNat := of_decide_eq_true (List.all_eq_true.mp hr c hmem)
    omega
  intro line hline
  simp only [lines, List.mem_append, List.mem_singleton] at hline
  rcases hline with (((rfl | hline) | rfl) | hline) | rfl
  · exact hrule topRule rfl _
  · exact lacks_rowLines hc _ h.1 line hline
  · exact hrule headerRule rfl _
  · rcases mem_intercalate hline with hline | ⟨part, hpart, hline⟩
    · rw [List.mem_singleton.mp hline]
      exact hrule rowRule rfl _
    · obtain ⟨row, hrow, rfl⟩ := List.mem_map.mp hpart
      exact lacks_rowLines hc _ (h.2 row hrow) line hline
  · exact hrule bottomRule rfl _

end Grid

/-! ### Lines -/

/-- The lines of a record's section. -/
def sectionLines (s : BuilderSpec) : List String :=
  (s.record ++ locationSuffix s) ::
    if s.fields.isEmpty then ["  (no components)"] else (fieldGrid s).lines ++ [constructorLine s, ""]

/-- The last line of a report. -/
def closingLine (records failures : Nat) : String :=
  toString records ++ " record(s) classified"
    ++ if failures = 0 then "" else ", " ++ toString failures ++ " failure(s)"

/-- The lines of a report. -/
def reportLines (specs : List BuilderSpec) (failures : List Failure) : List String :=
  specs.flatMap sectionLines ++ failures.map (fun f => "✗ " ++ f.message)
    ++ [closingLine specs.length failures.length]

theorem render_specSection (s : BuilderSpec) : (specSection s).render false = ended (sectionLines s) := by
  have hheading : (heading s).render false = s.record ++ locationSuffix s ++ "\n" := by
    simp [heading, render_plain, Span.plain, String.append_assoc]
  rw [specSection, render_append, hheading, sectionLines, ended_cons]
  cases s.fields.isEmpty with
  | true => rfl
  | false =>
      simp only [Bool.false_eq_true, if_false]
      rw [render_append, ended_append, render_plain, List.map_map]
      rfl

theorem render_failureLine (f : Failure) : (failureLine f).render false = ended ["✗ " ++ f.message] := by
  simp [failureLine, render_plain, Span.plain, ended, ← String.append_assoc]

theorem render_statusLine (records failures : Nat) :
    (statusLine records failures).render false = ended [closingLine records failures] := by
  rw [statusLine, closingLine, render_append]
  split <;> simp [render_plain, Span.plain, ended, ← String.append_assoc]

/-- Parts that are written as lines are written together as all these lines. -/
theorem render_flatMap_of_lines {α : Type} {part : α → Styled} {lines : α → List String}
    (h : ∀ a, (part a).render false = ended (lines a)) (items : List α) :
    Styled.render false (items.flatMap part) = ended (items.flatMap lines) := by
  induction items with
  | nil => rfl
  | cons a items ih => rw [List.flatMap_cons, List.flatMap_cons, render_append, ended_append, h, ih]

theorem text_plain (specs : List BuilderSpec) (failures : List Failure) :
    text .terminal false specs failures = ended (reportLines specs failures) := by
  rw [text, terminal, render_append, render_append, render_flatMap_of_lines render_specSection,
    render_flatMap_of_lines render_failureLine, render_statusLine, reportLines, ended_append, ended_append,
    List.map_eq_flatMap]

/-! ### Control characters -/

theorem lacks_locationSuffix (hc : c.toNat < 32) {s : BuilderSpec} (hs : s.Lacks c) :
    Lacks c (locationSuffix s) := by
  rw [locationSuffix]
  split
  · next file line hfile hline =>
    have hopen : Lacks c " (" := lacks_of_printable hc rfl
    have hcolon : Lacks c ":" := lacks_of_printable hc rfl
    have hclose : Lacks c ")" := lacks_of_printable hc rfl
    exact (((hopen.append (hs.file file hfile)).append hcolon).append (lacks_number hc line)).append hclose
  · exact List.not_mem_nil

theorem lacks_constructorLine (hc : c.toNat < 32) {s : BuilderSpec} (hs : s.Lacks c) :
    Lacks c (constructorLine s) := by
  have hopen : Lacks c "  constructor: (" := lacks_of_printable hc rfl
  have hcomma : Lacks c ", " := lacks_of_printable hc rfl
  have hclose : Lacks c ")" := lacks_of_printable hc rfl
  refine (hopen.append (hcomma.intercalate fun t ht => ?_)).append hclose
  obtain ⟨f, hf, rfl⟩ := List.mem_map.mp ht
  exact hs.fields f (List.mem_of_mem_filter hf)

theorem lacks_fieldRow (hc : c.toNat < 32) {f : FieldSpec} (hf : Lacks c f.name) :
    ∀ cell ∈ [f.name, f.classification.name, absentValueLabel f.nullPolicy, (f.line.map toString).getD ""],
      Lacks c cell := by
  have hname : Lacks c f.classification.name := by
    cases f.classification <;> exact lacks_of_printable hc rfl
  have hlabel : Lacks c (absentValueLabel f.nullPolicy) := by
    cases f.nullPolicy <;> exact lacks_of_printable hc rfl
  have hline : Lacks c ((f.line.map toString).getD "") := by
    cases f.line with
    | none => exact List.not_mem_nil
    | some line => exact lacks_number hc line
  simp only [List.forall_mem_cons]
  exact ⟨hf, hname, hlabel, hline, fun cell h => absurd h List.not_mem_nil⟩

theorem lacks_fieldGrid (hc : c.toNat < 32) {s : BuilderSpec} (hs : s.Lacks c) :
    ∀ line ∈ (fieldGrid s).lines, Lacks c line := by
  refine Grid.lacks_lines hc ?_
  rw [List.forall_mem_cons]
  constructor
  · have hprintable : ∀ cell ∈ ["Component", "Classification", "Absent value", "Line"],
        cell.toList.all fun d => decide (32 ≤ d.toNat) := by
      decide
    exact fun cell hcell => lacks_of_printable hc (hprintable cell hcell)
  · intro row hrow
    obtain ⟨f, hf, rfl⟩ := List.mem_map.mp hrow
    exact lacks_fieldRow hc (hs.fields f hf)

theorem lacks_sectionLines (hc : c.toNat < 32) {s : BuilderSpec} (hs : s.Lacks c) :
    ∀ line ∈ sectionLines s, Lacks c line := by
  rw [sectionLines, List.forall_mem_cons]
  refine ⟨hs.record.append (lacks_locationSuffix hc hs), ?_⟩
  split
  · rw [List.forall_mem_singleton]
    exact lacks_of_printable hc rfl
  · rw [List.forall_mem_append]
    refine ⟨lacks_fieldGrid hc hs, ?_⟩
    rw [List.forall_mem_cons, List.forall_mem_singleton]
    exact ⟨lacks_constructorLine hc hs, List.not_mem_nil⟩

theorem lacks_message (hc : c.toNat < 32) {f : Failure} (hf : f.Lacks c) : Lacks c f.message := by
  have hcolon : Lacks c ": " := lacks_of_printable hc rfl
  rw [Failure.message]
  split
  · next record hrecord =>
    have hopen : Lacks c " [" := lacks_of_printable hc rfl
    have hclose : Lacks c "]: " := lacks_of_printable hc rfl
    exact (((hf.path.append hopen).append (hf.record record hrecord)).append hclose).append hf.error
  · exact (hf.path.append hcolon).append hf.error

theorem lacks_closingLine (hc : c.toNat < 32) (records failures : Nat) :
    Lacks c (closingLine records failures) := by
  have hclassified : Lacks c " record(s) classified" := lacks_of_printable hc rfl
  have hcomma : Lacks c ", " := lacks_of_printable hc rfl
  have hfailures : Lacks c " failure(s)" := lacks_of_printable hc rfl
  refine ((lacks_number hc records).append hclassified).append ?_
  split
  · exact List.not_mem_nil
  · exact (hcomma.append (lacks_number hc failures)).append hfailures

/-- Control characters of the lines of a report are those of the names and messages. -/
theorem lacks_reportLines (hc : c.toNat < 32) {specs : List BuilderSpec} {failures : List Failure}
    (hspecs : ∀ s ∈ specs, s.Lacks c) (hfailures : ∀ f ∈ failures, f.Lacks c) :
    ∀ line ∈ reportLines specs failures, Lacks c line := by
  have hcross : Lacks c "✗ " := lacks_of_printable hc rfl
  rw [reportLines, List.forall_mem_append, List.forall_mem_append, List.forall_mem_singleton]
  refine ⟨⟨fun line hline => ?_, fun line hline => ?_⟩, lacks_closingLine hc _ _⟩
  · obtain ⟨s, hs, hline⟩ := List.mem_flatMap.mp hline
    exact lacks_sectionLines hc (hspecs s hs) line hline
  · obtain ⟨f, hf, rfl⟩ := List.mem_map.mp hline
    exact hcross.append (lacks_message hc (hfailures f hf))

/-! ### Description -/

/-- What the heading of a record says: its name and, exactly if its file and its line are known, these two. -/
inductive Heads (s : BuilderSpec) : String → Prop
  | located {file : String} {line : Nat} (hfile : s.file = some file) (hline : s.line = some line) :
      Heads s (s.record ++ " (" ++ file ++ ":" ++ toString line ++ ")")
  | unlocated (h : s.file = none ∨ s.line = none) : Heads s s.record

/-- The lines that describe a record: its heading, and if it has fields their table and one line that names the
required ones in order. -/
inductive Describes (s : BuilderSpec) : List String → Prop
  | empty {heading : String} (hheading : Heads s heading) (h : s.fields = []) :
      Describes s [heading, "  (no components)"]
  | table {heading : String} (hheading : Heads s heading) (h : s.fields ≠ []) :
      Describes s (heading :: ((fieldGrid s).lines ++
        ["  constructor: (" ++ ", ".intercalate ((s.fields.filter (·.classification = .required)).map (·.name))
          ++ ")", ""]))

theorem locationSuffix_heads (s : BuilderSpec) : Heads s (s.record ++ locationSuffix s) := by
  rw [locationSuffix]
  split
  · next file line hfile hline =>
    rw [← String.append_assoc, ← String.append_assoc, ← String.append_assoc, ← String.append_assoc]
    exact .located hfile hline
  · next hunknown =>
    rw [String.append_empty]
    refine .unlocated ?_
    cases hfile : s.file with
    | none => exact Or.inl rfl
    | some file =>
        cases hline : s.line with
        | none => exact Or.inr rfl
        | some line => exact absurd hline (hunknown file line hfile)

theorem sectionLines_describe (s : BuilderSpec) : Describes s (sectionLines s) := by
  have hrequired : s.constructorParameters =
      (s.fields.filter (·.classification = .required)).map (·.name) := by
    have hmandatory : ∀ f ∈ s.fields, f.isMandatory = decide (f.classification = .required) := by
      intro f _
      rw [FieldSpec.isMandatory]
      cases f.classification <;> rfl
    rw [BuilderSpec.constructorParameters, BuilderSpec.requiredFields, List.filter_congr hmandatory]
  rw [sectionLines]
  split
  · next hempty => exact .empty (locationSuffix_heads s) (List.isEmpty_iff.mp hempty)
  · next hfields =>
    unfold constructorLine
    rw [hrequired]
    exact .table (locationSuffix_heads s) (fun hnil => hfields (List.isEmpty_iff.mpr hnil))

theorem sections_describe (specs : List BuilderSpec) : List.Forall₂ Describes specs (specs.map sectionLines) := by
  rw [List.forall₂_map_right_iff]
  exact List.forall₂_same.mpr fun s _ => sectionLines_describe s

/-- The last line shows its style in colour. -/
theorem escape_mem_text (specs : List BuilderSpec) (failures : List Failure) :
    '\x1b' ∈ (text .terminal true specs failures).toList := by
  have hstatus : '\x1b' ∈ ((statusLine specs.length failures.length).render true).toList := by
    rw [statusLine]
    split
    · exact escape_mem_render .green _ _
    · exact escape_mem_render .red _ _
  rw [text, terminal, render_append, String.toList_append]
  exact List.mem_append_right _ hstatus

/-- Colour is decoration. Where no name and no message holds an escape character, a report in colour without
its colour sequences is the plain report, and only the report in colour holds escape characters. The plain
report consists of the lines that describe the records in order, a line for each failure in order, and a last
line with the number of records and, if there are failures, of failures; where no name and no message holds
a line break either, these are the lines of its text. -/
theorem colour_is_decoration {specs : List BuilderSpec} {failures : List Failure}
    (hspecs : ∀ s ∈ specs, s.Lacks '\x1b') (hfailures : ∀ f ∈ failures, f.Lacks '\x1b') :
    let coloured := text .terminal true specs failures
    let plain := text .terminal false specs failures
    withoutColours coloured = plain ∧ '\x1b' ∈ coloured.toList ∧ '\x1b' ∉ plain.toList ∧
    ∃ sections, List.Forall₂ Describes specs sections ∧
      let lines := sections.flatten ++ failures.map (fun f => "✗ " ++ f.message)
        ++ [toString specs.length ++ " record(s) classified"
          ++ if failures.length = 0 then "" else ", " ++ toString failures.length ++ " failure(s)"]
      plain = ended lines ∧
      ((∀ s ∈ specs, s.Lacks '\n') → (∀ f ∈ failures, f.Lacks '\n') → Text.lines plain = lines ++ [""]) := by
  intro coloured plain
  have hplain : plain = ended (reportLines specs failures) := text_plain specs failures
  have hlacks : Lacks '\x1b' plain := by
    rw [hplain, ended, lacks_join_iff]
    intro t ht
    obtain ⟨line, hline, rfl⟩ := List.mem_map.mp ht
    exact (lacks_reportLines (by decide) hspecs hfailures line hline).append (by decide)
  refine ⟨withoutColours_render hlacks, escape_mem_text specs failures, hlacks, specs.map sectionLines,
    sections_describe specs, ?_, ?_⟩
  · rw [hplain, reportLines, List.flatMap_def]
    rfl
  · intro hspecs hfailures
    rw [hplain, lines_ended (lacks_reportLines (by decide) hspecs hfailures), reportLines, List.flatMap_def]
    rfl

/-- Records of which one has a name that looks like the end of a colour sequence, and one has nothing that is
coloured but its name. -/
def shownSpecs : List BuilderSpec :=
  [⟨"Pair", some "a.rs", some 3, [⟨"id", .required, some 4⟩, ⟨"[1m", .optional, none⟩]⟩,
    ⟨"Unit", some "a.rs", none, []⟩]

def shownFailures : List Failure := [⟨"b.rs", .classification, some "Bad", "conflict"⟩]

theorem bracketed_name_is_no_colour :
    (∀ s ∈ shownSpecs, s.Lacks '\x1b') ∧ (∀ f ∈ shownFailures, f.Lacks '\x1b') ∧
      withoutColours (text .terminal true shownSpecs shownFailures) = ended
        ["Pair (a.rs:3)",
          "┌───────────┬────────────────┬──────────────────┬──────┐",
          "│ Component ┆ Classification ┆ Absent value     ┆ Line │",
          "╞═══════════╪════════════════╪══════════════════╪══════╡",
          "│ id        ┆ required       ┆ rejected         ┆ 4    │",
          "├╌╌╌╌╌╌╌╌╌╌╌┼╌╌╌╌╌╌╌╌╌╌╌╌╌╌╌╌┼╌╌╌╌╌╌╌╌╌╌╌╌╌╌╌╌╌╌┼╌╌╌╌╌╌┤",
          "│ [1m       ┆ optional       ┆ defaults to none ┆      │",
          "└───────────┴────────────────┴──────────────────┴──────┘",
          "  constructor: (id)", "",
          "Unit", "  (no components)",
          "✗ b.rs [Bad]: conflict",
          "2 record(s) classified, 1 failure(s)"] := by
  have hspecs : ∀ s ∈ shownSpecs, s.Lacks '\x1b' := by
    simp only [shownSpecs, List.forall_mem_cons]
    exact ⟨⟨by decide, by decide, by decide⟩, ⟨by decide, by decide, by decide⟩, by simp⟩
  have hfailures : ∀ f ∈ shownFailures, f.Lacks '\x1b' := by
    simp only [shownFailures, List.forall_mem_cons]
    exact ⟨⟨by decide, by decide, by decide⟩, by simp⟩
  refine ⟨hspecs, hfailures, (colour_is_decoration hspecs hfailures).1.trans ((text_plain _ _).trans ?_)⟩
  exact congrArg ended (by decide +kernel)

end Report

end Nullability
