import Nullability.Assembly.Assembler
import Nullability.Record.TagTable

/-!
The verdict on a component, read off the tags that it carries. Only the membership of three names counts:
a component is refused if the optional tag stands beside a required one, and otherwise it is optional
exactly if it carries the optional tag. A component can be asked for each known tag, or each of its tags looked
up among the known ones: both come to the same verdict.
-/

namespace Nullability

theorem mem_optionalTags {tag : String} : tag ∈ optionalTags ↔ tag = "Nullable" := by
  rw [optionalTags, List.mem_singleton]

theorem mem_requiredTags {tag : String} : tag ∈ requiredTags ↔ tag = "NotNull" ∨ tag = "NonNull" := by
  rw [requiredTags, List.mem_cons, List.mem_singleton]

theorem exists_optional_iff {tags : List String} :
    (∃ tag ∈ tags, tag ∈ optionalTags) ↔ "Nullable" ∈ tags := by
  constructor
  · rintro ⟨tag, htag, h⟩
    rw [mem_optionalTags] at h
    exact h ▸ htag
  · exact fun h => ⟨_, h, mem_optionalTags.mpr rfl⟩

theorem exists_required_iff {tags : List String} :
    (∃ tag ∈ tags, tag ∈ requiredTags) ↔ "NotNull" ∈ tags ∨ "NonNull" ∈ tags := by
  constructor
  · rintro ⟨tag, htag, h⟩
    rcases mem_requiredTags.mp h with rfl | rfl
    · exact Or.inl htag
    · exact Or.inr htag
  · rintro (h | h)
    · exact ⟨_, h, mem_requiredTags.mpr (Or.inl rfl)⟩
    · exact ⟨_, h, mem_requiredTags.mpr (Or.inr rfl)⟩

theorem conflicting_iff {tags : List String} :
    Conflicting tags ↔ "Nullable" ∈ tags ∧ ("NotNull" ∈ tags ∨ "NonNull" ∈ tags) := by
  rw [Conflicting, exists_optional_iff, exists_required_iff]

namespace Component

theorem hasAnyTag_optional (c : Component) : c.hasAnyTag optionalTags = decide ("Nullable" ∈ c.tags) := by
  rw [Bool.eq_iff_iff, hasAnyTag_iff, decide_eq_true_iff, ← exists_optional_iff]
  exact exists_congr fun _ => and_comm

theorem hasAnyTag_required (c : Component) :
    c.hasAnyTag requiredTags = decide ("NotNull" ∈ c.tags ∨ "NonNull" ∈ c.tags) := by
  rw [Bool.eq_iff_iff, hasAnyTag_iff, decide_eq_true_iff, ← exists_required_iff]
  exact exists_congr fun _ => and_comm

end Component

/-- The verdict on tags that do not contradict each other. -/
def Classification.ofTags (tags : List String) : Classification :=
  if "Nullable" ∈ tags then .optional else .required

theorem classify_eq (c : Component) :
    classify c = if Conflicting c.tags then .error ⟨c.name⟩ else .ok (.ofTags c.tags) := by
  rw [classify, c.hasAnyTag_optional, c.hasAnyTag_required]
  by_cases ho : "Nullable" ∈ c.tags
  · by_cases hr : "NotNull" ∈ c.tags ∨ "NonNull" ∈ c.tags
    · rw [if_pos (conflicting_iff.mpr ⟨ho, hr⟩), decide_eq_true ho, decide_eq_true hr, verdict]
    · have hc : ¬Conflicting c.tags := fun h => hr (conflicting_iff.mp h).2
      rw [if_neg hc, decide_eq_true ho, decide_eq_false hr, verdict, Classification.ofTags, if_pos ho]
  · have hc : ¬Conflicting c.tags := fun h => ho (conflicting_iff.mp h).1
    rw [if_neg hc, decide_eq_false ho, verdict, Classification.ofTags, if_neg ho]

theorem Classification.ofTags_eq_optional_iff {tags : List String} :
    Classification.ofTags tags = .optional ↔ "Nullable" ∈ tags := by
  by_cases h : "Nullable" ∈ tags <;> simp [Classification.ofTags, h]

theorem Classification.ofTags_eq_required_iff {tags : List String} :
    Classification.ofTags tags = .required ↔ "Nullable" ∉ tags := by
  by_cases h : "Nullable" ∈ tags <;> simp [Classification.ofTags, h]

theorem classify_eq_error_iff {c : Component} {e : Conflict} :
    classify c = .error e ↔
      e.component = c.name ∧ "Nullable" ∈ c.tags ∧ ("NotNull" ∈ c.tags ∨ "NonNull" ∈ c.tags) := by
  obtain ⟨name⟩ := e
  rw [classify_eq, ← conflicting_iff]
  by_cases h : Conflicting c.tags <;> simp [h, eq_comm]

theorem classify_eq_optional_iff {c : Component} :
    classify c = .ok .optional ↔ "Nullable" ∈ c.tags ∧ "NotNull" ∉ c.tags ∧ "NonNull" ∉ c.tags := by
  rw [classify_eq, ← not_or]
  by_cases h : Conflicting c.tags
  · simp [h, (conflicting_iff.mp h).2]
  · rw [if_neg h, Except.ok.injEq, Classification.ofTags_eq_optional_iff]
    exact ⟨fun ho => ⟨ho, fun hr => h (conflicting_iff.mpr ⟨ho, hr⟩)⟩, And.left⟩

theorem classify_eq_required_iff {c : Component} :
    classify c = .ok .required ↔ "Nullable" ∉ c.tags := by
  rw [classify_eq]
  by_cases h : Conflicting c.tags
  · simp [h, (conflicting_iff.mp h).1]
  · rw [if_neg h, Except.ok.injEq, Classification.ofTags_eq_required_iff]

/-! ### What does not count -/

/-- The tags that a verdict looks at. -/
def verdictTags : List String := ["Nullable", "NotNull", "NonNull"]

/-- Two components have the same name and the same of the tags that a verdict looks at. -/
structure Component.Alike (c d : Component) : Prop where
  name : c.name = d.name
  tags : ∀ tag ∈ verdictTags, tag ∈ c.tags ↔ tag ∈ d.tags

namespace Component.Alike

variable {c d : Component}

theorem nullable_iff (h : c.Alike d) : "Nullable" ∈ c.tags ↔ "Nullable" ∈ d.tags :=
  h.tags "Nullable" (by decide)

theorem required_iff (h : c.Alike d) :
    "NotNull" ∈ c.tags ∨ "NonNull" ∈ c.tags ↔ "NotNull" ∈ d.tags ∨ "NonNull" ∈ d.tags :=
  or_congr (h.tags "NotNull" (by decide)) (h.tags "NonNull" (by decide))

theorem classification_eq (h : c.Alike d) : Classification.ofTags c.tags = .ofTags d.tags := by
  rw [Classification.ofTags, Classification.ofTags]
  simp only [h.nullable_iff]

theorem classify_eq (h : c.Alike d) : classify c = classify d := by
  have hconflicting : Conflicting c.tags ↔ Conflicting d.tags := by
    rw [conflicting_iff, conflicting_iff, h.nullable_iff, h.required_iff]
  rw [Nullability.classify_eq, Nullability.classify_eq, h.name, h.classification_eq]
  simp only [hconflicting]

end Component.Alike

/-- Two lists of tags differ in what no verdict looks at: in their order, in repetitions, or in tags of
other names. -/
inductive Retagged : List String → List String → Prop
  | reordered {tags tags' : List String} : tags.Perm tags' → Retagged tags tags'
  | repeated {before after : List String} {tag : String} :
      tag ∈ before ++ after → Retagged (before ++ after) (before ++ tag :: after)
  | unrecognised {before extra after : List String} :
      (∀ tag ∈ extra, tag ∉ verdictTags) → Retagged (before ++ after) (before ++ extra ++ after)
  | symm {tags tags' : List String} : Retagged tags tags' → Retagged tags' tags
  | trans {tags tags' tags'' : List String} :
      Retagged tags tags' → Retagged tags' tags'' → Retagged tags tags''

theorem Retagged.mem_iff {tags tags' : List String} (h : Retagged tags tags') {tag : String}
    (htag : tag ∈ verdictTags) : tag ∈ tags ↔ tag ∈ tags' := by
  induction h with
  | reordered hperm => exact hperm.mem_iff
  | @repeated before after again hmem =>
      rw [List.perm_middle.mem_iff, List.mem_cons]
      refine ⟨Or.inr, ?_⟩
      rintro (rfl | h)
      · exact hmem
      · exact h
  | @unrecognised before extra after hextra =>
      have hnot : tag ∉ extra := fun h => hextra tag h htag
      simp only [List.mem_append, hnot, or_false]
  | symm _ ih => exact ih.symm
  | trans _ _ ih ih' => exact ih.trans ih'

/-! ### Two ways to look for tags -/

/-- Whether two lists have a member in common can be asked of either. -/
theorem any_contains_comm (as bs : List String) : as.any bs.contains = bs.any as.contains := by
  rw [Bool.eq_iff_iff, List.any_eq_true, List.any_eq_true]
  simp only [List.contains_iff_mem]
  exact exists_congr fun _ => and_comm

/-- Asking the tags for each known name comes to the same as asking the known names for each tag. -/
theorem classify_eq_classifyTags (c : Component) : classify c = classifyTags c.name c.tags := by
  have hlook (known : List String) : c.hasAnyTag known = c.tags.any known.contains :=
    any_contains_comm known c.tags
  rw [classify, classifyTags, hlook, hlook]

/-- The verdict is a function of the name and of the set of tags, and both ways to ask for it agree. A
component is refused, under its own name, exactly if it carries the optional tag beside a required one; it
is optional exactly if it carries the optional tag alone, and required exactly if it does not carry it.
Tag lists with the same of the three names get the same verdict, so the order of tags, repetitions and any
other tags do not count. -/
theorem classified_by_membership (c : Component) :
    classify c = classifyTags c.name c.tags ∧
    (∀ e, classify c = .error e ↔
      e.component = c.name ∧ "Nullable" ∈ c.tags ∧ ("NotNull" ∈ c.tags ∨ "NonNull" ∈ c.tags)) ∧
    (classify c = .ok .optional ↔ "Nullable" ∈ c.tags ∧ "NotNull" ∉ c.tags ∧ "NonNull" ∉ c.tags) ∧
    (classify c = .ok .required ↔ "Nullable" ∉ c.tags) ∧
    (∀ d, c.Alike d → classify c = classify d) ∧
    ∀ tags, Retagged c.tags tags → classify c = classifyTags c.name tags := by
  refine ⟨classify_eq_classifyTags c, fun _ => classify_eq_error_iff, classify_eq_optional_iff,
    classify_eq_required_iff, fun d h => h.classify_eq, ?_⟩
  intro tags h
  have halike : c.Alike ⟨c.name, tags, none⟩ := ⟨rfl, fun tag htag => h.mem_iff htag⟩
  rw [halike.classify_eq, classify_eq_classifyTags]

theorem near_names_do_not_count :
    Retagged ["Nullable"] ["nullable", "Nullable", "NotNull ", "Nullable", ""] ∧
      classify ⟨"owner", ["Nullable"], some 3⟩ =
        classifyTags "owner" ["nullable", "Nullable", "NotNull ", "Nullable", ""] ∧
      classify ⟨"owner", ["Nullable"], some 3⟩ = .ok .optional := by
  have hbefore : Retagged ["Nullable"] ["nullable", "Nullable"] :=
    @Retagged.unrecognised [] ["nullable"] ["Nullable"] (by decide)
  have htwice : Retagged ["nullable", "Nullable"] ["nullable", "Nullable", "Nullable"] :=
    @Retagged.repeated ["nullable", "Nullable"] [] "Nullable" (by decide)
  have hbetween : Retagged ["nullable", "Nullable", "Nullable"]
      ["nullable", "Nullable", "NotNull ", "Nullable"] :=
    @Retagged.unrecognised ["nullable", "Nullable"] ["NotNull "] ["Nullable"] (by decide)
  have hbehind : Retagged ["nullable", "Nullable", "NotNull ", "Nullable"]
      ["nullable", "Nullable", "NotNull ", "Nullable", ""] :=
    @Retagged.unrecognised ["nullable", "Nullable", "NotNull ", "Nullable"] [""] [] (by decide)
  have h := ((hbefore.trans htwice).trans hbetween).trans hbehind
  obtain ⟨-, -, hoptional, -, -, hretagged⟩ := classified_by_membership ⟨"owner", ["Nullable"], some 3⟩
  exact ⟨h, hretagged _ h, hoptional.mpr (by decide)⟩

/-- The verdict on a component that a table gives for a key is that on the tags put last under the key,
whatever name the component has; a key that no tags were put under makes it required. -/
theorem classify_table_component (t : TagTable) (name key : String) (entries : List (String × List String)) :
    (∀ before tags after, entries = before ++ (key, tags) :: after → (∀ e ∈ after, key ≠ e.1) →
      classify ((t.insertAll entries).component name key) = classifyTags name tags) ∧
    ((∀ e ∈ entries, key ≠ e.1) →
      classify ((TagTable.empty.insertAll entries).component name key) = .ok .required) := by
  constructor
  · rintro before tags after rfl hafter
    rw [classify_eq_classifyTags, TagTable.component, t.tagsOf_insertAll_last tags before hafter]
  · intro hnone
    rw [classify_eq_required_iff, TagTable.component, TagTable.tagsOf_insertAll_of_ne hnone,
      TagTable.tagsOf_empty]
    exact List.not_mem_nil

/-! ### Fields and conflicts -/

/-- The field that a component without contradictory tags becomes. -/
def Component.field (c : Component) : FieldSpec := ⟨c.name, .ofTags c.tags, c.line⟩

/-- The conflict that a component with contradictory tags is. -/
def Component.conflict (c : Component) : Conflict := ⟨c.name⟩

namespace Assembler

theorem fieldSpec_of_conflicting {c : Component} (h : Conflicting c.tags) :
    fieldSpec c = .error c.conflict := by
  rw [fieldSpec, classify_eq, if_pos h]
  rfl

theorem fieldSpec_of_not_conflicting {c : Component} (h : ¬Conflicting c.tags) :
    fieldSpec c = .ok c.field := by
  rw [fieldSpec, classify_eq, if_neg h]
  rfl

end Assembler

end Nullability
