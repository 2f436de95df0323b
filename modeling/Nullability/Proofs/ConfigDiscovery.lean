import Mathlib.Control.Monad.Basic
import Nullability.Settings.Discovery

/-!
Which configuration holds in a directory. The search goes through the candidates from the nearest upwards;
one that is missing says nothing, and one that cannot be used leaves a warning. Either way the search goes
on, so the first candidate that is a configuration is the one that holds, whatever stands before it.
-/

namespace Nullability.Config

/-- Something stands at a path. -/
def Present (t : FileTree) (path : String) : Prop := t.readText [] path ≠ .error .notFound

/-- The file at a path is a configuration. -/
def Says (t : FileTree) (path : String) (c : Config) : Prop :=
  ∃ text log, t.readText [] path = .ok text ∧ parse text = .ok (c, log)

variable {t : FileTree}

theorem readCandidate_of_not_present {path : String} (h : ¬Present t path) :
    readCandidate t path = (none, []) := by
  have hmissing : t.readText [] path = .error .notFound := Classical.not_not.mp h
  rw [readCandidate, hmissing]
  rfl

/-- A file that is there and cannot be read leaves a warning. -/
theorem readCandidate_of_unreadable {path : String} {cause : SystemError}
    (hread : t.readText [] path = .error cause) (hpresent : Present t path) :
    ∃ w, readCandidate t path = (none, [w]) ∧ w.level = .warn ∧
      w.text = "Failed to read config file " ++ path ++ ": " ++ cause.message := by
  rw [readCandidate, hread]
  split
  · next hmissing => exact absurd (hread.trans hmissing) hpresent
  · next h =>
      cases h
      exact ⟨_, rfl, rfl, rfl⟩
  · next h => cases h

theorem readCandidate_eq_some_iff {path : String} {c : Config} :
    (readCandidate t path).1 = some c ↔ Says t path c := by
  cases hread : t.readText [] path with
  | error cause =>
      have hnone : (readCandidate t path).1 = none := by
        by_cases hpresent : Present t path
        · obtain ⟨w, h, -⟩ := readCandidate_of_unreadable hread hpresent
          rw [h]
        · rw [readCandidate_of_not_present hpresent]
      simp [hnone, Says, hread]
  | ok text =>
      rw [readCandidate, Says, hread]
      cases hparse : parse text with
      | error message => simp [hparse]
      | ok read =>
          obtain ⟨d, log⟩ := read
          simp [hparse]

theorem readCandidate_eq_none_iff {path : String} :
    (readCandidate t path).1 = none ↔ ¬∃ c, Says t path c := by
  simp only [← readCandidate_eq_some_iff, ← Option.isSome_iff_exists, Bool.not_eq_true,
    Option.isSome_eq_false_iff, Option.isNone_iff_eq_none]

/-- A file that is there and is no configuration leaves one warning: that it cannot be read, or what is
wrong with its text and that the defaults are used. -/
theorem readCandidate_of_unusable {path : String} (hpresent : Present t path)
    (h : ¬∃ c, Says t path c) :
    ∃ w, readCandidate t path = (none, [w]) ∧ w.level = .warn ∧
      ((∃ cause, t.readText [] path = .error cause ∧
          w.text = "Failed to read config file " ++ path ++ ": " ++ cause.message) ∨
        ∃ text message, t.readText [] path = .ok text ∧ parse text = .error message ∧
          w.text = message ++ ". Using defaults.") := by
  cases hread : t.readText [] path with
  | error cause =>
      obtain ⟨w, hw, hlevel, htext⟩ := readCandidate_of_unreadable hread hpresent
      exact ⟨w, hw, hlevel, Or.inl ⟨cause, rfl, htext⟩⟩
  | ok text =>
      rw [readCandidate, hread]
      cases hparse : parse text with
      | error message =>
          simp only [hparse]
          exact ⟨_, rfl, rfl, Or.inr ⟨text, message, rfl, hparse, rfl⟩⟩
      | ok read => exact absurd ⟨read.1, text, read.2, hread, hparse⟩ h

/-- The search passes over what is no configuration. -/
theorem firstUsable_append {before : List String} (h : ∀ path ∈ before, ¬∃ c, Says t path c)
    (rest : List String) :
    firstUsable t (before ++ rest) =
      ((firstUsable t rest).1,
        before.flatMap (fun path => (readCandidate t path).2) ++ (firstUsable t rest).2) := by
  induction before with
  | nil => rfl
  | cons path before ih =>
      have hpath : (readCandidate t path).1 = none :=
        readCandidate_eq_none_iff.mpr (h path List.mem_cons_self)
      have hread : readCandidate t path = (none, (readCandidate t path).2) := Prod.ext hpath rfl
      rw [List.cons_append, firstUsable, hread]
      simp only [ih fun q hq => h q (List.mem_cons_of_mem path hq), List.flatMap_cons, List.append_assoc]

theorem firstUsable_cons_of_says {path : String} {c : Config} (h : Says t path c) (rest : List String) :
    (firstUsable t (path :: rest)).1 = some c := by
  have hread : readCandidate t path = (some c, (readCandidate t path).2) :=
    Prod.ext (readCandidate_eq_some_iff.mpr h) rfl
  rw [firstUsable, hread]

theorem firstUsable_cons_of_unusable {path : String} (h : ¬∃ c, Says t path c) (rest : List String) :
    firstUsable t (path :: rest) =
      ((firstUsable t rest).1, (readCandidate t path).2 ++ (firstUsable t rest).2) := by
  have hone : ∀ q ∈ [path], ¬∃ c, Says t q c := fun q hq => List.mem_singleton.mp hq ▸ h
  have hsplit := firstUsable_append hone rest
  rwa [List.flatMap_singleton] at hsplit

theorem firstUsable_eq_none {paths : List String} (h : ∀ path ∈ paths, ¬∃ c, Says t path c) :
    (firstUsable t paths).1 = none := by
  have hall := firstUsable_append h []
  rw [List.append_nil] at hall
  rw [hall, firstUsable]

variable {cwd : Location}

/-- What is loaded in a directory that exists: what the search finds, or else the default. The lines of
the search are logged, one more at most. -/
theorem load_of_isDirectory (h : t.isDirectory cwd = true) :
    (load t cwd).1 = (firstUsable t (candidates cwd)).1.getD default ∧
      (firstUsable t (candidates cwd)).2 ⊆ (load t cwd).2 := by
  rw [load, discover, if_pos h]
  cases hfound : firstUsable t (candidates cwd) with
  | mk found log =>
      cases found with
      | none => exact ⟨rfl, List.subset_append_left log _⟩
      | some c => exact ⟨rfl, List.Subset.refl log⟩

/-- The nearest configuration file decides only if it is one. If it is, it holds; if it cannot be read or
understood, a warning says so and the search goes on as if it were missing: the next configuration
further up holds, and the default only if there is none. -/
theorem unusable_nearest_is_passed_over {before after : List String} {path : String}
    (hcwd : t.isDirectory cwd = true) (hsplit : candidates cwd = before ++ path :: after)
    (hbefore : ∀ q ∈ before, ¬Present t q) (hpath : Present t path) :
    (∀ c, Says t path c → (load t cwd).1 = c) ∧
    ((¬∃ c, Says t path c) →
      (∃ w ∈ (load t cwd).2, w.level = .warn ∧
        ((∃ cause, t.readText [] path = .error cause ∧
            w.text = "Failed to read config file " ++ path ++ ": " ++ cause.message) ∨
          ∃ text message, t.readText [] path = .ok text ∧ parse text = .error message ∧
            w.text = message ++ ". Using defaults.")) ∧
      (∀ nearer further q c, after = nearer ++ q :: further → (∀ p ∈ nearer, ¬∃ c, Says t p c) →
        Says t q c → (load t cwd).1 = c) ∧
      ((∀ q ∈ after, ¬∃ c, Says t q c) → (load t cwd).1 = default)) := by
  obtain ⟨hload, hlog⟩ := load_of_isDirectory hcwd
  have hmissing : ∀ q ∈ before, ¬∃ c, Says t q c := by
    intro q hq
    rw [← readCandidate_eq_none_iff, readCandidate_of_not_present (hbefore q hq)]
  have hfirst := firstUsable_append hmissing (path :: after)
  rw [← hsplit] at hfirst
  refine ⟨?_, fun hunusable => ?_⟩
  · intro c hc
    rw [hload, hfirst, firstUsable_cons_of_says hc]
    rfl
  · have hnext := firstUsable_cons_of_unusable hunusable after
    refine ⟨?_, ?_, ?_⟩
    · obtain ⟨w, hread, hw⟩ := readCandidate_of_unusable hpath hunusable
      refine ⟨w, hlog ?_, hw⟩
      rw [hfirst, hnext, hread]
      exact List.mem_append_right _ List.mem_cons_self
    · rintro nearer further q c rfl hnearer hq
      rw [hload, hfirst, hnext, firstUsable_append hnearer, firstUsable_cons_of_says hq]
      rfl
    · intro hnone
      rw [hload, hfirst, hnext, firstUsable_eq_none hnone]
      rfl

/-- A project whose own configuration file is broken, in a directory that has a configuration. -/
def brokenProject : FileTree where
  entries := [(["project"], .directory), (["project", fileName], .file "[".toUTF8),
    ([fileName], .file "[classification]\nfailure_policy = \"fail-fast\"\n".toUTF8)]
  nodup := by decide

private theorem brokenProject_candidates :
    candidates ["project"] = [] ++ "/project/.recbuild.toml" :: ["/.recbuild.toml"] := by
  decide +kernel

private theorem brokenProject_broken :
    Present brokenProject "/project/.recbuild.toml" ∧
      ¬∃ c, Says brokenProject "/project/.recbuild.toml" c := by
  have hread : brokenProject.readText [] "/project/.recbuild.toml" = .ok "[" := by decide +kernel
  have hparse : (parse "[").toOption = none := by decide +kernel
  constructor
  · intro hmissing
    cases hread.symm.trans hmissing
  · rintro ⟨c, text, log, htext, hc⟩
    cases hread.symm.trans htext
    rw [hc] at hparse
    cases hparse

private theorem brokenProject_above :
    Says brokenProject "/.recbuild.toml" ⟨some ⟨.failFast, true⟩, none, none⟩ := by
  refine ⟨"[classification]\nfailure_policy = \"fail-fast\"\n", [], ?_, ?_⟩ <;> decide +kernel

theorem brokenProject_uses_configuration_above :
    brokenProject.isDirectory ["project"] = true ∧
    candidates ["project"] = [] ++ "/project/.recbuild.toml" :: ["/.recbuild.toml"] ∧
    Present brokenProject "/project/.recbuild.toml" ∧
    (¬∃ c, Says brokenProject "/project/.recbuild.toml" c) ∧
    (load brokenProject ["project"]).1 = ⟨some ⟨.failFast, true⟩, none, none⟩ := by
  have hcwd : brokenProject.isDirectory ["project"] = true := by decide +kernel
  obtain ⟨hpresent, hbroken⟩ := brokenProject_broken
  have hpassed := (unusable_nearest_is_passed_over hcwd brokenProject_candidates
    (fun q hq => absurd hq List.not_mem_nil) hpresent).2 hbroken
  refine ⟨hcwd, brokenProject_candidates, hpresent, hbroken, ?_⟩
  exact hpassed.2.1 [] [] _ _ rfl (fun p hp => absurd hp List.not_mem_nil) brokenProject_above

/-- A broken configuration file does not leave the default: one further up may hold. -/
theorem broken_nearest_may_not_leave_default :
    ¬∀ (t : FileTree) (cwd : Location) (before : List String) (path : String) (after : List String),
      t.isDirectory cwd = true → candidates cwd = before ++ path :: after →
      (∀ q ∈ before, ¬Present t q) → Present t path → (¬∃ c, Says t path c) →
      (load t cwd).1 = default := by
  intro h
  have hdefault := h brokenProject ["project"] [] _ _ (by decide +kernel) brokenProject_candidates
    (fun q hq => absurd hq List.not_mem_nil) brokenProject_broken.1 brokenProject_broken.2
  have hloaded : (load brokenProject ["project"]).1 ≠ default := by decide +kernel
  exact hloaded hdefault

end Nullability.Config
