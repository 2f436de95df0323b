import Nullability.Program
import Nullability.Proofs.TemplateWriting

/-!
Actions on a file tree, one after the other. An action that forces nothing keeps every entry, so a sequence
of them does, however long, and no configuration file that exists is changed by one. The main statement says
this together with what a new configuration file is and what holds in its directory then.
-/

namespace Nullability

open Config FileTree

/-- Of the commands, only the one that writes a configuration file changes the tree. -/
theorem Program.run_tree (t : FileTree) (env : Environment) (cwd : Location) (line : List String) :
    (Program.run env t cwd line).tree = t ∨
      ∃ force w, CommandLine.read (env.get? CommandLine.markerVariable) line = .ok (.init force) ∧
        writeTemplate t cwd "." force = .ok w ∧ (Program.run env t cwd line).tree = w.tree := by
  rw [Program.run]
  cases hread : CommandLine.read (env.get? CommandLine.markerVariable) line with
  | error refusal =>
      refine Or.inl ?_
      simp only
      split <;> rfl
  | ok invocation =>
      cases invocation with
      | inspect flags verbosity =>
          refine Or.inl ?_
          simp only [Program.inspect]
          split <;> rfl
      | init force =>
          simp only [Program.init]
          cases hwrite : writeTemplate t cwd "." force with
          | error fault => exact Or.inl rfl
          | ok w => exact Or.inr ⟨force, w, rfl, hwrite, rfl⟩

/-- What can be done with a file tree from a current directory. -/
inductive Action
  | init (cwd : Location) (directory : String) (force : Bool)
  | inspect (cwd : Location) (colour : Bool) (flags : InspectFlags)
  | inspectFiles (cwd : Location) (settings : InspectSettings) (paths : List String)
  | load (cwd : Location)
  | loadFrom (cwd : Location) (path : String)
  | search (cwd : Location) (root : String)
  | command (env : Environment) (cwd : Location) (line : List String)

/-- What an action answers. -/
inductive Answer
  | written (path : String) (log : Logged)
  | refused (fault : TemplateFault)
  | inspected (left : Inspection)
  | results (results : BatchResults BuilderSpec) (log : Logged)
  | loaded (read : Except RunError (Config × Logged))
  | found (paths : Except SearchFault (List String))
  | ended (exitCode : Nat) (output errors : String)

namespace Action

/-- What an action answers, and the tree after it. -/
def perform (t : FileTree) : Action → Answer × FileTree
  | init cwd directory force =>
    match writeTemplate t cwd directory force with
    | .error fault => (.refused fault, t)
    | .ok w => (.written w.path w.log, w.tree)
  | inspect cwd colour flags => (.inspected (Inspection.run t cwd colour flags), t)
  | inspectFiles cwd settings paths =>
    let (results, log) := Inspection.files t cwd settings paths
    (.results results log, t)
  | load cwd => (.loaded (.ok (Config.load t cwd)), t)
  | loadFrom cwd path => (.loaded (Config.loadFrom t cwd path), t)
  | search cwd root => (.found (t.sources cwd root), t)
  | command env cwd line =>
    let ended := Program.run env t cwd line
    (.ended ended.exitCode ended.output ended.errors, ended.tree)

/-- The actions one after the other: the answers, and the tree after the last. -/
def performAll (t : FileTree) : List Action → List Answer × FileTree
  | [] => ([], t)
  | a :: rest =>
    let (answer, u) := a.perform t
    let (answers, last) := performAll u rest
    (answer :: answers, last)

/-- An action may write over a configuration file. -/
def Forces : Action → Prop
  | init _ _ force => force = true
  | command env _ line => CommandLine.read (env.get? CommandLine.markerVariable) line = .ok (.init true)
  | _ => False

variable {t : FileTree} {l : Location} {e : Entry}

/-- An action that does not force anything keeps every entry. -/
theorem get?_perform {a : Action} (ha : ¬a.Forces) (h : t.get? l = some e) :
    (a.perform t).2.get? l = some e := by
  cases a with
  | init cwd directory force =>
      have hforce : force = false := Bool.not_eq_true force ▸ ha
      subst hforce
      rw [perform]
      cases hwrite : writeTemplate t cwd directory false with
      | error fault => exact h
      | ok w => exact get?_of_writeTemplate hwrite h
  | command env cwd line =>
      rcases Program.run_tree t env cwd line with htree | ⟨force, w, hread, hwrite, htree⟩
      · rwa [perform, htree]
      · cases force with
        | true => exact absurd hread ha
        | false => rw [perform, htree, get?_of_writeTemplate hwrite h]
  | inspect cwd colour flags => exact h
  | inspectFiles cwd settings paths => exact h
  | load cwd => exact h
  | loadFrom cwd path => exact h
  | search cwd root => exact h

/-- A sequence of actions that force nothing keeps every entry. -/
theorem get?_performAll {actions : List Action} (hactions : ∀ a ∈ actions, ¬a.Forces)
    (h : t.get? l = some e) : (performAll t actions).2.get? l = some e := by
  -- The entry is in the tree that the first action leaves, whichever tree that is.
  induction actions generalizing t with
  | nil => exact h
  | cons a rest ih =>
      rw [List.forall_mem_cons] at hactions
      exact ih hactions.2 (get?_perform hactions.1 h)

end Action

namespace Config

/-- A new configuration file is written whole or nothing is changed, and without force it is written only
where nothing was; actions that do not force anything keep every file. In its directory the configuration
then agrees with the default, whatever is above, if the system can read a path of that size. If not, a
warning says so, and the search goes on above. -/
theorem template_written_whole_or_not (t : FileTree) (cwd : Location) (directory : String) (force : Bool) :
    ((∃ w, writeTemplate t cwd directory force = .ok w) ↔
      pathFault? (Path.join directory fileName) = none ∧ ∃ l, t.LeadsTo cwd directory l ∧
        t.get? (l ++ [fileName]) ≠ some .directory ∧ (force = false → t.get? (l ++ [fileName]) = none)) ∧
    ((¬∃ w, writeTemplate t cwd directory force = .ok w) →
      ((Action.init cwd directory force).perform t).2 = t) ∧
    (∀ w, writeTemplate t cwd directory force = .ok w → ∃ l, t.LeadsTo cwd directory l ∧
      (force = false → t.get? (l ++ [fileName]) = none) ∧
      (∀ m, w.tree.get? m = if m = l ++ [fileName] then some (.file template.toUTF8) else t.get? m) ∧
      (t.OnDisk →
        ((Location.text (l ++ [fileName])).utf8ByteSize < pathLimit → (load w.tree l).1.Agree default) ∧
        (pathLimit ≤ (Location.text (l ++ [fileName])).utf8ByteSize →
          (load w.tree l).1 = (firstUsable w.tree (candidates l).tail).1.getD default ∧
          ∃ warning ∈ (load w.tree l).2, warning.level = .warn ∧
            warning.text = "Failed to read config file " ++ Location.text (l ++ [fileName]) ++ ": " ++
              SystemError.nameTooLong.message))) ∧
    ∀ actions : List Action, (∀ a ∈ actions, ¬a.Forces) → ∀ l e, t.get? l = some e →
      (Action.performAll t actions).2.get? l = some e := by
  refine ⟨⟨?_, ?_⟩, ?_, ?_, ?_⟩
  · rintro ⟨w, hw⟩
    obtain ⟨hfault, l, hl, hfree, hnothing, -⟩ := writeTemplate_eq_ok_iff.mp hw
    exact ⟨hfault, l, hl, hfree, hnothing⟩
  · rintro ⟨hfault, l, hl, hfree, hnothing⟩
    exact ⟨_, writeTemplate_eq_ok_iff.mpr ⟨hfault, l, hl, hfree, hnothing, rfl⟩⟩
  · intro hnone
    rw [Action.perform]
    cases hwrite : writeTemplate t cwd directory force with
    | error fault => rfl
    | ok w => exact absurd ⟨w, hwrite⟩ hnone
  · intro w hw
    obtain ⟨-, l, hl, hfree, hnothing, rfl⟩ := writeTemplate_eq_ok_iff.mp hw
    refine ⟨l, hl, hnothing, get?_writtenIn t l directory, fun ht => ⟨fun hsize => ?_, fun hsize => ?_⟩⟩
    · rw [load_writtenIn ht hl.2 hfree hsize]
      exact templateConfig_agree
    · exact load_writtenIn_of_too_long ht hl.2 hfree hsize directory
  · intro actions hactions l e h
    exact Action.get?_performAll hactions h

theorem broken_project_is_mended :
    brokenProject.OnDisk ∧
    (¬∃ w, writeTemplate brokenProject [] "project" false = .ok w) ∧
    (∃ w, writeTemplate brokenProject [] "project" true = .ok w ∧
      w.tree.get? ["project", fileName] = some (.file template.toUTF8) ∧
      w.tree.get? [fileName] = brokenProject.get? [fileName] ∧
      (load w.tree ["project"]).1.Agree default) ∧
    (Action.performAll brokenProject [.init [] "project" false, .load ["project"], .init [] "" false]).2.get?
      ["project", fileName] = some (.file "[".toUTF8) := by
  have honDisk : brokenProject.OnDisk := ⟨by decide +kernel, by decide +kernel⟩
  have hleads : brokenProject.LeadsTo [] "project" ["project"] :=
    ⟨by decide +kernel, isDirectory_iff.mp (by decide +kernel)⟩
  have hfile : brokenProject.get? ["project", fileName] = some (.file "[".toUTF8) := rfl
  obtain ⟨hforced, -, hwritten, -⟩ := template_written_whole_or_not brokenProject [] "project" true
  obtain ⟨hunforced, -, -, hkept⟩ := template_written_whole_or_not brokenProject [] "project" false
  refine ⟨honDisk, ?_, ?_, ?_⟩
  · rw [hunforced]
    rintro ⟨-, l, hl, -, hnothing⟩
    cases hl.1.symm.trans hleads.1
    cases hfile.symm.trans (hnothing rfl)
  · have hplace : brokenProject.get? (["project"] ++ [fileName]) ≠ some .directory := by
      intro h
      cases hfile.symm.trans h
    obtain ⟨w, hw⟩ := hforced.mpr ⟨by decide +kernel, ["project"], hleads, hplace, nofun⟩
    obtain ⟨l, hl, -, hget, hload⟩ := hwritten w hw
    cases hl.1.symm.trans hleads.1
    exact ⟨w, hw, hget _, hget _, (hload honDisk).1 (by decide +kernel)⟩
  · refine hkept _ (fun a ha => ?_) _ _ hfile
    simp only [List.mem_cons, List.not_mem_nil, or_false] at ha
    rcases ha with rfl | rfl | rfl <;> simp [Action.Forces]

/-! ### A directory with a long path -/

/-- A name of a given size. -/
def longName (n : Nat) : String := String.ofList (List.replicate n 'd')

theorem longName_size (n : Nat) : (longName n).utf8ByteSize = n := by
  rw [longName, String.utf8ByteSize_ofList]
  induction n with
  | zero => rfl
  | succ n ih =>
      rw [List.replicate_succ, String.utf8Len_cons, ih]
      rfl

theorem mem_longName {n : Nat} {c : Char} (h : c ∈ (longName n).toList) : c = 'd' := by
  rw [longName, String.toList_ofList] at h
  exact List.eq_of_mem_replicate h

theorem longName_isEntryName (n : Nat) : IsEntryName (longName (n + 1)) := by
  have hfirst : 'd' ∈ (longName (n + 1)).toList := by
    rw [longName, String.toList_ofList, List.replicate_succ]
    exact List.mem_cons_self
  refine ⟨?_, ?_, ?_, fun h => absurd (mem_longName h) (by decide)⟩ <;>
  · intro h
    rw [h] at hfirst
    exact absurd hfirst (by decide)

theorem longName_isStorable {n : Nat} (h : n ≤ nameLimit) : IsStorable (longName n) :=
  ⟨fun hnull => absurd (mem_longName hnull) (by decide), (longName_size n).symm ▸ h⟩

/-- A place whose path is almost as long as the system can read. -/
def deepAbove : Location := List.replicate 15 (longName 255)

/-- The name of a directory there whose own path is not too long, but that of a configuration file in it. -/
def deepName : String := longName 240

def deepText : String := "[classification]\nfailure_policy = \"fail-fast\"\n"

/-- A deep directory, in a directory that has a configuration. -/
def deepProject : FileTree :=
  (directoriesTo (deepAbove ++ [deepName])).insert (deepAbove ++ [fileName]) (.file deepText.toUTF8)

private theorem deepName_isEntryName : ∀ name ∈ deepAbove ++ [deepName], IsEntryName name ∧ IsStorable name := by
  intro name hname
  rcases List.mem_append.mp hname with h | h
  · rw [List.eq_of_mem_replicate h]
    exact ⟨longName_isEntryName 254, longName_isStorable (by decide)⟩
  · rw [List.mem_singleton.mp h]
    exact ⟨longName_isEntryName 239, longName_isStorable (by decide)⟩

private theorem fileName_ne_deepName : fileName ≠ deepName := by
  intro h
  have hsize := congrArg String.utf8ByteSize h
  rw [deepName, longName_size] at hsize
  exact absurd hsize (by decide)

private theorem deepAbove_free : ¬(deepAbove ++ [fileName]) <+: (deepAbove ++ [deepName]) := by
  rw [List.prefix_append_right_inj]
  intro h
  have hlength : [fileName].length = [deepName].length := by rw [List.length_singleton, List.length_singleton]
  exact fileName_ne_deepName (List.singleton_inj.mp (h.eq_of_length hlength))

private theorem deepProject_onDisk : deepProject.OnDisk := by
  refine (onDisk_directoriesTo deepName_isEntryName).insert
    (get?_directoriesTo_above (List.prefix_append deepAbove [deepName])) isEntryName_fileName
    isStorable_fileName ?_ _
  rw [get?_directoriesTo_elsewhere deepAbove_free]
  nofun

private theorem deepProject_get? (m : Location) (hm : m ≠ deepAbove ++ [fileName]) :
    deepProject.get? m = (directoriesTo (deepAbove ++ [deepName])).get? m := by
  rw [deepProject, get?_insert _ _ _ _ (by simp), if_neg hm]

private theorem deepProject_isDirectory : deepProject.get? (deepAbove ++ [deepName]) = some .directory := by
  have hne : deepAbove ++ [deepName] ≠ deepAbove ++ [fileName] := fun h =>
    fileName_ne_deepName (List.singleton_inj.mp (List.append_cancel_left h)).symm
  rw [deepProject_get? _ hne, get?_directoriesTo_above List.prefix_rfl]

private theorem deepProject_free : deepProject.get? (deepAbove ++ [deepName] ++ [fileName]) = none := by
  rw [deepProject_get? _ (by simp), get?_directoriesTo_elsewhere]
  intro h
  have hlength := h.length_le
  simp at hlength

private theorem deepProject_place_not_directory :
    deepProject.get? (deepAbove ++ [deepName] ++ [fileName]) ≠ some .directory := by
  rw [deepProject_free]
  nofun

private theorem deepProject_leadsTo :
    deepProject.LeadsTo (deepAbove ++ [deepName]) "." (deepAbove ++ [deepName]) :=
  ⟨follow_here_eq_ok_iff.mpr ⟨deepProject_isDirectory, rfl⟩, deepProject_isDirectory⟩

private theorem deepProject_written :
    writeTemplate deepProject (deepAbove ++ [deepName]) "." false =
      .ok (writtenIn deepProject (deepAbove ++ [deepName]) ".") :=
  writeTemplate_eq_ok_iff.mpr ⟨by decide +kernel, _, deepProject_leadsTo, deepProject_place_not_directory,
    fun _ => deepProject_free, rfl⟩

private theorem deepAbove_size : Location.size deepAbove = 3840 := by
  simp [deepAbove, List.replicate, Location.size, longName_size]

private theorem fileName_size : Location.size [fileName] = 15 := rfl

private theorem deepProject_size :
    pathLimit ≤ (Location.text (deepAbove ++ [deepName] ++ [fileName])).utf8ByteSize := by
  have hname : Location.size [deepName] = 241 := by
    rw [Location.size, deepName, longName_size]
    rfl
  rw [Location.utf8ByteSize_text (by simp), Location.size_append, Location.size_append, deepAbove_size, hname,
    fileName_size]
  decide

private theorem deepProject_above_size :
    (Location.text (deepAbove ++ [fileName])).utf8ByteSize < pathLimit := by
  rw [Location.utf8ByteSize_text (by simp), Location.size_append, deepAbove_size, fileName_size]
  decide

private theorem deepProject_above :
    Says (writtenIn deepProject (deepAbove ++ [deepName]) ".").tree (Location.text (deepAbove ++ [fileName]))
      ⟨some ⟨.failFast, true⟩, none, none⟩ := by
  have hget : (writtenIn deepProject (deepAbove ++ [deepName]) ".").tree.get? (deepAbove ++ [fileName]) =
      some (.file deepText.toUTF8) := by
    rw [get?_writtenIn, if_neg (by simp), deepProject, get?_insert _ _ _ _ (by simp), if_pos rfl]
  have hdisk := writtenIn_onDisk deepProject_onDisk deepProject_isDirectory deepProject_place_not_directory "."
  have hlocate := locate_text hdisk (by simp) (Option.isSome_of_eq_some hget) deepProject_above_size []
  exact ⟨deepText, [], readText_of_locate hlocate hget, by decide +kernel⟩

/-- A new configuration file does not make the defaults hold where its path is too long for the system: one
further up may hold. -/
theorem new_template_may_not_hold :
    ¬∀ (t : FileTree) (cwd : Location) (directory : String) (force : Bool) (w : TemplateWritten) (l : Location),
      t.OnDisk → writeTemplate t cwd directory force = .ok w → t.LeadsTo cwd directory l →
      (load w.tree l).1.failurePolicy = (default : Config).failurePolicy := by
  intro h
  have hdefault := h _ _ _ _ _ _ deepProject_onDisk deepProject_written deepProject_leadsTo
  have hload := (load_writtenIn_of_too_long deepProject_onDisk deepProject_isDirectory
    deepProject_place_not_directory deepProject_size ".").1
  obtain ⟨further, hcandidates⟩ :=
    candidates_append_singleton fun name hname => (deepName_isEntryName name hname).1
  rw [hcandidates, List.tail_cons, firstUsable_cons_of_says deepProject_above] at hload
  rw [hload] at hdefault
  cases hdefault

end Config

end Nullability
