import Nullability.Proofs.ConfigDiscovery
import Nullability.Proofs.EntryWriting
import Nullability.Settings.Template

/-!
Writing a new configuration file. The file is written whole or nothing is changed, and without force it is
written only where nothing was. In its directory the defaults hold then, if the system can read the file by
its absolute path; a path can be too long for that, and the search goes on further up.
-/

namespace Nullability.Config

set_option maxRecDepth 4000

open FileTree

variable {t : FileTree} {cwd l : Location} {directory : String} {force : Bool}

/-! ### Writing -/

/-- What is there when a new configuration file has been written in a directory. -/
def writtenIn (t : FileTree) (l : Location) (directory : String) : TemplateWritten where
  tree := t.insert (l ++ [fileName]) (.file template.toUTF8)
  path := Path.join directory fileName
  log := [⟨.debug, .template, "Wrote " ++ Path.join directory fileName⟩]

/-- A new configuration file is written exactly if its path is one, its directory is there, no directory
has its place and, without force, nothing has. -/
theorem writeTemplate_eq_ok_iff {w : TemplateWritten} :
    writeTemplate t cwd directory force = .ok w ↔
      pathFault? (Path.join directory fileName) = none ∧
        ∃ l, t.LeadsTo cwd directory l ∧ t.get? (l ++ [fileName]) ≠ some .directory ∧
          (force = false → t.get? (l ++ [fileName]) = none) ∧ w = writtenIn t l directory := by
  have hwrite (u : FileTree) :
      t.writeText cwd (Path.join directory fileName) template = .ok u ↔
        pathFault? (Path.join directory fileName) = none ∧
          ∃ l, t.LeadsTo cwd directory l ∧ t.get? (l ++ [fileName]) ≠ some .directory ∧
            u = t.insert (l ++ [fileName]) (.file template.toUTF8) :=
    writeText_join_eq_ok_iff isEntryName_fileName isStorable_fileName.2
  rw [writeTemplate]
  constructor
  · intro h
    split at h
    · cases h
    · next hallowed =>
        cases hresult : t.writeText cwd (Path.join directory fileName) template with
        | error cause =>
            simp only [hresult] at h
            cases h
        | ok u =>
            simp only [hresult] at h
            obtain ⟨hfault, l, hl, hfree, rfl⟩ := (hwrite u).mp hresult
            refine ⟨hfault, l, hl, hfree, ?_, (Except.ok.inj h).symm⟩
            intro hforce
            rw [exists?_join isEntryName_fileName isStorable_fileName.2 hfault hl, hforce] at hallowed
            simpa using hallowed
  · rintro ⟨hfault, l, hl, hfree, hnothing, rfl⟩
    have hallowed : ¬(t.exists? cwd (Path.join directory fileName) && !force) = true := by
      rw [exists?_join isEntryName_fileName isStorable_fileName.2 hfault hl]
      cases force with
      | true => simp
      | false => simp [hnothing rfl]
    rw [if_neg hallowed, (hwrite _).mpr ⟨hfault, l, hl, hfree, rfl⟩]
    rfl

/-- Writing touches the place of the configuration file alone. -/
theorem get?_writtenIn (t : FileTree) (l : Location) (directory : String) (m : Location) :
    (writtenIn t l directory).tree.get? m =
      if m = l ++ [fileName] then some (.file template.toUTF8) else t.get? m :=
  get?_insert _ _ _ _ (by simp)

/-- Without force, writing a configuration file keeps what there is. -/
theorem get?_of_writeTemplate {m : Location} {e : Entry} {w : TemplateWritten}
    (hw : writeTemplate t cwd directory false = .ok w) (h : t.get? m = some e) : w.tree.get? m = some e := by
  obtain ⟨-, l, -, -, hnothing, rfl⟩ := writeTemplate_eq_ok_iff.mp hw
  have hne : m ≠ l ++ [fileName] := by
    rintro rfl
    cases h.symm.trans (hnothing rfl)
  rw [get?_writtenIn, if_neg hne, h]

/-! ### Reading back -/

/-- Two configurations settle every question alike. -/
structure Agree (c d : Config) : Prop where
  failurePolicy : c.failurePolicy = d.failurePolicy
  parallel : c.parallel = d.parallel
  marker : c.marker = d.marker
  defaultFormat : c.defaultFormat = d.defaultFormat

/-- What a new configuration file says. -/
def templateConfig : Config := ⟨some ⟨.collectAll, true⟩, some ⟨none⟩, some ⟨.terminal⟩⟩

/-- The configuration that the characters of a text say. -/
def ofChars (cs : List Char) : Except String Config :=
  match Toml.parse cs >>= Toml.readAs Json.Codec.config.shape with
  | .ok d => .ok (Json.Codec.config.ofDenote d)
  | .error fault => .error ("Failed to parse " ++ fileName ++ ": " ++ fault.message cs)

theorem ofToml_eq_ofChars (text : String) : ofToml text = ofChars text.toList := rfl

theorem parse_ofList {cs : List Char} {read : Config × Logged}
    (h : (ofChars cs).map dropInvalidMarker = .ok read) : parse (String.ofList cs) = .ok read := by
  rw [parse, ofToml_eq_ofChars, String.toList_ofList, h]

-- Evaluated on the list of its characters: taking them from the bytes of the text is slow in the kernel.
theorem parse_template : parse template = .ok (templateConfig, []) := parse_ofList (by decide +kernel)

/-- A new configuration file says the defaults. -/
theorem templateConfig_agree : templateConfig.Agree default := ⟨rfl, rfl, rfl, rfl⟩

theorem writtenIn_isDirectory (hl : t.get? l = some .directory) (directory : String) :
    (writtenIn t l directory).tree.isDirectory l := by
  rw [isDirectory_iff, get?_writtenIn, if_neg (by simp), hl]

section

variable (ht : t.OnDisk) (hl : t.get? l = some .directory) (hfree : t.get? (l ++ [fileName]) ≠ some .directory)

include ht hl hfree

theorem writtenIn_onDisk (directory : String) : (writtenIn t l directory).tree.OnDisk :=
  ht.insert hl isEntryName_fileName isStorable_fileName hfree _

theorem says_writtenIn (hsize : (Location.text (l ++ [fileName])).utf8ByteSize < pathLimit) (directory : String) :
    Says (writtenIn t l directory).tree (Location.text (l ++ [fileName])) templateConfig := by
  have hget : (writtenIn t l directory).tree.get? (l ++ [fileName]) = some (.file template.toUTF8) := by
    rw [get?_writtenIn, if_pos rfl]
  have hlocate := locate_text (writtenIn_onDisk ht hl hfree directory) (by simp)
    (Option.isSome_of_eq_some hget) hsize []
  exact ⟨template, [], readText_of_locate hlocate hget, parse_template⟩

/-- A new configuration file holds in its directory, whatever is above, if its path is not too long. -/
theorem load_writtenIn (hsize : (Location.text (l ++ [fileName])).utf8ByteSize < pathLimit) (directory : String) :
    (load (writtenIn t l directory).tree l).1 = templateConfig := by
  obtain ⟨above, hcandidates⟩ := candidates_eq_cons (ht.named (Option.isSome_of_eq_some hl))
  rw [(load_of_isDirectory (writtenIn_isDirectory hl directory)).1, hcandidates,
    firstUsable_cons_of_says (says_writtenIn ht hl hfree hsize directory)]
  rfl

theorem readText_writtenIn_of_too_long
    (hsize : pathLimit ≤ (Location.text (l ++ [fileName])).utf8ByteSize) (directory : String) :
    (writtenIn t l directory).tree.readText [] (Location.text (l ++ [fileName])) = .error .nameTooLong := by
  have hthere : ((writtenIn t l directory).tree.get? (l ++ [fileName])).isSome := by
    rw [get?_writtenIn, if_pos rfl]
    rfl
  rw [readText, locate_of_too_long (null_not_mem_text (writtenIn_onDisk ht hl hfree directory) hthere) hsize]

/-- A new configuration file whose path is too long leaves a warning, and the search goes on above its
directory. -/
theorem load_writtenIn_of_too_long (hsize : pathLimit ≤ (Location.text (l ++ [fileName])).utf8ByteSize)
    (directory : String) :
    (load (writtenIn t l directory).tree l).1 =
        (firstUsable (writtenIn t l directory).tree (candidates l).tail).1.getD default ∧
      ∃ warning ∈ (load (writtenIn t l directory).tree l).2, warning.level = .warn ∧
        warning.text = "Failed to read config file " ++ Location.text (l ++ [fileName]) ++ ": " ++
          SystemError.nameTooLong.message := by
  have hread := readText_writtenIn_of_too_long ht hl hfree hsize directory
  have hpresent : Present (writtenIn t l directory).tree (Location.text (l ++ [fileName])) := by
    rw [Present, hread]
    decide
  have hunusable : ¬∃ c, Says (writtenIn t l directory).tree (Location.text (l ++ [fileName])) c := by
    rintro ⟨c, text, log, htext, -⟩
    cases hread.symm.trans htext
  obtain ⟨above, hcandidates⟩ := candidates_eq_cons (ht.named (Option.isSome_of_eq_some hl))
  obtain ⟨hload, hlog⟩ := load_of_isDirectory (writtenIn_isDirectory hl directory)
  rw [hcandidates, firstUsable_cons_of_unusable hunusable] at hload hlog
  obtain ⟨warning, hwarning, hlevel, htext⟩ := readCandidate_of_unreadable hread hpresent
  refine ⟨?_, warning, hlog ?_, hlevel, htext⟩
  · rw [hload, hcandidates, List.tail_cons]
  · rw [hwarning]
    exact List.mem_append_left _ (List.mem_singleton_self warning)

end

end Nullability.Config
