import Nullability.Proofs.PlacePaths

/-!
Writing to a name in a directory. The path that joins a directory and the name of an entry leads to that
entry, so a file is written there exactly if the directory is there and has no directory of the name, and
the file is all that changes. The tree stays one that a file system can hold.
-/

namespace Nullability.FileTree

variable {t : FileTree} {cwd l : Location} {directory name : String}

/-- The names in a path, a slash at its end aside. -/
def pathNames (path : String) : List String :=
  ((Path.splitSlashes path.toList).filter (· ≠ [])).map String.ofList

/-- A path leads to a directory; the empty path leads to the current one. -/
def LeadsTo (t : FileTree) (cwd : Location) (path : String) (l : Location) : Prop :=
  t.follow (origin cwd path) (steps path) = .ok l ∧ t.get? l = some .directory

theorem steps_eq (path : String) :
    steps path = pathNames path ++ if path.toList.getLast? = some '/' then ["."] else [] := by
  rw [steps, pathNames]
  split <;> simp

/-- A slash at the end of a path of a directory makes no difference. -/
theorem leadsTo_iff : t.LeadsTo cwd directory l ↔
    t.follow (origin cwd directory) (pathNames directory) = .ok l ∧ t.get? l = some .directory := by
  rw [LeadsTo, steps_eq]
  split
  · rw [follow_append]
    cases h : t.follow (origin cwd directory) (pathNames directory) with
    | error fault => simp [Except.bind]
    | ok m =>
        simp only [Except.bind, follow_here_eq_ok_iff, Except.ok.injEq]
        constructor
        · rintro ⟨⟨hm, rfl⟩, hl⟩
          exact ⟨rfl, hl⟩
        · rintro ⟨rfl, hl⟩
          exact ⟨⟨hl, rfl⟩, hl⟩
  · rw [List.append_nil]

/-- The text of a joined path: a slash stands before the name, unless the path that it is joined to is
empty. -/
theorem join_toList (directory : String) (hname : IsEntryName name) :
    (directory = "" ∧ Path.join directory name = name) ∨
      ∃ body, (Path.join directory name).toList = body ++ '/' :: name.toList ∧
        (directory.toList = body ∧ body ≠ [] ∨ directory.toList = body ++ ['/']) := by
  by_cases hempty : directory = ""
  · refine Or.inl ⟨hempty, ?_⟩
    rw [hempty, Path.join, hname.not_absolute]
    simp
  · refine Or.inr ?_
    by_cases hlast : directory.toList.getLast? = some '/'
    · obtain ⟨body, hbody⟩ := List.getLast?_eq_some_iff.mp hlast
      refine ⟨body, ?_, Or.inr hbody⟩
      rw [Path.join_of_final_slash hname hlast, String.toList_append, hbody, List.append_assoc,
        List.singleton_append]
    · have hne : directory.toList ≠ [] := fun hnil => hempty (String.toList_inj.mp hnil)
      refine ⟨directory.toList, ?_, Or.inl ⟨rfl, hne⟩⟩
      rw [Path.join_of_no_final_slash hempty hname hlast, String.toList_append, String.toList_append,
        List.append_assoc]
      rfl

theorem splitSlashes_name (hname : IsEntryName name) : Path.splitSlashes name.toList = [name.toList] :=
  Text.pieces_of_not_mem hname.2.2.2

theorem pathNames_join (hname : IsEntryName name) :
    pathNames (Path.join directory name) = pathNames directory ++ [name] := by
  have hnonempty : name.toList ≠ [] := hname.toList_ne_nil
  have hsegment : (Path.splitSlashes name.toList).filter (· ≠ []) = [name.toList] := by
    rw [splitSlashes_name hname]
    simp [hnonempty]
  rcases join_toList directory hname with ⟨rfl, hjoin⟩ | ⟨body, hjoin, hbody⟩
  · rw [hjoin, pathNames, hsegment]
    simp [pathNames, Path.splitSlashes, Text.pieces]
  · have hdirectory : (Path.splitSlashes directory.toList).filter (· ≠ []) =
        (Path.splitSlashes body).filter (· ≠ []) := by
      rcases hbody with ⟨rfl, -⟩ | hslash
      · rfl
      · rw [hslash, Path.splitSlashes, Text.pieces_append, List.filter_append]
        simp [Text.pieces, Path.splitSlashes]
    rw [pathNames, hjoin, Path.splitSlashes, Text.pieces_append, List.filter_append, ← Path.splitSlashes,
      ← Path.splitSlashes, hsegment, ← hdirectory, List.map_append, pathNames]
    simp

theorem steps_join (hname : IsEntryName name) :
    steps (Path.join directory name) = pathNames directory ++ [name] := by
  have hslash : (Path.join directory name).toList.getLast? ≠ some '/' := by
    intro hlast
    have hmem : '/' ∈ name.toList := by
      rcases join_toList directory hname with ⟨-, hjoin⟩ | ⟨body, hjoin, -⟩
      · rw [hjoin] at hlast
        exact List.mem_of_getLast? hlast
      · rw [hjoin, List.getLast?_append_of_ne_nil _ (List.cons_ne_nil _ _),
          List.getLast?_cons_of_ne_nil hname.toList_ne_nil] at hlast
        exact List.mem_of_getLast? hlast
    exact hname.2.2.2 hmem
  rw [steps_eq, if_neg hslash, List.append_nil, pathNames_join hname]

theorem origin_join (hname : IsEntryName name) (cwd : Location) :
    origin cwd (Path.join directory name) = origin cwd directory := by
  have habsolute : Path.isAbsolute (Path.join directory name) = Path.isAbsolute directory := by
    rcases join_toList directory hname with ⟨rfl, hjoin⟩ | ⟨body, hjoin, hbody⟩
    · rw [hjoin, hname.not_absolute]
      rfl
    · rw [Path.isAbsolute, Path.isAbsolute, hjoin]
      rcases hbody with ⟨rfl, hne⟩ | hslash
      · rw [List.head?_append_of_ne_nil _ hne]
      · rw [hslash]
        cases body <;> rfl
  rw [origin, origin, habsolute]

/-- Something is at the path of a name in a directory exactly if the directory has the name. -/
theorem exists?_join (hname : IsEntryName name) (hsize : name.utf8ByteSize ≤ nameLimit)
    (hfault : pathFault? (Path.join directory name) = none) (hl : t.LeadsTo cwd directory l) :
    t.exists? cwd (Path.join directory name) = (t.get? (l ++ [name])).isSome := by
  obtain ⟨hfollow, hdirectory⟩ := leadsTo_iff.mp hl
  have hlocate : t.locate cwd (Path.join directory name) =
      if (t.get? (l ++ [name])).isSome then .ok (l ++ [name]) else .error .notFound := by
    rw [locate, hfault]
    simp only [origin_join hname, steps_join hname, follow_append, hfollow, Except.bind]
    exact follow_name hname hsize hdirectory
  rw [exists?, hlocate]
  cases h : t.get? (l ++ [name]) with
  | none => rfl
  | some e => simp [h]

/-- Writing to a name in a directory succeeds exactly if the path is one, the directory is there and the
name is not that of a directory; then the file is there and nothing else is changed. -/
theorem writeText_join_eq_ok_iff (hname : IsEntryName name) (hsize : name.utf8ByteSize ≤ nameLimit)
    {text : String} {u : FileTree} :
    t.writeText cwd (Path.join directory name) text = .ok u ↔
      pathFault? (Path.join directory name) = none ∧
        ∃ l, t.LeadsTo cwd directory l ∧ t.get? (l ++ [name]) ≠ some .directory ∧
          u = t.insert (l ++ [name]) (.file text.toUTF8) := by
  rw [writeText, steps_join hname, List.getLast?_concat, List.dropLast_concat, origin_join hname]
  cases hfault : pathFault? (Path.join directory name) with
  | some fault => simp
  | none =>
      simp only [leadsTo_iff]
      cases hfollow : t.follow (origin cwd directory) (pathNames directory) with
      | error fault => simp
      | ok l =>
          have hname' : ¬(name = "." ∨ name = "..") := not_or.mpr ⟨hname.2.1, hname.2.2.1⟩
          cases hget : t.get? l with
          | none => simp [hget]
          | some e =>
              cases e with
              | file content => simp [hget]
              | directory =>
                  simp only [hget, hname', Nat.not_lt.mpr hsize, if_false]
                  by_cases hthere : t.isDirectory (l ++ [name])
                  · simp [hthere, isDirectory_iff.mp hthere]
                  · have hfree : t.get? (l ++ [name]) ≠ some .directory := mt isDirectory_iff.mpr hthere
                    simp only [hthere, Bool.false_eq_true, if_false, Except.ok.injEq, true_and]
                    constructor
                    · rintro rfl
                      exact ⟨l, ⟨rfl, hget⟩, hfree, rfl⟩
                    · rintro ⟨_, ⟨rfl, -⟩, -, rfl⟩
                      rfl

/-- A text that is written is read back. -/
theorem readText_of_locate {path text : String} (hlocate : t.locate cwd path = .ok l)
    (hget : t.get? l = some (.file text.toUTF8)) : t.readText cwd path = .ok text := by
  have hdecode : String.fromUTF8? text.toUTF8 = some text := dif_pos text.isValidUTF8
  rw [readText, hlocate]
  simp only [hget, hdecode]

/-- A file in a directory of a tree on disk leaves the tree on disk. -/
theorem OnDisk.insert (ht : t.OnDisk) (hl : t.get? l = some .directory) (hname : IsEntryName name)
    (hstorable : IsStorable name) (hfree : t.get? (l ++ [name]) ≠ some .directory) (content : ByteArray) :
    (t.insert (l ++ [name]) (.file content)).OnDisk := by
  have hplace : l ++ [name] ≠ [] := by simp
  have hkept (m : Location) (hm : t.isDirectory m) :
      (t.insert (l ++ [name]) (.file content)).isDirectory m := by
    have hne : m ≠ l ++ [name] := by
      rintro rfl
      exact hfree (isDirectory_iff.mp hm)
    rw [isDirectory_iff, get?_insert _ _ _ _ hplace, if_neg hne]
    exact isDirectory_iff.mp hm
  have hthere : (t.get? l).isSome := Option.isSome_of_eq_some hl
  constructor
  · intro e he
    rcases List.mem_cons.mp he with rfl | he
    · refine ⟨List.forall_mem_append.mpr ⟨ht.named hthere, List.forall_mem_singleton.mpr hname⟩, ?_⟩
      rw [List.dropLast_concat]
      exact hkept l (isDirectory_iff.mpr hl)
    · obtain ⟨hentry, hparent⟩ := ht.wellFormed e (List.mem_filter.mp he).1
      exact ⟨hentry, hkept _ hparent⟩
  · intro e he
    rcases List.mem_cons.mp he with rfl | he
    · exact List.forall_mem_append.mpr
        ⟨fun n hn => ht.storable_of_isSome hthere hn, List.forall_mem_singleton.mpr hstorable⟩
    · exact ht.storable e (List.mem_filter.mp he).1

end Nullability.FileTree
