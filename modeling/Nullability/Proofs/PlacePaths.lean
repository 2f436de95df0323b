import Mathlib.Data.List.Infix
import Mathlib.Data.List.Nodup
import Nullability.Proofs.PathParents
import Nullability.Settings.Discovery

/-!
The absolute paths of places. The path of a place has its names as components, so following it leads back
to the place, the path of an entry joins the path of its directory with a name, and the parents of a path
are the paths of the places above. A file system cannot follow every such path: there is a limit to the
size of a path, and none to the depth of a place.
-/

namespace Nullability

theorem Text.joinPieces_eq_intercalate (separator : Char) (ps : List (List Char)) :
    joinPieces separator ps = [separator].intercalate ps := by
  induction ps with
  | nil => rfl
  | cons p ps ih =>
      cases ps with
      | nil => simp [joinPieces, List.intercalate]
      | cons q ps =>
          rw [joinPieces, ih]
          · simp [List.intercalate]
          · exact List.cons_ne_nil q ps

theorem Text.mem_joinPieces {separator c : Char} {ps : List (List Char)} (h : c ∈ joinPieces separator ps) :
    c = separator ∨ ∃ p ∈ ps, c ∈ p := by
  induction ps with
  | nil => cases h
  | cons p ps ih =>
      cases ps with
      | nil => exact Or.inr ⟨p, List.mem_singleton_self p, h⟩
      | cons q ps =>
          rw [joinPieces, List.mem_append, List.mem_cons] at h
          · rcases h with h | h | h
            · exact Or.inr ⟨p, List.mem_cons_self, h⟩
            · exact Or.inl h
            · rcases ih h with h | ⟨r, hr, h⟩
              · exact Or.inl h
              · exact Or.inr ⟨r, List.mem_cons_of_mem p hr, h⟩
          · exact List.cons_ne_nil q ps

theorem Path.toList_intercalate_slash (names : List String) :
    ("/".intercalate names).toList = joinSlashes (names.map String.toList) := by
  rw [String.toList_intercalate, joinSlashes, Text.joinPieces_eq_intercalate]
  rfl

namespace FileTree.Location

/-- Every name on the way to a place is that of an entry. -/
def Named (l : Location) : Prop := ∀ name ∈ l, IsEntryName name

variable {l : Location}

theorem toList_text (l : Location) : (text l).toList = '/' :: Path.joinSlashes (l.map String.toList) := by
  rw [text, String.toList_append, Path.toList_intercalate_slash]
  rfl

theorem text_of_path (l : Location) : (⟨.root, l.map String.toList⟩ : Path).text = text l := by
  rw [← String.toList_inj, toList_text, Path.text, String.toList_ofList, Path.chars]
  rfl

theorem splitSlashes_names (hl : Named l) (hne : l ≠ []) :
    Path.splitSlashes (Path.joinSlashes (l.map String.toList)) = l.map String.toList := by
  refine Text.pieces_joinPieces (fun hnil => hne (List.map_eq_nil_iff.mp hnil)) fun p hp => ?_
  obtain ⟨name, hname, rfl⟩ := List.mem_map.mp hp
  exact (hl name hname).2.2.2

theorem ofText_text (hl : Named l) (hne : l ≠ []) :
    Path.ofText (text l) = ⟨.root, l.map String.toList⟩ := by
  rw [Path.ofText, toList_text, Path.ofChars, splitSlashes_names hl hne]

theorem text_singleton (name : String) : text [name] = "/" ++ name := by
  rw [text, String.intercalate_singleton]

theorem text_append_singleton (hne : l ≠ []) (name : String) :
    text (l ++ [name]) = text l ++ "/" ++ name := by
  have hnames : l.map String.toList ≠ [] := fun hnil => hne (List.map_eq_nil_iff.mp hnil)
  rw [← String.toList_inj, toList_text, List.map_append, List.map_singleton, Path.joinSlashes,
    Text.joinPieces_append '/' hnames (List.cons_ne_nil _ _), String.toList_append, String.toList_append,
    toList_text, Path.joinSlashes]
  simp [Text.joinPieces]

/-- The path of a place in a directory does not end in a slash. -/
theorem getLast?_text (hl : Named l) (hne : l ≠ []) : (text l).toList.getLast? ≠ some '/' := by
  cases l using List.reverseRecOn with
  | nil => exact absurd rfl hne
  | append_singleton above name =>
      have hname : IsEntryName name := hl name (by simp)
      have hends : ∃ front, (text (above ++ [name])).toList = front ++ name.toList := by
        by_cases habove : above = []
        · exact ⟨['/'], by rw [habove, List.nil_append, text_singleton, String.toList_append]; rfl⟩
        · exact ⟨_, by rw [text_append_singleton habove, String.toList_append]⟩
      obtain ⟨front, hfront⟩ := hends
      intro hslash
      rw [hfront, List.getLast?_append_of_ne_nil _ hname.toList_ne_nil] at hslash
      exact hname.2.2.2 (List.mem_of_getLast? hslash)

/-- The path of an entry is that of its directory with its name behind. -/
theorem join_text (hl : Named l) {name : String} (hname : IsEntryName name) :
    Path.join (text l) name = text (l ++ [name]) := by
  by_cases hne : l = []
  · subst hne
    rw [Path.join_of_final_slash hname rfl, List.nil_append, text_singleton]
    rfl
  · have hbase : text l ≠ "" := by
      intro h
      rw [← String.toList_inj, toList_text] at h
      cases h
    rw [Path.join_of_no_final_slash hbase hname (getLast?_text hl hne), text_append_singleton hne]

theorem steps_text (hl : Named l) (hne : l ≠ []) : steps (text l) = l := by
  have hnames : (Path.splitSlashes (text l).toList).filter (· ≠ []) = l.map String.toList := by
    have hall : ∀ segment ∈ l.map String.toList, segment ≠ [] := by
      intro segment hsegment
      obtain ⟨name, hname, rfl⟩ := List.mem_map.mp hsegment
      exact (hl name hname).toList_ne_nil
    rw [toList_text, Path.splitSlashes, Text.pieces, if_pos rfl, ← Path.splitSlashes,
      splitSlashes_names hl hne, List.filter_cons_of_neg (by simp)]
    exact List.filter_eq_self.mpr fun segment h => decide_eq_true (hall segment h)
  rw [steps, hnames, if_neg (getLast?_text hl hne), List.map_map]
  simp

/-- The size of the names on the way to a place, with a slash before each. -/
def size : Location → Nat
  | [] => 0
  | name :: rest => 1 + name.utf8ByteSize + size rest

theorem size_append (l m : Location) : size (l ++ m) = size l + size m := by
  induction l with
  | nil => rw [List.nil_append, size, Nat.zero_add]
  | cons name l ih =>
      rw [List.cons_append, size, size, ih]
      omega

theorem utf8ByteSize_text (hne : l ≠ []) : (text l).utf8ByteSize = size l := by
  have hslash : "/".utf8ByteSize = 1 := rfl
  induction l using List.reverseRecOn with
  | nil => exact absurd rfl hne
  | append_singleton above name ih =>
      by_cases habove : above = []
      · subst habove
        rw [List.nil_append, text_singleton, String.utf8ByteSize_append, hslash]
        rfl
      · rw [text_append_singleton habove, String.utf8ByteSize_append, String.utf8ByteSize_append, ih habove,
          hslash, size_append, Nat.add_assoc]
        rfl

/-! ### Parents -/

theorem dropBlank_names (hl : Named l) :
    Path.dropBlank (l.map String.toList).reverse = (l.map String.toList).reverse := by
  cases l using List.reverseRecOn with
  | nil => rfl
  | append_singleton above name =>
      have hname : IsEntryName name := hl name (by simp)
      rw [List.map_append, List.map_singleton, List.reverse_append, List.reverse_singleton,
        List.singleton_append, Path.dropBlank, List.dropWhile_cons_of_neg (by simp [hname.not_blank])]

theorem parent?_of_names {name : String} (hl : Named l) (hname : IsEntryName name) :
    (⟨.root, (l ++ [name]).map String.toList⟩ : Path).parent? = some ⟨.root, l.map String.toList⟩ := by
  have hfirst : Path.dropBlank ((l ++ [name]).map String.toList).reverse =
      name.toList :: (l.map String.toList).reverse := by
    rw [List.map_append, List.map_singleton, List.reverse_append, List.reverse_singleton,
      List.singleton_append, Path.dropBlank, List.dropWhile_cons_of_neg (by simp [hname.not_blank])]
  rw [Path.parent?, hfirst]
  simp only [dropBlank_names hl, List.reverse_reverse]

theorem inits_reverse_append_singleton (above : Location) (name : String) :
    (above ++ [name]).inits.reverse = (above ++ [name]) :: above.inits.reverse := by
  simp [List.inits_append]

theorem inits_reverse_eq_cons (l : Location) : ∃ rest, l.inits.reverse = l :: rest := by
  cases l using List.reverseRecOn with
  | nil => exact ⟨[], rfl⟩
  | append_singleton above name => exact ⟨_, inits_reverse_append_singleton above name⟩

theorem ancestorsFrom_names (hl : Named l) (count : Nat) :
    Path.ancestorsFrom count ⟨.root, l.map String.toList⟩ =
      (l.inits.reverse.take count).map fun m => ⟨.root, m.map String.toList⟩ := by
  induction l using List.reverseRecOn generalizing count with
  | nil => cases count <;> simp [Path.ancestorsFrom, Path.parent?, Path.dropBlank]
  | append_singleton above name ih =>
      have habove : Named above := fun n hn => hl n (List.mem_append_left _ hn)
      cases count with
      | zero => simp [Path.ancestorsFrom]
      | succ count =>
          rw [Path.ancestorsFrom, parent?_of_names habove (hl name (by simp)),
            inits_reverse_append_singleton, List.take_succ_cons, List.map_cons, ← ih habove count]

/-- The path of a place and its parents are the paths of the place and of those above it. -/
theorem ancestors_text (hl : Named l) (limit : Nat) :
    ((Path.ofText (text l)).ancestors limit).map Path.text = (l.inits.reverse.take limit).map text := by
  rw [Path.ancestors_eq]
  by_cases hne : l = []
  · subst hne
    cases limit with
    | zero => rfl
    | succ limit =>
        have hinits : ([] : Location).inits.reverse = [[]] := rfl
        rw [hinits, List.take_of_length_le (Nat.le_add_left 1 limit)]
        rfl
  · rw [ofText_text hl hne, ancestorsFrom_names hl, List.map_map]
    exact List.map_congr_left fun m _ => text_of_path m

end FileTree.Location

/-! ### Following -/

namespace FileTree

open Location

variable {t : FileTree} {cwd l : Location}

/-- A file system can store a name. -/
def IsStorable (name : String) : Prop := '\x00' ∉ name.toList ∧ name.utf8ByteSize ≤ nameLimit

instance (name : String) : Decidable (IsStorable name) := inferInstanceAs (Decidable (_ ∧ _))

/-- A tree is one that a file system can hold. -/
structure OnDisk (t : FileTree) : Prop where
  wellFormed : t.WellFormed
  storable : ∀ e ∈ t.entries, ∀ name ∈ e.1, IsStorable name

theorem OnDisk.named (ht : t.OnDisk) (h : (t.get? l).isSome) : Named l := ht.wellFormed.isEntryName h

theorem OnDisk.storable_of_isSome (ht : t.OnDisk) (h : (t.get? l).isSome) {name : String} (hname : name ∈ l) :
    IsStorable name := by
  have hne : l ≠ [] := fun hnil => List.not_mem_nil (hnil ▸ hname)
  obtain ⟨e, he⟩ := Option.isSome_iff_exists.mp h
  exact ht.storable (l, e) ((get?_eq_some_iff hne).mp he) name hname

theorem nodup_inits (l : Location) : l.inits.Nodup := by
  induction l with
  | nil => simp
  | cons name l ih =>
      rw [List.inits_cons, List.nodup_cons]
      exact ⟨by simp, List.Nodup.map List.cons_injective ih⟩

/-- The directories that lead to a place, and nothing else. -/
def directoriesTo (l : Location) : FileTree where
  entries := (l.inits.filter (· ≠ [])).map (·, .directory)
  nodup := by
    rw [List.map_map]
    exact (List.map_id _).symm ▸ (nodup_inits l).filter _

theorem mem_directoriesTo {e : Location × Entry} :
    e ∈ (directoriesTo l).entries ↔ e.1 <+: l ∧ e.1 ≠ [] ∧ e.2 = .directory := by
  obtain ⟨m, entry⟩ := e
  simp only [directoriesTo, List.mem_map, List.mem_filter, List.mem_inits, decide_eq_true_eq, Prod.mk.injEq]
  constructor
  · rintro ⟨_, ⟨hle, hne⟩, rfl, rfl⟩
    exact ⟨hle, hne, rfl⟩
  · rintro ⟨hle, hne, rfl⟩
    exact ⟨m, ⟨hle, hne⟩, rfl, rfl⟩

theorem get?_directoriesTo_above {m : Location} (h : m <+: l) :
    (directoriesTo l).get? m = some .directory := by
  by_cases hm : m = []
  · rw [hm, get?, if_pos rfl]
  · exact (get?_eq_some_iff hm).mpr (mem_directoriesTo.mpr ⟨h, hm, rfl⟩)

theorem get?_directoriesTo_elsewhere {m : Location} (h : ¬m <+: l) : (directoriesTo l).get? m = none := by
  have hm : m ≠ [] := by
    rintro rfl
    exact h List.nil_prefix
  rw [Option.eq_none_iff_forall_ne_some]
  intro e he
  exact h (mem_directoriesTo.mp ((get?_eq_some_iff hm).mp he)).1

/-- A file system can hold a place of any depth. -/
theorem onDisk_directoriesTo (h : ∀ name ∈ l, IsEntryName name ∧ IsStorable name) :
    (directoriesTo l).OnDisk := by
  constructor
  · intro e he
    have hle := (mem_directoriesTo.mp he).1
    refine ⟨fun name hname => (h name (hle.subset hname)).1, isDirectory_iff.mpr ?_⟩
    exact get?_directoriesTo_above ((List.dropLast_prefix e.1).trans hle)
  · intro e he name hname
    exact (h name ((mem_directoriesTo.mp he).1.subset hname)).2

/-- What is followed in two parts is followed from where the first part leads. -/
theorem follow_append (t : FileTree) (l : Location) (before after : List String) :
    t.follow l (before ++ after) = (t.follow l before).bind fun m => t.follow m after := by
  fun_induction t.follow l before with
  | case1 l => rfl
  | case2 l step rest hl => rw [List.cons_append, follow, hl]; rfl
  | case3 l step rest content hl => rw [List.cons_append, follow, hl]; rfl
  | case4 l rest hl ih =>
      rw [List.cons_append, follow]
      simp only [hl, if_true, ih]
  | case5 l rest hl hdot ih =>
      rw [List.cons_append, follow]
      simp only [hl, hdot, if_true, if_false, ih]
  | case6 l step rest hl hdot hdots hsize =>
      rw [List.cons_append, follow]
      simp only [hl, hdot, hdots, hsize, if_true, if_false]
      rfl
  | case7 l step rest hl hdot hdots hsize hmissing =>
      rw [List.cons_append, follow]
      simp only [hl, hdot, hdots, hsize, hmissing, if_true, if_false]
      rfl
  | case8 l step rest hl hdot hdots hsize hthere ih =>
      rw [List.cons_append, follow]
      simp only [hl, hdot, hdots, hsize, hthere, Bool.false_eq_true, if_false, ih]

theorem follow_here_eq_ok_iff {m : Location} :
    t.follow l ["."] = .ok m ↔ t.get? l = some .directory ∧ m = l := by
  rw [follow]
  cases h : t.get? l with
  | none => simp
  | some e =>
      cases e with
      | file content => simp
      | directory => simp [follow, eq_comm]

/-- A name that is in a directory is followed there. -/
theorem follow_name {name : String} (hname : IsEntryName name) (hsize : name.utf8ByteSize ≤ nameLimit)
    (hl : t.get? l = some .directory) :
    t.follow l [name] = if (t.get? (l ++ [name])).isSome then .ok (l ++ [name]) else .error .notFound := by
  rw [follow]
  simp only [hl, hname.2.1, hname.2.2.1, Nat.not_lt.mpr hsize, if_false]
  cases t.get? (l ++ [name]) with
  | none => rfl
  | some e => rfl

theorem follow_names (ht : t.OnDisk) {names : List String} (h : (t.get? (l ++ names)).isSome) :
    t.follow l names = .ok (l ++ names) := by
  induction names using List.reverseRecOn with
  | nil => rw [follow, List.append_nil]
  | append_singleton above name ih =>
      rw [← List.append_assoc] at h ⊢
      have hdirectory : t.isDirectory (l ++ above) :=
        ht.wellFormed.isDirectory_above (List.cons_ne_nil name []) h
      have hget := isDirectory_iff.mp hdirectory
      have hname : name ∈ l ++ above ++ [name] := by simp
      rw [follow_append, ih (Option.isSome_of_eq_some hget)]
      show t.follow (l ++ above) [name] = _
      rw [follow_name (ht.named h name hname) (ht.storable_of_isSome h hname).2 hget, if_pos h]

theorem pathFault?_eq_none {path : String} (hnul : '\x00' ∉ path.toList) (hne : path ≠ "")
    (hsize : path.utf8ByteSize < pathLimit) : pathFault? path = none := by
  rw [pathFault?, if_neg (by simpa using hnul), if_neg (by simpa using hne), if_neg (Nat.not_le.mpr hsize)]

/-- A path that is too long for the system leads nowhere, whatever there is. -/
theorem locate_of_too_long {path : String} (hnul : '\x00' ∉ path.toList) (hsize : pathLimit ≤ path.utf8ByteSize)
    (t : FileTree) (cwd : Location) : t.locate cwd path = .error .nameTooLong := by
  have hne : path ≠ "" := by
    rintro rfl
    exact absurd hsize (by decide)
  rw [locate, pathFault?, if_neg (by simpa using hnul), if_neg (by simpa using hne), if_pos hsize]

theorem null_not_mem_text (ht : t.OnDisk) (h : (t.get? l).isSome) : '\x00' ∉ (Location.text l).toList := by
  intro hmem
  rw [toList_text, List.mem_cons] at hmem
  rcases hmem with hmem | hmem
  · exact absurd hmem (by decide)
  · rcases Text.mem_joinPieces hmem with hmem | ⟨p, hp, hmem⟩
    · exact absurd hmem (by decide)
    · obtain ⟨name, hname, rfl⟩ := List.mem_map.mp hp
      exact (ht.storable_of_isSome h hname).1 hmem

/-- The absolute path of a place is followed from the root, if the system takes it for a path. -/
theorem locate_absolute (hl : Named l) (hne : l ≠ []) (t : FileTree) (cwd : Location) :
    t.locate cwd (Location.text l) =
      match pathFault? (Location.text l) with
      | some fault => .error fault
      | none => t.follow [] l := by
  have habsolute : Path.isAbsolute (Location.text l) = true := by
    rw [Path.isAbsolute, toList_text]
    rfl
  rw [locate, origin, if_pos habsolute]
  cases pathFault? (Location.text l) with
  | some fault => rfl
  | none => exact congrArg (t.follow []) (steps_text hl hne)

/-- The absolute path of an entry leads to it, wherever it is followed from, if it is not too long for the
system. -/
theorem locate_text (ht : t.OnDisk) (hne : l ≠ []) (h : (t.get? l).isSome)
    (hsize : (Location.text l).utf8ByteSize < pathLimit) (cwd : Location) :
    t.locate cwd (Location.text l) = .ok l := by
  have hnonempty : Location.text l ≠ "" := by
    intro hempty
    rw [← String.toList_inj, toList_text] at hempty
    cases hempty
  rw [locate_absolute (ht.named h) hne, pathFault?_eq_none (null_not_mem_text ht h) hnonempty hsize]
  exact follow_names ht h

end FileTree

namespace Config

open FileTree

theorem isEntryName_fileName : IsEntryName fileName := by decide

theorem isStorable_fileName : IsStorable fileName := by decide

/-- The configuration files that are looked for from a place are those of the place and of the places above
it, the nearest first. -/
theorem candidates_eq {l : Location} (hl : Location.Named l) :
    candidates l = (l.inits.reverse.take searchDepth).map fun m => Location.text (m ++ [fileName]) := by
  have hpaths : candidates l =
      (((Path.ofText (Location.text l)).ancestors searchDepth).map Path.text).map (Path.join · fileName) := by
    rw [candidates, List.map_map]
    rfl
  rw [hpaths, Location.ancestors_text hl, List.map_map]
  refine List.map_congr_left fun m hm => ?_
  have hle : m <+: l := (List.mem_inits m l).mp (List.mem_reverse.mp (List.mem_of_mem_take hm))
  exact Location.join_text (fun name hname => hl name (hle.subset hname)) isEntryName_fileName

/-- The file of the place itself is looked for first. -/
theorem candidates_eq_cons {l : Location} (hl : Location.Named l) :
    ∃ above, candidates l = Location.text (l ++ [fileName]) :: above := by
  obtain ⟨rest, hinits⟩ := Location.inits_reverse_eq_cons l
  rw [candidates_eq hl, hinits, searchDepth, List.take_succ_cons, List.map_cons]
  exact ⟨_, rfl⟩

/-- The file of the directory that a place lies in comes next. -/
theorem candidates_append_singleton {above : Location} {name : String} (hl : Location.Named (above ++ [name])) :
    ∃ further, candidates (above ++ [name]) =
      Location.text (above ++ [name] ++ [fileName]) :: Location.text (above ++ [fileName]) :: further := by
  obtain ⟨rest, hinits⟩ := Location.inits_reverse_eq_cons above
  rw [candidates_eq hl, Location.inits_reverse_append_singleton, hinits, searchDepth, List.take_succ_cons,
    List.take_succ_cons, List.map_cons, List.map_cons]
  exact ⟨_, rfl⟩

end Config

end Nullability
