/-!
File trees. A place is the list of names that lead to it from the root; a tree says what is at each place.
The main statements say what is at a place after something has been put there, and that a directory lists
what is at the places in it. A tree holds files and directories only: symbolic links, permissions and names
that are no texts are left out.
-/

namespace Nullability

/-- The names that lead to a file or a directory from the root of the file system. -/
abbrev Location := List String

inductive Entry
  | file (content : ByteArray)
  | directory

def Entry.isDirectory : Entry → Bool
  | file _ => false
  | directory => true

/-- What is at each place. No place is listed twice; the root is a directory and is not listed. -/
structure FileTree where
  entries : List (Location × Entry)
  nodup : (entries.map (·.1)).Nodup

namespace FileTree

def empty : FileTree := ⟨[], List.nodup_nil⟩

def get? (t : FileTree) (l : Location) : Option Entry :=
  if l = [] then some .directory else t.entries.lookup l

def isDirectory (t : FileTree) (l : Location) : Bool :=
  match t.get? l with
  | some .directory => true
  | _ => false

def isFile (t : FileTree) (l : Location) : Bool :=
  match t.get? l with
  | some (.file _) => true
  | _ => false

theorem isDirectory_iff {t : FileTree} {l : Location} : t.isDirectory l ↔ t.get? l = some .directory := by
  rw [isDirectory]
  cases t.get? l with
  | none => simp
  | some e => cases e <;> simp

theorem isFile_iff {t : FileTree} {l : Location} :
    t.isFile l ↔ ∃ content, t.get? l = some (.file content) := by
  rw [isFile]
  cases t.get? l with
  | none => simp
  | some e => cases e <;> simp

/-- The entries whose places satisfy a condition. -/
def filter (t : FileTree) (keep : Location → Bool) : FileTree where
  entries := t.entries.filter fun e => keep e.1
  nodup := t.nodup.sublist (List.filter_sublist.map _)

/-- Puts something at a place, instead of what was there. -/
def insert (t : FileTree) (l : Location) (e : Entry) : FileTree where
  entries := (l, e) :: (t.filter (· ≠ l)).entries
  nodup := by
    rw [List.map_cons, List.nodup_cons]
    exact ⟨by simp [filter], (t.filter (· ≠ l)).nodup⟩

/-- Removes what is at a place, with everything below it. -/
def erase (t : FileTree) (l : Location) : FileTree := t.filter (!l.isPrefixOf ·)

/-- The directories that lead to a place, the nearest last. -/
def parents (l : Location) : List Location := (List.range l.length).tail.map l.take

/-- Puts something at a place, with the directories that lead there. -/
def put (t : FileTree) (l : Location) (e : Entry) : FileTree :=
  let withParents := (parents l).foldl
    (fun t p => if t.isDirectory p then t else t.insert p .directory) t
  if l = [] then t else withParents.insert l e

/-- The name of a place in a directory, if it is a place in that directory. -/
def nameIn? : Location → Location → Option String
  | [], [name] => some name
  | a :: directory, b :: place => if a = b then nameIn? directory place else none
  | _, _ => none

/-- What is in a directory, with the names, in the order in which it is listed. -/
def listing (t : FileTree) (directory : Location) : List (String × Entry) :=
  t.entries.filterMap fun e => (nameIn? directory e.1).map (·, e.2)

/-- The number of names that lead to the deepest entry. -/
def height (t : FileTree) : Nat := (t.entries.map (·.1.length)).foldr max 0

private theorem lookup_filter (keep : Location → Bool) (l : Location) (es : List (Location × Entry)) :
    (es.filter fun e => keep e.1).lookup l = if keep l then es.lookup l else none := by
  induction es with
  | nil => simp
  | cons e es ih =>
    rcases e with ⟨m, e⟩
    by_cases hm : l = m
    · subst hm
      by_cases hk : keep l <;> simp [hk, ih]
    · have hb : (l == m) = false := by simp [hm]
      by_cases hk : keep m <;> simp [hk, ih, List.lookup_cons, hb]

theorem get?_filter (t : FileTree) (keep : Location → Bool) (l : Location) (hl : l ≠ []) :
    (t.filter keep).get? l = if keep l then t.get? l else none := by
  simp [get?, filter, hl, lookup_filter]

/-- Putting something at a place changes that place alone. -/
theorem get?_insert (t : FileTree) (l m : Location) (e : Entry) (hl : l ≠ []) :
    (t.insert l e).get? m = if m = l then some e else t.get? m := by
  by_cases hm : m = []
  · subst hm
    simp [get?, Ne.symm hl]
  · by_cases h : m = l
    · subst h
      simp [get?, insert, hm]
    · have hb : (m == l) = false := by simp [h]
      have hf := get?_filter t (· ≠ l) m hm
      simp only [get?, if_neg hm] at hf
      simp only [get?, insert, if_neg hm, if_neg h, List.lookup_cons, hb, hf]
      simp [h]

private theorem lookup_eq_some_iff {l : Location} {e : Entry} {es : List (Location × Entry)}
    (h : (es.map (·.1)).Nodup) : es.lookup l = some e ↔ (l, e) ∈ es := by
  induction es with
  | nil => simp
  | cons f es ih =>
    rcases f with ⟨m, f⟩
    rw [List.map_cons, List.nodup_cons] at h
    by_cases hm : l = m
    · subst hm
      have hnot : (l, e) ∉ es := fun he => h.1 (List.mem_map.mpr ⟨(l, e), he, rfl⟩)
      simp [hnot, eq_comm]
    · have hb : (l == m) = false := by simp [hm]
      rw [List.lookup_cons, hb, List.mem_cons, ← ih h.2]
      simp [hm]

theorem get?_eq_some_iff {t : FileTree} {l : Location} {e : Entry} (hl : l ≠ []) :
    t.get? l = some e ↔ (l, e) ∈ t.entries := by
  rw [get?, if_neg hl, lookup_eq_some_iff t.nodup]

theorem nameIn?_eq_some_iff {directory place : Location} {name : String} :
    nameIn? directory place = some name ↔ place = directory ++ [name] := by
  fun_induction nameIn? directory place with
  | case1 n => simp
  | case2 a directory place ih => simp [ih]
  | case3 a directory b place h => simp [Ne.symm h]
  | case4 directory place h₁ h₂ =>
    cases directory with
    | nil =>
      simp only [List.nil_append, reduceCtorEq, false_iff]
      exact h₁ name rfl
    | cons a directory =>
      simp only [reduceCtorEq, List.cons_append, false_iff]
      exact h₂ a directory a (directory ++ [name]) rfl

/-- A directory lists what is at the places in it. -/
theorem mem_listing {t : FileTree} {directory : Location} {name : String} {e : Entry} :
    (name, e) ∈ t.listing directory ↔ t.get? (directory ++ [name]) = some e := by
  rw [get?_eq_some_iff (by simp), listing, List.mem_filterMap]
  constructor
  · rintro ⟨⟨place, e'⟩, hmem, heq⟩
    rw [Option.map_eq_some_iff] at heq
    obtain ⟨n, hn, heq⟩ := heq
    cases heq
    rwa [← nameIn?_eq_some_iff.mp hn]
  · intro hmem
    exact ⟨_, hmem, by simp [nameIn?_eq_some_iff.mpr]⟩

/-- A directory lists each name once. -/
theorem listing_nodup (t : FileTree) (directory : Location) :
    ((t.listing directory).map Prod.fst).Nodup := by
  have hplaces := t.nodup
  rw [List.Nodup, List.pairwise_map] at hplaces ⊢
  rw [listing, List.pairwise_filterMap]
  refine hplaces.imp ?_
  rintro ⟨p, e⟩ ⟨q, f⟩ hne ⟨n, _⟩ hn ⟨m, _⟩ hm
  rw [Option.map_eq_some_iff] at hn hm
  obtain ⟨n, hp, hn⟩ := hn
  obtain ⟨m, hq, hm⟩ := hm
  cases hn
  cases hm
  rintro rfl
  exact hne ((nameIn?_eq_some_iff.mp hp).trans (nameIn?_eq_some_iff.mp hq).symm)

theorem length_le_height {t : FileTree} {l : Location} (h : (t.get? l).isSome) : l.length ≤ t.height := by
  by_cases hl : l = []
  · subst hl
    exact Nat.zero_le _
  · obtain ⟨e, he⟩ := Option.isSome_iff_exists.mp h
    rw [get?_eq_some_iff hl] at he
    have hmax : ∀ ns : List Nat, l.length ∈ ns → l.length ≤ ns.foldr max 0 := by
      intro ns
      induction ns with
      | nil => simp
      | cons n ns ih =>
        intro hn
        rw [List.foldr_cons]
        rcases List.mem_cons.mp hn with h | h
        · omega
        · have := ih h
          omega
    exact hmax _ (List.mem_map.mpr ⟨(l, e), he, rfl⟩)

/-- What is at each place does not depend on the order of the list. -/
theorem get?_of_perm {t u : FileTree} (h : t.entries.Perm u.entries) : t.get? = u.get? := by
  funext l
  by_cases hl : l = []
  · rw [get?, get?, if_pos hl, if_pos hl]
  · apply Option.ext
    intro e
    rw [get?_eq_some_iff hl, get?_eq_some_iff hl, h.mem_iff]

/-- The text of a place. -/
def Location.text (l : Location) : String := "/" ++ "/".intercalate l

end FileTree

end Nullability
