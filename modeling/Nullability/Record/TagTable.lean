import Nullability.Record.Basic

/-!
Tags given by component name: a source of components for callers that hold tag lists already.
-/

namespace Nullability

/-- Tag lists by name; a later entry of a name replaces an earlier one. -/
structure TagTable where
  entries : List (String × List String)

namespace TagTable

def empty : TagTable := ⟨[]⟩

def insert (t : TagTable) (name : String) (tags : List String) : TagTable :=
  ⟨(name, tags) :: t.entries⟩

/-- The tags of a name; none if the name has no entry. -/
def tagsOf (t : TagTable) (name : String) : List String :=
  (t.entries.lookup name).getD []

/-- The component of the given name with the tags that the table has for a key. -/
def component (t : TagTable) (name key : String) : Component := ⟨name, t.tagsOf key, none⟩

@[simp] theorem tagsOf_empty (name : String) : empty.tagsOf name = [] := rfl

@[simp] theorem tagsOf_insert_self (t : TagTable) (name : String) (tags : List String) :
    (t.insert name tags).tagsOf name = tags := by
  simp [tagsOf, insert]

theorem tagsOf_insert_of_ne (t : TagTable) {name other : String} (tags : List String)
    (h : other ≠ name) : (t.insert name tags).tagsOf other = t.tagsOf other := by
  have hne : (other == name) = false := by simpa using h
  simp [tagsOf, insert, List.lookup_cons, hne]

/-- Puts entries into a table one after another. -/
def insertAll (t : TagTable) (entries : List (String × List String)) : TagTable :=
  entries.foldl (fun t e => t.insert e.1 e.2) t

/-- Entries of other names do not count. -/
theorem tagsOf_insertAll_of_ne {name : String} {entries : List (String × List String)}
    (h : ∀ e ∈ entries, name ≠ e.1) (t : TagTable) : (t.insertAll entries).tagsOf name = t.tagsOf name := by
  induction entries generalizing t with
  | nil => rfl
  | cons e rest ih =>
    rw [List.forall_mem_cons] at h
    calc (t.insertAll (e :: rest)).tagsOf name
        = ((t.insert e.1 e.2).insertAll rest).tagsOf name := rfl
      _ = (t.insert e.1 e.2).tagsOf name := ih h.2 _
      _ = t.tagsOf name := t.tagsOf_insert_of_ne e.2 h.1

/-- Of the entries of a name the last one counts. -/
theorem tagsOf_insertAll_last (t : TagTable) {name : String} (tags : List String)
    (before : List (String × List String)) {after : List (String × List String)}
    (h : ∀ e ∈ after, name ≠ e.1) :
    (t.insertAll (before ++ (name, tags) :: after)).tagsOf name = tags := by
  have hsplit : t.insertAll (before ++ (name, tags) :: after) =
      ((t.insertAll before).insert name tags).insertAll after := List.foldl_append
  rw [hsplit, tagsOf_insertAll_of_ne h, tagsOf_insert_self]

end TagTable

end Nullability
