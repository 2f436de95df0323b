/-!
Results of a batch: what succeeded and what failed, both in order. A batch with a failure hands nothing
on.
-/

namespace Nullability

/-- The step of an inspection that failed. -/
inductive Operation
  | fileRead | fileParse | classification
  deriving DecidableEq, Repr

namespace Operation

/-- The operations in the order in which they are listed. -/
def all : List Operation := [fileRead, fileParse, classification]

/-- The place of an operation in that order. -/
def rank (o : Operation) : Nat := all.idxOf o

def key : Operation → String
  | fileRead => "file_read"
  | fileParse => "file_parse"
  | classification => "classification"

def label : Operation → String
  | fileRead => "File read"
  | fileParse => "File parse"
  | classification => "Classification"

end Operation

/-- One failure of a batch; the record is known if a component could not be classified. -/
structure Failure where
  path : String
  operation : Operation
  record : Option String
  error : String
  deriving DecidableEq, Repr

def Failure.message (f : Failure) : String :=
  match f.record with
  | some record => f.path ++ " [" ++ record ++ "]: " ++ f.error
  | none => f.path ++ ": " ++ f.error

structure BatchResults (α : Type) where
  successes : List α
  failures : List Failure
  deriving DecidableEq, Repr

namespace BatchResults

variable {α : Type}

def empty : BatchResults α := ⟨[], []⟩

/-- One batch after another. -/
def append (a b : BatchResults α) : BatchResults α := ⟨a.successes ++ b.successes, a.failures ++ b.failures⟩

instance : Append (BatchResults α) := ⟨append⟩

def successCount (b : BatchResults α) : Nat := b.successes.length

def failureCount (b : BatchResults α) : Nat := b.failures.length

def totalCount (b : BatchResults α) : Nat := b.successCount + b.failureCount

def isCompleteSuccess (b : BatchResults α) : Bool := b.failures.isEmpty

/-- What may be handed on. -/
def emittable (b : BatchResults α) : List α := if b.isCompleteSuccess then b.successes else []

/-- The share of successes; an empty batch has been successful. -/
def successRate (b : BatchResults α) : Float :=
  if b.totalCount = 0 then 1.0 else b.successCount.toFloat / b.totalCount.toFloat

end BatchResults

end Nullability
