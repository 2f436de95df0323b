/-!
Patterns for paths, and which paths they match. A path is matched byte by byte, so a wildcard for one
character stands for one byte of it, and a character outside ASCII in a set stands for its bytes one by one.
-/

namespace Nullability.Ignore

/-- One part of a pattern. -/
inductive Token
  | literal (c : Char)
  /-- One byte that is no slash. -/
  | any
  /-- Any number of bytes that are no slashes. -/
  | anyMany
  /-- Any number of directories before what follows. -/
  | leadingDirectories
  /-- Everything below what precedes. -/
  | everythingBelow
  /-- Any number of directories between what precedes and what follows. -/
  | innerDirectories
  /-- One byte that is in a set of ranges, or is not. -/
  | oneOf (negated : Bool) (ranges : List (Char × Char))
  | alternatives (branches : List (List Token))

abbrev Glob := List Token

/-- The byte of a slash. -/
def slash : UInt8 := 47

/-- Whether the rest behind some number of bytes that satisfy a condition is accepted. -/
def acceptsBehind (passes : UInt8 → Bool) (rest : List UInt8 → Bool) : List UInt8 → Bool
  | [] => rest []
  | b :: bs => rest (b :: bs) || (passes b && acceptsBehind passes rest bs)

/-- Whether the rest behind some slash is accepted. -/
def acceptsBehindSlash (rest : List UInt8 → Bool) : List UInt8 → Bool
  | [] => false
  | b :: bs => (b == slash && rest bs) || acceptsBehindSlash rest bs

/-- Whether bytes are those of a character, followed by an accepted rest. -/
def acceptsBytes (rest : List UInt8 → Bool) : List UInt8 → List UInt8 → Bool
  | [], bs => rest bs
  | _ :: _, [] => false
  | x :: xs, b :: bs => x == b && acceptsBytes rest xs bs

def bytesOf (c : Char) : List UInt8 := c.toString.toUTF8.toList

/-- The byte ranges that a range of characters stands for: from the last byte of the first to the first byte
of the last, and the other bytes of both. -/
def byteRanges (range : Char × Char) : List (UInt8 × UInt8) :=
  let low := bytesOf range.1
  let high := bytesOf range.2
  let single (b : UInt8) : UInt8 × UInt8 := (b, b)
  if range.1 = range.2 then low.map single
  else low.dropLast.map single ++ [(low.getLastD 0, high.headD 0)] ++ high.tail.map single

/-- Whether a byte is in a set of ranges. -/
def inSet (ranges : List (Char × Char)) (b : UInt8) : Bool :=
  (ranges.flatMap byteRanges).any fun r => r.1 ≤ b && b ≤ r.2

mutual

/-- Whether a part stands for nothing at all: alternatives that are all empty. -/
def Token.isVoid : Token → Bool
  | .alternatives branches => allVoid branches
  | _ => false

def isVoid : List Token → Bool
  | [] => true
  | t :: ts => t.isVoid && isVoid ts

def allVoid : List (List Token) → Bool
  | [] => true
  | b :: bs => isVoid b && allVoid bs

end

mutual

/-- Whether a part matches a beginning of the bytes such that the rest is accepted. -/
def Token.accepts (rest : List UInt8 → Bool) : Token → List UInt8 → Bool
  | .literal c, bs => acceptsBytes rest (bytesOf c) bs
  | .any, b :: bs => b != slash && rest bs
  | .any, [] => false
  | .anyMany, bs => acceptsBehind (· != slash) rest bs
  | .leadingDirectories, bs => rest bs || acceptsBehindSlash rest bs
  | .everythingBelow, b :: bs => b == slash && acceptsBehind (fun _ => true) rest bs
  | .everythingBelow, [] => false
  | .innerDirectories, b :: bs => b == slash && (rest bs || acceptsBehindSlash rest bs)
  | .innerDirectories, [] => false
  | .oneOf negated ranges, b :: bs => inSet ranges b != negated && rest bs
  | .oneOf _ _, [] => false
  | .alternatives branches, bs => if allVoid branches then rest bs else acceptsSome rest branches bs

def acceptsAll (rest : List UInt8 → Bool) : List Token → List UInt8 → Bool
  | [], bs => rest bs
  | t :: ts, bs => Token.accepts (acceptsAll rest ts) t bs

def acceptsSome (rest : List UInt8 → Bool) : List (List Token) → List UInt8 → Bool
  | [], _ => false
  | b :: bs, bytes => (!isVoid b && acceptsAll rest b bytes) || acceptsSome rest bs bytes

end

/-- Whether a pattern matches a path. Two stars alone match everything. -/
def Glob.isMatch (glob : Glob) (path : String) : Bool :=
  match glob with
  | [.leadingDirectories] => true
  | _ => acceptsAll List.isEmpty glob path.toUTF8.toList

end Nullability.Ignore
