/-
# Paths, read part by part

Two paths name one file when their parts are the same: separators that repeat or end a path, and
every `.` but a leading one, say nothing.  `parts` reads the parts, `compare` orders paths by them,
and `extension?` is what the last part ends in.  Main facts: the order of parts is lawful, and paths
compare equal when their parts are equal, and only then (`compare_eq_iff`).
-/

namespace CatalogLint.Path

/-- A part of a path. -/
inductive Part
  /-- The separator that starts an absolute path. -/
  | root
  /-- A leading `.`. -/
  | current
  /-- A `..`. -/
  | parent
  /-- A name. -/
  | named (name : String)
  deriving DecidableEq, Repr

/-! ## 1. The parts of a path -/

/-- What stands between two separators, unless it says nothing. -/
def part? : List Char → Option Part
  | [] => none
  | ['.'] => none
  | ['.', '.'] => some .parent
  | name => some (.named (String.ofList name))

/-- The parts of a path, in order. -/
def parts (path : String) : List Part :=
  match path.toList.splitOn '/' with
  | [] :: w :: ws => .root :: (w :: ws).filterMap part?
  | ['.'] :: ws => .current :: ws.filterMap part?
  | ws => ws.filterMap part?

/-- The name that the path ends in. -/
def fileName? (path : String) : Option String :=
  match (parts path).getLast? with
  | some (.named name) => some name
  | _ => none

/-- What follows the last dot of the file name, if something stands before that dot. -/
def extension? (path : String) : Option String :=
  (fileName? path).bind fun name =>
    let backwards := name.toList.reverse
    match backwards.dropWhile (· != '.') with
    | _ :: _ :: _ => some (String.ofList (backwards.takeWhile (· != '.')).reverse)
    | _ => none

/-- Whether a path has the given extension, in any ASCII case. -/
def hasExtension (path ext : String) : Bool :=
  (extension? path).any fun e => e.toList.map Char.toLower == ext.toList.map Char.toLower

/-! ## 2. Order -/

/-- The kinds of part, in order. -/
def Part.rank : Part → Nat
  | .root => 0
  | .current => 1
  | .parent => 2
  | .named _ => 3

/-- The name of a part that has one. -/
def Part.name : Part → String
  | .named name => name
  | _ => ""

/-- Parts are ordered by kind, names among themselves by code point. -/
instance : Ord Part := ⟨compareLex (compareOn Part.rank) (compareOn Part.name)⟩

/-- Paths are ordered part by part. -/
def compare : String → String → Ordering := compareOn parts

/-! ## 3. The order is lawful -/

theorem Part.eq_of_rank_of_name {a b : Part} (hr : a.rank = b.rank) (hn : a.name = b.name) :
    a = b := by
  cases a <;> cases b <;> simp_all [Part.rank, Part.name]

instance : Std.TransOrd Part :=
  inferInstanceAs (Std.TransCmp (compareLex (compareOn Part.rank) (compareOn Part.name)))

instance : Std.LawfulEqOrd Part where
  eq_of_compare {a b} h := by
    have h : compareLex (compareOn Part.rank) (compareOn Part.name) a b = .eq := h
    simp only [compareLex_eq_eq, compareOn, Std.LawfulEqCmp.compare_eq_iff_eq] at h
    exact Part.eq_of_rank_of_name h.1 h.2

/-- Paths compare equal exactly when they have the same parts. -/
theorem compare_eq_iff {a b : String} : compare a b = .eq ↔ parts a = parts b := by
  simp only [compare, compareOn, Std.LawfulEqCmp.compare_eq_iff_eq]

end CatalogLint.Path
