import CredentialGateway.FileTree.Error

/-!
# File trees

A file tree is a finite list of entries, each at a location: the names on the way from the root.
The root itself is always a directory.  A socket is known by a number, so that a later socket at
the same place is another one.  Names, paths and the targets of links are texts: entries whose names
are no UTF-8 are left out.

    node? l (t.put m n) = if l = m then some n else node? l t     for l ≠ []
    node? l (t.remove m) = if l = m then none else node? l t      for l ≠ []
-/

namespace CredentialGateway

/-- The names from the root to an entry. -/
abbrev Location := List Text

/-- What an entry is. -/
inductive Node
  | file (content : Bytes)
  | dir
  | socket (id : Nat)
  | symlink (target : Text)
  deriving DecidableEq, Repr

structure FileTree where
  entries : List (Location × Node) := []
  deriving DecidableEq, Repr

namespace FileTree

/-! ## Algorithm -/

/-- What is at a location. -/
def node? (l : Location) (t : FileTree) : Option Node :=
  if l = [] then some .dir else t.entries.lookup l

/-- The tree without the entry at a location. -/
def remove (t : FileTree) (l : Location) : FileTree := ⟨t.entries.filter (·.1 ≠ l)⟩

/-- The tree with this entry at a location, in place of what was there. -/
def put (t : FileTree) (l : Location) (n : Node) : FileTree := ⟨(l, n) :: (t.remove l).entries⟩

/-- A name longer than this is refused. -/
def longestName : Nat := 255

/-- A path longer than this is refused. -/
def longestPath : Nat := 4095

/-- As many symbolic links are followed on one path. -/
def mostLinks : Nat := 40

/-- Where a path leads: into a directory as a whole, or to an entry of one, which need not exist.
`slash` notes that the path asks for a directory by a slash behind the name. -/
inductive Place
  | whole (dir : Location)
  | entry (dir : Location) (name : Text) (slash : Bool)
  deriving DecidableEq, Repr

/-- The parts of a path between its slashes, and the location where it starts. -/
def start (home : Location) (path : Text) : Location × List Text :=
  (if path.head? = some '/' then [] else home, path.splitOn '/')

/-- Walks from a directory along the parts of a path.  Symbolic links on the way are followed,
one at the end only if `follow` says so. -/
def walk (t : FileTree) (follow : Bool) (links : Nat) (dir : Location) :
    List Text → Except OsError Place
  | [] => .ok (.whole dir)
  | part :: rest =>
    if part = [] || part = "." then walk t follow links dir rest
    else if part = ".." then walk t follow links dir.dropLast rest
    else if part.utf8.length > longestName then .error .nameTooLong
    else
      let last := rest.all (· = [])
      match node? (dir ++ [part]) t with
      | some (.symlink target) =>
        if last && !follow then .ok (.entry dir part (rest ≠ []))
        else match links with
          | 0 => .error .tooManyLinks
          | links + 1 =>
            walk t follow links (start dir target).1 ((start dir target).2 ++ rest)
      | some .dir => if last then .ok (.entry dir part (rest ≠ [])) else
          walk t follow links (dir ++ [part]) rest
      | some _ => if last then .ok (.entry dir part (rest ≠ [])) else .error .notDirectory
      | none => if last then .ok (.entry dir part (rest ≠ [])) else .error .notFound
termination_by rest => (links, rest.length)

/-- The place that a path names, seen from the directory `home`. -/
def find (t : FileTree) (follow : Bool) (home : Location) (path : Text) : Except FileError Place :=
  if path.contains '\x00' then .error .nulInName
  else if path = [] then .error (.os .notFound)
  else if path.utf8.length > longestPath then .error (.os .nameTooLong)
  else
    let (dir, parts) := start home path
    (walk t follow mostLinks dir parts).mapError .os

/-! ## Lemmas -/

theorem lookup_filter_ne (l m : Location) (es : List (Location × Node)) :
    (es.filter (·.1 ≠ m)).lookup l = if l = m then none else es.lookup l := by
  induction es with
  | nil => simp
  | cons e es ih =>
    obtain ⟨k, n⟩ := e
    by_cases hk : k = m
    · rw [List.filter_cons_of_neg (by simp [hk]), ih]
      by_cases hl : l = m
      · simp [hl]
      · simp [hl, List.lookup_cons, beq_false_of_ne (hk ▸ hl : l ≠ k)]
    · rw [List.filter_cons_of_pos (by simp [hk]), List.lookup_cons, List.lookup_cons, ih]
      by_cases hl : l = k
      · simp [hl, hk]
      · simp [beq_false_of_ne hl]

theorem node?_remove (t : FileTree) {l : Location} (hl : l ≠ []) (m : Location) :
    node? l (t.remove m) = if l = m then none else node? l t := by
  unfold node? remove
  simp only [hl, if_false]
  exact lookup_filter_ne l m t.entries

theorem node?_put (t : FileTree) {l : Location} (hl : l ≠ []) (m : Location) (n : Node) :
    node? l (t.put m n) = if l = m then some n else node? l t := by
  have h := node?_remove t hl m
  unfold node? at h ⊢
  unfold put
  simp only [hl, if_false, List.lookup_cons] at h ⊢
  by_cases hm : l = m
  · simp [hm]
  · simp [hm, h, beq_false_of_ne hm]

section Replacing

variable {l m : Location}

theorem node?_remove_of_ne (h : m ≠ l) (t : FileTree) : node? m (t.remove l) = node? m t := by
  cases m with
  | nil => rfl
  | cons => rw [node?_remove t (by simp), if_neg h]

theorem node?_remove_self (hl : l ≠ []) (t : FileTree) : node? l (t.remove l) = none := by
  rw [node?_remove t hl, if_pos rfl]

theorem node?_put_of_ne (h : m ≠ l) (t : FileTree) (n : Node) :
    node? m (t.put l n) = node? m t := by
  cases m with
  | nil => rfl
  | cons => rw [node?_put t (by simp), if_neg h]

theorem node?_put_self (hl : l ≠ []) (t : FileTree) (n : Node) :
    node? l (t.put l n) = some n := by
  rw [node?_put t hl, if_pos rfl]

@[simp] theorem remove_remove (t : FileTree) (l : Location) :
    (t.remove l).remove l = t.remove l := by
  simp [remove]

@[simp] theorem remove_put (t : FileTree) (l : Location) (n : Node) :
    (t.put l n).remove l = t.remove l := by
  simp [remove, put]

@[simp] theorem put_remove (t : FileTree) (l : Location) (n : Node) :
    (t.remove l).put l n = t.put l n := by
  simp [put]

end Replacing

end FileTree

end CredentialGateway
