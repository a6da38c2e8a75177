import CredentialGateway.Proofs.SocketEntry
import Mathlib

/-!
# Binds that fail

A bind removes what is at its path before it knows whether it can listen there.  When it fails
nothing but that one entry can be gone, and it is gone exactly if the path is too long for an
address, or leads through the entry itself and so nowhere once the entry is away.

    a walk without an entry that it passes finds nothing, any other walk ends as before
                                                                              (walk_remove)
    bind fails → one entry is lost, or the harbour is as it was (bind_loses_one_or_nothing)
-/

namespace CredentialGateway

namespace FileTree

variable {t t' : FileTree} {l dir home : Location} {path : Text} {place : Place}

/-! ## Walks through links -/

/-- The links that a walk follows, in their order.  It follows none at its end. -/
def followed (t : FileTree) (links : Nat) (dir : Location) : List Text → List Location
  | [] => []
  | part :: rest =>
    if part = [] || part = "." then followed t links dir rest
    else if part = ".." then followed t links dir.dropLast rest
    else
      let last := rest.all (· = [])
      match node? (dir ++ [part]) t with
      | some (.symlink target) =>
        if last then []
        else match links with
          | 0 => []
          | links + 1 =>
            (dir ++ [part]) :: followed t links (start dir target).1 ((start dir target).2 ++ rest)
      | some .dir => if last then [] else followed t links (dir ++ [part]) rest
      | _ => []
termination_by rest => (links, rest.length)

/-- The links that are followed on the way to the entry that a path names. -/
def linksOn (t : FileTree) (home : Location) (path : Text) : List Location :=
  followed t mostLinks (start home path).1 (start home path).2

section Steps

variable {part : Text} {rest : List Text}

/-- Where links at the end are not followed, a walk ends at its last name whatever is there. -/
theorem walk_last (hskip : ¬ (part = [] || part = ".") = true) (hup : ¬ part = "..")
    (hlong : ¬ part.utf8.length > longestName) (hlast : rest.all (· = []) = true) (t : FileTree)
    (links : Nat) (dir : Location) :
    walk t false links dir (part :: rest) = .ok (.entry dir part (rest ≠ [])) := by
  rw [walk, if_neg hskip, if_neg hup, if_neg hlong]
  cases node? (dir ++ [part]) t with
  | none => exact if_pos hlast
  | some node => cases node <;> simp only [hlast] <;> rfl

theorem followed_last (hskip : ¬ (part = [] || part = ".") = true) (hup : ¬ part = "..")
    (hlast : rest.all (· = []) = true) (t : FileTree) (links : Nat) (dir : Location) :
    followed t links dir (part :: rest) = [] := by
  rw [followed, if_neg hskip, if_neg hup]
  cases node? (dir ++ [part]) t with
  | none => rfl
  | some node => cases node <;> simp only [hlast] <;> rfl

end Steps

/-- Without an entry that is no directory a walk finds nothing if it has followed the entry, and
ends where it ended if not: it may still name the entry. -/
theorem walk_remove (hl : node? l t ≠ some .dir) {links : Nat} {parts : List Text}
    (h : walk t false links dir parts = .ok place) :
    walk (t.remove l) false links dir parts =
      if l ∈ followed t links dir parts then .error .notFound else .ok place := by
  fun_induction walk t false links dir parts with
  | case1 links dir =>
    rw [walk, followed]
    exact h
  | case2 links dir part rest hskip ih =>
    rw [walk, followed, if_pos hskip, if_pos hskip]
    exact ih h
  | case3 links dir rest hskip ih =>
    rw [walk, followed, if_neg hskip, if_neg hskip, if_pos rfl, if_pos rfl]
    exact ih h
  | case4 => cases h
  | case5 links dir part rest hskip hup hlong last target hnode hlast =>
    have hends : last = true := by simpa using hlast
    rw [walk_last hskip hup hlong hends, followed_last hskip hup hends]
    exact h
  | case6 => cases h
  | case7 dir part rest hskip hup hlong last target hnode hlast links ih =>
    have hgoes : last = false := by simpa using hlast
    rw [walk, followed, if_neg hskip, if_neg hskip, if_neg hup, if_neg hup, if_neg hlong,
      node?_remove t (by simp)]
    simp only [hnode]
    rw [show (rest.all fun x => decide (x = [])) = false from hgoes]
    by_cases hhere : dir ++ [part] = l
    · -- the link is the entry that is gone
      simp [hhere]
    · have hne : l ≠ dir ++ [part] := Ne.symm hhere
      simp only [if_neg hhere, Bool.false_and, Bool.false_eq_true, if_false, List.mem_cons, hne,
        false_or]
      exact ih h
  | case8 links dir part rest hskip hup hlong last hnode hlast =>
    rw [walk_last hskip hup hlong hlast, followed_last hskip hup hlast]
    exact h
  | case9 links dir part rest hskip hup hlong last hnode hlast ih =>
    have hother : dir ++ [part] ≠ l := by
      rintro rfl
      exact hl hnode
    rw [walk, followed, if_neg hskip, if_neg hskip, if_neg hup, if_neg hup, if_neg hlong,
      node?_remove t (by simp), if_neg hother]
    simp only [hnode]
    rw [if_neg hlast, if_neg hlast]
    exact ih h
  | case10 links dir part rest hskip hup hlong last node _ _ hnode hlast =>
    rw [walk_last hskip hup hlong hlast, followed_last hskip hup hlast]
    exact h
  | case11 => cases h
  | case12 links dir part rest hskip hup hlong last hnode hlast =>
    rw [walk_last hskip hup hlong hlast, followed_last hskip hup hlast]
    exact h
  | case13 => cases h

theorem find_remove (hl : node? l t ≠ some .dir) (h : t.find false home path = .ok place) :
    (t.remove l).find false home path =
      if l ∈ t.linksOn home path then .error (.os .notFound) else .ok place := by
  obtain ⟨hpath, hwalk⟩ := find_eq_ok_iff.1 h
  rw [find_of_isWalkable hpath, walk_remove hl hwalk, linksOn]
  split <;> rfl

/-! ## Entries that can be removed -/

/-- The path names an entry that is there, no directory, and asks for none by a slash at its
end. -/
def IsRemovable (t : FileTree) (home : Location) (path : Text) (l : Location) : Prop :=
  ∃ dir name node, l = dir ++ [name] ∧ t.find false home path = .ok (.entry dir name false) ∧
    node? l t = some node ∧ node ≠ .dir

theorem IsRemovable.ne_dir (h : t.IsRemovable home path l) : node? l t ≠ some .dir := by
  obtain ⟨-, -, node, -, -, hnode, hnodir⟩ := h
  rw [hnode]
  exact fun heq => hnodir (Option.some.inj heq)

theorem unlink_eq_ok_iff :
    t.unlink home path = .ok t' ↔ ∃ l, t.IsRemovable home path l ∧ t.remove l = t' := by
  unfold unlink
  rw [bind_eq_ok_iff]
  constructor
  · rintro ⟨place, hfind, h⟩
    split at h
    · exact absurd h throw_ne_ok
    · rename_i dir name slash
      split at h
      · exact absurd h throw_ne_ok
      · exact absurd h throw_ne_ok
      · rename_i node hnodir hnode
        split at h
        · exact absurd h throw_ne_ok
        · rename_i hslash
          rw [Bool.not_eq_true] at hslash
          subst hslash
          exact ⟨_, ⟨dir, name, node, rfl, hfind, hnode, hnodir⟩, pure_eq_ok_iff.1 h⟩
  · rintro ⟨l, ⟨dir, name, node, rfl, hfind, hnode, hnodir⟩, rfl⟩
    refine ⟨_, hfind, ?_⟩
    simp only [hnode]
    cases node with
    | dir => exact absurd rfl hnodir
    | file | socket | symlink => rfl

end FileTree

/-! ## Binding -/

/-- A path that is walked is an address unless it is too long for one. -/
theorem Address.ofText_of_isWalkable {path : Text} (h : FileTree.IsWalkable path) : ofText path =
    if limit ≤ path.utf8.length then .error .addressTooLong else .ok (.path path) := by
  have hplain : ofText path = ofPath path := by
    unfold ofText
    split
    · exact absurd rfl h.head?_ne
    · rfl
  rw [hplain, ofPath, h.noNul, if_neg Bool.false_ne_true]
  by_cases hlong : limit ≤ path.utf8.length
  · rw [if_pos hlong, if_pos hlong]
  · rw [if_neg hlong, if_neg hlong, if_neg h.ne_nil]

namespace Harbour

variable {s : Harbour} {path p : Text} {l : Location}

/-- The entry at the path is removed, and yet no socket can come in its place: the path is too long
for an address, or leads through the entry. -/
structure IsLost (s : Harbour) (path : Text) (l : Location) : Prop where
  removable : s.tree.IsRemovable s.home path l
  unbindable : Address.limit ≤ path.utf8.length ∨ l ∈ s.tree.linksOn s.home path

theorem removeStale_of_isRemovable (h : s.tree.IsRemovable s.home path l) :
    (s.removeStale path).1 = { s with tree := s.tree.remove l } := by
  unfold removeStale
  rw [FileTree.unlink_eq_ok_iff.2 ⟨l, h, rfl⟩]

theorem removeStale_of_forall (h : ∀ l, ¬ s.tree.IsRemovable s.home path l) :
    (s.removeStale path).1 = s := by
  unfold removeStale
  split
  · rename_i tree htree
    obtain ⟨l, hl, -⟩ := FileTree.unlink_eq_ok_iff.1 htree
    exact absurd hl (h l)
  · rfl
  · rfl

theorem bind_snd_of_error {e : BindError} (h : (s.bind path).1 = .error e) :
    (s.bind path).2.1 = (s.removeStale path).1 := by
  cases hopen : Address.ofText path >>= (s.removeStale path).1.openAt with
  | ok opened =>
    rw [bind_of_ok hopen] at h
    cases h
  | error cause => rw [bind_of_error hopen]

/-- A socket can be opened where a path names an entry that is not there. -/
theorem openAt_of_vacant {dir : Location} {name : Text}
    (hfind : s.tree.find false s.home p = .ok (.entry dir name false))
    (hnone : FileTree.node? (dir ++ [name]) s.tree = none) :
    s.openAt (.path p) = .ok (.file s.nextId, { s with
      tree := s.tree.put (dir ++ [name]) (.socket s.nextId), nextId := s.nextId + 1 }) := by
  rw [openAt, FileTree.makeSocket_eq_ok_iff.2 ⟨dir, name, hfind, hnone, rfl⟩]
  rfl

/-- Whatever but a directory was at the path, it is out of the way: a socket can be opened there if
the path still names the entry when it is gone. -/
theorem openAt_removeStale {dir : Location} {name : Text}
    (hfound : (s.tree.remove (dir ++ [name])).find false s.home p = .ok (.entry dir name false))
    (hdir : FileTree.node? (dir ++ [name]) s.tree ≠ some .dir) :
    (s.removeStale p).1.openAt (.path p) = .ok (.file s.nextId, { s with
      tree := s.tree.put (dir ++ [name]) (.socket s.nextId), nextId := s.nextId + 1 }) := by
  have hgone : FileTree.node? (dir ++ [name]) (s.tree.remove (dir ++ [name])) = none :=
    FileTree.node?_remove_self (by simp) _
  have hfind : s.tree.find false s.home p = .ok (.entry dir name false) :=
    FileTree.find_of_vacant hfound hgone (fun _ hm => (FileTree.node?_remove_of_ne hm _).symm)
      fun hfollow => nomatch hfollow
  cases hnode : FileTree.node? (dir ++ [name]) s.tree with
  | none =>
    rw [removeStale_of_forall, openAt_of_vacant hfind hnode]
    rintro _ ⟨dir', name', node, rfl, hfind', hnode', -⟩
    cases hfind.symm.trans hfind'
    cases hnode.symm.trans hnode'
  | some node =>
    have hnodir : node ≠ .dir := by
      rintro rfl
      exact hdir hnode
    rw [removeStale_of_isRemovable ⟨dir, name, node, rfl, hfind, hnode, hnodir⟩,
      openAt_of_vacant hfound hgone]
    simp only [FileTree.put_remove]

theorem openAt_of_error {e : FileError} (hfind : s.tree.find false s.home p = .error e) :
    s.openAt (.path p) = .error e := by
  simp [openAt, FileTree.makeSocket, hfind, Bind.bind, Except.bind]

/-- What becomes of a bind to a path with something to remove. -/
theorem bind_fst_of_isRemovable (h : s.tree.IsRemovable s.home path l) : (s.bind path).1 =
    if Address.limit ≤ path.utf8.length then .error ⟨path, .addressTooLong⟩
    else if l ∈ s.tree.linksOn s.home path then .error ⟨path, .os .notFound⟩
    else .ok (.file s.nextId) := by
  have hstale := removeStale_of_isRemovable h
  have hentry := h.ne_dir
  obtain ⟨dir, name, node, rfl, hfind, hnode, hnodir⟩ := h
  obtain ⟨hpath, -⟩ := FileTree.find_eq_ok_iff.1 hfind
  have haddress := Address.ofText_of_isWalkable hpath
  by_cases hlong : Address.limit ≤ path.utf8.length
  · rw [if_pos hlong] at haddress ⊢
    rw [bind_of_error (by rw [haddress]; rfl)]
  · rw [if_neg hlong] at haddress ⊢
    have hclear := FileTree.find_remove hentry hfind
    by_cases hmem : dir ++ [name] ∈ s.tree.linksOn s.home path
    · rw [if_pos hmem] at hclear ⊢
      rw [bind_of_error (by rw [haddress, hstale]; exact openAt_of_error hclear)]
    · rw [if_neg hmem] at hclear ⊢
      rw [bind_of_ok (by rw [haddress]; exact openAt_removeStale hclear hentry)]

/-- A bind that fails has lost the one entry that it removed in vain, or has changed nothing. -/
theorem bind_loses_one_or_nothing {e : BindError} (h : (s.bind path).1 = .error e) :
    (∃ l, s.IsLost path l ∧ (s.bind path).2.1 = { s with tree := s.tree.remove l }) ∨
      (∀ l, ¬ s.IsLost path l) ∧ (s.bind path).2.1 = s := by
  rw [bind_snd_of_error h]
  by_cases hremovable : ∃ l, s.tree.IsRemovable s.home path l
  · obtain ⟨l, hl⟩ := hremovable
    have hvain : Address.limit ≤ path.utf8.length ∨ l ∈ s.tree.linksOn s.home path := by
      by_contra hno
      rw [not_or] at hno
      rw [bind_fst_of_isRemovable hl, if_neg hno.1, if_neg hno.2] at h
      cases h
    exact .inl ⟨l, ⟨hl, hvain⟩, removeStale_of_isRemovable hl⟩
  · rw [not_exists] at hremovable
    exact .inr ⟨fun l hl => hremovable l hl.removable, removeStale_of_forall hremovable⟩

/-- A file whose name is as long as an address may not be. -/
def longNamed : Harbour := ⟨⟨[([List.replicate 108 'x'], .file [])]⟩, [], 0, []⟩

/-- A link to the directory that it is in. -/
def selfLinked : Harbour := ⟨⟨[(["l"], .symlink ".")]⟩, [], 0, []⟩

theorem bind_loses_one_or_nothing_selfLinked :
    (selfLinked.bind "l/l").1 = .error ⟨"l/l", .os .notFound⟩ ∧
      ((∃ l, selfLinked.IsLost "l/l" l ∧
          (selfLinked.bind "l/l").2.1 = { selfLinked with tree := selfLinked.tree.remove l }) ∨
        (∀ l, ¬ selfLinked.IsLost "l/l" l) ∧ (selfLinked.bind "l/l").2.1 = selfLinked) :=
  have h : (selfLinked.bind "l/l").1 = .error ⟨"l/l", .os .notFound⟩ := by cbv
  ⟨h, bind_loses_one_or_nothing h⟩

/-- Binds that fail may leave less than they found, for either reason. -/
theorem bind_loses_entry :
    ((longNamed.bind (List.replicate 108 'x')).1 =
        .error ⟨List.replicate 108 'x', .addressTooLong⟩ ∧
      (longNamed.bind (List.replicate 108 'x')).2.1.tree = {} ∧ longNamed.tree ≠ {}) ∧
    ((selfLinked.bind "l/l").1 = .error ⟨"l/l", .os .notFound⟩ ∧
      (selfLinked.bind "l/l").2.1.tree = {} ∧ selfLinked.tree ≠ {}) :=
  ⟨⟨by cbv, by cbv, by decide⟩, by cbv, by cbv, by decide⟩

end Harbour

end CredentialGateway
