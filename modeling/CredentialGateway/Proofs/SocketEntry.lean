import CredentialGateway.Listener
import CredentialGateway.Proofs.ParsedUrl

/-!
# The entry of a socket

Binding to a path of the file tree leaves a socket there: the path names the new entry, not a link
to it, and it leads there when links are followed.  A new entry gets in the way of no walk that
ends at it.

    walk ends at a vacant entry → so it does when the entry is there           (walk_of_vacant)
    bind listens → the path names the socket that is listened on       (isSocketAt_of_bindAs)
-/

namespace CredentialGateway

namespace FileTree

/-- The path names a socket, the one with this number, whether a link at its end would be followed
or not. -/
def IsSocketAt (t : FileTree) (home : Location) (path : Text) (id : Nat) : Prop :=
  ∃ dir name, (∀ follow, t.find follow home path = .ok (.entry dir name false)) ∧
    node? (dir ++ [name]) t = some (.socket id)

/-- A path that is walked at all. -/
structure IsWalkable (path : Text) : Prop where
  noNul : path.contains '\x00' = false
  ne_nil : path ≠ []
  short : path.utf8.length ≤ longestPath

theorem IsWalkable.head?_ne {path : Text} (h : IsWalkable path) : path.head? ≠ some '\x00' := by
  intro hhead
  obtain ⟨name, rfl⟩ := List.head?_eq_some_iff.1 hhead
  simpa using h.noNul

section Vacant

variable {t t' : FileTree} {home dir d : Location} {path n : Text} {slash : Bool}

theorem find_of_isWalkable (h : IsWalkable path) (t : FileTree) (follow : Bool)
    (home : Location) : t.find follow home path =
      (walk t follow mostLinks (start home path).1 (start home path).2).mapError .os := by
  rw [find, h.noNul, if_neg Bool.false_ne_true, if_neg h.ne_nil, if_neg (Nat.not_lt.2 h.short)]

theorem find_eq_ok_iff {follow : Bool} {place : Place} : t.find follow home path = .ok place ↔
    IsWalkable path ∧
      walk t follow mostLinks (start home path).1 (start home path).2 = .ok place := by
  constructor
  · intro h
    have hpath : IsWalkable path := by
      unfold find at h
      split at h
      · cases h
      · rename_i hnul
        split at h
        · cases h
        · rename_i hne
          split at h
          · cases h
          · rename_i hshort
            exact ⟨Bool.eq_false_iff.2 hnul, hne, Nat.not_lt.1 hshort⟩
    rw [find_of_isWalkable hpath] at h
    exact ⟨hpath, mapError_eq_ok_iff.1 h⟩
  · rintro ⟨hpath, hwalk⟩
    rw [find_of_isWalkable hpath, hwalk]
    rfl

/-- A walk that ends at an entry that is not there ends there still when there is one, unless that
is a link to be followed.  Until then it has only met entries that were there. -/
theorem walk_of_vacant {links : Nat} {parts : List Text}
    (h : walk t false links dir parts = .ok (.entry d n slash))
    (hvacant : node? (d ++ [n]) t = none) (hsame : ∀ m, m ≠ d ++ [n] → node? m t' = node? m t)
    {follow : Bool}
    (hends : follow = true → ∀ target, node? (d ++ [n]) t' ≠ some (.symlink target)) :
    walk t' follow links dir parts = .ok (.entry d n slash) := by
  -- what was there is there
  have hthere {l : Location} {node : Node} (hnode : node? l t = some node) :
      node? l t' = some node := by
    rw [hsame, hnode]
    rintro rfl
    cases hvacant.symm.trans hnode
  fun_induction walk t false links dir parts with
  | case1 => cases h
  | case2 links dir part rest hskip ih =>
    rw [walk, if_pos hskip]
    exact ih h
  | case3 links dir rest hskip ih =>
    rw [walk, if_neg hskip, if_pos rfl]
    exact ih h
  | case4 => cases h
  | case5 links dir part rest hskip hup hlong last target hnode hlast =>
    cases h
    cases hvacant.symm.trans hnode
  | case6 => cases h
  | case7 dir part rest hskip hup hlong last target hnode hlast links ih =>
    have hgoes : last = false := by simpa using hlast
    rw [walk, if_neg hskip, if_neg hup, if_neg hlong]
    simp only [hthere hnode]
    rw [show (rest.all fun x => decide (x = [])) = false from hgoes]
    exact ih h
  | case8 links dir part rest hskip hup hlong last hnode hlast =>
    cases h
    cases hvacant.symm.trans hnode
  | case9 links dir part rest hskip hup hlong last hnode hlast ih =>
    rw [walk, if_neg hskip, if_neg hup, if_neg hlong]
    simp only [hthere hnode]
    rw [if_neg hlast]
    exact ih h
  | case10 links dir part rest hskip hup hlong last node _ _ hnode hlast =>
    cases h
    cases hvacant.symm.trans hnode
  | case11 => cases h
  | case12 links dir part rest hskip hup hlong last hnode hlast =>
    -- the walk ends at the entry
    cases h
    have hlast' : (rest.all fun x => decide (x = [])) = true := hlast
    rw [walk, if_neg hskip, if_neg hup, if_neg hlong]
    match hnode' : node? (d ++ [n]) t' with
    | some (.symlink target) =>
      cases follow with
      | false => simp [hlast']
      | true => exact absurd hnode' (hends rfl target)
    | some .dir | some (.file _) | some (.socket _) | none => exact if_pos hlast'
  | case13 => cases h

theorem find_of_vacant (h : t.find false home path = .ok (.entry d n slash))
    (hvacant : node? (d ++ [n]) t = none) (hsame : ∀ m, m ≠ d ++ [n] → node? m t' = node? m t)
    {follow : Bool}
    (hends : follow = true → ∀ target, node? (d ++ [n]) t' ≠ some (.symlink target)) :
    t'.find follow home path = .ok (.entry d n slash) := by
  obtain ⟨hpath, hwalk⟩ := find_eq_ok_iff.1 h
  exact find_eq_ok_iff.2 ⟨hpath, walk_of_vacant hwalk hvacant hsame hends⟩

end Vacant

/-- A socket is made where the path names an entry that is not there. -/
theorem makeSocket_eq_ok_iff {t t' : FileTree} {home : Location} {path : Text} {id : Nat} :
    t.makeSocket home path id = .ok t' ↔ ∃ dir name,
      t.find false home path = .ok (.entry dir name false) ∧ node? (dir ++ [name]) t = none ∧
        t.put (dir ++ [name]) (.socket id) = t' := by
  constructor
  · intro h
    obtain ⟨place, hfind, h⟩ := bind_eq_ok_iff.1 h
    obtain ⟨l, hvacant, h⟩ := bind_eq_ok_iff.1 h
    cases pure_eq_ok_iff.1 h
    unfold vacant at hvacant
    split at hvacant
    · cases hvacant
    · rename_i dir name slash
      split at hvacant
      · cases hvacant
      · rename_i hnone
        split at hvacant
        · cases hvacant
        · rename_i hslash
          cases hvacant
          rw [Bool.not_eq_true] at hslash
          subst hslash
          exact ⟨dir, name, hfind, by simpa using hnone, rfl⟩
  · rintro ⟨dir, name, hfind, hnone, rfl⟩
    simp [makeSocket, hfind, vacant, hnone, Bind.bind, Except.bind, pure, Except.pure]

/-- Where a socket has been made, the path names it. -/
theorem isSocketAt_of_makeSocket {t t' : FileTree} {home : Location} {path : Text} {id : Nat}
    (h : t.makeSocket home path id = .ok t') : t'.IsSocketAt home path id := by
  obtain ⟨dir, name, hfind, hnone, rfl⟩ := makeSocket_eq_ok_iff.1 h
  have hsocket : node? (dir ++ [name]) (t.put (dir ++ [name]) (.socket id)) = some (.socket id) :=
    node?_put_self (by simp) t _
  refine ⟨dir, name, fun follow => ?_, hsocket⟩
  refine find_of_vacant hfind hnone (fun m hm => node?_put_of_ne hm t _) fun _ target htarget => ?_
  cases hsocket.symm.trans htarget

end FileTree

namespace Harbour

section Binding

variable {s s' : Harbour} {path : Text}

theorem bind_of_ok {endpoint : Endpoint}
    (h : Address.ofText path >>= (s.removeStale path).1.openAt = .ok (endpoint, s')) :
    s.bind path = (.ok endpoint, s', (s.removeStale path).2 ++ [.bound path]) := by
  simp only [bind, h]

theorem bind_of_error {cause : FileError}
    (h : Address.ofText path >>= (s.removeStale path).1.openAt = .error cause) :
    s.bind path = (.error ⟨path, cause⟩, s.removeStale path) := by
  simp only [bind, h]

theorem isSocketAt_of_openAt {p : Text} {endpoint : Endpoint}
    (h : s.openAt (.path p) = .ok (endpoint, s')) :
    endpoint = .file s.nextId ∧ s'.tree.IsSocketAt s'.home p s.nextId := by
  obtain ⟨tree, htree, h⟩ := bind_eq_ok_iff.1 h
  cases pure_eq_ok_iff.1 h
  exact ⟨rfl, FileTree.isSocketAt_of_makeSocket htree⟩

/-- A path that names a socket connects to the listener on it. -/
theorem connect_of_isSocketAt {id : Nat} (hpath : Address.ofText path = .ok (.path path))
    (h : s.tree.IsSocketAt s.home path id) : s.connect path = s.holder? (.file id) := by
  obtain ⟨dir, name, hfind, hsocket⟩ := h
  simp [connect, hpath, FileTree.open?, hfind true, hsocket, Bind.bind, Except.bind, pure,
    Except.pure]

/-- A holder that has bound to a path of the file tree listens on the socket that the path names. -/
theorem isSocketAt_of_bindAs {shore harbour : Harbour} {path holder p : Text}
    {events : List Log.Event} (h : shore.bindAs path holder = (.ok (), harbour, events))
    (hpath : Address.ofText path = .ok (.path p)) :
    ∃ id, harbour.tree.IsSocketAt harbour.home p id ∧ (holder, .file id) ∈ harbour.listeners := by
  cases hopen : Address.ofText path >>= (shore.removeStale path).1.openAt with
  | error cause =>
    rw [bindAs, bind_of_error hopen] at h
    cases h
  | ok opened =>
    obtain ⟨endpoint, s⟩ := opened
    rw [bindAs, bind_of_ok hopen] at h
    cases h
    rw [hpath] at hopen
    obtain ⟨rfl, hsocket⟩ := isSocketAt_of_openAt hopen
    exact ⟨_, hsocket, List.mem_cons_self⟩

end Binding

end Harbour

end CredentialGateway
