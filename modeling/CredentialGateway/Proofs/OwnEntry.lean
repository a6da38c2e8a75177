import CredentialGateway.Proofs.Rebind

/-!
# What a listener touches

A path names one entry at most.  Removing what is left there and binding to it change no other
entry of the tree, whether they succeed or fail: a directory stays with all that is in it, and of a
link only the link goes.  A bind that succeeds leaves a socket at the path.  Two kinds of path are
none of the file tree: the empty one, behind which nobody is found, and names that start with NUL.

    what a walk has followed is there, and is a link                  (isLink_of_mem_followed)
    a bind succeeds → it has done one of three things                          (binds_of_bind)
    whatever the tree and the path, no other entry is touched                   (keepsToEntry)
-/

namespace CredentialGateway

namespace FileTree

/-- The path names this entry, whether there is one or not.  No link at its end is followed, and no
slash at its end asks for a directory. -/
def Names (t : FileTree) (home : Location) (path : Text) (l : Location) : Prop :=
  ∃ dir name, l = dir ++ [name] ∧ t.find false home path = .ok (.entry dir name false)

/-- There is a directory at the path, with no link at its end followed. -/
def HasDirectoryAt (t : FileTree) (home : Location) (path : Text) : Prop :=
  ∃ place dir, t.find false home path = .ok place ∧ place.directory? t = some dir

/-- There is nothing at the path, or no way that leads there. -/
def IsMissing (t : FileTree) (home : Location) (path : Text) : Prop :=
  t.find false home path = .error (.os .notFound) ∨
    ∃ dir name slash, t.find false home path = .ok (.entry dir name slash) ∧
      node? (dir ++ [name]) t = none

variable {t : FileTree} {l dir home : Location} {path : Text}

theorem isRemovable_iff : t.IsRemovable home path l ↔
    t.Names home path l ∧ ∃ node, node? l t = some node ∧ node ≠ .dir := by
  constructor
  · rintro ⟨dir, name, node, hl, hfind, hnode, hnodir⟩
    exact ⟨⟨dir, name, hl, hfind⟩, node, hnode, hnodir⟩
  · rintro ⟨⟨dir, name, hl, hfind⟩, node, hnode, hnodir⟩
    exact ⟨dir, name, node, hl, hfind, hnode, hnodir⟩

theorem not_isRemovable_of_hasDirectoryAt (h : t.HasDirectoryAt home path) (l : Location) :
    ¬ t.IsRemovable home path l := by
  intro hremovable
  have hdir := hremovable.ne_dir
  obtain ⟨dir, name, node, rfl, hfind, -, -⟩ := hremovable
  obtain ⟨place, d, hplace, hd⟩ := h
  cases hfind.symm.trans hplace
  rw [Place.directory?, if_neg hdir] at hd
  cases hd

/-- Removing fails for want of an entry exactly if there is none. -/
theorem unlink_eq_notFound_iff :
    t.unlink home path = .error (.os .notFound) ↔ t.IsMissing home path := by
  unfold unlink IsMissing
  cases hfind : t.find false home path with
  | error e => simp [Bind.bind, Except.bind]
  | ok place =>
    cases place with
    | whole dir => simp [Bind.bind, Except.bind, throw, throwThe, MonadExceptOf.throw]
    | entry dir name slash =>
      cases hnode : node? (dir ++ [name]) t with
      | none => simp [Bind.bind, Except.bind, throw, throwThe, MonadExceptOf.throw, hnode]
      | some node =>
        cases node <;> cases slash <;>
          simp [Bind.bind, Except.bind, throw, throwThe, MonadExceptOf.throw, pure, Except.pure,
            hnode]

/-- What a walk has followed is there, and is a link. -/
theorem isLink_of_mem_followed {links : Nat} {parts : List Text}
    (h : l ∈ followed t links dir parts) : ∃ target, node? l t = some (.symlink target) := by
  fun_induction followed t links dir parts with
  | case1 => cases h
  | case2 links dir part rest hskip ih => exact ih h
  | case3 links dir rest hskip ih => exact ih h
  | case4 => cases h
  | case5 => cases h
  | case6 dir part rest hskip hup last target hnode hlast links ih =>
    rcases List.mem_cons.1 h with rfl | h
    · exact ⟨target, hnode⟩
    · exact ih h
  | case7 => cases h
  | case8 links dir part rest hskip hup last hnode hlast ih => exact ih h
  | case9 => cases h

end FileTree

/-- The address of a path is the path itself, unless it is empty or starts with NUL. -/
theorem Address.ofText_cases {path : Text} {address : Address} (h : ofText path = .ok address) :
    path = [] ∧ address = .autobound ∨ (∃ name, path = '\x00' :: name ∧ address = .abstract name) ∨
      path ≠ [] ∧ path.head? ≠ some '\x00' ∧ address = .path path := by
  unfold ofText at h
  split at h
  · rename_i name
    split at h
    · cases h
    · cases h
      exact .inr (.inl ⟨name, rfl, rfl⟩)
  · rename_i hplain
    unfold ofPath at h
    split at h
    · cases h
    · split at h
      · cases h
      · split at h
        · rename_i hempty
          cases h
          exact .inl ⟨hempty, rfl⟩
        · rename_i hne
          cases h
          refine .inr (.inr ⟨hne, ?_, rfl⟩)
          intro hhead
          obtain ⟨name, rfl⟩ := List.head?_eq_some_iff.1 hhead
          exact hplain name rfl

namespace Harbour

open FileTree (node?)

variable {s s' : Harbour} {path : Text} {endpoint : Endpoint} {holder : Text}

/-- A bind that succeeds: what is listened on, and what it leaves. -/
inductive Binds (s : Harbour) : Text → Endpoint → Harbour → Prop
  | autobound : Binds s [] .autobound s
  | abstract {name : Text} : Address.ofText ('\x00' :: name) = .ok (.abstract name) →
      s.hasAbstract name = false → Binds s ('\x00' :: name) (.abstract name) s
  | file {path name : Text} {dir : Location} : Address.ofText path = .ok (.path path) →
      path ≠ [] → path.head? ≠ some '\x00' →
      s.tree.find false s.home path = .ok (.entry dir name false) →
      node? (dir ++ [name]) s.tree ≠ some .dir →
      (s.tree.put (dir ++ [name]) (.socket s.nextId)).IsSocketAt s.home path s.nextId →
      Binds s path (.file s.nextId) { s with
        tree := s.tree.put (dir ++ [name]) (.socket s.nextId), nextId := s.nextId + 1 }

theorem removeStale_of_not_isWalkable (h : ¬ FileTree.IsWalkable path) :
    (s.removeStale path).1 = s := by
  apply removeStale_of_forall
  rintro l ⟨dir, name, node, -, hfind, -⟩
  exact h (FileTree.find_eq_ok_iff.1 hfind).1

/-- A socket that is opened once the path is clear stands where the path named an entry before. -/
theorem binds_of_openAt (haddress : Address.ofText path = .ok (.path path)) (hne : path ≠ [])
    (hhead : path.head? ≠ some '\x00')
    (h : (s.removeStale path).1.openAt (.path path) = .ok (endpoint, s')) :
    s.Binds path endpoint s' := by
  obtain ⟨tree, htree, h⟩ := bind_eq_ok_iff.1 h
  cases pure_eq_ok_iff.1 h
  have hsocket := FileTree.isSocketAt_of_makeSocket htree
  obtain ⟨dir, name, hfind, hnone, rfl⟩ := FileTree.makeSocket_eq_ok_iff.1 htree
  by_cases hremovable : ∃ l, s.tree.IsRemovable s.home path l
  · obtain ⟨l, hl⟩ := hremovable
    have hdir := hl.ne_dir
    rw [removeStale_of_isRemovable hl] at hfind hsocket ⊢
    obtain ⟨dir', name', node, rfl, hfind', -, -⟩ := hl
    -- the path does not lead through the entry, as it would then lead nowhere now
    rw [FileTree.find_remove hdir hfind'] at hfind
    split at hfind
    · cases hfind
    · cases hfind
      rw [FileTree.put_remove] at hsocket ⊢
      exact .file haddress hne hhead hfind' hdir hsocket
  · rw [not_exists] at hremovable
    rw [removeStale_of_forall hremovable] at hfind hnone hsocket ⊢
    have hdir : node? (dir ++ [name]) s.tree ≠ some .dir := by
      rw [hnone]
      exact fun heq => nomatch heq
    exact .file haddress hne hhead hfind hdir hsocket

/-- There are no other ways for a bind to succeed. -/
theorem binds_of_bind (h : (s.bind path).1 = .ok endpoint) :
    s.Binds path endpoint (s.bind path).2.1 := by
  cases hopen : Address.ofText path >>= (s.removeStale path).1.openAt with
  | error cause =>
    rw [bind_of_error hopen] at h
    cases h
  | ok opened =>
    obtain ⟨opened, after⟩ := opened
    rw [bind_of_ok hopen] at h ⊢
    cases h
    obtain ⟨address, haddress, hopen⟩ := bind_eq_ok_iff.1 hopen
    rcases Address.ofText_cases haddress with ⟨rfl, rfl⟩ | ⟨name, rfl, rfl⟩ | ⟨hne, hhead, rfl⟩
    · rw [removeStale_of_not_isWalkable fun hpath => hpath.ne_nil rfl] at hopen
      cases hopen
      exact .autobound
    · rw [removeStale_of_not_isWalkable fun hpath => hpath.head?_ne rfl] at hopen
      cases htaken : s.hasAbstract name with
      | true => simp [openAt, htaken] at hopen
      | false =>
        obtain ⟨rfl, rfl⟩ : .abstract name = endpoint ∧ s = after := by
          simpa [openAt, htaken] using hopen
        exact .abstract haddress htaken
    · exact binds_of_openAt haddress hne hhead hopen

theorem holder?_keep (s : Harbour) (holder : Text) (endpoint : Endpoint) :
    (s.keep holder endpoint).holder? endpoint = .ok holder := by
  simp [holder?, keep]

/-- Whoever has bound to a path that is not empty is found there. -/
theorem Binds.connect (h : s.Binds path endpoint s') (hne : path ≠ []) (holder : Text) :
    (s'.keep holder endpoint).connect path = .ok holder := by
  cases h with
  | autobound => exact absurd rfl hne
  | abstract haddress =>
    rw [Harbour.connect, haddress]
    exact holder?_keep ..
  | file haddress _ _ _ _ hsocket =>
    rw [connect_of_isSocketAt haddress hsocket]
    exact holder?_keep ..

/-! ## Other entries -/

/-- Nothing else goes when what is left at a path is removed. -/
theorem node?_removeStale {m : Location} (hm : ¬ s.tree.Names s.home path m) :
    node? m (s.removeStale path).1.tree = node? m s.tree := by
  by_cases hremovable : ∃ l, s.tree.IsRemovable s.home path l
  · obtain ⟨l, hl⟩ := hremovable
    rw [removeStale_of_isRemovable hl]
    apply FileTree.node?_remove_of_ne
    rintro rfl
    exact hm (FileTree.isRemovable_iff.1 hl).1
  · rw [not_exists] at hremovable
    rw [removeStale_of_forall hremovable]

theorem Binds.node? (h : s.Binds path endpoint s') {m : Location}
    (hm : ¬ s.tree.Names s.home path m) : node? m s'.tree = node? m s.tree := by
  cases h with
  | autobound => rfl
  | abstract => rfl
  | file _ _ _ hfind =>
    apply FileTree.node?_put_of_ne
    rintro rfl
    exact hm ⟨_, _, rfl, hfind⟩

theorem removeStale_eq_iff :
    s.removeStale path = (s, []) ↔ s.tree.IsMissing s.home path := by
  rw [← FileTree.unlink_eq_notFound_iff, removeStale]
  split
  · rename_i tree htree
    simp [htree]
  · rename_i hmissing
    simp [hmissing]
  · rename_i e hother herror
    simp only [Prod.mk.injEq, List.cons_ne_nil, and_false, herror, Except.error.injEq, false_iff]
    exact hother

/-- Removing what is left at a path and binding to it are about the one entry that it names. -/
structure KeepsToEntry (s : Harbour) (path : Text) : Prop where
  /-- Every entry but the one that the path names is as it was, whether the bind has succeeded or
  not. -/
  others : ∀ m, ¬ s.tree.Names s.home path m →
    node? m (s.removeStale path).1.tree = node? m s.tree ∧
      node? m (s.bind path).2.1.tree = node? m s.tree
  /-- A directory at the path stays with all that is in it, as does everything else. -/
  directory : s.tree.HasDirectoryAt s.home path → (s.removeStale path).1 = s ∧
    (s.bind path).2.1 = s ∧ ∃ e, (s.bind path).1 = .error e
  /-- Anything but a directory is removed itself, of a link the link and not what it leads to. -/
  removes : ∀ l node, s.tree.Names s.home path l → node? l s.tree = some node → node ≠ .dir →
    s.removeStale path = ({ s with tree := s.tree.remove l }, [.staleRemoved path])
  /-- A bind that fails has done no more than remove what was there. -/
  fails : ∀ e, (s.bind path).1 = .error e → (s.bind path).2.1 = (s.removeStale path).1
  /-- Nothing is changed and nothing reported exactly if nothing is there. -/
  missing : s.removeStale path = (s, []) ↔ s.tree.IsMissing s.home path
  /-- Whatever but a directory is at the path, or nothing, the bind succeeds if the path is not too
  long and does not lead through the very link that it names. -/
  succeeds : ∀ l, s.tree.Names s.home path l → node? l s.tree ≠ some .dir →
    path.utf8.length < Address.limit →
    ((∃ target, node? l s.tree = some (.symlink target)) → l ∉ s.tree.linksOn s.home path) →
    ∃ endpoint, (s.bind path).1 = .ok endpoint
  /-- Once a bind has succeeded the listener is found at the path, unless this is empty. -/
  listens : ∀ endpoint, (s.bind path).1 = .ok endpoint → path ≠ [] →
    ∀ holder, ((s.bind path).2.1.keep holder endpoint).connect path = .ok holder
  /-- The path then names a socket, the one that is listened on, where no directory was. -/
  socket : ∀ endpoint, (s.bind path).1 = .ok endpoint → path ≠ [] → path.head? ≠ some '\x00' →
    ∃ l id, s.tree.Names s.home path l ∧ node? l s.tree ≠ some .dir ∧ endpoint = .file id ∧
      node? l (s.bind path).2.1.tree = some (.socket id) ∧
      (s.bind path).2.1.tree.IsSocketAt s.home path id
  /-- The empty path and the names that start with NUL leave the tree alone. -/
  outside : path = [] ∨ path.head? = some '\x00' → (s.bind path).2.1 = s

theorem directory_of_hasDirectoryAt (h : s.tree.HasDirectoryAt s.home path) :
    (s.removeStale path).1 = s ∧ (s.bind path).2.1 = s ∧ ∃ e, (s.bind path).1 = .error e := by
  have hstale := removeStale_of_forall (FileTree.not_isRemovable_of_hasDirectoryAt h)
  cases hbind : (s.bind path).1 with
  | error e => exact ⟨hstale, (bind_snd_of_error hbind).trans hstale, e, rfl⟩
  | ok endpoint =>
    have hbinds := binds_of_bind hbind
    obtain ⟨place, d, hfind, hd⟩ := h
    obtain ⟨hpath, -⟩ := FileTree.find_eq_ok_iff.1 hfind
    generalize (s.bind path).2.1 = after at hbinds
    cases hbinds with
    | autobound => exact absurd rfl hpath.ne_nil
    | abstract => exact absurd rfl hpath.head?_ne
    | file _ _ _ hfind' hdir =>
      cases hfind.symm.trans hfind'
      rw [FileTree.Place.directory?, if_neg hdir] at hd
      cases hd

theorem succeeds_of_names {l : Location} (hl : s.tree.Names s.home path l)
    (hdir : node? l s.tree ≠ some .dir) (hshort : path.utf8.length < Address.limit)
    (hthrough : (∃ target, node? l s.tree = some (.symlink target)) →
      l ∉ s.tree.linksOn s.home path) : ∃ endpoint, (s.bind path).1 = .ok endpoint := by
  obtain ⟨dir, name, rfl, hfind⟩ := hl
  have haddress := Address.ofText_of_isWalkable (FileTree.find_eq_ok_iff.1 hfind).1
  rw [if_neg (Nat.not_le.2 hshort)] at haddress
  have hnot : dir ++ [name] ∉ s.tree.linksOn s.home path := fun hmem =>
    hthrough (FileTree.isLink_of_mem_followed hmem) hmem
  have hfound := FileTree.find_remove hdir hfind
  rw [if_neg hnot] at hfound
  have hopen := openAt_removeStale hfound hdir
  rw [bind_of_ok (by rw [haddress]; exact hopen)]
  exact ⟨_, rfl⟩

/-- This holds in every tree and of every path. -/
theorem keepsToEntry (s : Harbour) (path : Text) : s.KeepsToEntry path where
  others := by
    intro m hm
    refine ⟨node?_removeStale hm, ?_⟩
    cases hbind : (s.bind path).1 with
    | ok endpoint => exact (binds_of_bind hbind).node? hm
    | error e =>
      rw [bind_snd_of_error hbind]
      exact node?_removeStale hm
  directory := directory_of_hasDirectoryAt
  removes := by
    intro l node hl hnode hnodir
    have hunlink := FileTree.unlink_eq_ok_iff.2
      ⟨l, FileTree.isRemovable_iff.2 ⟨hl, node, hnode, hnodir⟩, rfl⟩
    rw [removeStale, hunlink]
  fails := fun _ => bind_snd_of_error
  missing := removeStale_eq_iff
  succeeds := fun l => succeeds_of_names
  listens := fun endpoint h hne => (binds_of_bind h).connect hne
  socket := by
    intro endpoint h hne hhead
    have hbinds := binds_of_bind h
    generalize (s.bind path).2.1 = after at hbinds
    cases hbinds with
    | autobound => exact absurd rfl hne
    | abstract => exact absurd rfl hhead
    | file _ _ _ hfind hdir hsocket =>
      exact ⟨_, _, ⟨_, _, rfl, hfind⟩, hdir, rfl, FileTree.node?_put_self (by simp) .., hsocket⟩
  outside := by
    intro hpath
    cases hbind : (s.bind path).1 with
    | ok endpoint =>
      have hbinds := binds_of_bind hbind
      generalize (s.bind path).2.1 = after at hbinds
      cases hbinds with
      | autobound => rfl
      | abstract => rfl
      | file _ hne hhead => exact absurd hpath (not_or.2 ⟨hne, hhead⟩)
    | error e =>
      rw [bind_snd_of_error hbind]
      apply removeStale_of_not_isWalkable
      intro hwalk
      exact hpath.elim hwalk.ne_nil hwalk.head?_ne

/-- A link is replaced, and the directory that it led to stays. -/
example : (bind ⟨⟨[(["d"], .dir), (["d", "x"], .file [0]), (["l"], .symlink "d")]⟩, [], 0, []⟩
    "l").2.1.tree = ⟨[(["l"], .socket 0), (["d"], .dir), (["d", "x"], .file [0])]⟩ := by
  cbv

/-- A bind to the empty path succeeds, and yet the path names no socket and nobody is found there.
A name that starts with NUL is none of the file tree either.  And behind a slash a link stays, as the
path then asks for the directory that it leads to. -/
theorem bind_names_nothing :
    ((empty.bind []).1 = .ok .autobound ∧
      (∀ id, ¬ (empty.bind []).2.1.tree.IsSocketAt empty.home [] id) ∧
      ((empty.bind []).2.1.keep "a" .autobound).connect [] = .error (.os .invalidArgument)) ∧
    ((empty.bind "\x00a").1 = .ok (.abstract "a") ∧
      ∀ id, ¬ (empty.bind "\x00a").2.1.tree.IsSocketAt empty.home "\x00a" id) ∧
    (selfLinked.removeStale "l/").1 = selfLinked := by
  refine ⟨⟨rfl, ?_, rfl⟩, ⟨by decide +kernel, ?_⟩, ?_⟩
  · rintro id ⟨dir, name, hfind, -⟩
    cases hfind true
  · rintro id ⟨dir, name, hfind, -⟩
    exact (FileTree.find_eq_ok_iff.1 (hfind true)).1.head?_ne rfl
  · have hslash : selfLinked.tree.unlink selfLinked.home "l/" = .error (.os .notDirectory) := by
      cbv
    rw [removeStale, hslash]

end Harbour

end CredentialGateway
