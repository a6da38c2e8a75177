import CredentialGateway.Proofs.FailedBind

/-!
# Binding again and again

A path that ends in a proper name, in a directory that is there whatever becomes of the entry of
that name, can be bound to at any time, whatever but a directory has come there in the meantime.
Each socket has a number of its own, so of all the listeners that were ever bound there the last
one alone answers.

    the parent leads to a directory → the path names an entry of it      (find_append_name)
    whatever happens at a berth, it stays one                              (Moors.step)
    bind → connect finds the binder, or is refused once it has closed       (rebinds)
-/

namespace CredentialGateway

/-! ## The directory in front of a name -/

namespace FileTree

/-- The directory that a place is. -/
def Place.directory? (t : FileTree) : Place → Option Location
  | .whole dir => some dir
  | .entry dir name _ => if node? (dir ++ [name]) t = some .dir then some (dir ++ [name]) else none

/-- The directory that a path leads to; the empty path stays where it starts. -/
def directory? (t : FileTree) (home : Location) (path : Text) : Option Location :=
  if path = [] then some home
  else match t.find true home path with
    | .ok place => place.directory? t
    | .error _ => none

/-- A name that stands for an entry of its own. -/
structure IsProper (name : Text) : Prop where
  plain : '/' ∉ name
  ne_nil : name ≠ []
  ne_dot : name ≠ "."
  ne_dots : name ≠ ".."

section Parent

variable {t : FileTree} {links : Nat} {dir d home : Location} {name parent : Text}

theorem IsProper.not_skipped (h : IsProper name) : ¬ (name = [] || name = ".") = true := by
  rw [Bool.or_eq_true, decide_eq_true_iff, decide_eq_true_iff, not_or]
  exact ⟨h.ne_nil, h.ne_dot⟩

theorem walk_name (h : IsProper name) (hlong : ¬ name.utf8.length > longestName) (t : FileTree)
    (links : Nat) (dir : Location) : walk t false links dir [name] = .ok (.entry dir name false) :=
  walk_last h.not_skipped h.ne_dots hlong rfl t links dir

theorem walk_append_of_all {parts : List Text} (h : parts.all (· = []) = true) (t : FileTree)
    (follow : Bool) (links : Nat) (dir : Location) (rest : List Text) :
    walk t follow links dir (parts ++ rest) = walk t follow links dir rest := by
  induction parts with
  | nil => rfl
  | cons part parts ih =>
    rw [List.all_cons, Bool.and_eq_true] at h
    rw [List.cons_append, walk, if_pos (by simp [of_decide_eq_true h.1])]
    exact ih h.2

/-- Where a walk leads to a directory, one name more leads to the entry of that name in it. -/
theorem walk_append_name {parts : List Text} {place : Place} (h : IsProper name)
    (hlong : ¬ name.utf8.length > longestName)
    (hwalk : walk t true links dir (parts ++ [[]]) = .ok place)
    (hplace : place.directory? t = some d) :
    walk t false links dir (parts ++ [name]) = .ok (.entry d name false) := by
  generalize hall : parts ++ [[]] = all at hwalk
  have hmore (parts : List Text) : ((parts ++ [name]).all fun x => decide (x = [])) = false := by
    simp [h.ne_nil]
  -- the empty part behind the last slash is the last one
  have hsplit {parts rest : List Text} {part : Text} (hall : parts ++ [[]] = part :: rest)
      (hskip : ¬ (part = [] || part = ".") = true) :
      ∃ more, parts = part :: more ∧ more ++ [[]] = rest := by
    cases parts with
    | nil =>
      cases hall
      simp at hskip
    | cons first more =>
      cases hall
      exact ⟨more, rfl, rfl⟩
  fun_induction walk t true links dir all generalizing parts with
  | case1 => simp at hall
  | case2 links dir part rest hskip ih =>
    cases parts with
    | nil =>
      -- the walk is over, and the name goes behind it
      cases hall
      rw [walk] at hwalk
      cases hwalk
      cases hplace
      exact walk_name h hlong t links _
    | cons first parts =>
      cases hall
      rw [List.cons_append, walk, if_pos hskip]
      exact ih rfl hwalk
  | case3 links dir rest hskip ih =>
    obtain ⟨more, rfl, rfl⟩ := hsplit hall hskip
    rw [List.cons_append, walk, if_neg hskip, if_pos rfl]
    exact ih rfl hwalk
  | case4 => cases hwalk
  | case5 =>
    rename_i hlast
    simp at hlast
  | case6 => cases hwalk
  | case7 dir part rest hskip hup hlength last target hnode _ links =>
    rename_i ih
    obtain ⟨more, rfl, rfl⟩ := hsplit hall hskip
    rw [List.cons_append, walk, if_neg hskip, if_neg hup, if_neg hlength]
    simp only [hnode, hmore]
    exact (congrArg _ (List.append_assoc ..).symm).trans (ih (List.append_assoc ..) hwalk)
  | case8 links dir part rest hskip hup hlength last hnode =>
    rename_i hlast
    obtain ⟨more, rfl, rfl⟩ := hsplit hall hskip
    cases hwalk
    have hhere : dir ++ [part] = d := by simpa [Place.directory?, hnode] using hplace
    have hempty : (more.all fun x => decide (x = [])) = true := by simpa [last] using hlast
    rw [List.cons_append, walk, if_neg hskip, if_neg hup, if_neg hlength, ← hhere]
    simp only [hnode, hmore]
    exact (walk_append_of_all hempty ..).trans (walk_name h hlong t links _)
  | case9 links dir part rest hskip hup hlength last hnode =>
    rename_i ih
    obtain ⟨more, rfl, rfl⟩ := hsplit hall hskip
    rw [List.cons_append, walk, if_neg hskip, if_neg hup, if_neg hlength]
    simp only [hnode, hmore]
    exact ih rfl hwalk
  | case10 links dir part rest hskip hup hlength last node _ hnodir hnode =>
    cases hwalk
    have hother : node ≠ .dir := hnodir
    simp [Place.directory?, hnode, hother] at hplace
  | case11 => cases hwalk
  | case12 links dir part rest hskip hup hlength last hnode =>
    cases hwalk
    simp [Place.directory?, hnode] at hplace
  | case13 => cases hwalk

/-- A slash divides the path of a directory from a name in it. -/
theorem start_append (home : Location) (front tail : Text) (h : '/' ∉ tail) :
    start home (front ++ '/' :: tail) =
      ((start home (front ++ ['/'])).1, front.splitOn '/' ++ [tail]) := by
  rw [start, start, List.splitOn_append_cons_self, List.splitOn_eq_singleton h]
  cases front <;> rfl

/-- Behind the path of a directory, a name is that of an entry in it. -/
theorem find_append_name (h : IsProper name) (hpath : IsWalkable (parent ++ name))
    (hname : ¬ name.utf8.length > longestName) (hslash : parent = [] ∨ parent.getLast? = some '/')
    (hdir : t.directory? home parent = some d) :
    t.find false home (parent ++ name) = .ok (.entry d name false) := by
  refine find_eq_ok_iff.2 ⟨hpath, ?_⟩
  rcases List.eq_nil_or_concat parent with rfl | ⟨front, c, rfl⟩
  · -- nothing stands before the name
    have hhead : name.head? ≠ some '/' := fun hh => h.plain (List.mem_of_head? hh)
    cases hdir
    rw [List.nil_append, start, if_neg hhead, List.splitOn_eq_singleton h.plain]
    exact walk_name h hname ..
  · obtain rfl : c = '/' := by simpa using hslash
    rw [List.concat_eq_append] at hdir ⊢
    rw [List.append_assoc, List.singleton_append, start_append home front name h.plain]
    rw [directory?, if_neg (by simp)] at hdir
    split at hdir
    · rename_i place hfind
      obtain ⟨-, hwalk⟩ := find_eq_ok_iff.1 hfind
      rw [start_append home front [] (by simp)] at hwalk
      exact walk_append_name h hname hwalk hdir
    · cases hdir

end Parent

end FileTree

/-! ## Berths -/

/-- A path of an address, with a proper name at its end, in a directory to which it leads whether
or not there is an entry of that name.  The entry is no directory. -/
structure Berth (t : FileTree) (home : Location) where
  parent : Text
  name : Text
  dir : Location
  slash : parent = [] ∨ parent.getLast? = some '/'
  proper : FileTree.IsProper name
  noNul : (parent ++ name).contains '\x00' = false
  short : (parent ++ name).utf8.length < Address.limit
  leads : (t.remove (dir ++ [name])).directory? home parent = some dir
  notDir : FileTree.node? (dir ++ [name]) t ≠ some .dir

namespace Berth

variable {t : FileTree} {home : Location}

def path (b : Berth t home) : Text := b.parent ++ b.name

/-- Where the entry is, or would be. -/
def entry (b : Berth t home) : Location := b.dir ++ [b.name]

theorem isWalkable (b : Berth t home) : FileTree.IsWalkable b.path := by
  refine ⟨b.noNul, by simp [path, b.proper.ne_nil], ?_⟩
  have hlimit : Address.limit ≤ FileTree.longestPath := by decide
  exact Nat.le_trans (Nat.le_of_lt b.short) hlimit

theorem length_name (b : Berth t home) : ¬ b.name.utf8.length > FileTree.longestName := by
  have hshort := b.short
  rw [Text.utf8, List.flatMap_append, List.length_append] at hshort
  have hlimit : Address.limit ≤ FileTree.longestName := by decide
  rw [Text.utf8]
  omega

theorem ofText_path (b : Berth t home) : Address.ofText b.path = .ok (.path b.path) :=
  (Address.ofText_of_isWalkable b.isWalkable).trans (if_neg (Nat.not_le.2 b.short))

/-- While there is nothing there, the path names the entry. -/
theorem find_remove (b : Berth t home) : (t.remove b.entry).find false home b.path =
    .ok (.entry b.dir b.name false) :=
  FileTree.find_append_name b.proper b.isWalkable b.length_name b.slash b.leads

end Berth

namespace Harbour

/-- What happens at a berth: a holder binds to it, a listener is closed, or something is put there
in place of what is there. -/
inductive Step
  | bind (holder : Text)
  | close (holder : Text)
  | file (content : Bytes)
  | stale
  | link (target : Text)
  deriving DecidableEq, Repr

/-- The harbour after a step at a path and the entry that it names. -/
def step (path : Text) (l : Location) (s : Harbour) : Step → Harbour
  | .bind holder => (s.bindAs path holder).2.1
  | .close holder => s.close holder
  | .file content => { s with tree := s.tree.put l (.file content) }
  | .stale => { s with tree := s.tree.put l (.socket s.nextId), nextId := s.nextId + 1 }
  | .link target => { s with tree := s.tree.put l (.symlink target) }

def after (s : Harbour) (path : Text) (l : Location) (steps : List Step) : Harbour :=
  steps.foldl (step path l) s

/-- The numbers of the sockets that are listened on have been given out. -/
def IsNumbered (s : Harbour) : Prop := ∀ holder id, (holder, .file id) ∈ s.listeners → id < s.nextId

/-- The path names the entry while there is nothing there, and what is there is no directory. -/
structure Moors (s : Harbour) (path : Text) (dir : Location) (name : Text) : Prop where
  address : Address.ofText path = .ok (.path path)
  found : (s.tree.remove (dir ++ [name])).find false s.home path = .ok (.entry dir name false)
  notDir : FileTree.node? (dir ++ [name]) s.tree ≠ some .dir
  numbered : s.IsNumbered

/-- What a bind leaves behind. -/
def boundAs (s : Harbour) (l : Location) (holder : Text) : Harbour :=
  keep { s with tree := s.tree.put l (.socket s.nextId), nextId := s.nextId + 1 } holder
    (.file s.nextId)

/-- The harbour when these holders have closed their listeners. -/
def closeAll (s : Harbour) (closed : List Text) : Harbour :=
  { s with listeners := s.listeners.filter (·.1 ∉ closed) }

section Binding

variable {s : Harbour} {path : Text} {dir : Location} {name : Text}

theorem moors_of_berth (b : Berth s.tree s.home) (h : s.IsNumbered) :
    s.Moors b.path b.dir b.name :=
  ⟨b.ofText_path, b.find_remove, b.notDir, h⟩

/-- The path names the entry when there is something, too, unless that is a link to be followed. -/
theorem Moors.find (h : s.Moors path dir name) {follow : Bool} (hends : follow = true →
      ∀ target, FileTree.node? (dir ++ [name]) s.tree ≠ some (.symlink target)) :
    s.tree.find follow s.home path = .ok (.entry dir name false) :=
  FileTree.find_of_vacant h.found (FileTree.node?_remove_self (by simp) _)
    (fun _ hm => (FileTree.node?_remove_of_ne hm _).symm) hends

/-- A bind at a berth succeeds. -/
theorem Moors.bindAs (h : s.Moors path dir name) (holder : Text) :
    ∃ events, s.bindAs path holder = (.ok (), s.boundAs (dir ++ [name]) holder, events) := by
  have hclear := openAt_removeStale h.found h.notDir
  rw [Harbour.bindAs, bind_of_ok (by rw [h.address]; exact hclear)]
  exact ⟨_, rfl⟩

theorem Moors.connect (h : s.Moors path dir name) {id : Nat}
    (hsocket : FileTree.node? (dir ++ [name]) s.tree = some (.socket id)) :
    s.connect path = s.holder? (.file id) := by
  refine connect_of_isSocketAt h.address ⟨dir, name, fun follow => ?_, hsocket⟩
  exact h.find fun _ target htarget => nomatch hsocket.symm.trans htarget

/-! ## Any number of steps -/

theorem IsNumbered.close (h : s.IsNumbered) (holder : Text) : (s.close holder).IsNumbered :=
  fun other id hmem => h other id (List.mem_filter.1 hmem).1

/-- Opening touches no listener, and a socket gets a number that is new. -/
theorem numbers_of_openAt {s' : Harbour} {address : Address} {endpoint : Endpoint}
    (h : s.openAt address = .ok (endpoint, s')) : s'.listeners = s.listeners ∧
      s.nextId ≤ s'.nextId ∧ ∀ id, endpoint = .file id → id < s'.nextId := by
  cases address with
  | path p =>
    obtain ⟨tree, -, h⟩ := bind_eq_ok_iff.1 h
    cases pure_eq_ok_iff.1 h
    refine ⟨rfl, Nat.le_succ _, fun id hid => ?_⟩
    cases hid
    exact Nat.lt_succ_self _
  | abstract name =>
    cases htaken : s.hasAbstract name with
    | true => simp [openAt, htaken] at h
    | false =>
      obtain ⟨rfl, rfl⟩ : .abstract name = endpoint ∧ s = s' := by simpa [openAt, htaken] using h
      refine ⟨rfl, Nat.le_refl _, fun id hid => ?_⟩
      cases hid
  | autobound =>
    cases h
    refine ⟨rfl, Nat.le_refl _, fun id hid => ?_⟩
    cases hid

theorem IsNumbered.keep {s' : Harbour} {address : Address} {endpoint : Endpoint}
    (h : s.IsNumbered) (hopen : s.openAt address = .ok (endpoint, s')) (holder : Text) :
    (s'.keep holder endpoint).IsNumbered := by
  intro other id hmem
  obtain ⟨hlisteners, hle, hnew⟩ := numbers_of_openAt hopen
  rcases List.mem_cons.1 hmem with heq | hmem
  · exact hnew id (congrArg Prod.snd heq).symm
  · have hold : (other, .file id) ∈ s'.listeners := (List.mem_filter.1 hmem).1
    rw [hlisteners] at hold
    exact Nat.lt_of_lt_of_le (h other id hold) hle

/-- Wherever a holder binds, sockets get numbers that are new. -/
theorem IsNumbered.bindAs (h : s.IsNumbered) (path holder : Text) :
    (s.bindAs path holder).2.1.IsNumbered := by
  have hstale : (s.removeStale path).1.IsNumbered := by
    unfold removeStale
    split <;> exact h
  cases hbind : Address.ofText path >>= (s.removeStale path).1.openAt with
  | ok opened =>
    obtain ⟨address, -, hopen⟩ := bind_eq_ok_iff.1 hbind
    rw [Harbour.bindAs, bind_of_ok hbind]
    exact hstale.keep hopen holder
  | error cause =>
    rw [Harbour.bindAs, bind_of_error hbind]
    exact hstale

/-- Whatever happens at a berth, it stays one. -/
theorem Moors.step (h : s.Moors path dir name) (x : Step) :
    (s.step path (dir ++ [name]) x).Moors path dir name := by
  have hput {node : Node} (hnode : node ≠ .dir) :
      FileTree.node? (dir ++ [name]) (s.tree.put (dir ++ [name]) node) ≠ some .dir := by
    rw [FileTree.node?_put_self (by simp)]
    exact fun heq => hnode (Option.some.inj heq)
  have hfound {node : Node} :
      ((s.tree.put (dir ++ [name]) node).remove (dir ++ [name])).find false s.home path =
        .ok (.entry dir name false) := by
    rw [FileTree.remove_put]
    exact h.found
  cases x with
  | bind holder =>
    have hnumbered := h.numbered.bindAs path holder
    obtain ⟨events, hbind⟩ := h.bindAs holder
    rw [hbind] at hnumbered
    rw [Harbour.step, hbind]
    exact ⟨h.address, hfound, hput (by simp), hnumbered⟩
  | close holder => exact ⟨h.address, h.found, h.notDir, h.numbered.close holder⟩
  | file content => exact ⟨h.address, hfound, hput (by simp), h.numbered⟩
  | stale =>
    exact ⟨h.address, hfound, hput (by simp), fun other id hmem =>
      Nat.lt_succ_of_lt (h.numbered other id hmem)⟩
  | link target => exact ⟨h.address, hfound, hput (by simp), h.numbered⟩

theorem Moors.after (h : s.Moors path dir name) (steps : List Step) :
    (s.after path (dir ++ [name]) steps).Moors path dir name := by
  induction steps generalizing s with
  | nil => exact h
  | cons x steps ih => exact ih (h.step x)

theorem after_append (l : Location) (steps more : List Step) :
    s.after path l (steps ++ more) = (s.after path l steps).after path l more :=
  List.foldl_append ..

theorem after_map_close (s : Harbour) (path : Text) (l : Location) (closed : List Text) :
    s.after path l (closed.map .close) = s.closeAll closed := by
  induction closed generalizing s with
  | nil =>
    have hall : s.listeners.filter (·.1 ∉ ([] : List Text)) = s.listeners := by simp
    rw [closeAll, hall]
    rfl
  | cons holder closed ih =>
    refine (ih (s.close holder)).trans ?_
    simp [close, closeAll, List.filter_filter, Bool.and_comm]

/-- Of all the listeners, the one that was opened last has its number alone. -/
theorem holder?_closeAll_boundAs (h : s.IsNumbered) (l : Location) (holder : Text)
    (closed : List Text) : ((s.boundAs l holder).closeAll closed).holder? (.file s.nextId) =
      if holder ∈ closed then .error (.os .connectionRefused) else .ok holder := by
  have hold (x : Text × Endpoint) (hx : x ∈ s.listeners) : ¬ x.2 = .file s.nextId := by
    obtain ⟨other, endpoint⟩ := x
    rintro rfl
    exact Nat.lt_irrefl _ (h other _ hx)
  by_cases hclosed : holder ∈ closed
  · have hnone : ((s.boundAs l holder).closeAll closed).listeners.find?
        (·.2 = .file s.nextId) = none := by
      rw [List.find?_eq_none]
      intro x hx
      obtain ⟨hmem, hopen⟩ := List.mem_filter.1 hx
      rcases List.mem_cons.1 hmem with rfl | hmem
      · simp [hclosed] at hopen
      · simpa using hold x (List.mem_filter.1 hmem).1
    rw [if_pos hclosed, holder?, hnone]
  · rw [if_neg hclosed, holder?]
    simp [closeAll, boundAs, keep, hclosed]

/-- At a berth every bind succeeds, whatever has happened there before; and then it is the binder
who answers at its path until the listener is closed, and nobody from then on. -/
theorem rebinds (s : Harbour) (b : Berth s.tree s.home) (h : s.IsNumbered) (steps : List Step)
    (holder : Text) (closed : List Text) :
    ((s.after b.path b.entry steps).bindAs b.path holder).1 = .ok () ∧
      (s.after b.path b.entry (steps ++ .bind holder :: closed.map .close)).connect b.path =
        if holder ∈ closed then .error (.os .connectionRefused) else .ok holder := by
  have hmoors (steps : List Step) : (s.after b.path b.entry steps).Moors b.path b.dir b.name :=
    (moors_of_berth b h).after steps
  generalize hready : s.after b.path b.entry steps = ready
  have hreadyMoors : ready.Moors b.path b.dir b.name := hready ▸ hmoors steps
  obtain ⟨events, hbind⟩ := hreadyMoors.bindAs holder
  have hend : s.after b.path b.entry (steps ++ .bind holder :: closed.map .close) =
      (ready.boundAs b.entry holder).closeAll closed := by
    rw [after_append, hready, ← after_map_close _ b.path b.entry]
    change (ready.step b.path b.entry (.bind holder)).after _ _ _ = _
    rw [step, hbind]
    rfl
  have hsocket : FileTree.node? (b.dir ++ [b.name])
      ((ready.boundAs b.entry holder).closeAll closed).tree = some (.socket ready.nextId) :=
    FileTree.node?_put_self (by simp) ..
  have hlast : ((ready.boundAs b.entry holder).closeAll closed).Moors b.path b.dir b.name :=
    hend ▸ hmoors _
  refine ⟨congrArg Prod.fst hbind, ?_⟩
  rw [hend, hlast.connect hsocket]
  exact holder?_closeAll_boundAs hreadyMoors.numbered b.entry holder closed

end Binding

/-- A directory with a link to it inside, and a listener somewhere else. -/
def linkedRun : Harbour where
  tree := ⟨[(["run"], .dir), (["run", "gw.sock"], .symlink ".")]⟩
  home := []
  nextId := 1
  listeners := [("z", .file 0)]

/-- The link's place is a berth. -/
def linkedRunBerth : Berth linkedRun.tree linkedRun.home where
  parent := "run/"
  name := "gw.sock"
  dir := ["run"]
  slash := .inr rfl
  proper := ⟨by decide, by decide, by decide, by decide⟩
  noNul := by decide
  short := by decide
  leads := by cbv
  notDir := by decide

theorem rebinds_linkedRun : linkedRun.IsNumbered ∧
    ((linkedRun.after linkedRunBerth.path linkedRunBerth.entry
        [.bind "a", .file [0], .bind "b", .close "a"]).bindAs linkedRunBerth.path "c").1 = .ok () ∧
      (linkedRun.after linkedRunBerth.path linkedRunBerth.entry
        ([.bind "a", .file [0], .bind "b", .close "a"] ++
          .bind "c" :: (["b"] : List Text).map .close)).connect linkedRunBerth.path =
        if ("c" : Text) ∈ (["b"] : List Text) then .error (.os .connectionRefused) else .ok "c" :=
  have h : linkedRun.IsNumbered := fun holder id hmem => by
    cases List.mem_singleton.1 hmem
    decide
  ⟨h, rebinds linkedRun linkedRunBerth h [.bind "a", .file [0], .bind "b", .close "a"] "c" ["b"]⟩

/-- Nothing, and nobody who listens. -/
def empty : Harbour := ⟨{}, [], 0, []⟩

/-- Behind a slash at the end, or with a NUL in the path, a bind may fail where nothing but
listeners has been before: a path with a slash wants a directory, and a name outside the file tree
is taken while its listener is open. -/
theorem bindAs_fails :
    (empty.tree.directory? empty.home [] = some [] ∧
      (empty.bindAs "gw.sock/" "a").1 = .error ⟨"gw.sock/", .os .notFound⟩) ∧
    ((empty.bindAs "\x00a" "a").1 = .ok () ∧
      ((empty.bindAs "\x00a" "a").2.1.bindAs "\x00a" "b").1 =
        .error ⟨"\x00a", .os .addressInUse⟩) :=
  ⟨⟨rfl, by cbv⟩, by decide +kernel, by decide +kernel⟩

end Harbour

end CredentialGateway
