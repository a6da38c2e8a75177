import CredentialGateway.Toml.Table
import Mathlib.Data.List.TakeWhile

/-!
# The tree of tables

What a document says is told by what stands at the end of each path: a value that is complete, a
table that later lines may add to, or an array of tables, to the last of which they may.  A dotted
key and a header change the tree at the end of their path, and on the way to it they only make
tables that were missing.  All else stays as it is, but for what is below an array that gets another
table: there the new table is seen, and no longer the last one.

    the way is free → addEntry … = some es', which has the value in addition   (exists_addEntry)
    the place is free → the header gives es', which has what it names           (exists_header)
-/

namespace CredentialGateway.Toml

/-! ## Lookup -/

section Lookup

variable {es : Entries} {key : Text}

theorem lookup_entry (k name : Text) (v : Value) (es : Entries) :
    List.lookup k ((name, v) :: es) = if k = name then some v else es.lookup k := by
  rw [List.lookup_cons]
  by_cases h : k = name
  · simp [h]
  · simp [h, beq_eq_false_iff_ne.2 h]

theorem lookup_append_self (h : es.lookup key = none) (v : Value) :
    (es ++ [(key, v)]).lookup key = some v := by
  simp [List.lookup_append, h]

theorem lookup_append_of_ne {k : Text} (h : k ≠ key) (v : Value) :
    (es ++ [(key, v)]).lookup k = es.lookup k := by
  rw [List.lookup_append, lookup_entry, if_neg h]
  simp

theorem lookup_replace (k key : Text) (v : Value) (es : Entries) :
    (replace key v es).lookup k =
      if k = key then (es.lookup key).map fun _ => v else es.lookup k := by
  induction es with
  | nil => simp [replace]
  | cons e es ih =>
    obtain ⟨name, old⟩ := e
    change List.lookup k ((if name = key then (name, v) else (name, old)) :: replace key v es) = _
    by_cases hn : name = key
    · rw [if_pos hn, lookup_entry, lookup_entry, lookup_entry, ih, hn, if_pos rfl]
      by_cases hk : k = key <;> simp [hk]
    · rw [if_neg hn, lookup_entry, lookup_entry, lookup_entry, ih, if_neg (Ne.symm hn)]
      by_cases hk : k = key
      · rw [if_pos hk, if_pos hk, if_neg (hk ▸ Ne.symm hn)]
      · rw [if_neg hk, if_neg hk]

theorem lookup_filter_key (k key : Text) (es : Entries) :
    (es.filter (·.1 ≠ key)).lookup k = if k = key then none else es.lookup k := by
  induction es with
  | nil => simp
  | cons e es ih =>
    obtain ⟨name, old⟩ := e
    by_cases hn : name = key
    · rw [List.filter_cons_of_neg (by simpa using hn), ih, lookup_entry, hn]
      by_cases hk : k = key <;> simp [hk]
    · rw [List.filter_cons_of_pos (by simpa using hn), lookup_entry, lookup_entry, ih]
      by_cases hk : k = key
      · rw [if_pos hk, if_pos hk, if_neg (hk ▸ Ne.symm hn)]
      · rw [if_neg hk, if_neg hk]

end Lookup

/-! ## Places -/

/-- What stands at a place: a value that is complete, a table that can be added to, or an array of
tables, where the last one can be. -/
inductive Node
  | complete (v : Value)
  | table (o : Origin)
  | items

/-- Something that can be added to. -/
def Node.IsOpen : Node → Prop
  | complete _ => False
  | _ => True

/-- What a header names: a table, or an array of tables. -/
def Node.named (array : Bool) : Node := if array then .items else .table .header

namespace Value

/-- The entries of a table that can be added to, or of the last one of an array of tables; nothing
else has any. -/
def inside : Value → Entries
  | .table o es => if o = .closed then [] else es
  | .array true vs =>
    match vs.getLast? with
    | some (.table .header es) => es
    | _ => []
  | _ => []

def node : Value → Node
  | .table o es => if o = .closed then .complete (.table o es) else .table o
  | .array true vs =>
    match vs.getLast? with
    | some (.table .header _) => .items
    | _ => .complete (.array true vs)
  | v => .complete v

theorem node_of_open {o : Origin} (ho : o ≠ .closed) (es : Entries) :
    (table o es).node = .table o :=
  if_neg ho

theorem inside_of_open {o : Origin} (ho : o ≠ .closed) (es : Entries) :
    (table o es).inside = es :=
  if_neg ho

theorem node_of_last (vs : List Value) (es : Entries) :
    (array true (vs ++ [.table .header es])).node = .items := by
  simp [node]

theorem inside_of_last (vs : List Value) (es : Entries) :
    (array true (vs ++ [.table .header es])).inside = es := by
  simp [inside]

/-- A value is complete, or a table that can be added to, or an array of tables. -/
theorem node_cases (v : Value) :
    (v.node = .complete v ∧ v.inside = []) ∨ (∃ o es, o ≠ .closed ∧ v = .table o es) ∨
      ∃ vs es, v = .array true (vs ++ [.table .header es]) := by
  cases v with
  | table o es =>
    by_cases ho : o = .closed
    · exact .inl ⟨if_pos ho, if_pos ho⟩
    · exact .inr (.inl ⟨o, es, ho, rfl⟩)
  | array growing vs =>
    cases growing with
    | false => exact .inl ⟨rfl, rfl⟩
    | true =>
      by_cases hlast : ∃ es, vs.getLast? = some (.table .header es)
      · obtain ⟨es, hes⟩ := hlast
        obtain ⟨front, rfl⟩ := List.getLast?_eq_some_iff.1 hes
        exact .inr (.inr ⟨front, es, rfl⟩)
      · refine .inl ⟨?_, ?_⟩
        · rw [node]
          split
          · exact absurd ⟨_, ‹_›⟩ hlast
          · rfl
        · rw [inside]
          split
          · exact absurd ⟨_, ‹_›⟩ hlast
          · rfl
  | _ => exact .inl ⟨rfl, rfl⟩

theorem eq_of_node {v w : Value} (h : v.node = .complete w) : v = w ∧ v.inside = [] := by
  rcases v.node_cases with ⟨hnode, hinside⟩ | ⟨o, es, ho, rfl⟩ | ⟨vs, es, rfl⟩
  · rw [hnode] at h
    cases h
    exact ⟨rfl, hinside⟩
  · rw [node_of_open ho] at h
    cases h
  · rw [node_of_last] at h
    cases h

theorem eq_table_of_node {v : Value} {o : Origin} (h : v.node = .table o) :
    o ≠ .closed ∧ v = .table o v.inside := by
  rcases v.node_cases with ⟨hnode, -⟩ | ⟨o', es, ho, rfl⟩ | ⟨vs, es, rfl⟩
  · rw [hnode] at h
    cases h
  · rw [node_of_open ho] at h
    cases h
    rw [inside_of_open ho]
    exact ⟨ho, rfl⟩
  · rw [node_of_last] at h
    cases h

theorem eq_items_of_node {v : Value} (h : v.node = .items) :
    ∃ vs, v = .array true (vs ++ [.table .header v.inside]) := by
  rcases v.node_cases with ⟨hnode, -⟩ | ⟨o', es, ho, rfl⟩ | ⟨vs, es, rfl⟩
  · rw [hnode] at h
    cases h
  · rw [node_of_open ho] at h
    cases h
  · rw [inside_of_last]
    exact ⟨vs, rfl⟩

end Value

/-- The entries that can be added to under a key. -/
def under (key : Text) (es : Entries) : Entries := ((es.lookup key).map Value.inside).getD []

/-- What stands at the end of a path. -/
def node? (es : Entries) : List Text → Option Node
  | [] => none
  | [key] => (es.lookup key).map Value.node
  | key :: next :: path => node? (under key es) (next :: path)

/-- The entries of the table at the end of a path. -/
def tableAt : List Text → Entries → Entries
  | [], es => es
  | key :: path, es => tableAt path (under key es)

section Places

variable {es es' : Entries} {key : Text} {path : List Text}

theorem under_of_lookup {v : Value} (h : es.lookup key = some v) : under key es = v.inside := by
  rw [under, h]
  rfl

theorem under_of_none (h : es.lookup key = none) : under key es = [] := by
  rw [under, h]
  rfl

theorem node?_singleton (key : Text) (es : Entries) :
    node? es [key] = (es.lookup key).map Value.node := by
  rw [node?]

theorem lookup_eq_none_of_node? (h : node? es [key] = none) : es.lookup key = none := by
  rw [node?_singleton] at h
  exact Option.map_eq_none_iff.1 h

theorem node?_cons (h : path ≠ []) (key : Text) (es : Entries) :
    node? es (key :: path) = node? (under key es) path := by
  obtain ⟨next, path, rfl⟩ := List.exists_cons_of_ne_nil h
  rw [node?]

theorem node?_empty (path : List Text) : node? [] path = none := by
  induction path with
  | nil => rfl
  | cons key path ih =>
    by_cases h : path = []
    · rw [h, node?_singleton]
      rfl
    · rw [node?_cons h]
      exact ih

/-- Of the entries only those under the first key matter. -/
theorem node?_congr (h : es.lookup key = es'.lookup key) :
    node? es (key :: path) = node? es' (key :: path) := by
  by_cases hp : path = []
  · rw [hp, node?_singleton, node?_singleton, h]
  · rw [node?_cons hp, node?_cons hp, under, under, h]

theorem node?_append {rest : List Text} (h : rest ≠ []) (path : List Text) (es : Entries) :
    node? es (path ++ rest) = node? (tableAt path es) rest := by
  induction path generalizing es with
  | nil => rfl
  | cons key path ih =>
    rw [List.cons_append, node?_cons (by simp [h]), ih]
    rfl

/-- What is below something is below a table, or below an array of tables. -/
theorem exists_open_of_node?_append (path : List Text) {rest : List Text} {n : Node}
    (hpath : path ≠ []) (hrest : rest ≠ []) (h : node? es (path ++ rest) = some n) :
    ∃ n, n.IsOpen ∧ node? es path = some n := by
  induction path generalizing es with
  | nil => contradiction
  | cons key path ih =>
    rw [List.cons_append, node?_cons (by simp [hrest])] at h
    by_cases hp : path = []
    · rw [hp, List.nil_append] at h
      rw [hp, node?_singleton]
      cases hv : es.lookup key with
      | none =>
        rw [under_of_none hv, node?_empty] at h
        cases h
      | some v =>
        cases hn : v.node with
        | complete w =>
          rw [under_of_lookup hv, (Value.eq_of_node hn).2, node?_empty] at h
          cases h
        | table o => exact ⟨.table o, trivial, by rw [Option.map_some, hn]⟩
        | items => exact ⟨.items, trivial, by rw [Option.map_some, hn]⟩
    · rw [node?_cons hp]
      exact ih hp h

end Places

/-! ## Additions -/

/-- The path leads on behind the first one. -/
def Below (p q : List Text) : Prop := ∃ r, r ≠ [] ∧ q = p ++ r

/-- The second table has what the first one has, but for what is lost and for tables that were only
passed through, and nothing new but what is said. -/
structure Grows (es es' : Entries) (lost : List Text → Prop) (new : List Text → Node → Prop) :
    Prop where
  keep : ∀ q n, n ≠ .table .implied → ¬ lost q → node? es q = some n → node? es' q = some n
  cause : ∀ q n, node? es' q = some n → (node? es q = some n ∧ ¬ lost q) ∨ new q n

theorem Grows.mono {es es' : Entries} {lost lost' : List Text → Prop}
    {new new' : List Text → Node → Prop} (h : Grows es es' lost new)
    (hlost : ∀ q, lost q ↔ lost' q) (himp : ∀ q n, new q n → new' q n) :
    Grows es es' lost' new' where
  keep q n hn hq := h.keep q n hn (mt (hlost q).1 hq)
  cause q n hq := (h.cause q n hq).imp (And.imp_right (mt (hlost q).2)) (himp q n)

/-- The entries under one key grow, or come into being, or are named at last. -/
theorem Grows.cons {es es' : Entries} {key : Text} {w : Value} {lost : List Text → Prop}
    {new : List Text → Node → Prop} (hkey : es'.lookup key = some w)
    (hothers : ∀ k, k ≠ key → es'.lookup k = es.lookup k)
    (hnode : ∀ n, node? es [key] = some n → n = w.node ∨ n = .table .implied)
    (hsub : Grows (under key es) w.inside lost new) (hlost : ¬ lost []) :
    Grows es es' (fun q => ∃ r, q = key :: r ∧ lost r) fun q n =>
      (∃ r, q = key :: r ∧ new r n) ∨ (q = [key] ∧ n = w.node ∧ node? es [key] ≠ some n) := by
  have hself : node? es' [key] = some w.node := by
    rw [node?_singleton, hkey, Option.map_some]
  have hunder : under key es' = w.inside := under_of_lookup hkey
  constructor
  · intro q n hn hq hold
    cases q with
    | nil => cases hold
    | cons k q =>
      by_cases hk : k = key
      · subst hk
        by_cases hq' : q = []
        · subst hq'
          rcases hnode n hold with rfl | rfl
          · exact hself
          · exact absurd rfl hn
        · rw [node?_cons hq', hunder]
          rw [node?_cons hq'] at hold
          exact hsub.keep q n hn (fun hl => hq ⟨q, rfl, hl⟩) hold
      · rw [node?_congr (hothers k hk), hold]
  · intro q n hq
    cases q with
    | nil => cases hq
    | cons k q =>
      by_cases hk : k = key
      · subst hk
        have hrest (hl : ¬ lost q) : ¬ ∃ r, k :: q = k :: r ∧ lost r := by
          rintro ⟨r, heq, hr⟩
          exact hl ((List.cons.inj heq).2 ▸ hr)
        by_cases hq' : q = []
        · subst hq'
          rw [hself] at hq
          cases hq
          exact or_iff_not_imp_left.2 fun hne =>
            .inr ⟨rfl, rfl, fun hold => hne ⟨hold, hrest hlost⟩⟩
        · rw [node?_cons hq', hunder] at hq
          rw [node?_cons hq']
          exact (hsub.cause q n hq).imp (And.imp_right hrest) fun h => .inl ⟨q, rfl, h⟩
      · rw [node?_congr (hothers k hk)] at hq
        refine .inl ⟨hq, ?_⟩
        rintro ⟨r, heq, -⟩
        exact hk (List.cons.inj heq).1

theorem grows_append {es : Entries} {key : Text} {v : Value} (hkey : es.lookup key = none)
    (hv : v.node = .complete v) :
    Grows es (es ++ [(key, v)]) (fun _ => False) (fun q n => q = [key] ∧ n = .complete v) ∧
      node? (es ++ [(key, v)]) [key] = some (.complete v) := by
  have hlast := lookup_append_self hkey v
  have hself : node? (es ++ [(key, v)]) [key] = some (.complete v) := by
    rw [node?_singleton, hlast, Option.map_some, hv]
  -- nothing was below the key, and nothing is below a value that is complete
  have hsame : Grows (under key es) v.inside (fun _ => False) fun _ _ => False := by
    rw [under_of_none hkey, (Value.eq_of_node hv).2]
    exact ⟨fun _ _ _ _ hq => hq, fun _ _ hq => .inl ⟨hq, id⟩⟩
  refine ⟨(Grows.cons hlast (fun k hk => lookup_append_of_ne hk v) (fun n hn => ?_) hsame id).mono
    (by simp) ?_, hself⟩
  · rw [node?_singleton, hkey] at hn
    cases hn
  · rintro q n (⟨_, _, hnew⟩ | ⟨rfl, rfl, -⟩)
    · exact hnew.elim
    · exact ⟨rfl, hv⟩

/-! ## The way to a table -/

/-- How a table comes to be that is missing on the way. -/
def fresh (dotted : Bool) : Origin := if dotted then .dotted else .implied

theorem fresh_ne_closed (dotted : Bool) : fresh dotted ≠ .closed := by
  cases dotted <;> simp [fresh]

/-- The way leads on: nothing is there yet, or what can be added to on this way. -/
def Passes (dotted : Bool) : Option Node → Prop
  | none => True
  | some (.table o) => ¬ (dotted = true ∧ o = .header)
  | some .items => True
  | some (.complete _) => False

/-- How the table at the end of a way came to be, or will. -/
def originAt (dotted : Bool) (origin : Origin) (es : Entries) (path : List Text) : Origin :=
  if path = [] then origin
  else match node? es path with
    | some (.table o) => o
    | some .items => .header
    | _ => fresh dotted

theorem originAt_cons {dotted : Bool} {origin : Origin} {es : Entries} {key : Text}
    {path : List Text} : originAt dotted origin es (key :: path) =
      originAt dotted (originAt dotted origin es [key]) (under key es) path := by
  by_cases hp : path = []
  · rw [hp]
    exact (if_pos rfl).symm
  · rw [originAt, if_neg (by simp), node?_cons hp, originAt, if_neg hp]

theorem modifyLast_append {α : Type} (f : α → Option α) (front : List α) (x : α) :
    modifyLast f (front ++ [x]) = (f x).map fun x => front ++ [x] := by
  induction front with
  | nil => rfl
  | cons y front ih =>
    have hcons : modifyLast f (y :: (front ++ [x])) =
        (modifyLast f (front ++ [x])).map (y :: ·) := by
      cases front <;> rfl
    rw [List.cons_append, hcons, ih, Option.map_map]
    rfl

/-- One step of the way: what is made of the table below is what stands here. -/
theorem descend_cons {dotted : Bool} {f : Origin → Entries → Option Entries} {origin : Origin}
    {es sub : Entries} {key : Text} {path : List Text}
    (hway : Passes dotted (node? es [key]))
    (hsub : descend dotted f (originAt dotted origin es [key]) path (under key es) = some sub) :
    ∃ es' w, descend dotted f origin (key :: path) es = some es' ∧ es'.lookup key = some w ∧
      w.node = (node? es [key]).getD (.table (fresh dotted)) ∧ w.inside = sub ∧
      ∀ k, k ≠ key → es'.lookup k = es.lookup k := by
  rw [node?_singleton] at hway ⊢
  rw [originAt, if_neg (by simp), node?_singleton] at hsub
  rw [descend]
  cases hv : es.lookup key with
  | none =>
    rw [hv, under_of_none hv] at hsub
    change descend dotted f (fresh dotted) path [] = some sub at hsub
    have hopen := fresh_ne_closed dotted
    refine ⟨es ++ [(key, .table (fresh dotted) sub)], _, ?_, lookup_append_self hv _,
      Value.node_of_open hopen sub, Value.inside_of_open hopen sub,
      fun k hk => lookup_append_of_ne hk _⟩
    change (descend dotted f (fresh dotted) path []).map _ = _
    rw [hsub]
    rfl
  | some v =>
    have hself (w : Value) : (replace key w es).lookup key = some w := by
      rw [lookup_replace, if_pos rfl, hv, Option.map_some]
    have hothers (w : Value) (k : Text) (hk : k ≠ key) :
        (replace key w es).lookup k = es.lookup k := by
      rw [lookup_replace, if_neg hk]
    rw [hv, Option.map_some] at hway hsub
    rw [under_of_lookup hv] at hsub
    rw [Option.map_some, Option.getD_some]
    cases hn : v.node with
    | complete w =>
      rw [hn] at hway
      exact hway.elim
    | table o =>
      obtain ⟨hclosed, hv'⟩ := Value.eq_table_of_node hn
      rw [hn] at hway hsub
      refine ⟨replace key (.table o sub) es, _, ?_, hself _, Value.node_of_open hclosed sub,
        Value.inside_of_open hclosed sub, hothers _⟩
      rw [hv']
      change (enter dotted _ (.table o v.inside)).map _ = _
      rw [enter, if_neg (by simpa [hclosed, Passes] using hway), hsub]
      rfl
    | items =>
      obtain ⟨vs, hv'⟩ := Value.eq_items_of_node hn
      rw [hn] at hsub
      refine ⟨replace key (.array true (vs ++ [.table .header sub])) es, _, ?_, hself _,
        Value.node_of_last vs sub, Value.inside_of_last vs sub, hothers _⟩
      rw [hv']
      change (modifyLast (enter false _) (vs ++ [.table .header v.inside])).map _ = _
      rw [modifyLast_append, enter, if_neg (by simp), hsub]
      rfl

/-- Where the way is free, what is made of the table at its end is what grows there. -/
theorem exists_descend (dotted : Bool) (f : Origin → Entries → Option Entries) (origin : Origin)
    (path : List Text) (es : Entries) {lost : List Text → Prop} {new : List Text → Node → Prop}
    {sub : Entries} (hway : ∀ q, q ≠ [] → q <+: path → Passes dotted (node? es q))
    (hf : f (originAt dotted origin es path) (tableAt path es) = some sub)
    (hsub : Grows (tableAt path es) sub lost new) (hlost : ¬ lost []) :
    ∃ es', descend dotted f origin path es = some es' ∧
      Grows es es' (fun q => ∃ r, q = path ++ r ∧ lost r)
        (fun q n => (∃ r, q = path ++ r ∧ new r n) ∨
          (q ≠ [] ∧ q <+: path ∧ n = .table (fresh dotted) ∧ node? es q = none)) ∧
      ∀ r, r ≠ [] → node? es' (path ++ r) = node? sub r := by
  induction path generalizing origin es with
  | nil =>
    rw [originAt, if_pos rfl] at hf
    exact ⟨sub, hf, hsub.mono (by simp) fun q n hnew => .inl ⟨q, rfl, hnew⟩, fun r _ => rfl⟩
  | cons key path ih =>
    have hkey := hway [key] (by simp) (by simp)
    obtain ⟨sub', hsub', hgrows, hbelow⟩ := ih (originAt dotted origin es [key])
      (under key es) (fun q hq hpre => by
        rw [← node?_cons hq]
        exact hway (key :: q) (by simp) (by simpa using hpre))
      (by rw [← originAt_cons]; exact hf) hsub
    obtain ⟨es', w, hes', hlookup, hw, rfl, hothers⟩ := descend_cons hkey hsub'
    have hnode (n : Node) (hn : node? es [key] = some n) : n = w.node := by
      rw [hw, hn, Option.getD_some]
    have hfront : ¬ ∃ r, [] = path ++ r ∧ lost r := by
      rintro ⟨r, heq, hr⟩
      exact hlost ((List.append_eq_nil_iff.1 heq.symm).2 ▸ hr)
    refine ⟨es', hes', (Grows.cons hlookup hothers (fun n hn => .inl (hnode n hn)) hgrows
      hfront).mono (fun q => ?_) ?_, fun r hr => ?_⟩
    · constructor
      · rintro ⟨_, rfl, r, rfl, hr⟩
        exact ⟨r, rfl, hr⟩
      · rintro ⟨r, rfl, hr⟩
        exact ⟨_, rfl, r, rfl, hr⟩
    · rintro q n (⟨r, rfl, ⟨s, rfl, hnew⟩ | ⟨hr, hpre, rfl, hnone⟩⟩ | ⟨rfl, rfl, hne⟩)
      · exact .inl ⟨s, rfl, hnew⟩
      · exact .inr ⟨by simp, by simpa using hpre, rfl, by rw [node?_cons hr, hnone]⟩
      · cases hn : node? es [key] with
        | some n => exact absurd (hnode n hn ▸ hn) hne
        | none => exact .inr ⟨by simp, by simp, by rw [hw, hn, Option.getD_none], rfl⟩
    · rw [List.cons_append, node?_cons (by simp [hr]), ← hbelow r hr, under_of_lookup hlookup]

/-! ## Entries and headers -/

/-- A dotted key makes the tables it passes through, and leads through such tables only. -/
theorem exists_addEntry (path : List Text) (key : Text) {v : Value} {origin : Origin}
    (es : Entries) (ho : origin ≠ .dotted)
    (hway : ∀ q, q ≠ [] → q <+: path → ∀ n, node? es q = some n → n = .table .dotted)
    (hfree : node? es (path ++ [key]) = none) (hv : v.node = .complete v) :
    ∃ es', addEntry path key v origin es = some es' ∧
      Grows es es' (fun _ => False) (fun q n => (q = path ++ [key] ∧ n = .complete v) ∨
        (q ≠ [] ∧ q <+: path ∧ n = .table .dotted)) ∧
      node? es' (path ++ [key]) = some (.complete v) := by
  rw [node?_append (by simp)] at hfree
  have hlast := lookup_eq_none_of_node? hfree
  obtain ⟨hgrows, hself⟩ := grows_append hlast hv
  have horigin : (originAt true origin es path = .dotted) ↔ path ≠ [] := by
    unfold originAt
    split
    · rename_i hnil
      simp [hnil, ho]
    · rename_i hpath
      refine iff_of_true ?_ hpath
      cases hn : node? es path with
      | none => rfl
      | some n => rw [hway _ hpath List.prefix_rfl n hn]
  obtain ⟨es', hes', hall, hbelow⟩ := exists_descend true
    (fun o sub => if (o = .dotted) != (path ≠ []) || (sub.lookup key).isSome then none
      else some (sub ++ [(key, v)]))
    origin path es (fun q hq hpre => by
      cases hn : node? es q with
      | none => trivial
      | some n =>
        rw [hway q hq hpre n hn]
        simp [Passes]) (by
      rw [if_neg]
      simp [hlast, horigin]) hgrows id
  refine ⟨es', hes', hall.mono (by simp) ?_, ?_⟩
  · rintro q n (⟨r, rfl, rfl, rfl⟩ | ⟨hq, hpre, rfl, -⟩)
    · exact .inl ⟨rfl, rfl⟩
    · exact .inr ⟨hq, hpre, rfl⟩
  · rw [hbelow _ (by simp), hself]

/-- What a header makes. -/
def makeNamed (array : Bool) : Text → Entries → Option Entries :=
  if array then growArray else openTable

/-- What a header names stands under the key; a table keeps its entries, and an array shows those
of its new table. -/
theorem grows_named {array : Bool} {es es' : Entries} {key : Text} {w : Value}
    (hkey : es'.lookup key = some w) (hothers : ∀ k, k ≠ key → es'.lookup k = es.lookup k)
    (hnode : w.node = .named array) (hinside : w.inside = if array then [] else under key es)
    (h : ∀ n, node? es [key] = some n → n = if array then .items else .table .implied) :
    Grows es es' (fun q => array = true ∧ Below [key] q)
        (fun q n => q = [key] ∧ n = .named array) ∧
      node? es' [key] = some (.named array) := by
  have hsub : Grows (under key es) w.inside (fun r => array = true ∧ r ≠ [])
      fun _ _ => False := by
    rw [hinside]
    cases array with
    | false => exact ⟨fun _ _ _ _ hq => hq, fun _ _ hq => .inl ⟨hq, by simp⟩⟩
    | true =>
      refine ⟨fun q n _ hlost hq => ?_, fun q n hq => ?_⟩
      · by_cases hnil : q = []
        · rw [hnil] at hq
          cases hq
        · exact absurd ⟨rfl, hnil⟩ hlost
      · rw [if_pos rfl, node?_empty] at hq
        cases hq
  refine ⟨(Grows.cons hkey hothers (fun n hn => ?_) hsub (by simp)).mono (fun q => ?_) ?_, ?_⟩
  · rw [hnode, h n hn]
    cases array with
    | false => exact .inr rfl
    | true => exact .inl rfl
  · constructor
    · rintro ⟨r, rfl, harray, hr⟩
      exact ⟨harray, r, hr, rfl⟩
    · rintro ⟨harray, r, hr, rfl⟩
      exact ⟨r, rfl, harray, hr⟩
  · rintro q n (⟨_, _, hnew⟩ | ⟨rfl, rfl, _⟩)
    · exact hnew.elim
    · exact ⟨rfl, hnode⟩
  · rw [node?_singleton, hkey, Option.map_some, hnode]

/-- A header names a table that is not there or has only been passed through, or it adds a table to
an array of tables, which may be there. -/
theorem exists_header (array : Bool) (key : Text) (es : Entries)
    (h : ∀ n, node? es [key] = some n → n = if array then .items else .table .implied) :
    ∃ es', makeNamed array key es = some es' ∧
      Grows es es' (fun q => array = true ∧ Below [key] q)
        (fun q n => q = [key] ∧ n = .named array) ∧
      node? es' [key] = some (.named array) := by
  have hopen : Origin.header ≠ .closed := by simp
  cases hv : es.lookup key with
  | none =>
    cases array with
    | false =>
      refine ⟨es ++ [(key, .table .header [])], ?_,
        grows_named (lookup_append_self hv _) (fun k hk => lookup_append_of_ne hk _)
          (Value.node_of_open hopen []) ?_ h⟩
      · change openTable key es = _
        rw [openTable, hv]
      · rw [under_of_none hv]
        rfl
    | true =>
      refine ⟨es ++ [(key, .array true [.table .header []])], ?_,
        grows_named (lookup_append_self hv _) (fun k hk => lookup_append_of_ne hk _)
          (Value.node_of_last [] []) (Value.inside_of_last [] []) h⟩
      change growArray key es = _
      rw [growArray, hv]
  | some v =>
    have hn := h v.node (by rw [node?_singleton, hv]; rfl)
    cases array with
    | false =>
      obtain ⟨-, hv'⟩ := Value.eq_table_of_node hn
      have hfilter : (es.filter (·.1 ≠ key)).lookup key = none := by
        rw [lookup_filter_key, if_pos rfl]
      refine ⟨es.filter (·.1 ≠ key) ++ [(key, .table .header v.inside)], ?_,
        grows_named (lookup_append_self hfilter _) (fun k hk => ?_)
          (Value.node_of_open hopen _) ?_ h⟩
      · change openTable key es = _
        rw [openTable, hv, hv']
        rfl
      · rw [lookup_append_of_ne hk, lookup_filter_key, if_neg hk]
      · rw [under_of_lookup hv]
        rfl
    | true =>
      obtain ⟨vs, hv'⟩ := Value.eq_items_of_node hn
      generalize vs ++ [.table .header v.inside] = vs' at hv'
      subst hv'
      refine ⟨replace key (.array true (vs' ++ [.table .header []])) es, ?_,
        grows_named (by rw [lookup_replace, if_pos rfl, hv]; rfl)
          (fun k hk => by rw [lookup_replace, if_neg hk]) (Value.node_of_last _ [])
          (Value.inside_of_last _ []) h⟩
      change growArray key es = _
      rw [growArray, hv]

end CredentialGateway.Toml
