import CredentialGateway.Proofs.TableTree
import CredentialGateway.Toml.Document

/-!
# What the lines of a document say

A line enters a value under a key, or names in a header a table or an array of tables, which gets
one table more.  The lines agree if no value stands where another one stands or leads through, if
no header comes twice or names what dotted keys made, and if no dotted key leads through what a
header passed before; what is below an array starts afresh with each of its tables.  Lines that
agree build a tree, in any order.  It has every value and all that is named in its place, and
beyond them only the tables on the way to them.

    the lines agree → following them gives a tree that holds what they say   (exists_builds)
-/

namespace CredentialGateway.Toml

/-- The parts of a key. -/
def Key.parts (k : Key) : List Text := k.path ++ [k.last]

theorem Key.parts_ne_nil (k : Key) : k.parts ≠ [] := by simp [Key.parts]

theorem Key.prefix_parts {k : Key} {q : List Text} (h : q <+: k.path) : q <+: k.parts :=
  h.trans (List.prefix_append _ _)

/-- What a line says. -/
inductive Statement
  | entry (k : Key) (v : Value)
  | header (array : Bool) (k : Key)

def Draft.follow (d : Draft) : Statement → Option Draft
  | .entry k v => d.add k v
  | .header array k => d.turn k (makeNamed array)

/-- The statements build these entries of a table. -/
def Builds (ss : List Statement) (root : Entries) : Prop :=
  ∃ path, ss.foldlM Draft.follow {} = some ⟨root, path⟩

/-! ## Lines that agree -/

/-- What a line says, with the path of the header above it. -/
inductive Mark
  | value (home : List Text) (k : Key) (v : Value)
  | header (array : Bool) (path : List Text)

def Statement.mark (home : List Text) : Statement → Mark
  | entry k v => .value home k v
  | header array k => .header array k.parts

namespace Mark

/-- The path that a line is about. -/
def path : Mark → List Text
  | value home k _ => home ++ k.parts
  | header _ path => path

/-- The path of the table that a line goes to. -/
def home : Mark → List Text
  | value home _ _ => home
  | header _ path => path

/-- What stands at the path. -/
def node : Mark → Node
  | value _ _ v => .complete v
  | header array _ => .named array

/-- The path of an array that gets a table. -/
def array? : Mark → Option (List Text)
  | header true path => some path
  | _ => none

/-- Whether the second line is not seen any more once the first one is there. -/
def hides : Mark → Mark → Bool
  | header true path, m => path.isPrefixOf m.home
  | _, _ => false

end Mark

/-- What is seen of the lines once there is one more. -/
def said (ms : List Mark) (m : Mark) : List Mark := ms.filter (fun m' => !m.hides m') ++ [m]

/-- What is seen of more lines below a header. -/
def marksFrom : List Mark → List Text → List Statement → List Mark
  | ms, _, [] => ms
  | ms, home, s :: ss => marksFrom (said ms (s.mark home)) (s.mark home).home ss

/-- What is seen of the lines in the end. -/
def marks (ss : List Statement) : List Mark := marksFrom [] [] ss

/-- Neither path leads to the other, or through it. -/
def Apart (p q : List Text) : Prop := ¬ p <+: q ∧ ¬ q <+: p

/-- The second line may stand behind the first one. -/
def Mark.Admits : Mark → Mark → Prop
  | value home k _, value home' k' _ => Apart (home ++ k.parts) (home' ++ k'.parts)
  | value home k _, header _ path => path <+: home ∨ Apart path (home ++ k.parts)
  | header _ path, value home k _ => ¬ home ++ k.parts.take 1 <+: path
  | header array path, header array' path' => (array = true ∧ array' = true) ∨ path ≠ path'

/-- An array gets a table if it is there, or if there is nothing else at its path or below. -/
def Mark.Continues (ms : List Mark) : Mark → Prop
  | header true path => path ∈ ms.filterMap array? ∨ ∀ m ∈ ms, ¬ path <+: m.path
  | _ => True

/-- Every line may stand behind those above it that are still seen. -/
def AgreeFrom : List Mark → List Text → List Statement → Prop
  | _, _, [] => True
  | ms, home, s :: ss => (∀ m ∈ ms, m.Admits (s.mark home)) ∧ (s.mark home).Continues ms ∧
      AgreeFrom (said ms (s.mark home)) (s.mark home).home ss

def Agree (ss : List Statement) : Prop := AgreeFrom [] [] ss

instance (p q : List Text) : Decidable (Apart p q) := inferInstanceAs (Decidable (_ ∧ _))

instance : DecidableRel Mark.Admits
  | .value .., .value .. => inferInstanceAs (Decidable (Apart _ _))
  | .value .., .header .. => inferInstanceAs (Decidable (_ ∨ _))
  | .header .., .value .. => inferInstanceAs (Decidable (¬ _))
  | .header .., .header .. => inferInstanceAs (Decidable (_ ∨ _))

instance (ms : List Mark) : DecidablePred (Mark.Continues ms)
  | .header true _ => inferInstanceAs (Decidable (_ ∨ _))
  | .header false _ => isTrue trivial
  | .value .. => isTrue trivial

instance decidableAgreeFrom : (ms : List Mark) → (home : List Text) → (ss : List Statement) →
    Decidable (AgreeFrom ms home ss)
  | _, _, [] => isTrue trivial
  | ms, home, s :: ss =>
    have := decidableAgreeFrom (said ms (s.mark home)) (s.mark home).home ss
    inferInstanceAs (Decidable (_ ∧ _ ∧ _))

instance (ss : List Statement) : Decidable (Agree ss) := decidableAgreeFrom [] [] ss

theorem mem_said {ms : List Mark} {m m' : Mark} :
    m' ∈ said ms m ↔ (m' ∈ ms ∧ m.hides m' = false) ∨ m' = m := by
  simp [said]

/-- A line that adds no table to an array leaves all others seen. -/
theorem said_of_array? {m : Mark} (h : m.array? = none) (ms : List Mark) :
    said ms m = ms ++ [m] := by
  have hhides (m' : Mark) : m.hides m' = false := by
    cases m with
    | value => rfl
    | header array path =>
      cases array with
      | false => rfl
      | true => cases h
  simp [said, hhides]

theorem hides_eq_true_iff {m m' : Mark} :
    m.hides m' = true ↔ m.array? = some m.path ∧ m.path <+: m'.home := by
  cases m with
  | value => simp [Mark.hides, Mark.array?]
  | header array path => cases array <;> simp [Mark.hides, Mark.array?, Mark.path]

/-! ## One line -/

/-- A line that enters a value below the last header. -/
theorem exists_add {d : Draft} {k : Key} {v : Value}
    (hhere : d.path = [] ∨ ∃ array, node? d.root d.path = some (.named array))
    (hway : ∀ q, q ≠ [] → q <+: k.path →
      ∀ n, node? d.root (d.path ++ q) = some n → n = .table .dotted)
    (hfree : node? d.root (d.path ++ k.parts) = none) (hv : v.node = .complete v) :
    ∃ root, d.add k v = some ⟨root, d.path⟩ ∧
      Grows d.root root (fun _ => False) (fun q n => (q = d.path ++ k.parts ∧ n = .complete v) ∨
        ∃ r, r ≠ [] ∧ r <+: k.path ∧ q = d.path ++ r ∧ n = .table .dotted) ∧
      node? root (d.path ++ k.parts) = some (.complete v) := by
  have hopen (q : List Text) (hq : q ≠ []) (hpre : q <+: d.path) :
      ∃ n, n.IsOpen ∧ node? d.root q = some n := by
    obtain ⟨r, hr⟩ := hpre
    rcases hhere with hnil | ⟨array, hheader⟩
    · rw [hnil] at hr
      exact absurd (List.append_eq_nil_iff.1 hr).1 hq
    · by_cases hrest : r = []
      · rw [hrest, List.append_nil] at hr
        refine ⟨_, ?_, hr ▸ hheader⟩
        cases array <;> trivial
      · rw [← hr] at hheader
        exact exists_open_of_node?_append q hq hrest hheader
  have horigin : originAt false .header d.root d.path = .header := by
    unfold originAt
    split
    · rfl
    · rename_i hpath
      obtain ⟨array, hheader⟩ := hhere.resolve_left hpath
      rw [hheader]
      cases array <;> rfl
  have hheader : Origin.header ≠ .dotted := by simp
  obtain ⟨sub, hsub, hgrows, hself⟩ := exists_addEntry k.path k.last
    (tableAt d.path d.root) hheader (fun q hq hpre n hn => by
      rw [← node?_append hq] at hn
      exact hway q hq hpre n hn) (by rw [← node?_append (by simp)]; exact hfree) hv
  obtain ⟨root, hroot, hall, hbelow⟩ := exists_descend false (addEntry k.path k.last v) .header
    d.path d.root (fun q hq hpre => by
      obtain ⟨n, hn, hq⟩ := hopen q hq hpre
      rw [hq]
      cases n <;> simp [Passes, Node.IsOpen] at hn ⊢) (by rw [horigin]; exact hsub) hgrows id
  refine ⟨root, by rw [Draft.add, hroot]; rfl, hall.mono (by simp) ?_,
    by rw [hbelow _ k.parts_ne_nil]; exact hself⟩
  rintro q n (⟨r, rfl, ⟨rfl, rfl⟩ | ⟨hr, hpre, rfl⟩⟩ | ⟨hq, hpre, rfl, hnone⟩)
  · exact .inl ⟨rfl, rfl⟩
  · exact .inr ⟨r, hr, hpre, rfl, rfl⟩
  · obtain ⟨n, -, hn⟩ := hopen q hq hpre
    rw [hn] at hnone
    cases hnone

/-- A line that names a table, or an array of tables. -/
theorem exists_turn {d : Draft} (array : Bool) {k : Key}
    (hway : ∀ q, q ≠ [] → q <+: k.path → ∀ n, node? d.root q = some n → n.IsOpen)
    (hfree : ∀ n, node? d.root k.parts = some n →
      n = if array then .items else .table .implied) :
    ∃ root, d.turn k (makeNamed array) = some ⟨root, k.parts⟩ ∧
      Grows d.root root (fun q => array = true ∧ Below k.parts q)
        (fun q n => (q = k.parts ∧ n = .named array) ∨ (q <+: k.path ∧ n = .table .implied)) ∧
      node? root k.parts = some (.named array) := by
  obtain ⟨sub, hsub, hgrows, hself⟩ := exists_header array k.last
    (tableAt k.path d.root) (fun n hn => by
      rw [← node?_append (by simp)] at hn
      exact hfree n hn)
  obtain ⟨root, hroot, hall, hbelow⟩ := exists_descend false
    (fun _ es => makeNamed array k.last es) .header k.path d.root (fun q hq hpre => by
      cases hn : node? d.root q with
      | none => trivial
      | some n =>
        have hopen := hway q hq hpre n hn
        cases n <;> simp [Passes, Node.IsOpen] at hopen ⊢) hsub hgrows
    (by rintro ⟨-, r, -, hr⟩; cases hr)
  refine ⟨root, by rw [Draft.turn, hroot]; rfl, hall.mono (fun q => ?_) ?_, ?_⟩
  · constructor
    · rintro ⟨_, rfl, harray, r, hr, rfl⟩
      exact ⟨harray, r, hr, by simp [Key.parts]⟩
    · rintro ⟨harray, r, hr, rfl⟩
      exact ⟨k.last :: r, by simp [Key.parts], harray, r, hr, rfl⟩
  · rintro q n (⟨r, rfl, rfl, rfl⟩ | ⟨-, hpre, rfl, -⟩)
    · exact .inl ⟨rfl, rfl⟩
    · exact .inr ⟨hpre, rfl⟩
  · rw [Key.parts, hbelow _ (by simp), hself]

/-! ## Line after line -/

/-- Why something stands in a place. -/
inductive Caused (ms : List Mark) : List Text → Node → Prop
  | place {m : Mark} (h : m ∈ ms) : Caused ms m.path m.node
  | dotted {home q : List Text} {k : Key} {v : Value} (h : .value home k v ∈ ms) (hq : q ≠ [])
      (hpre : q <+: k.path) : Caused ms (home ++ q) (.table .dotted)
  | passed {array : Bool} {path q : List Text} (h : .header array path ∈ ms) (hpre : q <+: path) :
      Caused ms q (.table .implied)

/-- A line is about every place that it causes something in, or leads through it. -/
theorem Caused.exists_mark {ms : List Mark} {q : List Text} {n : Node} (h : Caused ms q n) :
    ∃ m ∈ ms, q <+: m.path := by
  cases h with
  | place h => exact ⟨_, h, List.prefix_rfl⟩
  | dotted h hq hpre => exact ⟨_, h, (List.prefix_append_right_inj _).2 (Key.prefix_parts hpre)⟩
  | passed h hpre => exact ⟨_, h, hpre⟩

/-- The tree has what each line is about in its place, and only what they cause. -/
structure Holds (ms : List Mark) (root : Entries) : Prop where
  place : ∀ m ∈ ms, node? root m.path = some m.node
  cause : ∀ q n, node? root q = some n → Caused ms q n

theorem holds_nil : Holds [] [] where
  place := by simp
  cause q n h := by rw [node?_empty] at h; cases h

theorem take_one_isPrefix {p q : List Text} (hq : q ≠ []) (h : q <+: p) : p.take 1 <+: q := by
  obtain ⟨x, q, rfl⟩ := List.exists_cons_of_ne_nil hq
  obtain ⟨r, rfl⟩ := h
  simp

theorem not_append_isPrefix {q : List Text} (hq : q ≠ []) (p : List Text) : ¬ p ++ q <+: p := by
  intro h
  have hlen := h.length_le
  rw [List.length_append] at hlen
  exact hq (List.length_eq_zero_iff.1 (by omega))

theorem below_append {p home r : List Text} (h : p <+: home) (hr : r ≠ []) :
    Below p (home ++ r) := by
  obtain ⟨s, rfl⟩ := h
  exact ⟨s ++ r, by simp [hr], by simp⟩

theorem eq_or_below {p q : List Text} (h : p <+: q) : q = p ∨ Below p q := by
  obtain ⟨r, rfl⟩ := h
  by_cases hr : r = []
  · exact .inl (by rw [hr, List.append_nil])
  · exact .inr ⟨r, hr, rfl⟩

theorem Mark.node_ne_implied (m : Mark) : m.node ≠ .table .implied := by
  cases m with
  | value => simp [Mark.node]
  | header array path => cases array <;> simp [Mark.node, Node.named]

theorem Mark.eq_header_of_array? {m : Mark} {path : List Text} (h : m.array? = some path) :
    m = .header true path := by
  cases m with
  | value => cases h
  | header array path =>
    cases array with
    | false => cases h
    | true =>
      cases h
      rfl

section Step

variable {ms : List Mark} {m : Mark} {d : Draft} {k : Key} {v : Value}

/-- What is not below an array that gets a table still has a cause that is seen. -/
theorem Caused.said {q : List Text} {n : Node} (h : Caused ms q n)
    (hadmits : ∀ m' ∈ ms, m'.Admits m) (hq : m.array? = some m.path → ¬ Below m.path q) :
    Caused (said ms m) q n := by
  cases h with
  | @place m' hm' =>
    cases hh : m.hides m' with
    | false => exact .place (mem_said.2 (.inl ⟨hm', hh⟩))
    | true =>
      obtain ⟨harray, hle⟩ := hides_eq_true_iff.1 hh
      cases m' with
      | value home k v => exact absurd (below_append hle k.parts_ne_nil) (hq harray)
      | header array path =>
        -- the array itself, which is named once more
        have hpath : path = m.path := (eq_or_below hle).resolve_right (hq harray)
        have hm := Mark.eq_header_of_array? harray
        have hagain := hadmits _ hm'
        rw [hm] at hagain
        have hsame : m = .header array path := by
          rw [hm, hpath, (hagain.resolve_right (not_not_intro hpath)).1]
        exact hsame ▸ .place (mem_said.2 (.inr rfl))
  | @dotted home r k v hm' hr hpre =>
    cases hh : m.hides (.value home k v) with
    | false => exact .dotted (mem_said.2 (.inl ⟨hm', hh⟩)) hr hpre
    | true =>
      obtain ⟨harray, hle⟩ := hides_eq_true_iff.1 hh
      exact absurd (below_append hle hr) (hq harray)
  | @passed array path q hm' hpre =>
    cases hh : m.hides (.header array path) with
    | false => exact .passed (mem_said.2 (.inl ⟨hm', hh⟩)) hpre
    | true =>
      obtain ⟨harray, hle⟩ := hides_eq_true_iff.1 hh
      have hm := Mark.eq_header_of_array? harray
      refine .passed (mem_said.2 (.inr hm.symm)) ?_
      rcases List.prefix_or_prefix_of_prefix hpre hle with hpre | hpre
      · exact hpre
      · rcases eq_or_below hpre with rfl | hbelow
        · exact List.prefix_rfl
        · exact absurd hbelow (hq harray)

/-- One more line is held if it gets its place, causes all that is new, and loses only what is not
seen any more. -/
theorem Holds.grow {root root' : Entries} {lost : List Text → Prop}
    {new : List Text → Node → Prop} (h : Holds ms root) (hadmits : ∀ m' ∈ ms, m'.Admits m)
    (hgrows : Grows root root' lost new)
    (hkeep : ∀ m' ∈ ms, m.hides m' = false → ¬ lost m'.path)
    (hlost : ∀ q, ¬ lost q → m.array? = some m.path → ¬ Below m.path q)
    (hnew : ∀ q n, new q n → Caused (said ms m) q n)
    (hself : node? root' m.path = some m.node) : Holds (said ms m) root' where
  place m' hm' := by
    rcases mem_said.1 hm' with ⟨hm', hh⟩ | rfl
    · exact hgrows.keep _ _ m'.node_ne_implied (hkeep m' hm' hh) (h.place m' hm')
    · exact hself
  cause q n hn := by
    rcases hgrows.cause q n hn with ⟨hold, hq⟩ | hq
    · exact (h.cause q n hold).said hadmits (hlost q hq)
    · exact hnew q n hq

/-- A value that the lines above admit gets its place. -/
theorem Holds.add (h : Holds ms d.root)
    (hhere : d.path = [] ∨ ∃ array, .header array d.path ∈ ms)
    (hadmits : ∀ m ∈ ms, m.Admits (.value d.path k v)) (hv : v.node = .complete v) :
    ∃ root, d.add k v = some ⟨root, d.path⟩ ∧ Holds (said ms (.value d.path k v)) root := by
  -- no header above leads to what the key makes, or through it
  have hheaders (array : Bool) (path q : List Text) (hpath : .header array path ∈ ms)
      (hq : q ≠ []) (hpre : q <+: k.parts) : ¬ d.path ++ q <+: path := fun hle =>
    hadmits _ hpath (((List.prefix_append_right_inj _).2 (take_one_isPrefix hq hpre)).trans hle)
  obtain ⟨root, hroot, hgrows, hself⟩ := exists_add (d := d) (k := k) (v := v)
    (hhere.imp_right fun ⟨array, hm⟩ => ⟨array, h.place _ hm⟩) (fun q hq hpre n hn => by
      have hparts := Key.prefix_parts hpre
      generalize hplace : d.path ++ q = place at hn
      cases h.cause place n hn with
      | @place m hm =>
        cases m with
        | value home k' v' =>
          have hle := (List.prefix_append_right_inj d.path).2 hparts
          rw [hplace] at hle
          exact absurd hle (hadmits _ hm).1
        | header array path =>
          exact absurd (hplace ▸ List.prefix_rfl) (hheaders _ _ q hm hq hparts)
      | dotted => rfl
      | passed hm hle => exact absurd (hplace ▸ hle) (hheaders _ _ q hm hq hparts))
    (by
      rw [Option.eq_none_iff_forall_not_mem]
      intro n hn
      generalize hplace : d.path ++ k.parts = place at hn
      cases h.cause place n hn with
      | @place m hm =>
        cases m with
        | value => exact (hadmits _ hm).2 (hplace ▸ List.prefix_rfl)
        | header =>
          exact hheaders _ _ _ hm k.parts_ne_nil List.prefix_rfl (hplace ▸ List.prefix_rfl)
      | dotted hm _ hpre =>
        refine (hadmits _ hm).2 ?_
        rw [hplace]
        exact (List.prefix_append_right_inj _).2 (Key.prefix_parts hpre)
      | passed hm hle =>
        exact hheaders _ _ _ hm k.parts_ne_nil List.prefix_rfl (hplace ▸ hle)) hv
  have hlast : Mark.value d.path k v ∈ said ms (.value d.path k v) := mem_said.2 (.inr rfl)
  refine ⟨root, hroot, h.grow hadmits hgrows (fun _ _ _ => id) (fun _ _ harray => ?_) ?_ hself⟩
  · cases harray
  · rintro q n (⟨rfl, rfl⟩ | ⟨r, hr, hpre, rfl, rfl⟩)
    · exact .place hlast
    · exact .dotted hlast hr hpre

/-- A header that the lines above admit names its table, or adds one to its array. -/
theorem Holds.turn {array : Bool} (h : Holds ms d.root)
    (hadmits : ∀ m ∈ ms, m.Admits (.header array k.parts))
    (hcontinues : (Mark.header array k.parts).Continues ms) :
    ∃ root, d.turn k (makeNamed array) = some ⟨root, k.parts⟩ ∧
      Holds (said ms (.header array k.parts)) root := by
  obtain ⟨root, hroot, hgrows, hself⟩ := exists_turn (d := d) array (k := k)
    (fun q _ hpre n hn => by
      cases h.cause q n hn with
      | @place m hm =>
        cases m with
        | value home k' v =>
          -- the header would lead through the value
          have hparts := Key.prefix_parts hpre
          rcases hadmits _ hm with hle | hapart
          · exact absurd (hparts.trans hle) (not_append_isPrefix k'.parts_ne_nil home)
          · exact absurd hparts hapart.2
        | header array' path => cases array' <;> trivial
      | _ => trivial)
    (fun n hn => by
      cases array with
      | true =>
        rcases hcontinues with harray | hnone
        · obtain ⟨m, hm, harray⟩ := List.mem_filterMap.1 harray
          obtain rfl := Mark.eq_header_of_array? harray
          have hitems : node? d.root k.parts = some .items := h.place _ hm
          rw [hitems] at hn
          exact (Option.some.inj hn).symm
        · obtain ⟨m, hm, hle⟩ := (h.cause _ n hn).exists_mark
          exact absurd hle (hnone m hm)
      | false =>
        generalize hplace : k.parts = place at hn
        cases h.cause place n hn with
        | @place m hm =>
          cases m with
          | value =>
            rcases hadmits _ hm with hle | hapart
            · exact absurd (hplace ▸ hle) (not_append_isPrefix (Key.parts_ne_nil _) _)
            · exact absurd (hplace ▸ List.prefix_rfl) hapart.1
          | header =>
            rcases hadmits _ hm with harray | hne
            · cases harray.2
            · exact absurd hplace.symm hne
        | dotted hm hq hpre =>
          rcases hadmits _ hm with hle | hapart
          · exact absurd (hplace ▸ hle) (not_append_isPrefix hq _)
          · refine absurd ?_ hapart.1
            rw [hplace]
            exact (List.prefix_append_right_inj _).2 (Key.prefix_parts hpre)
        | passed => rfl)
  have hlast : Mark.header array k.parts ∈ said ms (.header array k.parts) :=
    mem_said.2 (.inr rfl)
  refine ⟨root, hroot, h.grow hadmits hgrows (fun m hm hh => ?_) (fun q hq harray => ?_) ?_ hself⟩
  · rintro ⟨rfl, r, -, hpath⟩
    have hle : k.parts <+: m.path := ⟨r, hpath.symm⟩
    have hhome : ¬ k.parts <+: m.home := fun hhome => by
      have hhides : (Mark.header true k.parts).hides m = true :=
        hides_eq_true_iff.2 ⟨rfl, hhome⟩
      rw [hhides] at hh
      cases hh
    cases m with
    | value home k' v => exact ((hadmits _ hm).resolve_left hhome).1 hle
    | header array path => exact hhome hle
  · cases array with
    | false => cases harray
    | true => exact fun hbelow => hq ⟨rfl, hbelow⟩
  · rintro q n (⟨rfl, rfl⟩ | ⟨hpre, rfl⟩)
    · exact .place hlast
    · exact .passed hlast (Key.prefix_parts hpre)

/-- One line keeps what the lines above say, as far as it is still seen. -/
theorem Holds.step {s : Statement} (h : Holds ms d.root)
    (hhere : d.path = [] ∨ ∃ array, .header array d.path ∈ ms)
    (hadmits : ∀ m ∈ ms, m.Admits (s.mark d.path)) (hcontinues : (s.mark d.path).Continues ms)
    (hcomplete : ∀ k v, s = .entry k v → v.node = .complete v) :
    ∃ root, d.follow s = some ⟨root, (s.mark d.path).home⟩ ∧
      Holds (said ms (s.mark d.path)) root ∧ ((s.mark d.path).home = [] ∨
        ∃ array, .header array (s.mark d.path).home ∈ said ms (s.mark d.path)) := by
  cases s with
  | entry k v =>
    obtain ⟨root, hroot, hholds⟩ := h.add hhere hadmits (hcomplete k v rfl)
    exact ⟨root, hroot, hholds,
      hhere.imp_right fun ⟨array, hm⟩ => ⟨array, mem_said.2 (.inl ⟨hm, rfl⟩)⟩⟩
  | header array k =>
    obtain ⟨root, hroot, hholds⟩ := h.turn hadmits hcontinues
    exact ⟨root, hroot, hholds, .inr ⟨array, mem_said.2 (.inr rfl)⟩⟩

end Step

/-- Lines that agree with those above and with each other can be followed to their end. -/
theorem Holds.follow {ss : List Statement} {ms : List Mark} {d : Draft} (h : Holds ms d.root)
    (hhere : d.path = [] ∨ ∃ array, .header array d.path ∈ ms) (hagree : AgreeFrom ms d.path ss)
    (hcomplete : ∀ k v, .entry k v ∈ ss → v.node = .complete v) :
    ∃ d', ss.foldlM Draft.follow d = some d' ∧ Holds (marksFrom ms d.path ss) d'.root := by
  induction ss generalizing ms d with
  | nil => exact ⟨d, rfl, h⟩
  | cons s ss ih =>
    obtain ⟨hadmits, hcontinues, hagree⟩ := hagree
    obtain ⟨root, hroot, hholds, hhere⟩ := h.step hhere hadmits hcontinues
      fun k v hs => hcomplete k v (by simp [hs])
    obtain ⟨d', hd', hall⟩ := ih (d := ⟨root, (s.mark d.path).home⟩) hholds hhere hagree
      fun k v hm => hcomplete k v (List.mem_cons_of_mem _ hm)
    exact ⟨d', by rw [List.foldlM_cons, hroot]; exact hd', hall⟩

/-- Lines that agree build a tree that holds what they say. -/
theorem exists_builds {ss : List Statement} (hagree : Agree ss)
    (hcomplete : ∀ k v, .entry k v ∈ ss → v.node = .complete v) :
    ∃ root, Builds ss root ∧ Holds (marks ss) root := by
  obtain ⟨d, hd, hholds⟩ := holds_nil.follow (d := {}) (.inl rfl) hagree hcomplete
  exact ⟨d.root, ⟨d.path, hd⟩, hholds⟩

end CredentialGateway.Toml
