import CredentialGateway.CommandLine
import CredentialGateway.Proofs.Occurrences
import CredentialGateway.Proofs.ParsedUrl

/-!
# Flags

A command line is a list of flags, each written in one of a few ways, and perhaps a mark that the
flags are over.  Arguments are a command line exactly if they write flags with names of their own
and with values that fit; what they mean is the flags, in whatever order they stand.

    parse args = .ok c ↔ args write flags, and c is what they give        (parse_eq_ok_iff)
    the same flags in another order, written in another way, give the same    (Given.perm)
-/

namespace CredentialGateway

/-- The word that names an option, behind two dashes. -/
def CliOption.word : CliOption → Text
  | socket => "socket"
  | config => "config"
  | logLevel => "log-level"

/-- The letter that names an option, behind one dash. -/
def CliOption.letter? : CliOption → Option Char
  | socket => some 's'
  | config => some 'c'
  | logLevel => none

namespace CommandLine

/-- What can be given on a command line. -/
inductive Flag
  | option (o : CliOption) (v : Text)
  | jsonLogs
  deriving DecidableEq, Repr

namespace Flag

def name : Flag → CliName
  | option o _ => .option o
  | jsonLogs => .jsonLogs

/-- The value is one that the option takes: that of a path is not empty. -/
def Fits : Flag → Prop
  | option o v => o.wantsText = true → v ≠ []
  | jsonLogs => True

/-- The ways to write a flag. -/
inductive IsWritten : Flag → List Text → Prop
  | next (o : CliOption) {v : Text} (hv : isDashed v = false) :
      IsWritten (option o v) ["--" ++ o.word, v]
  | equals (o : CliOption) (v : Text) : IsWritten (option o v) ["--" ++ o.word ++ '=' :: v]
  | letterNext {o : CliOption} {c : Char} {v : Text} (hc : o.letter? = some c)
      (hv : isDashed v = false) : IsWritten (option o v) [['-', c], v]
  | letterEquals {o : CliOption} {c : Char} (v : Text) (hc : o.letter? = some c) :
      IsWritten (option o v) ['-' :: c :: '=' :: v]
  | letterValue {o : CliOption} {c d : Char} (v : Text) (hc : o.letter? = some c) (hd : d ≠ '=') :
      IsWritten (option o (d :: v)) ['-' :: c :: d :: v]
  | jsonLogs : IsWritten jsonLogs ["--json-logs"]

end Flag

/-- The arguments write the flags one after the other. -/
inductive Writes : List Flag → List Text → Prop
  | nil : Writes [] []
  | mark : Writes [] ["--"]
  | cons {f : Flag} {flags : List Flag} {written args : List Text} (hf : f.IsWritten written)
      (h : Writes flags args) : Writes (f :: flags) (written ++ args)

/-- The command line is what the flags give. -/
structure Given (flags : List Flag) (c : CommandLine) : Prop where
  distinct : (flags.map Flag.name).Nodup
  fits : ∀ f ∈ flags, f.Fits
  value? : ∀ o v, c.value? o = some v ↔ .option o v ∈ flags
  jsonLogs : c.jsonLogs = true ↔ .jsonLogs ∈ flags

/-- The order of the flags does not matter. -/
theorem Given.perm {flags flags' : List Flag} {c : CommandLine} (h : Given flags c)
    (hperm : flags.Perm flags') : Given flags' c where
  distinct := (hperm.map _).nodup_iff.1 h.distinct
  fits f hf := h.fits f (hperm.mem_iff.2 hf)
  value? o v := (h.value? o v).trans hperm.mem_iff
  jsonLogs := h.jsonLogs.trans hperm.mem_iff

/-! ## One flag after the other -/

/-- The command line with one flag more. -/
def add (c : CommandLine) : Flag → Except CliError CommandLine
  | .option o v => c.give o (some v)
  | .jsonLogs => c.raise

/-- The flag has been given. -/
def has (c : CommandLine) : CliName → Bool
  | .option o => (c.value? o).isSome
  | .jsonLogs => c.jsonLogs

@[simp] theorem value?_setValue (c : CommandLine) (o o' : CliOption) (v : Text) :
    (c.setValue o v).value? o' = if o' = o then some v else c.value? o' := by
  cases o <;> cases o' <;> rfl

@[simp] theorem jsonLogs_setValue (c : CommandLine) (o : CliOption) (v : Text) :
    (c.setValue o v).jsonLogs = c.jsonLogs := by
  cases o <;> rfl

section Adding

variable {c c' : CommandLine} {f : Flag} {flags : List Flag}

theorem add_option_eq_ok_iff {o : CliOption} {v : Text} : c.add (.option o v) = .ok c' ↔
    c.value? o = none ∧ (o.wantsText = true → v ≠ []) ∧ c.setValue o v = c' := by
  change c.give o (some v) = .ok c' ↔ _
  simp only [give]
  cases c.value? o with
  | some w => simp
  | none =>
    by_cases hv : o.wantsText = true → v ≠ []
    · have hno : ¬ (v = [] ∧ o.wantsText = true) := fun ⟨h, hwants⟩ => hv hwants h
      rw [and_iff_right rfl, and_iff_right hv]
      simp [hno]
    · obtain ⟨hwants, rfl⟩ : o.wantsText = true ∧ v = [] := by simpa using hv
      simp [hwants]

theorem add_jsonLogs_eq_ok_iff :
    c.add .jsonLogs = .ok c' ↔ c.jsonLogs = false ∧ { c with jsonLogs := true } = c' := by
  change c.raise = .ok c' ↔ _
  unfold raise
  cases c.jsonLogs <;> simp

/-- A flag that fits can be added once. -/
theorem exists_add_iff :
    (∃ c', c.add f = .ok c') ↔ c.has f.name = false ∧ f.Fits := by
  cases f with
  | option o v => simp [add_option_eq_ok_iff, has, Flag.name, Flag.Fits]
  | jsonLogs => simp [add_jsonLogs_eq_ok_iff, has, Flag.name, Flag.Fits]

/-- What has been added is there, and nothing else is new. -/
theorem has_of_add (h : c.add f = .ok c') (n : CliName) :
    c'.has n = (decide (n = f.name) || c.has n) := by
  cases f with
  | option o v =>
    obtain ⟨-, -, rfl⟩ := add_option_eq_ok_iff.1 h
    cases n with
    | option o' => by_cases ho : o' = o <;> simp [has, Flag.name, ho]
    | jsonLogs => simp [has, Flag.name]
  | jsonLogs =>
    obtain ⟨-, rfl⟩ := add_jsonLogs_eq_ok_iff.1 h
    cases n with
    | option o' => cases o' <;> rfl
    | jsonLogs => simp [has, Flag.name]

theorem value?_of_add (h : c.add f = .ok c') (o : CliOption) (v : Text) :
    c'.value? o = some v ↔ f = .option o v ∨ c.value? o = some v := by
  cases f with
  | option o' w =>
    obtain ⟨hnone, -, rfl⟩ := add_option_eq_ok_iff.1 h
    by_cases ho : o = o'
    · subst ho
      simp [hnone]
    · simp [ho, Ne.symm ho]
  | jsonLogs =>
    obtain ⟨-, rfl⟩ := add_jsonLogs_eq_ok_iff.1 h
    cases o <;> simp [value?]

theorem jsonLogs_of_add (h : c.add f = .ok c') :
    c'.jsonLogs = true ↔ f = .jsonLogs ∨ c.jsonLogs = true := by
  cases f with
  | option o v =>
    obtain ⟨-, -, rfl⟩ := add_option_eq_ok_iff.1 h
    simp
  | jsonLogs =>
    obtain ⟨-, rfl⟩ := add_jsonLogs_eq_ok_iff.1 h
    simp

/-- Flags that fit can be added one after the other if each has a name that is new. -/
theorem exists_foldlM_add_iff : (∃ c', flags.foldlM add c = .ok c') ↔
    (flags.map Flag.name).Nodup ∧ ∀ f ∈ flags, c.has f.name = false ∧ f.Fits := by
  induction flags generalizing c with
  | nil => simp [pure, Except.pure]
  | cons f flags ih =>
    simp only [List.foldlM_cons, bind_eq_ok_iff, List.map_cons, List.nodup_cons, List.mem_map,
      not_exists, not_and, List.forall_mem_cons]
    constructor
    · rintro ⟨c', d, hd, hrest⟩
      obtain ⟨hnodup, hall⟩ := ih.1 ⟨c', hrest⟩
      refine ⟨⟨fun g hg hname => ?_, hnodup⟩, exists_add_iff.1 ⟨d, hd⟩, fun g hg => ?_⟩
      · simpa [has_of_add hd, hname] using (hall g hg).1
      · have hnew := (hall g hg).1
        rw [has_of_add hd, Bool.or_eq_false_iff] at hnew
        exact ⟨hnew.2, (hall g hg).2⟩
    · rintro ⟨⟨hnew, hnodup⟩, hf, hall⟩
      obtain ⟨d, hd⟩ := exists_add_iff.2 hf
      have hall' : ∀ g ∈ flags, d.has g.name = false ∧ g.Fits := fun g hg =>
        ⟨by simp [has_of_add hd, hnew g hg, (hall g hg).1], (hall g hg).2⟩
      obtain ⟨c', hrest⟩ := ih.2 ⟨hnodup, hall'⟩
      exact ⟨c', d, hd, hrest⟩

theorem value?_of_foldlM_add (h : flags.foldlM add c = .ok c') (o : CliOption) (v : Text) :
    c'.value? o = some v ↔ .option o v ∈ flags ∨ c.value? o = some v := by
  induction flags generalizing c with
  | nil =>
    cases pure_eq_ok_iff.1 h
    simp
  | cons f flags ih =>
    obtain ⟨d, hd, h⟩ := bind_eq_ok_iff.1 h
    rw [ih h, value?_of_add hd, List.mem_cons, @eq_comm _ f]
    tauto

theorem jsonLogs_of_foldlM_add (h : flags.foldlM add c = .ok c') :
    c'.jsonLogs = true ↔ .jsonLogs ∈ flags ∨ c.jsonLogs = true := by
  induction flags generalizing c with
  | nil =>
    cases pure_eq_ok_iff.1 h
    simp
  | cons f flags ih =>
    obtain ⟨d, hd, h⟩ := bind_eq_ok_iff.1 h
    rw [ih h, jsonLogs_of_add hd, List.mem_cons, @eq_comm _ f]
    tauto

/-- Flags give one command line. -/
theorem Given.eq (h : Given flags c) (h' : Given flags c') : c = c' := by
  have hvalue (o : CliOption) : c.value? o = c'.value? o :=
    Option.ext fun v => (h.value? o v).trans (h'.value? o v).symm
  have hjson : c.jsonLogs = c'.jsonLogs :=
    Bool.eq_iff_iff.2 (h.jsonLogs.trans h'.jsonLogs.symm)
  obtain ⟨socket, config, logLevel, jsonLogs⟩ := c
  cases hvalue .socket
  cases hvalue .config
  cases hvalue .logLevel
  cases hjson
  rfl

/-- Adding the flags one after the other gives what they give. -/
theorem foldlM_add_eq_ok_iff : flags.foldlM add {} = .ok c ↔ Given flags c := by
  have hgiven {d : CommandLine} (h : flags.foldlM add {} = .ok d) : Given flags d := by
    obtain ⟨hnodup, hall⟩ := exists_foldlM_add_iff.1 ⟨d, h⟩
    refine ⟨hnodup, fun f hf => (hall f hf).2, fun o v => ?_, ?_⟩
    · rw [value?_of_foldlM_add h]
      cases o <;> simp [CommandLine.value?]
    · simp [jsonLogs_of_foldlM_add h]
  refine ⟨hgiven, fun h => ?_⟩
  have hnone (n : CliName) : has {} n = false := by
    cases n with
    | option o => cases o <;> rfl
    | jsonLogs => rfl
  obtain ⟨d, hd⟩ := exists_foldlM_add_iff.2
    ⟨h.distinct, fun f hf => ⟨hnone f.name, h.fits f hf⟩⟩
  rw [hd, h.eq (hgiven hd)]

end Adding

/-! ## Reading flags -/

section Reading

variable {r r' : Reading} {c c' : CommandLine} {f : Flag} {arg : Text}
  {args rest written : List Text}

theorem longMeaning?_word (o : CliOption) : longMeaning? o.word = some (.option o) := by
  cases o <;> decide

theorem equals_notMem_word (o : CliOption) : '=' ∉ o.word := by
  cases o <;> decide

theorem eq_word_of_longMeaning? {name : Text} {o : CliOption}
    (h : longMeaning? name = some (.option o)) : name = o.word := by
  unfold longMeaning? at h
  split_ifs at h with hname hname hname <;> cases h <;> exact hname

theorem shortMeaning?_eq_some_iff {letter : Char} {o : CliOption} :
    shortMeaning? letter = some (.option o) ↔ o.letter? = some letter := by
  unfold shortMeaning?
  split_ifs with hs hc hh hv <;> cases o <;> simp_all [CliOption.letter?, eq_comm]

/-- Once one argument is read, the rest is read from there. -/
theorem read_cons (h : readArgument r arg args = .ok (r', rest)) :
    read r (arg :: args) = read r' rest := by
  rw [read]
  split
  · rename_i hno
    cases hno.symm.trans h
  · rename_i hok
    cases hok.symm.trans h
    rfl

theorem readArgument_long (name : Text) (hname : name ≠ []) (rest : List Text) :
    readArgument r ('-' :: '-' :: name) rest =
      readLong r (Text.cut '=' name).1 (Text.cut '=' name).2 rest := by
  unfold readArgument
  split
  · rename_i heq
    cases heq
    exact absurd rfl hname
  · rename_i heq
    cases heq
    rfl
  · rename_i hno heq
    cases heq
    exact absurd rfl hno
  · rename_i hno
    exact absurd rfl (hno '-' name)

theorem readArgument_short {letter : Char} (hletter : letter ≠ '-') (behind : Text)
    (rest : List Text) :
    readArgument r ('-' :: letter :: behind) rest = readShort r letter behind rest := by
  unfold readArgument
  split
  · rename_i heq
    cases heq
    exact absurd rfl hletter
  · rename_i heq
    cases heq
    exact absurd rfl hletter
  · rename_i heq
    cases heq
    rfl
  · rename_i hno
    exact absurd rfl (hno letter behind)

/-- A flag that is written is read, and settled at once or with the next argument. -/
theorem read_append (hf : f.IsWritten written) (hr : r.settle = .ok c) (hadd : c.add f = .ok c') :
    ∃ r', r'.settle = .ok c' ∧ ∀ rest, read r (written ++ rest) = read r' rest := by
  have hdash {o : CliOption} {letter : Char} (h : o.letter? = some letter) : letter ≠ '-' := by
    rintro rfl
    cases o <;> cases h
  cases hf with
  | @next o v hv =>
    refine ⟨⟨c, some (o, some v)⟩, hadd, fun rest => read_cons ?_⟩
    refine (readArgument_long o.word (by cases o <;> decide) _).trans ?_
    rw [Text.cut_of_notMem (equals_notMem_word o)]
    simp [readLong, longMeaning?_word, hr, nextValue, hv, bind, Except.bind, pure, Except.pure]
  | equals o v =>
    refine ⟨⟨c', none⟩, rfl, fun rest => read_cons ?_⟩
    refine (readArgument_long (o.word ++ '=' :: v) (by simp) _).trans ?_
    rw [Text.cut_append_cons (equals_notMem_word o)]
    change c.give o (some v) = .ok c' at hadd
    simp [readLong, longMeaning?_word, hr, hadd, bind, Except.bind, pure, Except.pure]
  | @letterNext o letter v hletter hv =>
    refine ⟨⟨c, some (o, some v)⟩, hadd, fun rest => read_cons ?_⟩
    rw [readArgument_short (hdash hletter)]
    simp [readShort, shortMeaning?_eq_some_iff.2 hletter, hr, nextValue, hv, bind, Except.bind,
      pure, Except.pure]
  | @letterEquals o letter v hletter =>
    refine ⟨⟨c', none⟩, rfl, fun rest => read_cons ?_⟩
    rw [readArgument_short (hdash hletter)]
    change c.give o (some v) = .ok c' at hadd
    simp [readShort, shortMeaning?_eq_some_iff.2 hletter, hr, hadd, bind, Except.bind, pure,
      Except.pure]
  | @letterValue o letter d v hletter hd =>
    refine ⟨⟨c', none⟩, rfl, fun rest => read_cons ?_⟩
    rw [readArgument_short (hdash hletter)]
    change c.give o (some (d :: v)) = .ok c' at hadd
    simp [readShort, shortMeaning?_eq_some_iff.2 hletter, hr, hadd, hd, bind, Except.bind, pure,
      Except.pure]
  | jsonLogs =>
    refine ⟨⟨c', none⟩, rfl, fun rest => read_cons ?_⟩
    refine (readArgument_long "json-logs" (by decide) _).trans ?_
    rw [Text.cut_of_notMem (by decide)]
    change c.raise = .ok c' at hadd
    simp [readLong, longMeaning?, hr, hadd, bind, Except.bind, pure, Except.pure]

/-- What the next argument gives is a value that is not taken for a flag. -/
theorem nextValue_cases (args : List Text) : (nextValue args).1 = none ∨
    ∃ v rest, args = v :: rest ∧ isDashed v = false ∧ nextValue args = (some v, rest) := by
  unfold nextValue
  split
  · exact .inl rfl
  · rename_i v rest
    split
    · exact .inl rfl
    · rename_i hv
      exact .inr ⟨v, rest, rfl, by simpa using hv, rfl⟩

/-- A long name that is read is one that is written. -/
theorem isWritten_of_readLong {name : Text} {value : Option Text}
    (h : readLong r name value args = .ok (r', rest)) (hsettle : r'.settle = .ok c') :
    ∃ c f written, r.settle = .ok c ∧ f.IsWritten written ∧ c.add f = .ok c' ∧
      ("--" ++ name ++ value.elim [] ('=' :: ·)) :: args = written ++ rest := by
  unfold readLong at h
  split at h
  · cases h
  · rename_i meaning hmeaning
    obtain ⟨c, hc, h⟩ := bind_eq_ok_iff.1 h
    cases meaning with
    | option o =>
      rw [eq_word_of_longMeaning? hmeaning]
      cases value with
      | some v =>
        obtain ⟨d, hd, h⟩ := bind_eq_ok_iff.1 h
        cases pure_eq_ok_iff.1 h
        cases hsettle
        exact ⟨c, .option o v, _, hc, .equals o v, hd, rfl⟩
      | none =>
        cases pure_eq_ok_iff.1 h
        rcases nextValue_cases args with hnone | ⟨v, rest, rfl, hv, hnext⟩
        · -- what is pending has no value
          rw [hnone] at hsettle
          cases hsettle
        · rw [hnext] at hsettle ⊢
          refine ⟨c, .option o v, _, hc, .next o hv, hsettle, ?_⟩
          simp
    | jsonLogs =>
      cases value with
      | some v => exact absurd h throw_ne_ok
      | none =>
        obtain ⟨d, hd, h⟩ := bind_eq_ok_iff.1 h
        cases pure_eq_ok_iff.1 h
        cases hsettle
        have hname : name = "json-logs" := by
          unfold longMeaning? at hmeaning
          split_ifs at hmeaning with h1 h2 h3 h4 <;> cases hmeaning
          exact h4
        exact ⟨c, .jsonLogs, _, hc, .jsonLogs, hd, by rw [hname]; rfl⟩
    | help | version => cases value <;> exact absurd h throw_ne_ok

/-- A letter that is read is one that is written. -/
theorem isWritten_of_readShort {letter : Char} {behind : Text}
    (h : readShort r letter behind args = .ok (r', rest)) (hsettle : r'.settle = .ok c') :
    ∃ c f written, r.settle = .ok c ∧ f.IsWritten written ∧ c.add f = .ok c' ∧
      ('-' :: letter :: behind) :: args = written ++ rest := by
  unfold readShort at h
  split at h
  · cases h
  · rename_i meaning hmeaning
    obtain ⟨c, hc, h⟩ := bind_eq_ok_iff.1 h
    cases meaning with
    | option o =>
      have hletter := shortMeaning?_eq_some_iff.1 hmeaning
      simp only at h
      split at h
      · cases pure_eq_ok_iff.1 h
        rcases nextValue_cases args with hnone | ⟨v, rest, rfl, hv, hnext⟩
        · rw [hnone] at hsettle
          cases hsettle
        · rw [hnext] at hsettle ⊢
          exact ⟨c, .option o v, _, hc, .letterNext hletter hv, hsettle, rfl⟩
      · rename_i v _
        obtain ⟨d, hd, h⟩ := bind_eq_ok_iff.1 h
        cases pure_eq_ok_iff.1 h
        cases hsettle
        exact ⟨c, .option o v, _, hc, .letterEquals v hletter, hd, rfl⟩
      · rename_i hnil hequals
        obtain ⟨d, hd, h⟩ := bind_eq_ok_iff.1 h
        cases pure_eq_ok_iff.1 h
        cases hsettle
        obtain ⟨first, v, rfl⟩ := List.exists_cons_of_ne_nil hnil
        have hfirst : first ≠ '=' := by
          rintro rfl
          exact hequals v rfl
        exact ⟨c, .option o (first :: v), _, hc, .letterValue v hletter hfirst, hd, rfl⟩
    | jsonLogs | help | version => exact absurd h throw_ne_ok

/-- An argument that is read is the mark at the end, or the beginning of a flag. -/
theorem isWritten_of_readArgument (h : readArgument r arg args = .ok (r', rest))
    (hsettle : r'.settle = .ok c') :
    (arg = "--" ∧ args = [] ∧ rest = [] ∧ r' = r) ∨
    ∃ c f written, r.settle = .ok c ∧ f.IsWritten written ∧ c.add f = .ok c' ∧
      arg :: args = written ++ rest := by
  unfold readArgument at h
  split at h
  · split at h
    · cases h
      exact .inl ⟨rfl, rfl, rfl, rfl⟩
    · cases h
  · rename_i name _
    obtain ⟨c, f, written, hc, hf, hadd, heq⟩ := isWritten_of_readLong h hsettle
    refine .inr ⟨c, f, written, hc, hf, hadd, ?_⟩
    rw [← heq, List.append_assoc, Text.append_cut]
    rfl
  · exact .inr (isWritten_of_readShort h hsettle)
  · cases h

/-- Arguments are read exactly if they write flags that can be given together. -/
theorem read_eq_ok_iff : read r args = .ok c' ↔
    ∃ c flags, r.settle = .ok c ∧ Writes flags args ∧ flags.foldlM add c = .ok c' := by
  constructor
  · intro h
    induction hn : args.length using Nat.strong_induction_on generalizing r args with
    | _ n ih =>
    cases args with
    | nil =>
      rw [read] at h
      exact ⟨c', [], h, .nil, rfl⟩
    | cons arg args =>
      rw [read] at h
      split at h
      · cases h
      · rename_i r' rest hread
        have hlt : rest.length < n := by
          have := length_readArgument hread
          rw [List.length_cons] at hn
          omega
        obtain ⟨d, flags, hd, hwrites, hflags⟩ := ih rest.length hlt h rfl
        rcases isWritten_of_readArgument hread hd with
          ⟨rfl, rfl, rfl, rfl⟩ | ⟨c, f, written, hc, hf, hadd, heq⟩
        · rw [read] at h
          exact ⟨c', [], h, .mark, rfl⟩
        · exact ⟨c, f :: flags, hc, heq ▸ .cons hf hwrites,
            bind_eq_ok_iff.2 ⟨d, hadd, hflags⟩⟩
  · rintro ⟨c, flags, hc, hwrites, hflags⟩
    induction hwrites generalizing r c with
    | nil =>
      cases pure_eq_ok_iff.1 hflags
      rwa [read]
    | mark =>
      cases pure_eq_ok_iff.1 hflags
      have hrest : readArgument r "--" [] = .ok (r, []) := rfl
      rw [read_cons hrest]
      rwa [read]
    | cons hf _ ih =>
      obtain ⟨d, hd, hflags⟩ := bind_eq_ok_iff.1 hflags
      obtain ⟨r', hr', hread⟩ := read_append hf hc hd
      rw [hread]
      exact ih d hr' hflags

/-- Arguments are a command line exactly if they write flags that give it. -/
theorem parse_eq_ok_iff : parse args = .ok c ↔ ∃ flags, Writes flags args ∧ Given flags c := by
  rw [parse, read_eq_ok_iff]
  constructor
  · rintro ⟨d, flags, hd, hwrites, hflags⟩
    cases hd
    exact ⟨flags, hwrites, foldlM_add_eq_ok_iff.1 hflags⟩
  · rintro ⟨flags, hwrites, hgiven⟩
    exact ⟨{}, flags, rfl, hwrites, foldlM_add_eq_ok_iff.2 hgiven⟩

end Reading

end CommandLine

end CredentialGateway
