import CredentialGateway.Proofs.HostText
import CredentialGateway.Proofs.OutboundHeaders

/-!
# The destination of a request

Where a request goes is read off the text of its URL: the scheme before the first colon, the
fragment behind the first `#`, and between the two slashes and the next slash of either kind the
user up to the last `@`, the host up to a colon outside of brackets, and the port.  No part of a
URL holds the character that ends it, so what is read are its parts, and whatever a request has put
into the path and the query, it is read as a part of neither.

    u.IsRead, authority a → destination? u.text = the scheme, the parts of a, and the fragment of u
                                                                            (destination?_text)
    destination? of the outbound URL = that of the base URL          (destination_outbound)
-/

namespace CredentialGateway

/-! ## Algorithm -/

/-- Where the text of a URL leads. -/
structure Destination where
  scheme : Text
  user : UserInfo
  host : Text
  port : Option Text
  fragment : Option Text
  deriving DecidableEq

namespace Destination

/-- User name and password before the last `@`, and what stands behind it. -/
def readUser (name : Text) : UserInfo × Text :=
  match Url.splitUser name with
  | some (user, rest) => (⟨(Text.cut ':' user).1, (Text.cut ':' user).2.getD []⟩, rest)
  | none => ({}, name)

/-- The digits behind the colon that ends the host. -/
def readPort : Text → Option Text
  | ':' :: digits => some digits
  | _ => none

end Destination

/-- Reads off the text of a URL where it leads. -/
def destination? (t : Text) : Option Destination := do
  let (scheme, rest) ← Url.scheme? t
  let (rest, fragment) := Text.cut '#' rest
  match (Text.cut '?' rest).1 with
  | '/' :: '/' :: front =>
    let (user, rest) := Destination.readUser (front.takeWhile fun c => !UrlPath.isSeparator true c)
    let (host, rest) := Url.splitHost false rest
    some ⟨scheme, user, host, Destination.readPort rest, fragment⟩
  | _ => none

namespace Url

/-! ## Schemes -/

theorem isSchemeChar_toLower {c : Char} (h : isSchemeChar c = true) :
    isSchemeChar c.toLower = true := by
  by_cases ha : c.isAlpha = true
  · simp [isSchemeChar, Char.isAlphanum, ha]
  · have hupper : ¬ c.isUpper = true := fun hu => ha (by simp [Char.isAlpha, hu])
    rw [Char.toLower_eq_of_not_isUpper hupper]
    exact h

/-- A scheme that has been read is read again. -/
theorem scheme?_append {t scheme rest : Text} (h : scheme? t = some (scheme, rest))
    (rest' : Text) : scheme? (scheme ++ ':' :: rest') = some (scheme, rest') := by
  unfold scheme? at h
  split at h
  · rename_i name rest'' _
    split at h
    · rename_i hname
      simp only [Option.some.injEq, Prod.mk.injEq] at h
      obtain ⟨rfl, -⟩ := h
      simp only [Bool.and_eq_true, List.all_eq_true] at hname
      have hchars : ∀ c ∈ Text.lower name, isSchemeChar c = true := fun c hc => by
        obtain ⟨d, hd, rfl⟩ := List.mem_map.1 hc
        exact isSchemeChar_toLower (hname.2 d hd)
      have hcolon : ':' ∉ Text.lower name := fun hc => absurd (hchars _ hc) (by decide)
      have hhead : (Text.lower name).head?.any Char.isAlpha = true := by
        cases name with
        | nil => exact hname.1
        | cons c name => exact (Char.isAlpha_toLower_eq_isAlpha c).trans hname.1
      have hlower : Text.lower (Text.lower name) = Text.lower name := by
        simp [Text.lower]
      rw [scheme?, Text.cut_append_cons hcolon]
      simp [hhead, hlower, List.all_eq_true.2 hchars]
    · cases h
  · cases h

/-! ## Paths and queries -/

/-- A drive is written with a colon in place of its bar. -/
theorem mem_colonDrive {ss : List Text} {s : Text} {c : Char} (hs : s ∈ UrlPath.colonDrive ss)
    (hc : c ∈ s) : c = ':' ∨ ∃ s' ∈ ss, c ∈ s' := by
  unfold UrlPath.colonDrive at hs
  split at hs
  · rename_i letter rest
    rcases List.mem_cons.1 hs with rfl | hs
    · split at hc
      · rcases List.mem_cons.1 hc with rfl | hc
        · exact .inr ⟨_, List.mem_cons_self, by simp⟩
        · exact .inl (List.mem_singleton.1 hc)
      · exact .inr ⟨_, List.mem_cons_self, hc⟩
    · exact .inr ⟨s, List.mem_cons_of_mem _ hs, hc⟩
  · exact .inr ⟨s, hs, hc⟩

/-- The normal form of a path is empty, or prints segments with nothing to be encoded. -/
theorem normalPath_cases (scheme t : Text) : normalPath scheme t = [] ∨
    ∃ ss, ss ≠ [] ∧ (∀ s ∈ ss, ∀ c ∈ s, Percent.pathSet c = false) ∧
      normalPath scheme t = UrlPath.print ss := by
  have hresolve (ss : List Text) :
      ∀ s ∈ UrlPath.resolve ss, ∀ c ∈ s, Percent.pathSet c = false :=
    UrlPath.forall_mem_resolveOnto (by simp) (by simp)
      fun s _ _ c hc => Percent.pathSet_of_mem_encode hc
  unfold normalPath
  split
  · right
    simp only [UrlPath.normalizeFile]
    split
    · exact ⟨[[]], by simp, by simp, rfl⟩
    · rename_i s rest hall
      refine ⟨s :: rest, by simp, fun x hx c hc => ?_, rfl⟩
      rw [← hall] at hx
      rcases mem_colonDrive (List.dropWhile_sublist _ |>.subset hx) hc with rfl | ⟨y, hy, hc⟩
      · decide
      · exact hresolve _ y hy c hc
  · simp only [UrlPath.normalize]
    split
    · exact .inl rfl
    · refine .inr ⟨_, UrlPath.resolveOnto_ne_nil ?_ [], hresolve _, rfl⟩
      unfold UrlPath.segments
      split
      · simp
      · exact List.splitOnP_ne_nil _ _

/-- A path starts with a slash if it is not empty. -/
theorem path_start {u : Url} (h : u.IsRead) (ha : u.authority.isSome) :
    u.path = [] ∨ u.path.head? = some '/' := by
  obtain ⟨t, ht⟩ := h.path ha
  rw [ht]
  rcases normalPath_cases u.scheme t with hp | ⟨ss, hne, -, hp⟩
  · exact .inl hp
  · obtain ⟨s, ss, rfl⟩ := List.exists_cons_of_ne_nil hne
    rw [hp, UrlPath.print_cons]
    exact .inr rfl

theorem notMem_path {u : Url} (h : u.IsRead) (ha : u.authority.isSome) {c : Char}
    (hc : c ∈ "?#".toList) : c ∉ u.path := by
  have every : ∀ d ∈ "?#".toList, Percent.pathSet d = true ∧ d ≠ '/' := Text.of_all (by decide)
  obtain ⟨t, ht⟩ := h.path ha
  rw [ht]
  rcases normalPath_cases u.scheme t with hp | ⟨ss, -, hchars, hp⟩
  · simp [hp]
  · rw [hp]
    intro hm
    rcases UrlPath.mem_print hm with hm | ⟨s, hs, hm⟩
    · exact (every c hc).2 hm
    · exact absurd (every c hc).1 (by simp [hchars s hs c hm])

theorem sharp_notMem_query {u : Url} (h : u.IsRead) : '#' ∉ marked '?' u.query := by
  obtain ⟨query, hq⟩ := h.query
  rw [hq]
  cases query with
  | none => simp [marked]
  | some t =>
    intro hm
    rcases List.mem_cons.1 hm with hm | hm
    · exact absurd hm (by decide)
    · have hset : ∀ d ∈ Percent.codeChars,
          Percent.querySet (isSpecialScheme u.scheme) d = false := by
        cases isSpecialScheme u.scheme <;> exact Text.of_all (by decide)
      have hf := Percent.set_of_mem_encode hset hm
      simp [Percent.querySet] at hf

/-- A mark that is nowhere before it parts the text. -/
theorem cut_append_marked {c : Char} {t : Text} (h : c ∉ t) (part : Option Text) :
    Text.cut c (t ++ marked c part) = (t, part) := by
  cases part with
  | none => rw [marked, List.append_nil, Text.cut_of_notMem h]
  | some part => exact Text.cut_append_cons h part

/-! ## Users -/

theorem splitUser_eq (t : Text) : splitUser t = (Text.cut '@' t.reverse).2.map
    fun user => (user.reverse, (Text.cut '@' t.reverse).1.reverse) := by
  unfold splitUser Text.cut
  cases t.reverse.span (· != '@') with
  | mk host user => cases user <;> rfl

theorem splitUser_of_notMem {t : Text} (h : '@' ∉ t) : splitUser t = none := by
  rw [splitUser_eq, Text.cut_of_notMem fun hm => h (List.mem_reverse.1 hm)]
  rfl

theorem splitUser_append {rest : Text} (h : '@' ∉ rest) (user : Text) :
    splitUser (user ++ '@' :: rest) = some (user, rest) := by
  have hrev : (user ++ '@' :: rest).reverse = rest.reverse ++ '@' :: user.reverse := by simp
  rw [splitUser_eq, hrev, Text.cut_append_cons fun hm => h (List.mem_reverse.1 hm)]
  simp

/-! ## Hosts and ports -/

/-- The end of an authority, or a colon. -/
theorem splitHost_end {rest : Text} (h : rest = [] ∨ rest.head? = some ':') :
    splitHost false rest = ([], rest) := by
  rcases h with rfl | h
  · rfl
  · obtain ⟨rest, rfl⟩ := List.head?_eq_some_iff.1 h
    rfl

theorem splitHost_of_plain {host rest : Text} (hh : ∀ c ∈ host, Host.isForbidden c = false)
    (hr : rest = [] ∨ rest.head? = some ':') : splitHost false (host ++ rest) = (host, rest) := by
  induction host with
  | nil => exact splitHost_end hr
  | cons c host ih =>
    have hc := hh c List.mem_cons_self
    have hne : c ≠ ':' ∧ c ≠ '[' := by
      constructor <;> rintro rfl <;> exact absurd hc (by decide)
    rw [List.cons_append, splitHost, if_neg (by simp [hne.1])]
    simp [hne.2, ih fun d hd => hh d (List.mem_cons_of_mem c hd)]

theorem splitHost_inside {inner rest : Text} (hi : ∀ c ∈ inner, c ∈ "0123456789abcdef:".toList)
    (hr : rest = [] ∨ rest.head? = some ':') :
    splitHost true (inner ++ ']' :: rest) = (inner ++ [']'], rest) := by
  induction inner with
  | nil =>
    rw [List.nil_append, splitHost, if_neg (by decide)]
    simp [splitHost_end hr]
  | cons c inner ih =>
    have hc := hi c List.mem_cons_self
    have hne : c ≠ '[' ∧ c ≠ ']' := by
      constructor <;> rintro rfl <;> exact absurd hc (by decide)
    rw [List.cons_append, splitHost, if_neg (by simp)]
    simp [hne.1, hne.2, ih fun d hd => hi d (List.mem_cons_of_mem c hd)]

/-- A host is read as far as it has been written. -/
theorem splitHost_text {host : Host} (hp : host.IsPlain) {rest : Text}
    (hr : rest = [] ∨ rest.head? = some ':') :
    splitHost false (host.text ++ rest) = (host.text, rest) := by
  rcases Host.text_cases hp with hh | ⟨inner, ht, hi⟩
  · exact splitHost_of_plain hh hr
  · have hin := splitHost_inside hi hr
    rw [ht, List.cons_append, List.append_assoc, splitHost, if_neg (by decide)]
    simp [hin]

end Url

namespace Host

/-- No host holds a character that no host may hold, brackets and colons aside. -/
theorem notMem_text {h : Host} (hp : h.IsPlain) {c : Char} (hf : isForbidden c = true)
    (hc : c ∉ "[:]".toList) : c ∉ h.text := by
  intro hm
  rcases text_cases hp with hh | ⟨inner, ht, hi⟩
  · simp [hh c hm] at hf
  · rw [ht] at hm
    have every : ∀ d ∈ "0123456789abcdef".toList, isForbidden d = false := Text.of_all (by decide)
    simp only [List.mem_cons, List.mem_append, List.not_mem_nil, or_false] at hm
    rcases hm with rfl | hm | rfl
    · exact hc (by decide)
    · have hsplit : "0123456789abcdef:".toList = "0123456789abcdef".toList ++ [':'] := by decide
      have hd := hi c hm
      rw [hsplit, List.mem_append] at hd
      rcases hd with hd | hd
      · simp [every c hd] at hf
      · rw [List.mem_singleton.1 hd] at hc
        exact hc (by decide)
    · exact hc (by decide)

end Host

/-! ## Authorities -/

/-- The user is read up to the last `@`, and cut at the first colon. -/
theorem Destination.readUser_append {u : UserInfo} (hname : ':' ∉ u.name) {rest : Text}
    (hrest : '@' ∉ rest) : readUser (u.text ++ rest) = (u, rest) := by
  obtain ⟨name, password⟩ := u
  unfold readUser UserInfo.text
  by_cases hp : password = []
  · by_cases hn : name = []
    · simp [hp, hn, Url.splitUser_of_notMem hrest]
    · have hcut : Text.cut ':' name = (name, none) := Text.cut_of_notMem hname
      simp [hp, hn, Url.splitUser_append hrest, hcut]
  · have hcut : Text.cut ':' (name ++ ':' :: password) = (name, some password) :=
      Text.cut_append_cons hname password
    have htext : name ++ ':' :: password ++ ['@'] ++ rest =
        (name ++ ':' :: password) ++ '@' :: rest := by simp
    simp only [hp, decide_false, Bool.and_false, Bool.false_eq_true, if_false, htext,
      Url.splitUser_append hrest, hcut, Option.getD_some]

namespace Authority

theorem hostPort_eq (a : Authority) :
    a.hostPort = a.host.text ++ Url.marked ':' (a.port.map Text.ofNat) := by
  unfold hostPort
  cases a.port <;> simp [Url.marked]

section Read

variable {scheme : Text} {a : Authority} (h : a.IsRead scheme)
include h

theorem isPlain_host : a.host.IsPlain := by
  obtain ⟨t, ht | ht⟩ := h.host
  · exact Host.isPlain_of_parse ht
  · exact Host.isPlain_of_parsePlain ht

theorem userinfoSet_of_mem_user {c : Char} (hc : c ∈ a.user.name ∨ c ∈ a.user.password) :
    Percent.userinfoSet c = false := by
  have hset : ∀ d ∈ Percent.codeChars, Percent.userinfoSet d = false := Text.of_all (by decide)
  obtain ⟨t, ht⟩ := h.user
  rw [ht] at hc
  exact hc.elim (Percent.set_of_mem_encode hset) (Percent.set_of_mem_encode hset)

theorem notMem_hostPort {c : Char} (hf : Host.isForbidden c = true) (hc : c ∉ "[:]".toList) :
    c ∉ a.hostPort := by
  rw [hostPort_eq, List.mem_append, not_or]
  refine ⟨Host.notMem_text (isPlain_host h) hf hc, ?_⟩
  cases a.port with
  | none => simp [Url.marked]
  | some n =>
    intro hm
    rcases List.mem_cons.1 hm with rfl | hm
    · exact hc (by decide)
    · have every : ∀ d ∈ "0123456789".toList, Host.isForbidden d = false := Text.of_all (by decide)
      simp [every c (Text.isDigit_of_mem_ofNat hm)] at hf

/-- Nothing in an authority ends it. -/
theorem notMem_text {c : Char} (hc : c ∈ "/\\?#".toList) : c ∉ a.text := by
  have hforbidden : ∀ d ∈ "/\\?#".toList, Host.isForbidden d = true ∧ d ∉ "[:]".toList :=
    Text.of_all (by decide)
  have hset : ∀ d ∈ "/\\?#".toList, Percent.userinfoSet d = true ∧ d ≠ ':' ∧ d ≠ '@' :=
    Text.of_all (by decide)
  rw [text, List.mem_append, not_or]
  refine ⟨fun hm => ?_, notMem_hostPort h (hforbidden c hc).1 (hforbidden c hc).2⟩
  obtain ⟨hc, hcolon, hat⟩ := hset c hc
  have hmem : c ∈ a.user.name ∨ c ∈ a.user.password := by
    unfold UserInfo.text at hm
    split at hm
    · cases hm
    · simp only [List.mem_append, List.mem_singleton, hat, or_false] at hm
      refine hm.imp_right fun hm => ?_
      split at hm
      · cases hm
      · exact (List.mem_cons.1 hm).resolve_left hcolon
  simp [userinfoSet_of_mem_user h hmem] at hc

/-- An authority is read up to the path behind it. -/
theorem takeWhile_text {path : Text} (hp : path = [] ∨ path.head? = some '/') :
    (a.text ++ path).takeWhile (fun c => !UrlPath.isSeparator true c) = a.text := by
  have hall : ∀ c ∈ a.text, (!UrlPath.isSeparator true c) = true := fun c hc => by
    rw [Bool.not_eq_true', Bool.eq_false_iff]
    intro hsep
    simp only [UrlPath.isSeparator, Bool.true_and, Bool.or_eq_true, beq_iff_eq] at hsep
    rcases hsep with rfl | rfl <;> exact notMem_text h (by decide) hc
  rw [List.takeWhile_append_of_pos hall]
  rcases hp with rfl | hp
  · simp
  · obtain ⟨rest, rfl⟩ := List.head?_eq_some_iff.1 hp
    simp [UrlPath.isSeparator]

theorem readUser_text : Destination.readUser a.text = (a.user, a.hostPort) :=
  Destination.readUser_append
    (fun hc => absurd (userinfoSet_of_mem_user h (.inl hc)) (by decide))
    (notMem_hostPort h (by decide) (by decide))

theorem splitHost_hostPort : Url.splitHost false a.hostPort =
    (a.host.text, Url.marked ':' (a.port.map Text.ofNat)) := by
  rw [hostPort_eq, Url.splitHost_text (isPlain_host h)]
  cases a.port with
  | none => exact .inl rfl
  | some n => exact .inr rfl

end Read

end Authority

/-! ## URLs -/

theorem Destination.readPort_marked (port : Option Text) :
    readPort (Url.marked ':' port) = port := by
  cases port <;> rfl

/-- The text of a URL leads where the URL does. -/
theorem destination?_text {u : Url} (h : u.IsRead) {a : Authority} (ha : u.authority = some a) :
    destination? u.text =
      some ⟨u.scheme, a.user, a.host.text, a.port.map Text.ofNat, u.fragment⟩ := by
  have hread := h.authority a ha
  have hsome : u.authority.isSome := by simp [ha]
  obtain ⟨t, rest, hscheme⟩ := h.scheme
  have htext : u.text = u.scheme ++ ':' :: ('/' :: '/' :: (a.text ++ u.path) ++
      Url.marked '?' u.query ++ Url.marked '#' u.fragment) := by
    simp [Url.text, Url.lead, ha]
  -- neither mark stands before the part that it starts
  have hmark : '?' ∉ '/' :: '/' :: (a.text ++ u.path) := by
    simp [Authority.notMem_text hread, Url.notMem_path h hsome]
  have hsharp : '#' ∉ '/' :: '/' :: (a.text ++ u.path) ++ Url.marked '?' u.query := by
    simp [Authority.notMem_text hread, Url.notMem_path h hsome, Url.sharp_notMem_query h]
  rw [htext, destination?, Url.scheme?_append hscheme]
  simp only [Option.bind_eq_bind, Option.bind_some, Url.cut_append_marked hsharp,
    Url.cut_append_marked hmark, Authority.takeWhile_text hread (Url.path_start h hsome),
    Authority.readUser_text hread, Authority.splitHost_hostPort hread,
    Destination.readPort_marked]

/-! ## Requests -/

namespace Target

/-- Nothing in a request has a say in where it goes. -/
theorem destination_outbound {c : ServiceConfig} {t : Target} (h : ofConfig c = .ok t)
    (authorization : HeaderValue) (r : RequestHead) :
    ∃ u a, Url.parse c.baseUrl = .ok u ∧ u.authority = some a ∧
      (∀ n, a.port = some n → Url.defaultPort u.scheme ≠ some n) ∧
      (t.outbound authorization r).url.scheme = u.scheme ∧
      (t.outbound authorization r).url.authority = some a ∧
      (t.outbound authorization r).url.fragment = u.fragment ∧
      destination? (t.outbound authorization r).url.text =
        some ⟨u.scheme, a.user, a.host.text, a.port.map Text.ofNat, u.fragment⟩ ∧
      ∃ v, Headers.values .host (t.outbound authorization r).headers = [v] ∧
        v.bytes = Text.utf8 (a.host.text ++ Url.marked ':' (a.port.map Text.ofNat)) := by
  obtain ⟨a, hbase, ha, hhost, -⟩ := ofConfig_eq_ok_iff.1 h
  have hread : t.base.IsRead := Url.isRead_of_parse hbase
  have hurl : (t.outbound authorization r).url.IsRead :=
    Url.isRead_withQuery (Url.isRead_withPath hread _) _
  refine ⟨t.base, a, hbase, ha, (hread.authority a ha).port, rfl, ha, rfl,
    destination?_text hurl ha, t.host, ?_, ?_⟩
  · exact (t.values_headers authorization r.headers .host).trans rfl
  · rw [← Authority.hostPort_eq]
    exact (HeaderValue.ofText?_eq_some_iff.1 hhost).1

/-- A request that names another host wherever it can, and wants the gateway's own left out. -/
theorem destination_outbound_astray :
    ofConfig .loopback = .ok .loopback ∧
      let r : RequestHead := {
        method := "GET"
        uri := ⟨some "http".toList, some "a:1".toList, "//b@c:2\\#/openai", some "?#".toList⟩
        headers := [(.connection, ⟨Text.utf8 "host", false, by decide⟩),
          (.host, ⟨Text.utf8 "d:3", false, by decide⟩)] }
      let o := loopback.outbound ⟨[], true, rfl⟩ r
      destination? o.url.text = some ⟨"http", {}, "[::1]", some "8080".toList, none⟩ ∧
        ∃ v, Headers.values .host o.headers = [v] ∧ v.bytes = Text.utf8 "[::1]:8080" := by
  have h : ofConfig .loopback = .ok .loopback :=
    (Gateway.ofConfig_eq_ok_iff.1 Gateway.ofConfig_loopback).1
  refine ⟨h, ?_⟩
  intro r o
  obtain ⟨u, a, hu, ha, -, -, -, -, hd, hv⟩ := destination_outbound h ⟨[], true, rfl⟩ r
  rw [Url.parse_loopback] at hu
  cases hu
  cases ha
  exact ⟨hd, hv⟩

end Target

end CredentialGateway
