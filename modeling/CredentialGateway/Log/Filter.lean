import CredentialGateway.Log.Event
import CredentialGateway.Text.Blank

/-!
# Log filters

A filter is a list of directives.  A directive gives a level to what starts with its target, or to
what happens inside the spans that it names; of several that apply to an event the most specific one
decides, and of two alike the later one.  Without any directive only errors come through.

A directive is written `target[span{field=value}]=level`, every part of which may be missing; where
no level is given, everything comes through.
-/

namespace CredentialGateway.Log

/-- How much comes through: nothing, or all up to a verbosity. -/
abbrev Threshold := Nat

def Threshold.off : Threshold := 0

def Threshold.all : Threshold := 5

structure Directive where
  threshold : Threshold := Threshold.all
  target : Option Text := none
  span : Option Text := none
  fields : List (Text × Option Text) := []
  deriving DecidableEq, Repr

/-- The cause why a text is no directive. -/
inductive DirectiveError
  | form
  | level
  deriving DecidableEq, Repr

def DirectiveError.message : DirectiveError → Text
  | form => "invalid filter directive"
  | level =>
    "error parsing level filter: expected one of ".toList ++
      "\"off\", \"error\", \"warn\", \"info\", \"debug\", \"trace\", or a number 0-5"

namespace Directive

/-! ## Reading -/

/-- A level by its number. -/
def numbered? (t : Text) : Option Threshold :=
  let digits := match t with
    | '+' :: rest => rest
    | _ => t
  if digits = [] || !digits.all Char.isDigit then none
  else
    let n := digits.foldl (fun n c => 10 * n + (c.toNat - 48)) 0
    if n ≤ Threshold.all then some n else none

/-- A level by its name, in either case. -/
def named? (t : Text) : Option Threshold :=
  let t := t.lower
  if t = "off" then some Threshold.off
  else if t = "error" then some Level.error.verbosity
  else if t = "warn" then some Level.warn.verbosity
  else if t = "info" then some Level.info.verbosity
  else if t = "debug" then some Level.debug.verbosity
  else if t = "trace" then some Level.trace.verbosity
  else none

def threshold? (t : Text) : Option Threshold := numbered? t <|> named? t

/-- Where reading stands in a directive; a part that has been begun is known by its start. -/
inductive Stage
  | start
  | front (start : Nat)
  | span (start : Nat)
  | field (start : Nat)
  | afterFields
  | afterSpan
  | level (start : Nat)

/-- The characters from one place to another. -/
def slice (t : Text) (a b : Nat) : Text := (t.drop a).take (b - a)

/-- A field with the value that it must have, if one is given. -/
def fieldOf (t : Text) : Text × Option Text :=
  match t.splitOn '=' with
  | name :: value :: _ => (name, some value)
  | _ => (t, none)

/-- A character that may begin a directive. -/
def mayBegin (c : Char) : Bool :=
  c.isAlphanum || c == '-' || c == ':' || c == '_' || 0x80 ≤ c.toNat

/-- Reads the character at place `i` of the text. -/
def next (t : Text) (i : Nat) (c : Char) (d : Directive) : Stage → Option (Stage × Directive)
  | .start =>
    if c == '[' then some (.span (i + 1), d)
    else if mayBegin c then some (.front i, d) else none
  | .front a =>
    if c == '=' then some (.level (i + 1), { d with target := some (slice t a i) })
    else if c == '[' then some (.span (i + 1), { d with target := some (slice t a i) })
    else some (.front a, d)
  | .afterSpan => if c == '=' then some (.level (i + 1), d) else none
  | .span a =>
    if c == ']' then some (.afterSpan, { d with span := some (slice t a i) })
    else if c == '\x7b' then
      some (.field (i + 1), { d with span := if a = i then none else some (slice t a i) })
    else some (.span a, d)
  | .field a =>
    if c == '\x7d' then
      if a = i then none
      else some (.afterFields, { d with fields := d.fields ++ [fieldOf (slice t a i)] })
    else some (.field a, d)
  | .afterFields => if c == ']' then some (.afterSpan, d) else none
  | .level a => some (.level a, d)

/-- What the end of the text makes of what has been read. -/
def finish (t : Text) (d : Directive) : Stage → Except DirectiveError Directive
  | .front a =>
    match threshold? (t.drop a) with
    | some threshold => .ok { d with threshold }
    | none => .ok { d with target := some (t.drop a) }
  | .level a =>
    if t.drop a = [] then .ok d
    else match threshold? (t.drop a) with
      | some threshold => .ok { d with threshold }
      | none => .error .level
  | .afterSpan => .ok d
  | _ => .error .form

/-- The directive that a text writes.  Places are counted without the blanks around it. -/
def parse (t : Text) : Except DirectiveError Directive :=
  let read := (Text.trimBy Text.isBlank t).zipIdx.foldlM
    (fun (stage, d) (c, i) => next t i c d stage) (Stage.start, ({} : Directive))
  match read with
  | some (stage, d) => finish t d stage
  | none => .error .form

/-! ## What a directive applies to -/

/-- The directive looks at spans. -/
def isDynamic (d : Directive) : Bool := d.span.isSome || !d.fields.isEmpty

/-- The directive decides about events without a look at spans. -/
def isStatic (d : Directive) : Bool := d.span.isNone && d.fields.all (·.2.isNone)

def coversTarget (d : Directive) (target : Text) : Bool :=
  d.target.all fun t => t.isPrefixOf target

/-- The directive applies to an event with these fields. -/
def coversEvent (d : Directive) (target : Text) (fields : List Text) : Bool :=
  d.coversTarget target && d.fields.all fun (name, _) => fields.contains name

/-- How specific a directive is: by its target, then by its fields. -/
def weight (d : Directive) : Nat × Nat := ((d.target.map (·.length + 1)).getD 0, d.fields.length)

/-- The first directive is at least as specific. -/
def outweighs (a b : Directive) : Bool :=
  b.weight.1 < a.weight.1 || (b.weight.1 == a.weight.1 && b.weight.2 ≤ a.weight.2)

end Directive

/-- The span of a request, with what it says about it. -/
structure RequestSpan where
  method : Text
  uri : Text
  version : Text
  deriving DecidableEq, Repr

namespace RequestSpan

def name : Text := "request"

def target : Text := "tower_http::trace::make_span"

def fields (s : RequestSpan) : List (Text × Text) :=
  [("method", s.method), ("uri", s.uri), ("version", s.version)]

/-- The directive applies to the span. -/
def isCoveredBy (s : RequestSpan) (d : Directive) : Bool :=
  d.isDynamic && d.coversTarget target && d.span.all (· = name) &&
    d.fields.all fun (name, _) => s.fields.any (·.1 = name)

/-- The span's fields have the values that the directive asks for. -/
def satisfies (s : RequestSpan) (d : Directive) : Bool :=
  d.fields.all fun (name, value) => value.all fun v => s.fields.contains (name, v)

end RequestSpan

abbrev Filter := List Directive

namespace Filter

/-! ## Algorithm -/

/-- Without directives only errors come through. -/
def ofDirectives (ds : List Directive) : Filter :=
  if ds.isEmpty then [{ threshold := Level.error.verbosity }] else ds

def pieces (t : Text) : List Text := (t.splitOn ',').filter (· ≠ [])

/-- The filter that a text writes, if every directive in it is one. -/
def parse? (t : Text) : Option Filter :=
  (((pieces t).mapM fun p => (Directive.parse p).toOption)).map ofDirectives

/-- The filter of the directives in a text that are some, and what is said about the others. -/
def parseLossy (t : Text) : Filter × List Text :=
  let read := (pieces t).map fun p => (p, Directive.parse p)
  (ofDirectives (read.filterMap fun (_, r) => r.toOption),
    read.filterMap fun (p, r) =>
      match r with
      | .ok _ => none
      | .error e => some ("ignoring `".toList ++ p ++ "`: " ++ e.message))

/-- The directives for one level, for the gateway and for its access log. -/
def defaultText (level : Text) : Text :=
  "guest_gateway=".toList ++ level ++ ",tower_http=" ++ level

/-- The most specific directive that applies, of two alike the later one. -/
def deciding? (f : Filter) (target : Text) (fields : List Text) : Option Directive :=
  (f.filter fun d => d.isStatic && d.coversEvent target fields).foldl
    (fun best d =>
      match best with
      | some b => if d.outweighs b then some d else some b
      | none => some d) none

/-- What comes through without a look at spans. -/
def staticThreshold (f : Filter) (target : Text) (fields : List Text) : Threshold :=
  ((f.deciding? target fields).map (·.threshold)).getD Threshold.off

/-- The span is recorded. -/
def recordsSpan (f : Filter) (s : RequestSpan) : Bool :=
  f.any s.isCoveredBy ||
    Level.info.verbosity ≤ f.staticThreshold RequestSpan.target (s.fields.map (·.1))

/-- What comes through inside the span. -/
def spanThreshold (f : Filter) (s : RequestSpan) : Threshold :=
  ((f.filter fun d => s.isCoveredBy d && s.satisfies d).map (·.threshold)).foldl max Threshold.off

/-- The event comes through, inside a span or not. -/
def passes (f : Filter) (s : Option RequestSpan) (e : Event) : Bool :=
  let names := "message".toList :: e.fields.map (·.1)
  e.level.verbosity ≤ f.staticThreshold e.target names ||
    s.any fun s => e.level.verbosity ≤ f.spanThreshold s

end Filter

end CredentialGateway.Log
