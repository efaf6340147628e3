import RegisterMachine.Event
import RegisterMachine.Text.CharClass

/-!
# Log filters

Which events of a run are logged. A filter is a list of directives, each setting the least severity
for some events: those of the components whose name starts in a certain way, and, if it names a
detail, that have it. The directive that fits most closely decides, and an event that none fits is
not logged.

A setting is a list of words between commas. A word is a level; or a component, perhaps with a
bracket behind it and a level behind an equals sign, `component[span{detail}]=level`. Without a
level it asks for everything. A bracket that names a span, or a detail by its value, speaks of
events inside such spans; a run has none, so it asks for nothing. One word that is not well formed
spoils the setting.
-/

namespace RegisterMachine.CommandLine

structure Directive where
  component : String := ""
  detail : Option String := none
  level : Option Level
  deriving DecidableEq, Repr

namespace Directive

def fits (d : Directive) (e : Event) : Bool :=
  d.component.toList.isPrefixOf e.component.toList &&
    d.detail.all fun name => e.names.contains name

/-- Whether a directive counts before another that stands in front of it, if both fit: it names a
longer component, or else a detail where the other names none or an earlier one. Of two that are
equally close, the one behind counts. -/
def outranks (d other : Directive) : Bool :=
  if d.component.length = other.component.length then
    match d.detail, other.detail with
    | _, none => true
    | none, some _ => false
    | some name, some other => !decide (name < other)
  else other.component.length < d.component.length

end Directive

abbrev LogFilter := List Directive

namespace LogFilter

def closest? (f : LogFilter) (e : Event) : Option Directive :=
  f.foldl (fun best d => if d.fits e && best.all d.outranks then some d else best) none

def admits (f : LogFilter) (e : Event) : Bool :=
  match (f.closest? e).bind Directive.level with
  | some level => level.rank ≤ e.level.rank
  | none => false

def everywhere (level : Option Level) : LogFilter := [{ level := level }]

def everything : LogFilter := everywhere (some .trace)

/-- What the verbose switch asks for: the machine and its hosts in some detail. -/
def verbose : LogFilter :=
  [{ component := "rvm_core", level := some .debug },
    { component := "rvm_host", level := some .debug }]

def standard : LogFilter := everywhere (some .warn)

/-! ## Settings -/

/-- The levels by number; the inner option is none for silence. -/
def levelOfNumber? (n : Nat) : Option (Option Level) :=
  [none, some .error, some .warn, some .info, some .debug, some .trace][n]?

def levelOfName? (name : String) : Option (Option Level) :=
  [("off", none), ("error", some .error), ("warn", some .warn), ("info", some .info),
    ("debug", some .debug), ("trace", some .trace)].lookup name

def level? (cs : List Char) : Option (Option Level) :=
  match (Text.readWord? cs).bind fun n => levelOfNumber? n.toNat with
  | some level => some level
  | none => levelOfName? (String.ofList (cs.map Char.toLower))

/-- The parts of a word: the name in front, the bracket with a span and a detail, and the level. -/
structure Phrase where
  name : List Char
  span : Option (List Char) := none
  detail : Option (List Char) := none
  level : Option (List Char) := none
  deriving DecidableEq, Repr

namespace Phrase

def withLevel? (p : Phrase) : List Char → Option Phrase
  | '=' :: level => some { p with level := some level }
  | rest => if rest.all Text.isBlank then some p else none

def withBracket? (p : Phrase) (cs : List Char) : Option Phrase :=
  let span := cs.takeWhile fun c => c ≠ ']' && c ≠ '\x7b'
  match cs.dropWhile fun c => c ≠ ']' && c ≠ '\x7b' with
  | ']' :: rest => { p with span := some span }.withLevel? rest
  | _ :: inside =>
    let detail := inside.takeWhile (· ≠ '\x7d')
    match inside.dropWhile (· ≠ '\x7d') with
    | _ :: ']' :: rest =>
      if detail.isEmpty then none
      else
        let named := if span.isEmpty then none else some span
        { p with span := named, detail := some detail }.withLevel? rest
    | _ => none
  | [] => none

def startsName (c : Char) : Bool :=
  c = '-' || c = ':' || c = '_' || Text.isAlphanumeric c

def ofWord? (cs : List Char) : Option Phrase :=
  match cs with
  | [] => none
  | '[' :: rest => Phrase.withBracket? ⟨[], none, none, none⟩ rest
  | c :: _ =>
    if startsName c then
      let name := cs.takeWhile fun c => c ≠ '=' && c ≠ '['
      match cs.dropWhile fun c => c ≠ '=' && c ≠ '[' with
      | [] => some { name := name }
      | '=' :: level => some { name := name, level := some level }
      | _ :: rest => Phrase.withBracket? ⟨name, none, none, none⟩ rest
    else none

def leastLevel? (p : Phrase) : Option (Option Level) :=
  match p.level with
  | none => some (some .trace)
  | some [] => some (some .trace)
  | some cs => level? cs

/-- What a phrase says about events, which may be nothing. A name alone may be that of a level. -/
def directives? (p : Phrase) : Option LogFilter := do
  let level ← p.leastLevel?
  let name := String.ofList p.name
  match p.span, p.detail, p.level with
  | none, none, none =>
    match level? p.name with
    | some level => some (everywhere level)
    | none => some [{ component := name, level := level }]
  | none, none, some _ => some [{ component := name, level := level }]
  | none, some detail, _ =>
    if detail.contains '=' then some []
    else some [{ component := name, detail := some (String.ofList detail), level := level }]
  | some _, _, _ => some []

end Phrase

/-- What a word says about events. A blank in front belongs to the name, which then is no
component's, and there is no level behind such a name. -/
def ofWord? (word : String) : Option LogFilter := do
  let p ← Phrase.ofWord? (word.toList.dropWhile Text.isBlank)
  if word.toList.head?.any Text.isBlank then
    if p.level.isSome then none else some []
  else p.directives?

/-- The filter that a setting of the environment spells; one that makes no sense is as good as
none. -/
def ofSetting (setting : Option String) : LogFilter :=
  match setting with
  | none => standard
  | some s =>
    match (s.splitOn ",").filter (· ≠ "") with
    | [] => everywhere (some .error)
    | words => ((words.mapM ofWord?).map List.flatten).getD standard

def choose (verbose trace : Bool) (setting : Option String) : LogFilter :=
  if trace then everything else if verbose then LogFilter.verbose else ofSetting setting

end LogFilter

end RegisterMachine.CommandLine
