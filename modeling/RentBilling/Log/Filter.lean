import RentBilling.Log.Settings
import RentBilling.Numeral.Decimal
import RentBilling.Text.Ascii
import RentBilling.Text.Blank
import RentBilling.Text.Letters
import RentBilling.Text.Split

/-!
Log filters: which events are written, by the part of the system they come from.

A filter is a list of directives between commas. A directive gives a verbosity to a target, or to
all that no other directive names. The more specific directive comes first: that with the longer
target, and of equally long ones that with the later text. Of two directives for one target the
later in the text counts.
-/

namespace RentBilling

/-- How much is written. -/
inductive Verbosity where
  | off
  | error
  | warn
  | info
  | debug
  | trace
  deriving DecidableEq, Repr

namespace Verbosity

/-- All verbosities, from the least on; each also goes by its place in this list. -/
def all : List Verbosity := [off, error, warn, info, debug, trace]

def name : Verbosity → String
  | off => "off"
  | error => "error"
  | warn => "warn"
  | info => "info"
  | debug => "debug"
  | trace => "trace"

/-- The digits of a number, without a plus sign in front. -/
def digitsOf (cs : List Char) : List Char :=
  match cs with
  | '+' :: ds => ds
  | ds => ds

/-- The verbosity with this name, in any case, or this number. -/
def ofChars? (cs : List Char) : Option Verbosity :=
  let ds := digitsOf cs
  if ds ≠ [] ∧ ds.all Char.isDigit then all[Numeral.ofDigits ds]?
  else all.find? fun v => v.name.toList = cs.map Char.toLower

end Verbosity

/-- The verbosity of a target, or of all that have none of their own. -/
structure Directive where
  target : Option String
  verbosity : Verbosity
  deriving DecidableEq, Repr

namespace Directive

/-- A directive may begin with this character, blanks in front apart. -/
def mayBegin (c : Char) : Bool := c ∈ ['-', ':', '_'] || Text.isLetterOrDigit c

/-- Reads `target=verbosity`, `target=`, `target` or `verbosity`; a target alone gets everything.
Blanks in front are kept in a target alone and refused before an `=`. -/
def ofChars? (cs : List Char) : Option Directive :=
  if (Text.trimFront cs).head?.any mayBegin then
    match cs.dropWhile (· ≠ '=') with
    | [] => match Verbosity.ofChars? cs with
      | some v => some ⟨none, v⟩
      | none => some ⟨some (.ofList cs), .trace⟩
    | _ :: level =>
      let target := String.ofList (cs.takeWhile (· ≠ '='))
      if cs.head?.any Text.isBlank then none
      else if level = [] then some ⟨some target, .trace⟩
      else (Verbosity.ofChars? level).map (⟨some target, ·⟩)
  else none

/-- The first directive is more specific. -/
def precedes (a b : Directive) : Bool :=
  match a.target, b.target with
  | some s, some t =>
    let m := Text.byteLength s.toList
    let n := Text.byteLength t.toList
    n < m || (m == n && t < s)
  | some _, none => true
  | none, _ => false

def text (d : Directive) : String :=
  match d.target with
  | some target => target ++ "=" ++ d.verbosity.name
  | none => d.verbosity.name

end Directive

/-- Directives, the more specific first, one for each target. -/
structure LogFilter where
  directives : List Directive
  deriving DecidableEq, Repr

namespace LogFilter

/-- Puts a directive in its place, instead of one for the same target. -/
def insert (d : Directive) : List Directive → List Directive
  | [] => [d]
  | e :: rest =>
    if d.target = e.target then d :: rest
    else if d.precedes e then d :: e :: rest
    else e :: insert d rest

/-- The filter that a text writes down; empty parts are passed over. -/
def ofText? (text : String) : Option LogFilter := do
  let parts := (Text.splitChars (· == ',') text.toList).filter (· ≠ [])
  let directives ← parts.mapM Directive.ofChars?
  some ⟨directives.foldl (fun ds d => insert d ds) []⟩

/-- The filter as text. -/
def text (f : LogFilter) : String := ",".intercalate (f.directives.map Directive.text)

/-- The filter of last resort. -/
def default : LogFilter := ⟨[⟨none, .info⟩]⟩

/-- The filter of a run: what the environment asks for, else what the settings ask for, else that of
last resort. A text that is no filter counts for nothing. -/
def choose (settings : LogSettings) (environment : Option String) : LogFilter :=
  ((environment.bind ofText?) <|> ofText? settings.level).getD default

end LogFilter

end RentBilling
