import BucketProvisioning.CommandLine.Misuse
import BucketProvisioning.CommandLine.Options

/-!
# Reading a command line

The arguments are read one after the other.  An option that takes a value may have it after an
equals sign or in the next argument, and takes effect only when the argument after its value is
read; an argument that nobody knows is reported even if the value before it is wrong.  Whatever is
not given by an argument may be given by a variable.

`assign_default` says that the value which a declaration states as its default is the value that
`Options` has from the start.
-/

set_option autoImplicit false

namespace BucketProvisioning.CommandLine

open BucketProvisioning.Text

/-- The variables of the environment. -/
abbrev Variables := List (String × String)

/-- Why the reading of a command line ends without options. -/
inductive Stop where
  /-- A question is asked. -/
  | inquiry (q : Inquiry)
  /-- The program is called in a wrong way. -/
  | misuse (m : Misuse)
deriving DecidableEq, Repr

/-! ## Values -/

/-- The values of an option that is on or off. -/
def truthValues : List String := ["true", "false"]

namespace Declaration

/-- Whether a value turns an option on. -/
def readTruth (d : Declaration) (s : String) : Except Misuse Bool :=
  if s = "true" then .ok true
  else if s = "false" then .ok false
  else if s.isEmpty then .error (.noValue d.form truthValues)
  else .error (.badChoice s d.form truthValues)

/-- The value of an option is used. -/
def judge (d : Declaration) (s : String) : Except String Options → Except Misuse Options
  | .ok o => .ok o
  | .error reason => .error (.badValue s d.form reason)

/-- An option is given with some values, for the first time or again. -/
def assign (d : Declaration) (again : Bool) (values : List String) (o : Options) :
    Except Misuse Options :=
  match d.assignment with
  | .flag set =>
    match values with
    | [] => .ok (set true o)
    | s :: _ => (d.readTruth s).map fun b => set b o
  | .value set => values.foldlM (fun o s => d.judge s (set s o)) o
  | .values clear add =>
    values.foldlM (fun o s => d.judge s (add s o)) (if again then o else clear o)
  | .inquiry _ => .ok o

/-- A declaration states the default that the option has from the start. -/
theorem assign_default (d : Declaration) (h : d ∈ all) (s : String) (hs : d.default? = some s) :
    d.assign false [s] {} = .ok {} := by
  simp only [all, List.mem_cons, List.not_mem_nil, or_false] at h
  rcases h with rfl | rfl | rfl | rfl | rfl | rfl | rfl | rfl | rfl | rfl | rfl | rfl | rfl | rfl |
    rfl | rfl <;> cases hs <;> rfl

end Declaration

/-! ## Arguments -/

/-- What an argument looks like. -/
inductive Argument where
  /-- Only operands follow. -/
  | separator
  /-- An option by its name, with a value if there is an equals sign. -/
  | long (name : String) (value? : Option String)
  /-- Options by their names of one letter, the first of them. -/
  | short (c : Char)
  /-- Anything else. -/
  | operand
deriving DecidableEq, Repr

/-- What an argument looks like. -/
def Argument.ofText (s : String) : Argument :=
  match s.toList with
  | ['-', '-'] => .separator
  | '-' :: '-' :: rest =>
    let name := String.ofList (rest.takeWhile (· ≠ '='))
    match rest.dropWhile (· ≠ '=') with
    | _ :: value => .long name (some (String.ofList value))
    | [] => .long name none
  | '-' :: c :: _ => .short c
  | _ => .operand

/-- How far a command line has been read. -/
structure Reader where
  /-- The options. -/
  options : Options := {}
  /-- The names of the options that have been given. -/
  given : List String := []
  /-- The last option that takes a value, with the value once it has been read. -/
  pending : Option (Declaration × Option String) := none
  /-- Whether only operands may follow. -/
  onlyOperands : Bool := false

namespace Reader

/-- Whether an option has been given. -/
def has (r : Reader) (d : Declaration) : Bool := d.name ∈ r.given

/-- The options that have been given, as they are written. -/
def shown (r : Reader) : List String :=
  (r.given.filterMap Declaration.named?).map Declaration.shownForm

/-- An option is given.  If that is refused, the reader still knows what had been given. -/
def take (d : Declaration) (value? : Option String) (r : Reader) : Reader × Option Misuse :=
  if d.takesValue && value?.isNone then (r, some (.noValue d.form []))
  else if r.has d && !d.isRepeatable then
    ({ r with given := r.given.erase d.name }, some (.repeated d.form))
  else
    let r' := { r with given := if r.has d then r.given else r.given ++ [d.name] }
    match d.assign (r.has d) (value?.elim [] d.valuesOf) r.options with
    | .ok options => ({ r' with options }, none)
    | .error m => (r', some m)

/-- The last option takes effect. -/
def settle (r : Reader) : Reader × Option Misuse :=
  match r.pending with
  | some (d, value?) => take d value? { r with pending := none }
  | none => (r, none)

/-- Goes on unless something has been refused. -/
def orStop : Reader × Option Misuse → Except Stop Reader
  | (r, none) => .ok r
  | (_, some m) => .error (.misuse m)

/-- An option that nobody knows: a similar one counts as given. -/
def unknown (name : String) (r : Reader) : Misuse :=
  let similar? := (closest? name (Declaration.all.map Declaration.name)).bind Declaration.named?
  .unexpected ("--" ++ name) (similar?.map Declaration.typed)
    (r.settle.1.shown ++ similar?.toList.map Declaration.shownForm)

/-- The options that can be given, as alternatives. -/
def alternatives : String :=
  "<" ++ "|".intercalate ((Declaration.all.filter fun d => !d.isInquiry).map Declaration.form)
    ++ ">"

/-- How the program is called with an option: as soon as another one has taken effect, as one with
which all of them can be given. -/
def calledWith (d : Declaration) (r : Reader) : List String :=
  if r.given.isEmpty then [d.shownForm]
  else alternatives :: (if d.isInquiry then [d.shownForm] else [])

/-- An option is read, with a value if there is an equals sign. -/
def readOption (d : Declaration) (value? : Option String) (r : Reader) : Except Stop Reader :=
  match d.takesValue, value? with
  | false, some value => .error (.misuse (.unexpectedValue value d.form (r.calledWith d)))
  | true, none => do
    let r ← orStop r.settle
    return { r with pending := some (d, none) }
  | _, _ => do
    let r ← orStop r.settle
    match d.assignment with
    | .inquiry q => throw (.inquiry q)
    | _ => orStop (r.take d value?)

/-- The next argument is read. -/
def step (r : Reader) (argument : String) : Except Stop Reader :=
  let unexpected (s : String) : Except Stop Reader := .error (.misuse (.unexpected s none []))
  if r.onlyOperands then unexpected argument
  else
    match Argument.ofText argument with
    | .separator => .ok { r with onlyOperands := true }
    | .long name value? =>
      match Declaration.named? name with
      | some d => r.readOption d value?
      | none => .error (.misuse (r.unknown name))
    | .short c =>
      match Declaration.lettered? c with
      | some d => r.readOption d none
      | none => unexpected (String.ofList ['-', c])
    | .operand =>
      match r.pending with
      | some (d, none) => .ok { r with pending := some (d, some argument) }
      | _ => unexpected argument

/-- An option that has not been given takes its value from its variable. -/
def addVariable (vars : Variables) (r : Reader) (o : Options) (d : Declaration) :
    Except Stop Options :=
  match d.variableName?.bind fun v => List.lookup v vars with
  | some s =>
    if r.has d then .ok o
    else
      match d.assign false (d.valuesOf s) o with
      | .ok o => .ok o
      | .error m => .error (.misuse m)
  | none => .ok o

end Reader

/-- Reads a command line. -/
def read (vars : Variables) (arguments : List String) : Except Stop Options := do
  let r ← arguments.foldlM Reader.step {}
  let r ← Reader.orStop r.settle
  Declaration.all.foldlM (Reader.addVariable vars r) r.options

end BucketProvisioning.CommandLine
