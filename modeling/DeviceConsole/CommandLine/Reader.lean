import DeviceConsole.CommandLine.Grammar

/-! Reading a command line word by word. Options can stand before and behind the names of group and
form; what is given further in goes over what is given further out. -/
namespace DeviceConsole.CommandLine

inductive Stop where
  | usage
  | version (title : String)
  | help
deriving DecidableEq, Repr

structure Scan where
  group : Option Group := none
  form : Option Form := none
  /-- The latest first. -/
  values : List (Opt × String) := []
  /-- The options given at each level, the innermost first. -/
  levels : List (List Opt) := [[]]
  operands : List String := []
  /-- The option that waits for its value. -/
  pending : Option Opt := none
  /-- Behind `--` every word is an operand. -/
  escaped : Bool := false

namespace Scan

def firstName (names : List String) : String := names.head?.getD ""

/-- The program's name and the names of group and form as far as they are known. -/
def title (s : Scan) : String :=
  "-".intercalate ("nmsops" :: ((s.group.map fun g => firstName g.names).toList ++
    (s.form.map fun f => firstName f.names).toList))

def options (s : Scan) : List Opt :=
  ((s.form.map fun f => f.options).getD []) ++ Opt.common

def seenHere (s : Scan) (o : Opt) : Bool := ((s.levels.head?).getD []).contains o

def mark (o : Opt) : List (List Opt) → List (List Opt)
  | [] => [[o]]
  | level :: outer => (o :: level) :: outer

def give (s : Scan) (o : Opt) (value : String) : Except Stop Scan :=
  if o.accepts value && (o.arity.repeatable || !s.seenHere o) then
    .ok { s with values := (o, value) :: s.values, levels := mark o s.levels, pending := none }
  else .error .usage

def raise (s : Scan) (o : Opt) : Except Stop Scan :=
  match o with
  | .version => .error (.version s.title)
  | .help => .error .help
  | o => s.give o "true"

def long (s : Scan) (name : String) (value : Option String) : Except Stop Scan :=
  match s.options.find? fun o => o.name = name with
  | none => .error .usage
  | some o =>
      match o.arity.takesValue, value with
      | true, some value => s.give o value
      | true, none => .ok { s with pending := some o }
      | false, some _ => .error .usage
      | false, none => s.raise o

/-- A run of letters; what follows the letter of an option with a value is the value. -/
def short (s : Scan) : List Char → Except Stop Scan
  | [] => .ok s
  | c :: cs =>
      match s.options.find? fun o => o.letter? = some c with
      | none => .error .usage
      | some o =>
          if o.arity.takesValue then
            match cs with
            | [] => .ok { s with pending := some o }
            | '=' :: value => s.give o (String.ofList value)
            | value => s.give o (String.ofList value)
          else
            match s.raise o with
            | .ok s => s.short cs
            | .error stop => .error stop

def operand (s : Scan) (word : String) : Except Stop Scan :=
  match s.form with
  | some f =>
      if f.operands.accepts s.operands.length word then
        .ok { s with operands := s.operands ++ [word] }
      else .error .usage
  | none => .error .usage

/-- A word that is no option: the name of a group, then that of a form, then operands. -/
def plain (s : Scan) (word : String) : Except Stop Scan :=
  match s.group, s.form with
  | none, _ =>
      if word = "help" then .error .help
      else match groups.find? fun g => g.names.contains word with
        | some g => .ok { s with group := some g, levels := [] :: s.levels }
        | none => .error .usage
  | some g, none =>
      if word = "help" then .error .help
      else match g.forms.find? fun f => f.names.contains word with
        | some f => .ok { s with form := some f, levels := [] :: s.levels }
        | none => .error .usage
  | some _, some _ => s.operand word

/-- A value is any word that does not look like an option; a lone hyphen does not. -/
def word (s : Scan) (w : String) : Except Stop Scan :=
  if s.escaped then s.operand w
  else
    match s.pending, w.toList with
    | none, ['-', '-'] => .ok { s with escaped := true }
    | none, '-' :: '-' :: cs =>
        s.long (String.ofList (cs.takeWhile (· ≠ '=')))
          (match cs.dropWhile (· ≠ '=') with
            | _ :: value => some (String.ofList value)
            | [] => none)
    | none, '-' :: c :: cs => s.short (c :: cs)
    | none, _ => s.plain w
    | some _, '-' :: _ :: _ => .error .usage
    | some o, _ => s.give o w

/-- A variable counts at each level where its option is not given, and has to be in order. -/
def environmentAccepted (s : Scan) (environment : List (String × String)) : Bool :=
  s.options.all fun o =>
    match o.environment?.bind fun name => environment.lookup name with
    | none => true
    | some value => o.accepts value || s.levels.all fun level => level.contains o

/-- What was read, once the words are over. -/
def finish (s : Scan) (environment : List (String × String)) : Option Invocation := do
  let form ← s.form
  if s.pending.isSome || !s.environmentAccepted environment then none
  let given : Given := { environment, values := s.values, operands := s.operands }
  some { options := ← globalOptions? given, command := ← form.meaning given }

end Scan

def read (environment : List (String × String)) (words : List String) : Except Stop Invocation :=
  match words.foldlM Scan.word {} with
  | .error stop => .error stop
  | .ok s =>
      match s.finish environment with
      | some i => .ok i
      | none => .error .usage

end DeviceConsole.CommandLine
