import RestorePlugins.CommandLine.Argument

namespace RestorePlugins.CommandLine

/-!
# Reading a command line

* `Grammar α` — a command with its arguments, or a group of commands.
* `Level` — a command while its words are read.  A value waits until the next argument or the end
  shows that it is complete.
* `Level.step` — reads one word.
* `Grammar.read` — reads all words.  Of two errors the one that is met first counts, and at the
  end the innermost command is checked first.
-/

/-- A command that stands for an `α` when it is given its arguments, or a group of commands. -/
inductive Grammar (α : Type) where
  | leaf (arguments : List Argument) (build : Given → Option α)
  | group (commands : List (String × Grammar α))

/-- The forms of a word. -/
inductive Word where
  /-- Two hyphens: the words after it are values. -/
  | escape
  | long (name : String) (value : Option String)
  | short (letter : Char) (tail : List Char)
  | plain
  deriving DecidableEq, Repr

/-- The form of a word. -/
def Word.ofText (s : String) : Word :=
  match s.toList with
  | ['-', '-'] => .escape
  | '-' :: '-' :: rest =>
    match rest.span (· ≠ '=') with
    | (name, _ :: value) => .long (String.ofList name) (some (String.ofList value))
    | (name, []) => .long (String.ofList name) none
  | '-' :: letter :: tail => .short letter tail
  | _ => .plain

variable {α : Type}

namespace Grammar

/-- The arguments of a command. -/
def arguments : Grammar α → List Argument
  | leaf arguments _ => arguments
  | group _ => []

/-- The commands of a group. -/
def commands : Grammar α → List (String × Grammar α)
  | leaf _ _ => []
  | group commands => commands

/-- Whether a command is a group. -/
def isGroup : Grammar α → Bool
  | leaf _ _ => false
  | group _ => true

end Grammar

mutual

/-- The words that name the commands in a command: the last commands first, and those of a group
before those in it. -/
def Grammar.names : Grammar α → List (List String)
  | .leaf _ _ => []
  | .group commands => namesOf commands

/-- The words that name some commands and the commands in them. -/
def namesOf : List (String × Grammar α) → List (List String)
  | [] => []
  | (word, grammar) :: rest => namesOf rest ++ [word] :: grammar.names.map (word :: ·)

end

/-- The word that asks a group for help. -/
def helpCommand : String := "help"

/-- What comes of asking for the help of the command that some words name. -/
def helpOf : Grammar α → List String → UsageError
  | _, [] => .help
  | .leaf _ _, _ :: _ => .unknownCommand
  | .group commands, word :: rest =>
    match commands.lookup word with
    | some grammar => helpOf grammar rest
    | none => if word = helpCommand ∧ rest = [] then .help else .unknownCommand

/-! ### Levels -/

/-- A command while its words are read. -/
structure Level (α : Type) where
  grammar : Grammar α
  /-- The arguments that all commands take, as well as those of its own. -/
  shared : List Argument
  /-- Whether it tells its version. -/
  versioned : Bool := false
  given : Given := []
  /-- The last argument and its text, until it is read. -/
  waiting : Option (Argument × Option String) := none
  /-- The count of values that were given by place. -/
  placed : Nat := 0
  /-- Whether all further words are values. -/
  escaped : Bool := false

/-- What a word does. -/
inductive Step (α : Type) where
  | stay (level : Level α)
  | enter (level : Level α) (grammar : Grammar α)

namespace Level

/-- All arguments at a level. -/
def arguments (l : Level α) : List Argument := l.grammar.arguments ++ l.shared

/-- The argument with a name. -/
def named? (l : Level α) (name : String) : Option Argument :=
  l.arguments.find? fun a => !a.byPlace && a.name = name

/-- The argument with a letter. -/
def lettered? (l : Level α) (letter : Char) : Option Argument :=
  l.arguments.find? fun a => !a.byPlace && a.short == some letter

/-- The next argument that is given by place. -/
def next? (l : Level α) : Option Argument := (l.arguments.filter (·.byPlace))[l.placed]?

/-- Reads the text of an argument. -/
def accept (l : Level α) (a : Argument) (s : String) : Except UsageError (Level α) := do
  if !a.many && (l.given.values? a.name).isSome then throw .repeatedArgument
  let values ← a.read s
  return { l with given := l.given.add a.name values }

/-- Reads the text that waits. -/
def settle (l : Level α) : Except UsageError (Level α) :=
  match l.waiting with
  | none => .ok l
  | some (a, some s) => { l with waiting := none }.accept a s
  | some (_, none) => .error .wrongValue

/-- Whether the next word is the value of an argument that was named. -/
def wantsValue (l : Level α) : Bool := l.waiting matches some (_, none)

/-- An argument that was named, with the text that is attached to its name. -/
def take (l : Level α) (a : Argument) (attached : Option String) :
    Except UsageError (Level α) := do
  let l ← l.settle
  match attached with
  | some s => l.accept a s
  | none => return { l with waiting := some (a, none) }

/-- An argument by its name. -/
def takeLong (l : Level α) (name : String) (value : Option String) :
    Except UsageError (Level α) :=
  match l.named? name with
  | some a => l.take a value
  | none =>
    if name = "help" ∨ (name = "version" ∧ l.versioned) then
      if value.isSome then .error .needlessValue
      else do
        let _ ← l.settle
        .error (if name = "help" then .help else .version)
    else .error .unknownArgument

/-- An argument by its letter, with the text that is attached to the letter. -/
def takeShort (l : Level α) (letter : Char) (tail : List Char) :
    Except UsageError (Level α) :=
  match l.lettered? letter with
  | some a =>
    l.take a (match tail with
      | [] => none
      | '=' :: value => some (String.ofList value)
      | value => some (String.ofList value))
  | none =>
    if letter = 'h' ∨ (letter = 'V' ∧ l.versioned) then do
      let _ ← l.settle
      .error (if letter = 'h' then .help else .version)
    else .error .unknownArgument

/-- A value by its place. -/
def takePlain (l : Level α) (word : String) : Except UsageError (Level α) :=
  match l.next? with
  | some a => do
    let l ← l.settle
    return { l with waiting := some (a, some word), placed := l.placed + 1 }
  | none =>
    let isCommand := (l.grammar.commands.lookup word).isSome || word = helpCommand
    .error (if l.grammar.isGroup && !(l.escaped && isCommand) then .unknownCommand
      else .unknownArgument)

/-- A word that names no command. -/
def takeWord (l : Level α) (word : String) : Except UsageError (Level α) :=
  match Word.ofText word with
  | .escape => .ok { l with escaped := true }
  | .long name value => l.takeLong name value
  | .short letter tail => l.takeShort letter tail
  | .plain =>
    match l.waiting with
    | some (a, none) => .ok { l with waiting := some (a, some word) }
    | _ => l.takePlain word

/-- Reads one word, which some more words follow. -/
def step (l : Level α) (word : String) (rest : List String) : Except UsageError (Step α) :=
  if l.escaped then (l.takePlain word).map .stay
  else if l.wantsValue || !l.grammar.isGroup then (l.takeWord word).map .stay
  else match l.grammar.commands.lookup word with
    | some grammar => .ok (.enter l grammar)
    | none =>
      if word = helpCommand then .error (helpOf l.grammar rest)
      else (l.takeWord word).map .stay

/-- The command that the words at a level stand for. -/
def close (l : Level α) : Except UsageError (Level α) := do
  let l ← l.settle
  if l.grammar.isGroup then throw (if l.given.isEmpty then .nothingGiven else .missingCommand)
  if l.arguments.any fun a => a.required && (l.given.values? a.name).isNone then
    throw .missingArgument
  return l

end Level

/-! ### All words -/

/-- Reads words at a level, inside of others from the innermost on.  Answers all that was given,
an inner level before those around it, and the innermost command. -/
def readWords (outer : List (Level α)) (l : Level α) :
    List String → Except UsageError (Given × Grammar α)
  | [] => do
    let l ← l.close
    let outer ← outer.mapM Level.settle
    .ok (l.given ++ outer.flatMap (·.given), l.grammar)
  | word :: rest => do
    match ← l.step word rest with
    | .stay l => readWords outer l rest
    | .enter l grammar => readWords (l :: outer) { grammar := grammar, shared := l.shared } rest

/-- A program: its commands and the arguments that all of them take. -/
structure Program (α : Type) where
  grammar : Grammar α
  shared : List Argument := []

/-- Reads the words after the name of a program; answers what was given and the command. -/
def Program.read (p : Program α) (words : List String) : Except UsageError (Given × α) := do
  let l : Level α := { grammar := p.grammar, shared := p.shared, versioned := true }
  let (given, grammar) ← readWords [] l words
  match grammar with
  | .group _ => throw .missingCommand
  | .leaf _ build =>
    match build given with
    | some a => return (given, a)
    | none => throw .missingArgument

end RestorePlugins.CommandLine
