import Brickwork.Generate

/-!
# Arguments of the command line

Arguments are taken from left to right. A bad value or an unknown flag ends it at once, and so does
a request for help; an option without a value, a repeated option or a missing one is only noticed at
the end.
-/

namespace Brickwork.CommandLine

/-- What a run is asked to do. -/
structure Arguments where
  board : Board := .uno
  debounce : UInt32 := 200
  verbosity : Nat := 0
  output : String
  model : String
deriving DecidableEq, Inhabited

/-- What the arguments ask for. -/
inductive Request where
  | run (arguments : Arguments)
  | help
  | version
  | misuse
deriving DecidableEq, Inhabited

/-- An option that takes a value. -/
inductive Setting where
  | board
  | debounce
  | output
deriving DecidableEq, Inhabited

/-- What has been taken from the arguments so far. -/
structure Draft where
  board : Option Board := none
  debounce : Option UInt32 := none
  output : Option String := none
  model : Option String := none
  verbosity : Nat := 0
  /-- The option that waits for its value. -/
  pending : Option Setting := none
  /-- Whether something is wrong that is only told at the end. -/
  flawed : Bool := false
deriving DecidableEq, Inhabited

namespace Draft

/-- Gives up waiting for a value. -/
def settle (draft : Draft) : Draft :=
  if draft.pending.isSome then { draft with pending := none, flawed := true } else draft

/-- Reads an interval in milliseconds. -/
def interval? (text : String) : Option UInt32 :=
  match Text.signed? text.toList with
  | some n => if 0 ≤ n ∧ n.toNat < UInt32.size then some n.toNat.toUInt32 else none
  | none => none

/-- Gives a value to an option; nothing if the value is bad. -/
def set? (draft : Draft) (setting : Setting) (value : String) : Option Draft :=
  match setting with
  | .board =>
    match Board.parse value with
    | .ok board =>
      some { draft with board := some board, flawed := draft.flawed || draft.board.isSome }
    | .error _ => none
  | .debounce => (interval? value).map fun debounce =>
    { draft with debounce := some debounce, flawed := draft.flawed || draft.debounce.isSome }
  | .output =>
    some { draft with output := some value, flawed := draft.flawed || draft.output.isSome }

/-- Takes an argument that is no flag; nothing if there is no place for it. -/
def place? (draft : Draft) (value : String) : Option Draft :=
  match draft.pending, draft.model with
  | some setting, _ => { draft with pending := none }.set? setting value
  | none, none => some { draft with model := some value }
  | none, some _ => none

/-- What the arguments ask for once all are taken. -/
def finish (draft : Draft) : Request :=
  let draft := draft.settle
  match draft.flawed, draft.output, draft.model with
  | false, some output, some model => .run
      { board := draft.board.getD .uno, debounce := draft.debounce.getD 200
        verbosity := draft.verbosity, output, model }
  | _, _, _ => .misuse

end Draft

/-- What comes of taking an argument. -/
inductive Progress where
  | more (draft : Draft)
  | done (request : Request)
deriving DecidableEq, Inhabited

/-- Goes on with a draft, if there is one. -/
def Progress.ofDraft? : Option Draft → Progress
  | some draft => more draft
  | none => done .misuse

/-- The value that is attached to a letter: what follows it, less an equals sign. -/
def attached : List Char → String
  | '=' :: value => String.ofList value
  | value => String.ofList value

/-- Takes an option with what follows its letter. -/
def takeSetting (draft : Draft) (setting : Setting) : List Char → Progress
  | [] => .more { draft with pending := some setting }
  | value => .ofDraft? (draft.set? setting (attached value))

/-- Takes letters that stand behind one dash. -/
def takeLetters (draft : Draft) : List Char → Progress
  | [] => .more draft
  | 'v' :: rest => takeLetters { draft with verbosity := draft.verbosity + 1 } rest
  | 'h' :: _ => .done .help
  | 'V' :: _ => .done .version
  | 'b' :: rest => takeSetting draft .board rest
  | 'd' :: rest => takeSetting draft .debounce rest
  | 'o' :: rest => takeSetting draft .output rest
  | _ :: _ => .done .misuse

/-- Takes a word that stands behind two dashes, with the value that is attached to it, if any. -/
def takeWord (draft : Draft) (name : String) (value : Option String) : Progress :=
  let setting := fun setting => match value with
    | some value => Progress.ofDraft? (draft.set? setting value)
    | none => .more { draft with pending := some setting }
  match name, value with
  | "board", _ => setting .board
  | "debounce", _ => setting .debounce
  | "help", none => .done .help
  | "version", none => .done .version
  | _, _ => .done .misuse

/-- Splits a word at its first equals sign. -/
def splitWord (word : List Char) : String × Option String :=
  let name := String.ofList (word.takeWhile fun c => c ≠ '=')
  match word.dropWhile fun c => c ≠ '=' with
  | _ :: value => (name, some (String.ofList value))
  | [] => (name, none)

/-- Takes one argument. -/
def takeArgument (draft : Draft) (argument : String) : Progress :=
  match argument.toList with
  | '-' :: '-' :: word =>
    let (name, value) := splitWord word
    takeWord draft.settle name value
  | '-' :: letter :: letters => takeLetters draft.settle (letter :: letters)
  | _ => .ofDraft? (draft.place? argument)

/-- Takes arguments behind `--`, none of which is a flag. -/
def takePlain (draft : Draft) : List String → Request
  | [] => draft.finish
  | argument :: rest =>
    match draft.place? argument with
    | some draft => takePlain draft rest
    | none => .misuse

/-- Takes arguments. -/
def takeAll (draft : Draft) : List String → Request
  | [] => draft.finish
  | argument :: rest =>
    if argument = "--" then takePlain draft.settle rest
    else
      match takeArgument draft argument with
      | .more draft => takeAll draft rest
      | .done request => request

/-- What the arguments of a command line ask for. -/
def Request.ofArguments (arguments : List String) : Request :=
  takeAll {} arguments

end Brickwork.CommandLine
