import Recompile.Manifest.Basic

/-!
# Command-line arguments

A command with its files, and options that may stand before the command or among its files. An
option of the command goes before the same option in front of it. After `--` everything is a
file.
-/

namespace Recompile

/-- What is asked for. -/
inductive Command where
  | dirty (files : List Path)
  | deps (file : Path)
  | dot
  | watch
  | version
deriving DecidableEq, Repr

/-- A command line. -/
structure Invocation where
  command : Command
  verbose : Bool
  root : Path
  manifest : Path
deriving DecidableEq, Repr

/-- Why a command line is not answered. -/
inductive UsageError where
  /-- It asks for help. -/
  | help
  | missingCommand
  | unknownCommand (name : String)
  | unknownOption (name : String)
  /-- An option, given twice in one place. -/
  | repeated (option : String)
  | missingValue (option : String)
  /-- A value for an option that takes none. -/
  | unneededValue (option : String)
  /-- An empty path. -/
  | emptyPath
  | missingFile
  | surplus (argument : String)
deriving DecidableEq, Repr

namespace UsageError

/-- The wording of a reason. -/
def message : UsageError → String
  | help => "usage: [-v] [-r ROOT] [-m MANIFEST] dirty FILE... | deps FILE | dot | watch | version"
  | missingCommand => "a command is required"
  | unknownCommand name => s!"unknown command '{name}'"
  | unknownOption name => s!"unknown option '{name}'"
  | repeated option => s!"the option '{option}' is given twice"
  | missingValue option => s!"the option '{option}' needs a value"
  | unneededValue option => s!"the option '{option}' takes no value"
  | emptyPath => "a path may not be empty"
  | missingFile => "a file is required"
  | surplus argument => s!"surplus argument '{argument}'"

/-- The exit code of a program that ends for a reason. To ask for help is no failure. -/
def exitCode : UsageError → Nat
  | help => 0
  | _ => 2

end UsageError

/-- The options given in one place. -/
structure Options where
  verbose : Bool := false
  root : Option Path := none
  manifest : Option Path := none

namespace Options

/-- An option that takes a path. -/
inductive PathOption where
  | root
  | manifest

/-- The long name of an option. -/
def PathOption.name : PathOption → String
  | root => "--root"
  | manifest => "--manifest"

/-- A path as an argument gives it. -/
def path (text : String) : Except UsageError Path :=
  if text = "" then .error .emptyPath else .ok ⟨text⟩

/-- Asks for more to be told. -/
def setVerbose (o : Options) : Except UsageError Options :=
  if o.verbose then .error (.repeated "--verbose") else .ok { o with verbose := true }

/-- Gives an option its path. -/
def setPath (o : Options) (which : PathOption) (text : String) : Except UsageError Options := do
  let p ← path text
  match which with
  | .root => if o.root.isSome then throw (.repeated "--root") else return { o with root := p }
  | .manifest =>
    if o.manifest.isSome then throw (.repeated "--manifest") else return { o with manifest := p }

/-- An argument that starts an option, or ends the options. -/
def isOption (argument : String) : Bool :=
  argument.toList.head? = some '-' && 1 < argument.length

/-- Gives an option the next argument as its path. -/
def setNext (o : Options) (which : PathOption) :
    List String → Except UsageError (Options × List String)
  | [] => .error (.missingValue which.name)
  | text :: rest =>
    if isOption text then .error (.missingValue which.name)
    else do return (← o.setPath which text, rest)

/-- Reads an option by its long name, without the hyphens. The value may follow an equals sign. -/
def readLong (o : Options) (argument : List Char) (rest : List String) :
    Except UsageError (Options × List String) :=
  let name := String.ofList (argument.takeWhile (· ≠ '='))
  let value := match argument.dropWhile (· ≠ '=') with
    | [] => none
    | _ :: v => some (String.ofList v)
  let take (which : PathOption) := match value with
    | some v => do return (← o.setPath which v, rest)
    | none => o.setNext which rest
  match name with
  | "verbose" =>
    if value.isSome then .error (.unneededValue "--verbose")
    else do return (← o.setVerbose, rest)
  | "help" => if value.isSome then .error (.unneededValue "--help") else .error .help
  | "root" => take .root
  | "manifest" => take .manifest
  | _ => .error (.unknownOption ("--" ++ name))

/-- Reads options by their letters. The value of the last one may follow it at once. -/
def readShort (o : Options) (letters : List Char) (rest : List String) :
    Except UsageError (Options × List String) :=
  match letters with
  | [] => .ok (o, rest)
  | c :: cs =>
    let take (which : PathOption) := match cs with
      | [] => o.setNext which rest
      | '=' :: v => do return (← o.setPath which (String.ofList v), rest)
      | v => do return (← o.setPath which (String.ofList v), rest)
    match c with
    | 'v' =>
      match o.setVerbose with
      | .ok o => readShort o cs rest
      | .error e => .error e
    | 'h' => .error .help
    | 'r' => take .root
    | 'm' => take .manifest
    | _ => .error (.unknownOption (String.ofList ['-', c]))

/-- Reads the option an argument starts. -/
def read (o : Options) (argument : String) (rest : List String) :
    Except UsageError (Options × List String) :=
  match argument.toList with
  | '-' :: '-' :: name => o.readLong name rest
  | '-' :: letters => o.readShort letters rest
  | _ => .error (.surplus argument)

/-- The options among the files of a command, together with those in front of it. -/
def orElse (inner outer : Options) : Options where
  verbose := inner.verbose || outer.verbose
  root := inner.root.or outer.root
  manifest := inner.manifest.or outer.manifest

end Options

namespace Invocation

/-- The names of the commands with the number of files that each takes at most. -/
def commands : List (String × Option Nat) :=
  [("dirty", none), ("deps", some 1), ("dot", some 0), ("watch", some 0), ("version", some 0)]

/-- Adds a file, if the command takes as many. -/
def addFile (most : Option Nat) (files : List Path) (argument : String) :
    Except UsageError (List Path) :=
  if most.any (· ≤ files.length) then .error (.surplus argument)
  else do return files ++ [← Options.path argument]

/-- The options and files of a command, from left to right. -/
def readFiles (most : Option Nat) : (fuel : Nat) → Options → List Path → List String →
    Except UsageError (Options × List Path)
  | 0, o, files, _ => .ok (o, files)
  | _, o, files, [] => .ok (o, files)
  | fuel + 1, o, files, a :: rest =>
    if a = "--" then do return (o, ← rest.foldlM (addFile most) files)
    else if Options.isOption a then do
      let (o, rest) ← o.read a rest
      readFiles most fuel o files rest
    else do readFiles most fuel o (← addFile most files a) rest

/-- The command of a name with its files. -/
def commandOf (name : String) (files : List Path) : Except UsageError Command :=
  match name, files with
  | "dirty", [] => .error .missingFile
  | "dirty", files => .ok (.dirty files)
  | "deps", [] => .error .missingFile
  | "deps", file :: _ => .ok (.deps file)
  | "dot", _ => .ok .dot
  | "watch", _ => .ok .watch
  | "version", _ => .ok .version
  | name, _ => .error (.unknownCommand name)

/-- What a request for help ends in. It may name a command, or itself. -/
def helpFor : List String → UsageError
  | [] => .help
  | [name] =>
    if name = "help" || (commands.lookup name).isSome then .help else .unknownCommand name
  | name :: next :: _ =>
    .unknownCommand (if name = "help" || (commands.lookup name).isSome then next else name)

/-- Reads the options in front of the command, the command, and what follows it. -/
def readCommand : (fuel : Nat) → Options → List String → Except UsageError Invocation
  | 0, _, _ => .error .missingCommand
  | _, _, [] => .error .missingCommand
  | fuel + 1, o, a :: rest =>
    if a = "--" then
      match rest with
      | [] => .error .missingCommand
      | b :: _ => .error (.surplus b)
    else if Options.isOption a then do
      let (o, rest) ← o.read a rest
      readCommand fuel o rest
    else if a = "help" then .error (helpFor rest)
    else
      match commands.lookup a with
      | none => .error (.unknownCommand a)
      | some most => do
        let (inner, files) ← readFiles most rest.length {} [] rest
        let command ← commandOf a files
        let options := inner.orElse o
        return {
          command
          verbose := options.verbose
          root := options.root.getD ⟨"."⟩
          manifest := options.manifest.getD Manifest.defaultPath }

/-- Reads a command line. -/
def parse (arguments : List String) : Except UsageError Invocation :=
  readCommand arguments.length {} arguments

end Invocation

end Recompile
