/-!
The arguments of the command line. Two options name files; each may be given once, with a value of
its own or after an equals sign, and never an empty one. Whatever else is given is refused.
-/

namespace DeviceChannels.CommandLine

structure Options where
  catalog : Option String := none
  config : Option String := none
  deriving DecidableEq, Repr

inductive Request
  | run (options : Options)
  | help
  | refused
  deriving DecidableEq, Repr

inductive FileOption
  | catalog
  | config
  deriving DecidableEq, Repr

def FileOption.ofName? (name : List Char) : Option FileOption :=
  if name = "catalog".toList then some .catalog
  else if name = "config".toList then some .config
  else none

/-- The options with one more given, unless it was given before or is empty. -/
def Options.give (o : Options) (option : FileOption) (value : String) : Option Options :=
  if value = "" then none
  else
    match option with
    | .catalog => if o.catalog.isSome then none else some { o with catalog := some value }
    | .config => if o.config.isSome then none else some { o with config := some value }

def isFlag (arg : String) : Bool :=
  match arg.toList with
  | '-' :: _ :: _ => true
  | _ => false

/-- The name of a long option and the value after an equals sign, if there is one. -/
def splitValue (cs : List Char) : List Char × Option String :=
  match cs.span (· != '=') with
  | (name, _ :: value) => (name, some (String.ofList value))
  | (name, []) => (name, none)

def readFrom (o : Options) : List String → Request
  | [] => .run o
  | arg :: args =>
    match arg.toList with
    | '-' :: '-' :: [] => if args.isEmpty then .run o else .refused
    | '-' :: '-' :: cs =>
      let (name, value) := splitValue cs
      match FileOption.ofName? name with
      | none => if name = "help".toList ∧ value = none then .help else .refused
      | some option =>
        match value with
        | some value =>
          match o.give option value with
          | some o => readFrom o args
          | none => .refused
        | none =>
          match args with
          | [] => .refused
          | value :: args =>
            if isFlag value then .refused
            else
              match o.give option value with
              | some o => readFrom o args
              | none => .refused
    | '-' :: 'h' :: _ => .help
    | _ => .refused

def Request.ofArguments (args : List String) : Request := readFrom {} args

def usage : String :=
  "Manage the content channels on this device\n\nUsage: chanman [OPTIONS]\n\nOptions:\n" ++
    "      --catalog <FILE>  Channel catalog to manage (overrides catalog_path in config)\n" ++
    "      --config <FILE>   Config file to use instead of ~/.config/chanman/config.toml\n" ++
    "  -h, --help            Print help"

end DeviceChannels.CommandLine
