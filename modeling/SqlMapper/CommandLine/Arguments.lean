/-
Module: SqlMapper.CommandLine.Arguments
Purpose: The arguments of the command line tool.
Main exports: OptionSpec, Token.read, readOptions, Command, Request, Refusal, Request.parse
-/

namespace SqlMapper.CommandLine

/-!
The tool is asked for one of four commands. Options are written `--name value` or
`--name=value`; an option with a short name also as `-n value`, `-nvalue` or
`-n=value`, and short names may be put together behind one dash. A value does not
start with a dash, unless it is a dash alone or joined to its option. An option
is given once, except those that collect values; the options that stand for the
whole tool may be given once before the command and once after it, and the
latter counts. Nothing but options may follow the command, and after `--` nothing
may follow at all.

Arguments are read from left to right, so what comes first decides between a
wrong argument and a request for help or for the version.
-/

/-- What an option takes: nothing, a text, a path (which is not empty), texts
given one by one; or the tool answers it at once. -/
inductive Arity where
  | flag
  | text
  | path
  | texts
  | help
  | version
deriving Repr, Inhabited, DecidableEq

/-- An option of a command or of the tool. -/
structure OptionSpec where
  name : String
  letter : Option Char
  arity : Arity
deriving Repr, Inhabited, DecidableEq

/-- Why there is nothing to run: the arguments are wrong, or they ask for help
or for the version. -/
inductive Refusal where
  | usage
  | help
  | version
deriving Repr, Inhabited, DecidableEq

/-- The options given so far with their values, last first. -/
abbrev Given := List (String × String)

/-- The value of an option. -/
def Given.find? (given : Given) (name : String) : Option String := given.lookup name

/-- The values of an option in the order in which they are given. -/
def Given.all (given : Given) (name : String) : List String :=
  (given.reverse.filter (·.1 == name)).map (·.2)

/-- Take note of an option and its value. -/
def Given.add (given : Given) (option : OptionSpec) (value : String) : Except Refusal Given :=
  match option.arity with
  | .help => .error .help
  | .version => .error .version
  | .texts => .ok ((option.name, value) :: given)
  | .path => if value.isEmpty || (given.find? option.name).isSome then .error .usage
      else .ok ((option.name, value) :: given)
  | .flag | .text => if (given.find? option.name).isSome then .error .usage
      else .ok ((option.name, value) :: given)

/-- Whether an option takes a value. -/
def OptionSpec.takesValue (option : OptionSpec) : Bool :=
  match option.arity with
  | .text | .path | .texts => true
  | .flag | .help | .version => false

/-- An argument as it is written. -/
inductive Token where
  | ending
  | long (name : String) (value : Option String)
  | short (letters : List Char)
  | plain
deriving Repr, Inhabited, DecidableEq

/-- What an argument is. -/
def Token.read (argument : String) : Token :=
  match argument.toList with
  | ['-', '-'] => .ending
  | '-' :: '-' :: rest =>
      let name := String.ofList (rest.takeWhile (· != '='))
      match rest.dropWhile (· != '=') with
      | [] => .long name none
      | _ :: value => .long name (some (String.ofList value))
  | '-' :: letter :: rest => .short (letter :: rest)
  | _ => .plain

/-- Read short names put together: the options given then, and the option that
still needs its value. -/
def readLetters (options : List OptionSpec) (given : Given) :
    List Char → Except Refusal (Given × Option OptionSpec)
  | [] => .ok (given, none)
  | letter :: rest =>
      match options.find? (·.letter == some letter) with
      | none => .error .usage
      | some option =>
          if option.takesValue then
            match rest with
            | [] => .ok (given, some option)
            | '=' :: value => (given.add option (String.ofList value)).map (·, none)
            | value => (given.add option (String.ofList value)).map (·, none)
          else
            match given.add option "" with
            | .error e => .error e
            | .ok given => readLetters options given rest

/-- Read one argument: the options given then, and the option that still needs
its value. -/
def readToken (options : List OptionSpec) (given : Given) :
    Token → Except Refusal (Given × Option OptionSpec)
  | .long name value =>
      match options.find? (·.name == name), value with
      | none, _ => .error .usage
      | some option, some value =>
          if option.takesValue then (given.add option value).map (·, none) else .error .usage
      | some option, none =>
          if option.takesValue then .ok (given, some option)
          else (given.add option "").map (·, none)
  | .short letters => readLetters options given letters
  | .ending | .plain => .error .usage

/-- Read options up to the first argument that is none, with the option that
waits for its value: the options given, and the arguments that are left. -/
def readOptions (options : List OptionSpec) (given : Given) (waiting : Option OptionSpec) :
    List String → Except Refusal (Given × List String)
  | [] => if waiting.isSome then .error .usage else .ok (given, [])
  | argument :: rest =>
      match Token.read argument, waiting with
      | .plain, some option =>
          match given.add option argument with
          | .error e => .error e
          | .ok given => readOptions options given none rest
      | .plain, none => .ok (given, argument :: rest)
      | .ending, none => if rest.isEmpty then .ok (given, []) else .error .usage
      | _, some _ => .error .usage
      | token, none =>
          match readToken options given token with
          | .error e => .error e
          | .ok (given, waiting) => readOptions options given waiting rest

/-! ### The options of the tool -/

/-- The option that names a file of variables to load. -/
def envFileOption : OptionSpec := ⟨"env-file", none, .path⟩

/-- The options that are understood before and after the command. -/
def globalOptions : List OptionSpec :=
  [envFileOption, ⟨"verbose", some 'v', .flag⟩, ⟨"help", some 'h', .help⟩]

/-- The options before the command. -/
def toolOptions : List OptionSpec := globalOptions ++ [⟨"version", some 'V', .version⟩]

/-- The option that names the directory of the mapper files. -/
def mapsOption : OptionSpec := ⟨"maps", none, .path⟩

/-- The option that names a query. -/
def queryOption : OptionSpec := ⟨"query", none, .text⟩

/-- The option that gives a parameter. -/
def paramOption : OptionSpec := ⟨"param", some 'p', .texts⟩

/-- The option that names a file of parameters. -/
def paramsFileOption : OptionSpec := ⟨"params-file", none, .path⟩

/-- The option that asks for JSON. -/
def jsonOption : OptionSpec := ⟨"json", none, .flag⟩

/-- The option that names a mapper file. -/
def fileOption : OptionSpec := ⟨"file", none, .text⟩

/-- The options after a command. -/
def commandOptions : String → Option (List OptionSpec)
  | "render" => some [queryOption, mapsOption, paramOption, paramsFileOption, jsonOption]
  | "list" => some [fileOption, mapsOption]
  | "check" => some [mapsOption, jsonOption]
  | "ast" => some [fileOption, mapsOption]
  | _ => none

/-- The words that help can be asked about. -/
def helpTopics : List String := ["render", "list", "check", "ast", "help"]

/-- What a request for help with some words comes to. -/
def refuseHelp : List String → Refusal
  | [] => .help
  | [topic] => if topic ∈ helpTopics then .help else .usage
  | _ => .usage

/-- What the tool can be asked to do. -/
inductive Command where
  | render (query : String) (pairs : List String) (paramsFile : Option String) (json : Bool)
  | list (file : String)
  | check (json : Bool)
  | ast (file : String)
deriving Repr, Inhabited, DecidableEq

/-- A complete request. -/
structure Request where
  envFile : Option String
  maps : Option String
  command : Command
deriving Repr, Inhabited, DecidableEq

/-- The command that a name and its options make; none if an option is missing. -/
def makeCommand? (name : String) (given : Given) : Option Command :=
  let json := (given.find? jsonOption.name).isSome
  match name with
  | "render" => (given.find? queryOption.name).map fun query =>
      .render query (given.all paramOption.name) (given.find? paramsFileOption.name) json
  | "list" => (given.find? fileOption.name).map .list
  | "check" => some (.check json)
  | "ast" => (given.find? fileOption.name).map .ast
  | _ => none

/-- The request that arguments make. -/
def Request.parse (arguments : List String) : Except Refusal Request :=
  match readOptions toolOptions [] none arguments with
  | .error e => .error e
  | .ok (_, []) => .error .usage
  | .ok (outer, name :: rest) =>
      if name = "help" then .error (refuseHelp rest)
      else match commandOptions name with
        | none => .error .usage
        | some options =>
            match readOptions (options ++ globalOptions) [] none rest with
            | .error e => .error e
            | .ok (_, _ :: _) => .error .usage
            | .ok (inner, []) =>
                match makeCommand? name inner with
                | none => .error .usage
                | some command =>
                    let envFile := (inner.find? envFileOption.name).or
                      (outer.find? envFileOption.name)
                    .ok ⟨envFile, inner.find? mapsOption.name, command⟩

end SqlMapper.CommandLine
