import DockerfileFrontend.Go.Basic

/-! # Dockerfile nodes and typed instructions

`Node` is the parser's `parser.Node`: the command word, the chain of argument nodes through
`next`, sub-instructions as `children`, attached heredocs and the flags written before the
arguments. The command structures below are those of the `instructions` package, each with
the fields its parse function fills.
-/

namespace DockerfileFrontend.Instructions

open Go

/-- `parser.Heredoc`. -/
structure Heredoc where
  name : List Char
  fileDescriptor : Nat
  expand : Bool
  chomp : Bool
  content : List Char
deriving DecidableEq, Repr

/-- `parser.Node`. -/
structure Node where
  value : List Char
  next : Option Node
  children : List Node
  heredocs : List Heredoc
  attributes : List (List Char × Bool)
  original : List Char
  flags : List (List Char)
  startLine : Nat
  endLine : Nat
  prevComment : List (List Char)

def Node.location (node : Node) : List Range :=
  [⟨⟨node.startLine, 0⟩, ⟨node.endLine, 0⟩⟩]

/-- `nodeArgs`: the values along the `next` chain; an argument node with one child stands for
that sub-instruction, its word and its own arguments. -/
def nodeArgs : Node → List (List Char)
  | ⟨_, none, _, _, _, _, _, _, _, _⟩ => []
  | ⟨_, some ⟨v, n, [], h, a, o, f, s, e, p⟩, _, _, _, _, _, _, _, _⟩ =>
    v :: nodeArgs ⟨v, n, [], h, a, o, f, s, e, p⟩
  | ⟨_, some ⟨v, n, [c], h, a, o, f, s, e, p⟩, _, _, _, _, _, _, _, _⟩ =>
    (c.value :: nodeArgs c) ++ nodeArgs ⟨v, n, [c], h, a, o, f, s, e, p⟩
  | ⟨_, some ⟨v, n, c :: d :: cs, h, a, o, f, s, e, p⟩, _, _, _, _, _, _, _, _⟩ =>
    nodeArgs ⟨v, n, c :: d :: cs, h, a, o, f, s, e, p⟩

inductive FlagType where
  | boolType
  | stringType
  | stringsType
deriving DecidableEq, Repr

/-- `Flag`: its name, type, and the value read for it. -/
structure Flag where
  name : List Char
  flagType : FlagType
  value : List Char
  stringValues : List (List Char)
deriving DecidableEq, Repr

/-- `BFlags`: the flags written on the instruction, the flags registered by its parser, the
ones used so far and the error of a bad registration. -/
structure BFlags where
  args : List (List Char)
  flags : List Flag
  used : List (List Char)
  err : Option GoError
deriving DecidableEq, Repr

/-- `parseRequest`. -/
structure ParseRequest where
  command : List Char
  args : List (List Char)
  heredocs : List Heredoc
  attributes : List (List Char × Bool)
  flags : BFlags
  original : List Char
  location : List Range
  comments : List (List Char)

def ParseRequest.attribute (req : ParseRequest) (key : List Char) : Bool :=
  (req.attributes.lookup key).getD false

structure WithNameAndCode where
  code : List Char
  name : List Char
  location : List Range
deriving DecidableEq, Repr

structure KeyValuePair where
  key : List Char
  value : List Char
  noDelim : Bool
deriving DecidableEq, Repr

structure KeyValuePairOptional where
  key : List Char
  value : Option (List Char)
  comment : List Char
deriving DecidableEq, Repr

structure SourceContent where
  path : List Char
  data : List Char
  expand : Bool
deriving DecidableEq, Repr

structure SourcesAndDest where
  destPath : List Char
  sourcePaths : List (List Char)
  sourceContents : List SourceContent
deriving DecidableEq, Repr

structure ShellInlineFile where
  name : List Char
  data : List Char
  chomp : Bool
deriving DecidableEq, Repr

structure ShellDependantCmdLine where
  cmdLine : List (List Char)
  files : List ShellInlineFile
  prependShell : Bool
deriving DecidableEq, Repr

/-- The state the network hooks keep on a `RUN`: the flag they registered, by name, and the
mode read from it. -/
structure NetworkState where
  flag : List Char
  networkMode : List Char
deriving DecidableEq, Repr

/-- Modelled from the spec: the state a `RUN` feature's hooks keep, the flag its pre-hook
registered and, once its post-hook has accepted it, the flag as read. -/
structure FeatureState where
  flag : List Char
  read : Option Flag
deriving DecidableEq, Repr

inductive ExternalValue where
  | networkState (st : NetworkState)
  | featureState (st : FeatureState)
deriving DecidableEq, Repr

/-- `dockerspec.HealthcheckConfig`; durations in nanoseconds. -/
structure HealthcheckConfig where
  test : List (List Char)
  interval : Int
  timeout : Int
  startPeriod : Int
  startInterval : Int
  retries : Int
deriving DecidableEq, Repr

structure EnvCommand where
  env : List KeyValuePair
  withNameAndCode : WithNameAndCode
deriving DecidableEq, Repr

structure MaintainerCommand where
  maintainer : List Char
  withNameAndCode : WithNameAndCode
deriving DecidableEq, Repr

structure LabelCommand where
  labels : List KeyValuePair
  withNameAndCode : WithNameAndCode
deriving DecidableEq, Repr

structure AddCommand where
  withNameAndCode : WithNameAndCode
  sourcesAndDest : SourcesAndDest
  chown : List Char
  chmod : List Char
  link : Bool
  keepGitDir : Bool
  checksum : List Char
  excludePatterns : List (List Char)
  unpack : Option Bool
deriving DecidableEq, Repr

structure CopyCommand where
  withNameAndCode : WithNameAndCode
  sourcesAndDest : SourcesAndDest
  «from» : List Char
  chown : List Char
  chmod : List Char
  link : Bool
  parents : Bool
  excludePatterns : List (List Char)
deriving DecidableEq, Repr

/-- `PackageCommand`, the `ADD --apt` instruction. -/
structure PackageCommand where
  withNameAndCode : WithNameAndCode
  packageNames : List (List Char)
deriving DecidableEq, Repr

structure OnbuildCommand where
  expression : List Char
  withNameAndCode : WithNameAndCode
deriving DecidableEq, Repr

structure WorkdirCommand where
  path : List Char
  withNameAndCode : WithNameAndCode
deriving DecidableEq, Repr

structure RunCommand where
  shellDependantCmdLine : ShellDependantCmdLine
  flagsUsed : List (List Char)
  withNameAndCode : WithNameAndCode
  externalValues : List (List Char × ExternalValue)
deriving DecidableEq, Repr

structure CmdCommand where
  shellDependantCmdLine : ShellDependantCmdLine
  withNameAndCode : WithNameAndCode
deriving DecidableEq, Repr

structure EntrypointCommand where
  shellDependantCmdLine : ShellDependantCmdLine
  withNameAndCode : WithNameAndCode
deriving DecidableEq, Repr

structure HealthCheckCommand where
  withNameAndCode : WithNameAndCode
  health : HealthcheckConfig
deriving DecidableEq, Repr

structure ExposeCommand where
  ports : List (List Char)
  withNameAndCode : WithNameAndCode
deriving DecidableEq, Repr

structure UserCommand where
  user : List Char
  withNameAndCode : WithNameAndCode
deriving DecidableEq, Repr

structure VolumeCommand where
  withNameAndCode : WithNameAndCode
  volumes : List (List Char)
deriving DecidableEq, Repr

structure StopSignalCommand where
  signal : List Char
  withNameAndCode : WithNameAndCode
deriving DecidableEq, Repr

structure ArgCommand where
  args : List KeyValuePairOptional
  withNameAndCode : WithNameAndCode
deriving DecidableEq, Repr

structure ShellCommand where
  shell : List (List Char)
  withNameAndCode : WithNameAndCode
deriving DecidableEq, Repr

/-- Modelled from the spec: the commands of a stage, every instruction but `FROM`, each a
structure of the instructions package with the fields its parse function fills. -/
inductive Command where
  | env (c : EnvCommand)
  | maintainer (c : MaintainerCommand)
  | label (c : LabelCommand)
  | add (c : AddCommand)
  | copy (c : CopyCommand)
  | package (c : PackageCommand)
  | onbuild (c : OnbuildCommand)
  | workdir (c : WorkdirCommand)
  | run (c : RunCommand)
  | cmd (c : CmdCommand)
  | healthcheck (c : HealthCheckCommand)
  | entrypoint (c : EntrypointCommand)
  | expose (c : ExposeCommand)
  | user (c : UserCommand)
  | volume (c : VolumeCommand)
  | stopSignal (c : StopSignalCommand)
  | arg (c : ArgCommand)
  | shell (c : ShellCommand)
deriving DecidableEq, Repr

/-- `Stage`, the instruction `FROM` begins. -/
structure Stage where
  name : List Char
  commands : List Command
  baseName : List Char
  sourceCode : List Char
  platform : List Char
  location : List Range
  comment : List Char
  origCmd : List Char
deriving DecidableEq, Repr

inductive Instruction where
  | stage (s : Stage)
  | command (c : Command)
deriving DecidableEq, Repr

inductive LintRule where
  | maintainerDeprecated
  | stageNameCasing
  | fromAsCasing
  | invalidDefinitionDescription
deriving DecidableEq, Repr

/-- `lint.Run(rule, location, rule.Format(args...))`. -/
structure Warning where
  rule : LintRule
  location : List Range
  args : List (List Char)
deriving DecidableEq, Repr

end DockerfileFrontend.Instructions
