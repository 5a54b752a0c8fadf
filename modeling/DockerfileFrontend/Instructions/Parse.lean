import DockerfileFrontend.Instructions.BFlags
import DockerfileFrontend.Go.Regexp
import DockerfileFrontend.Go.Strconv

/-! # From AST nodes to typed instructions

One function per instruction, as in the `instructions` package. Indexing and slicing go
through `index`, `sliceTo` and `sliceFrom`, so that an access past the end of a list is a
panic of the model. The linter is a log: `Linted` records the warnings a parse reports before
it returns. `RUN` runs the hooks of the features the build compiles in, a configuration record
of `Externals`, around the network hooks, pre-hooks before the flags are read and post-hooks
after.
-/

namespace DockerfileFrontend.Instructions

open Go

def networkKey : List Char := "dockerfile/run/network".toList

/-- Modelled from the spec: a feature of `RUN` that the build compiles in, such as `--device`,
`--mount` or `--security`. Its pre-hook registers the flag `flag` and keeps a state naming it
under `key`; once the flags are read, its post-hook refuses the `RUN` with the error `check`
finds in the flag, or keeps the flag in the state, and fails with `noState` when it finds no
state at all. -/
structure RunFeature where
  key : List Char
  flag : List Char
  flagType : FlagType
  default : List Char
  check : Flag → Option GoError
  noState : GoError

/-- Modelled from the spec: the features of `RUN` as the build's configuration record, in the
order of their hooks: those before the network hooks (`--device`, `--mount`) and those after
them (`--security`), each with a key of its own. -/
structure RunFeatures where
  beforeNetwork : List RunFeature
  afterNetwork : List RunFeature
  keys_nodup : ((beforeNetwork ++ afterNetwork).map RunFeature.key).Nodup
  key_ne_network : ∀ f ∈ beforeNetwork ++ afterNetwork, f.key ≠ networkKey

def RunFeatures.networkOnly : RunFeatures := ⟨[], [], List.nodup_nil, nofun⟩

/-- What the instructions package takes from outside its own files: the moby parser's heredoc
functions, and the features of `RUN` whose hooks the build's `init` functions install. Every
result holds for any of them. -/
structure Externals where
  /-- `parser.MustParseHeredoc`: the heredoc a word opens, when it is a heredoc marker. -/
  mustParseHeredoc : List Char → Option Heredoc
  /-- `parser.ChompHeredocContent`. -/
  chompHeredocContent : List Char → List Char
  runFeatures : RunFeatures

def Outcome.ofExcept {α : Type} : Except GoError α → Outcome α
  | .ok a => .ok a
  | .error e => .error (.error e)

@[simp] theorem Outcome.ofExcept_eq_ok {α : Type} (x : Except GoError α) (a : α) :
    Outcome.ofExcept x = .ok a ↔ x = .ok a := by
  cases x <;> simp [Outcome.ofExcept]

/-- Modelled from the spec: a parse that may report to the linter, the warnings it reported and
then its outcome. -/
structure Linted (α : Type) where
  warnings : List Warning
  outcome : Outcome α

namespace Linted

def bind {α β : Type} (x : Linted α) (f : α → Linted β) : Linted β :=
  match x.outcome with
  | .ok a => ⟨x.warnings ++ (f a).warnings, (f a).outcome⟩
  | .error e => ⟨x.warnings, .error e⟩

instance : Monad Linted where
  pure a := ⟨[], .ok a⟩
  bind := Linted.bind

def lift {α : Type} (o : Outcome α) : Linted α := ⟨[], o⟩

def run (rule : LintRule) (location : List Range) (args : List (List Char)) : Linted Unit :=
  ⟨[⟨rule, location, args⟩], .ok ()⟩

@[simp] theorem pure_warnings {α : Type} (a : α) : (pure a : Linted α).warnings = [] := rfl
@[simp] theorem pure_outcome {α : Type} (a : α) : (pure a : Linted α).outcome = .ok a := rfl
@[simp] theorem lift_warnings {α : Type} (o : Outcome α) : (lift o).warnings = [] := rfl
@[simp] theorem lift_outcome {α : Type} (o : Outcome α) : (lift o).outcome = o := rfl

theorem bind_eq {α β : Type} (x : Linted α) (f : α → Linted β) :
    x >>= f = Linted.bind x f := rfl

end Linted

def errAtLeastOneArgument (command : List Char) : GoError :=
  .errorf "%s requires at least one argument" [.str command]

def errExactlyOneArgument (command : List Char) : GoError :=
  .errorf "%s requires exactly one argument" [.str command]

def errNoDestinationArgument (command : List Char) : GoError :=
  .errorf "%s requires at least two arguments, but only one was provided. Destination could not be determined"
    [.str command]

def errBadHeredoc (command option : List Char) : GoError :=
  .errorf "%s cannot accept a heredoc as %s" [.str command, .str option]

def errBlankCommandNames (command : List Char) : GoError :=
  .errorf "%s names can not be blank" [.str command]

def errTooManyArguments (command : List Char) : GoError :=
  .errorf "Bad input to %s, too many arguments" [.str command]

/-- Modelled from the spec: a non-JSON form where JSON is required is rejected. -/
def errNotJSON (command original : List Char) : GoError :=
  .errorf "%s requires the arguments to be in JSON form" [.str command, .str original]

/-- Modelled from the spec: every instruction carries its trimmed source text, its word and
its location. -/
def newWithNameAndCode (req : ParseRequest) : WithNameAndCode :=
  ⟨trimSpace req.original, req.command, req.location⟩

/-- Modelled from the spec: the shell form of a command is one string, the JSON form its list
of words; no words give no command. -/
def handleJSONArgs (args : List (List Char)) (attributes : List (List Char × Bool)) :
    List (List Char) :=
  if args = [] then []
  else if (attributes.lookup "json".toList).getD false then args
  else [join args [' ']]

def newParseRequestFromNode (node : Node) : ParseRequest :=
  ⟨node.value, nodeArgs node, node.heredocs, node.attributes, BFlags.ofArgs node.flags,
    node.original, node.location, node.prevComment⟩

def excludePatternsEnabled : Bool := false

def parentsEnabled : Bool := false

def getComment (comments : List (List Char)) (name : List Char) : List Char :=
  if name = [] then []
  else ((comments.find? fun line => (cutPrefix line (name ++ [' '])).2).map
    fun line => (cutPrefix line (name ++ [' '])).1).getD []

def parseKvpsLoop (args : List (List Char)) (cmdName : List Char) (res : List KeyValuePair)
    (j : Nat) : Outcome (List KeyValuePair) :=
  if h : j < args.length then do
    let key ← index args j
    if key.length = 0 then Outcome.fail (errBlankCommandNames cmdName) else
    let name ← index args j
    let value ← index args (j + 1)
    let delim ← index args (j + 2)
    parseKvpsLoop args cmdName (res ++ [⟨name, value, delim = []⟩]) (j + 3)
  else .ok res
termination_by args.length - j

def parseKvps (args : List (List Char)) (cmdName : List Char) : Outcome (List KeyValuePair) :=
  if args.length = 0 then Outcome.fail (errAtLeastOneArgument cmdName)
  else if args.length % 3 ≠ 0 then Outcome.fail (errTooManyArguments cmdName)
  else parseKvpsLoop args cmdName [] 0

def parseEnv (req : ParseRequest) : Outcome EnvCommand := do
  let _ ← Outcome.ofExcept req.flags.parse
  let envs ← parseKvps req.args "ENV".toList
  pure ⟨envs, newWithNameAndCode req⟩

def parseMaintainer (req : ParseRequest) : Outcome MaintainerCommand := do
  if req.args.length ≠ 1 then Outcome.fail (errExactlyOneArgument "MAINTAINER".toList) else
  let _ ← Outcome.ofExcept req.flags.parse
  let maintainer ← index req.args 0
  pure ⟨maintainer, newWithNameAndCode req⟩

def parseLabel (req : ParseRequest) : Outcome LabelCommand := do
  let _ ← Outcome.ofExcept req.flags.parse
  let labels ← parseKvps req.args "LABEL".toList
  pure ⟨labels, newWithNameAndCode req⟩

def heredocLookupOf (heredocs : List Heredoc) : List Char → Option Heredoc :=
  heredocs.foldl (fun m h => fun n => if n = h.name then some h else m n) fun _ => none

def splitSources (hs : Externals) (lookup : List Char → Option Heredoc) :
    List (List Char) × List SourceContent → List Char → List (List Char) × List SourceContent
  | (sourcePaths, sourceContents), src =>
    match hs.mustParseHeredoc src with
    | some heredoc =>
      let content := ((lookup heredoc.name).map Heredoc.content).getD []
      let content := if heredoc.chomp then hs.chompHeredocContent content else content
      (sourcePaths, sourceContents ++ [⟨heredoc.name, content, heredoc.expand⟩])
    | none => (sourcePaths ++ [src], sourceContents)

def parseSourcesAndDest (hs : Externals) (req : ParseRequest) (command : List Char) :
    Outcome SourcesAndDest := do
  let srcs ← sliceTo req.args ((req.args.length : Int) - 1)
  let dest ← index req.args ((req.args.length : Int) - 1)
  if (hs.mustParseHeredoc dest).isSome then Outcome.fail (errBadHeredoc command "a destination".toList)
  else
    let (sourcePaths, sourceContents) :=
      srcs.foldl (splitSources hs (heredocLookupOf req.heredocs)) ([], [])
    pure ⟨dest, sourcePaths, sourceContents⟩

def addFlags (flags : BFlags) : BFlags :=
  let bf := if excludePatternsEnabled then flags.addStrings "exclude".toList else flags
  let bf := bf.addString "chown".toList []
  let bf := bf.addString "chmod".toList []
  let bf := bf.addBool "link".toList false
  let bf := bf.addBool "keep-git-dir".toList false
  let bf := bf.addString "checksum".toList []
  let bf := bf.addBool "unpack".toList false
  bf.addBool "apt".toList false

def parseAdd (hs : Externals) (req : ParseRequest) : Outcome Command := do
  let bf ← Outcome.ofExcept (addFlags req.flags).parse
  if bf.value "apt".toList = "true".toList then
    pure (.package ⟨newWithNameAndCode req, req.args⟩)
  else if req.args.length < 2 then Outcome.fail (errNoDestinationArgument "ADD".toList)
  else
    let sourcesAndDest ← parseSourcesAndDest hs req "ADD".toList
    let unpack := if "unpack".toList ∈ bf.used then some (bf.value "unpack".toList == "true".toList)
      else none
    pure (.add ⟨newWithNameAndCode req, sourcesAndDest, bf.value "chown".toList,
      bf.value "chmod".toList, bf.value "link".toList = "true".toList,
      bf.value "keep-git-dir".toList = "true".toList, bf.value "checksum".toList,
      if excludePatternsEnabled then bf.stringValues "exclude".toList else [], unpack⟩)

def parseCopy (hs : Externals) (req : ParseRequest) : Outcome CopyCommand := do
  if req.args.length < 2 then Outcome.fail (errNoDestinationArgument "COPY".toList) else
  let bf := if excludePatternsEnabled then req.flags.addStrings "exclude".toList else req.flags
  let bf := if parentsEnabled then bf.addBool "parents".toList false else bf
  let bf := bf.addString "chown".toList []
  let bf := bf.addString "from".toList []
  let bf := bf.addString "chmod".toList []
  let bf := bf.addBool "link".toList false
  let bf ← Outcome.ofExcept bf.parse
  let sourcesAndDest ← parseSourcesAndDest hs req "COPY".toList
  pure ⟨newWithNameAndCode req, sourcesAndDest, bf.value "from".toList, bf.value "chown".toList,
    bf.value "chmod".toList, bf.value "link".toList = "true".toList,
    parentsEnabled && bf.value "parents".toList = "true".toList,
    if excludePatternsEnabled then bf.stringValues "exclude".toList else []⟩

/-- `^[a-z][a-z0-9-_.]*$`; after `0-9`, Perl syntax reads `-` as a character of its own. -/
def validStageName : Regexp :=
  .seq [.beginText, .charClass ⟨false, [(97, 122)]⟩,
    .star ⟨false, [(97, 122), (48, 57), (45, 45), (95, 95), (46, 46)]⟩, .endText]

def parseBuildStageName (args : List (List Char)) : Outcome (List Char) := do
  if args.length = 3 then
    let a1 ← index args 1
    if equalFold a1 "as".toList then
      let a2 ← index args 2
      let stageName := toLower a2
      if !validStageName.matchString stageName then
        return ← Outcome.fail (.errorf
          "invalid name for build stage: %q, name can't start with a number or contain symbols"
          [.str a2])
      return stageName
  if args.length ≠ 1 then Outcome.fail (.new "FROM requires either one or three arguments".toList)
  else pure []

def parseFrom (req : ParseRequest) : Outcome Stage := do
  let stageName ← parseBuildStageName req.args
  let bf := req.flags.addString "platform".toList []
  let bf ← Outcome.ofExcept bf.parse
  let baseName ← index req.args 0
  pure ⟨stageName, [], baseName, trimSpace req.original, bf.value "platform".toList,
    req.location, getComment req.comments stageName, req.command⟩

def isLowerCaseStageName (cmdArgs : List (List Char)) : Outcome Bool := do
  if cmdArgs.length ≠ 3 then return true
  let stageName ← index cmdArgs 2
  pure (stageName = toLower stageName)

def doesFromCaseMatchAsCase (req : ParseRequest) : Outcome Bool := do
  if req.args.length < 3 then return true
  let fromHasLowerCasing := req.command = toLower req.command
  let fromHasUpperCasing := req.command = toUpper req.command
  if !fromHasLowerCasing && !fromHasUpperCasing then return true
  let a1 ← index req.args 1
  if fromHasLowerCasing then pure (a1 = toLower a1) else pure (a1 = toUpper a1)

/-- A letter of `(?i)`: the class of its `unicode.SimpleFold` orbit, which for each letter of
`ONBUILD` is the letter in its two ASCII cases and nothing else. -/
def caseFoldLetter (c : Char) : Regexp :=
  .charClass ⟨false, [(c.toUpper.toNat, c.toUpper.toNat), (c.toLower.toNat, c.toLower.toNat)]⟩

def onbuildPrefix : Regexp :=
  .seq ([.beginText, .star perlSpaceClass] ++ "ONBUILD".toList.map caseFoldLetter ++
    [.star perlSpaceClass])

def parseOnBuild (req : ParseRequest) : Outcome OnbuildCommand := do
  if req.args.length = 0 then Outcome.fail (errAtLeastOneArgument "ONBUILD".toList) else
  let _ ← Outcome.ofExcept req.flags.parse
  let a0 ← index req.args 0
  let triggerInstruction := toUpper (trimSpace a0)
  if toUpper triggerInstruction = "ONBUILD".toList then
    Outcome.fail (.new "Chaining ONBUILD via `ONBUILD ONBUILD` isn't allowed".toList)
  else if toUpper triggerInstruction ∈ ["MAINTAINER".toList, "FROM".toList] then
    Outcome.fail (.errorf "%s isn't allowed as an ONBUILD trigger" [.str triggerInstruction])
  else
    let original := req.heredocs.foldl (fun o heredoc => o ++ ['\n'] ++ heredoc.content ++ heredoc.name)
      (onbuildPrefix.deleteLeadingMatch req.original)
    pure ⟨original, newWithNameAndCode req⟩

def parseWorkdir (req : ParseRequest) : Outcome WorkdirCommand := do
  if req.args.length ≠ 1 then Outcome.fail (errExactlyOneArgument "WORKDIR".toList) else
  let _ ← Outcome.ofExcept req.flags.parse
  let path ← index req.args 0
  pure ⟨path, newWithNameAndCode req⟩

/-- `parseShellDependentCommand`, which never fails; `emptyAsNil` only turns an empty command
into `nil`, which this model does not tell apart from it. -/
def parseShellDependentCommand (req : ParseRequest) (emptyAsNil : Bool) : ShellDependantCmdLine :=
  let _ := emptyAsNil
  ⟨handleJSONArgs req.args req.attributes,
    req.heredocs.map fun heredoc => ⟨heredoc.name, heredoc.content, heredoc.chomp⟩,
    !req.attribute "json".toList⟩

def networkDefault : List Char := "default".toList
def networkNone : List Char := "none".toList
def networkHost : List Char := "host".toList

def isValidNetwork (value : List Char) : Bool :=
  value ∈ [networkDefault, networkNone, networkHost]

def RunCommand.setExternalValue (cmd : RunCommand) (k : List Char) (v : ExternalValue) :
    RunCommand :=
  { cmd with externalValues := (k, v) :: cmd.externalValues.filter (·.1 ≠ k) }

def RunCommand.getExternalValue (cmd : RunCommand) (k : List Char) : Option ExternalValue :=
  cmd.externalValues.lookup k

abbrev RunHook := RunCommand × BFlags → Outcome (RunCommand × BFlags)

def runNetworkPreHook : RunHook
  | (cmd, flags) =>
    let flags := flags.addString "network".toList networkDefault
    .ok (cmd.setExternalValue networkKey (.networkState ⟨"network".toList, []⟩), flags)

/-- The post-hook of `RUN --network`. The flag the state points to is read back by name; a
pointer that `AddString` left `nil` is dereferenced. -/
def runNetworkPostHook : RunHook
  | (cmd, flags) =>
    match cmd.getExternalValue networkKey with
    | some (.networkState st) =>
      match flags.lookup st.flag with
      | none => .error (.panic .nilDereference)
      | some flag =>
        if !isValidNetwork flag.value then
          Outcome.fail (.errorf "invalid network mode %q" [.str flag.value])
        else .ok (cmd.setExternalValue networkKey (.networkState { st with networkMode := flag.value }),
          flags)
    | _ => .error (.panic (.typeAssertion "*instructions.networkState"))

namespace RunFeature

def register (flags : BFlags) (f : RunFeature) : BFlags := flags.addFlag f.flag f.flagType f.default

/-- Modelled from the spec: a feature's pre-hook. -/
def preHook (f : RunFeature) : RunHook
  | (cmd, flags) => .ok (cmd.setExternalValue f.key (.featureState ⟨f.flag, none⟩), register flags f)

/-- Modelled from the spec: a feature's post-hook; a state of another kind under its key fails
the type assertion of the state. -/
def postHook (f : RunFeature) : RunHook
  | (cmd, flags) =>
    match cmd.getExternalValue f.key with
    | some (.featureState st) =>
      match flags.lookup st.flag with
      | none => .error (.panic .nilDereference)
      | some flag =>
        match f.check flag with
        | some e => Outcome.fail e
        | none => .ok (cmd.setExternalValue f.key (.featureState ⟨st.flag, some flag⟩), flags)
    | some _ => .error (.panic (.typeAssertion "feature state"))
    | none => Outcome.fail f.noState

end RunFeature

def devicesKey : List Char := "dockerfile/run/devices".toList
def mountsKey : List Char := "dockerfile/run/mounts".toList
def securityKey : List Char := "dockerfile/run/security".toList

def securityInsecure : List Char := "insecure".toList
def securitySandbox : List Char := "sandbox".toList

def isValidSecurity (value : List Char) : Bool :=
  value ∈ [securityInsecure, securitySandbox]

/-- Modelled from the spec: `RUN --device`, each value read by `ParseDevice`, which stands here
as the error it returns, if any. -/
def runDeviceFeature (parseDevice : List Char → Option GoError) : RunFeature :=
  ⟨devicesKey, "device".toList, .stringsType, [], fun flag => flag.stringValues.findSome? parseDevice,
    .errorf "no device state" []⟩

/-- Modelled from the spec: `RUN --mount`, each value read by `parseMount` as `ParseDevice` is
for devices. -/
def runMountFeature (parseMount : List Char → Option GoError) : RunFeature :=
  ⟨mountsKey, "mount".toList, .stringsType, [], fun flag => flag.stringValues.findSome? parseMount,
    .errorf "no mount state" []⟩

/-- Modelled from the spec: `RUN --security`, `sandbox` unless the flag says `insecure`. -/
def runSecurityFeature : RunFeature :=
  ⟨securityKey, "security".toList, .stringType, securitySandbox,
    fun flag => if isValidSecurity flag.value then none
      else some (.errorf "security %q is not valid" [.str flag.value]),
    .errorf "no security state" []⟩

/-- Modelled from the spec: the features of a build, in the order of the files whose `init`
functions register them: `--device` and `--mount` before `--network`, and `--security`, which
only a build with the `dfrunsecurity` tag has, after it. -/
def RunFeatures.ofBuild (parseDevice parseMount : List Char → Option GoError) (dfrunsecurity : Bool) :
    RunFeatures where
  beforeNetwork := [runDeviceFeature parseDevice, runMountFeature parseMount]
  afterNetwork := if dfrunsecurity then [runSecurityFeature] else []
  keys_nodup := by
    cases dfrunsecurity
    exacts [(by decide : [devicesKey, mountsKey].Nodup),
      (by decide : [devicesKey, mountsKey, securityKey].Nodup)]
  key_ne_network f hf := by
    have hKey := List.mem_map_of_mem RunFeature.key hf
    cases dfrunsecurity
    · exact (by decide : ∀ k ∈ [devicesKey, mountsKey], k ≠ networkKey) _ hKey
    · exact (by decide : ∀ k ∈ [devicesKey, mountsKey, securityKey], k ≠ networkKey) _ hKey

def parseRunPreHooks (features : RunFeatures) : List RunHook :=
  features.beforeNetwork.map RunFeature.preHook ++
    runNetworkPreHook :: features.afterNetwork.map RunFeature.preHook

def parseRunPostHooks (features : RunFeatures) : List RunHook :=
  features.beforeNetwork.map RunFeature.postHook ++
    runNetworkPostHook :: features.afterNetwork.map RunFeature.postHook

def runHooks : List RunHook → RunCommand × BFlags → Outcome (RunCommand × BFlags)
  | [], x => .ok x
  | fn :: fns, x => do runHooks fns (← fn x)

def RunCommand.empty : RunCommand := ⟨⟨[], [], false⟩, [], ⟨[], [], []⟩, []⟩

def parseRun (features : RunFeatures) (req : ParseRequest) : Outcome RunCommand := do
  let (cmd, flags) ← runHooks (parseRunPreHooks features) (RunCommand.empty, req.flags)
  let flags ← Outcome.ofExcept flags.parse
  let cmd := { cmd with
    flagsUsed := flags.usedFlags
    shellDependantCmdLine := parseShellDependentCommand req false
    withNameAndCode := newWithNameAndCode req }
  let (cmd, _) ← runHooks (parseRunPostHooks features) (cmd, flags)
  pure cmd

def getNetwork (cmd : RunCommand) : Outcome (List Char) :=
  match cmd.getExternalValue networkKey with
  | some (.networkState st) => .ok st.networkMode
  | _ => .error (.panic (.typeAssertion "*instructions.networkState"))

def parseCmd (req : ParseRequest) : Outcome CmdCommand := do
  let _ ← Outcome.ofExcept req.flags.parse
  pure ⟨parseShellDependentCommand req false, newWithNameAndCode req⟩

def parseEntrypoint (req : ParseRequest) : Outcome EntrypointCommand := do
  let _ ← Outcome.ofExcept req.flags.parse
  pure ⟨parseShellDependentCommand req true, newWithNameAndCode req⟩

def minimumDuration : Int := 1000000

def parseOptInterval (flags : BFlags) (name : List Char) : Except GoError Int :=
  let s := flags.value name
  if s = [] then .ok 0 else
  match parseDuration s with
  | .error e => .error e
  | .ok d =>
    if d = 0 then .ok 0
    else if d < minimumDuration then
      .error (.errorf "Interval %#v cannot be less than %s" [.str name, .str "1ms".toList])
    else .ok d

def parseRetries (flags : BFlags) : Except GoError Int :=
  let s := flags.value "retries".toList
  if s = [] then .ok 0 else
  match parseInt s 32 with
  | .error e => .error e
  | .ok retries =>
    if retries < 0 then .error (.errorf "--retries cannot be negative (%d)" [.int retries])
    else .ok retries

def healthcheckFlags (flags : BFlags) : BFlags :=
  let flags := flags.addString "interval".toList []
  let flags := flags.addString "timeout".toList []
  let flags := flags.addString "start-period".toList []
  let flags := flags.addString "start-interval".toList []
  flags.addString "retries".toList []

def parseHealthcheck (req : ParseRequest) : Outcome HealthCheckCommand := do
  if req.args.length = 0 then Outcome.fail (errAtLeastOneArgument "HEALTHCHECK".toList) else
  let a0 ← index req.args 0
  let typ := toUpper a0
  let args ← sliceFrom req.args 1
  if typ = "NONE".toList then
    if args.length ≠ 0 then Outcome.fail (.new "HEALTHCHECK NONE takes no arguments".toList)
    else pure ⟨newWithNameAndCode req, ⟨[typ], 0, 0, 0, 0, 0⟩⟩
  else
    let flags ← Outcome.ofExcept (healthcheckFlags req.flags).parse
    if typ ≠ "CMD".toList then
      Outcome.fail (.errorf "Unknown type %#v in HEALTHCHECK (try CMD)" [.str typ])
    else
      let cmdSlice := handleJSONArgs args req.attributes
      if cmdSlice.length = 0 then
        Outcome.fail (.new "Missing command after HEALTHCHECK CMD".toList)
      else
        let typ := if !req.attribute "json".toList then "CMD-SHELL".toList else typ
        let interval ← Outcome.ofExcept (parseOptInterval flags "interval".toList)
        let timeout ← Outcome.ofExcept (parseOptInterval flags "timeout".toList)
        let startPeriod ← Outcome.ofExcept (parseOptInterval flags "start-period".toList)
        let startInterval ← Outcome.ofExcept (parseOptInterval flags "start-interval".toList)
        let retries ← Outcome.ofExcept (parseRetries flags)
        pure ⟨newWithNameAndCode req,
          ⟨typ :: cmdSlice, interval, timeout, startPeriod, startInterval, retries⟩⟩

def parseExpose (req : ParseRequest) : Outcome ExposeCommand := do
  if req.args.length = 0 then Outcome.fail (errAtLeastOneArgument "EXPOSE".toList) else
  let _ ← Outcome.ofExcept req.flags.parse
  pure ⟨req.args.mergeSort fun a b => !lessString b a, newWithNameAndCode req⟩

def parseUser (req : ParseRequest) : Outcome UserCommand := do
  if req.args.length ≠ 1 then Outcome.fail (errExactlyOneArgument "USER".toList) else
  let _ ← Outcome.ofExcept req.flags.parse
  let user ← index req.args 0
  pure ⟨user, newWithNameAndCode req⟩

def trimVolumes : List (List Char) → Except GoError (List (List Char))
  | [] => .ok []
  | v :: vs =>
    if trimSpace v = [] then .error (.new "VOLUME specified can not be an empty string".toList)
    else (trimVolumes vs).map (trimSpace v :: ·)

def parseVolume (req : ParseRequest) : Outcome VolumeCommand := do
  if req.args.length = 0 then Outcome.fail (errAtLeastOneArgument "VOLUME".toList) else
  let _ ← Outcome.ofExcept req.flags.parse
  let volumes ← Outcome.ofExcept (trimVolumes req.args)
  pure ⟨newWithNameAndCode req, volumes⟩

def parseStopSignal (req : ParseRequest) : Outcome StopSignalCommand := do
  if req.args.length ≠ 1 then Outcome.fail (errExactlyOneArgument "STOPSIGNAL".toList) else
  let sig ← index req.args 0
  pure ⟨sig, newWithNameAndCode req⟩

def parseArgToken (comments : List (List Char)) (arg : List Char) : Outcome KeyValuePairOptional := do
  if containsChar arg '=' then
    let parts := splitN2 arg '='
    let key ← index parts 0
    if key.length = 0 then Outcome.fail (errBlankCommandNames "ARG".toList) else
    let value ← index parts 1
    pure ⟨key, some value, getComment comments key⟩
  else pure ⟨arg, none, getComment comments arg⟩

def parseArg (req : ParseRequest) : Outcome ArgCommand := do
  if req.args.length < 1 then Outcome.fail (errAtLeastOneArgument "ARG".toList) else
  let pairs ← req.args.mapM (parseArgToken req.comments)
  pure ⟨pairs, newWithNameAndCode req⟩

def parseShell (req : ParseRequest) : Outcome ShellCommand := do
  let _ ← Outcome.ofExcept req.flags.parse
  let shellSlice := handleJSONArgs req.args req.attributes
  if shellSlice.length = 0 then Outcome.fail (errAtLeastOneArgument "SHELL".toList)
  else if req.attribute "json".toList then pure ⟨shellSlice, newWithNameAndCode req⟩
  else Outcome.fail (errNotJSON "SHELL".toList req.original)

end DockerfileFrontend.Instructions
