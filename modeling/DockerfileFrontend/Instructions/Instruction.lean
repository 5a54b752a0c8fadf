import DockerfileFrontend.Instructions.Parse

/-! # `ParseInstructionWithLinter` and `Parse`

The command word picks the parse function; an error it returns is located at the node, a
panic is not caught. `Parse` then runs over the children of the AST: `ARG`s before the first
`FROM` are the meta arguments, each `FROM` begins a stage, and every other instruction is added
to the last stage begun.
-/

namespace DockerfileFrontend.Instructions

open Go

def Outcome.mapError {α : Type} (f : GoError → GoError) : Outcome α → Outcome α
  | .error (.error e) => .error (.error (f e))
  | o => o

namespace Linted

def mapError {α : Type} (f : GoError → GoError) (x : Linted α) : Linted α :=
  ⟨x.warnings, Outcome.mapError f x.outcome⟩

@[simp] theorem mapError_warnings {α : Type} (f : GoError → GoError) (x : Linted α) :
    (x.mapError f).warnings = x.warnings := rfl

@[simp] theorem mapError_outcome {α : Type} (f : GoError → GoError) (x : Linted α) :
    (x.mapError f).outcome = Outcome.mapError f x.outcome := rfl

theorem bind_of_ok {α β : Type} {x : Linted α} {a : α} (f : α → Linted β)
    (h : x.outcome = .ok a) : x.bind f = ⟨x.warnings ++ (f a).warnings, (f a).outcome⟩ := by
  simp [Linted.bind, h]

theorem bind_of_error {α β : Type} {x : Linted α} {e : Fault} (f : α → Linted β)
    (h : x.outcome = .error e) : x.bind f = ⟨x.warnings, .error e⟩ := by
  simp [Linted.bind, h]

theorem ok_of_bind {α β : Type} {x : Linted α} {f : α → Linted β} {b : β}
    (h : (x >>= f).outcome = .ok b) : ∃ a, x.outcome = .ok a ∧ (f a).outcome = .ok b := by
  change (Linted.bind x f).outcome = _ at h
  unfold Linted.bind at h
  split at h
  · exact ⟨_, ‹_›, h⟩
  · cases h

@[simp] theorem outcome_ite {α : Type} {c : Prop} [Decidable c] {x y : Linted α} :
    (if c then x else y).outcome = if c then x.outcome else y.outcome := by
  split <;> rfl

@[simp] theorem warnings_ite {α : Type} {c : Prop} [Decidable c] {x y : Linted α} :
    (if c then x else y).warnings = if c then x.warnings else y.warnings := by
  split <;> rfl

end Linted

@[simp] theorem Outcome.mapError_ok {α : Type} (f : GoError → GoError) (a : α) :
    Outcome.mapError f (.ok a) = .ok a := rfl

@[simp] theorem Outcome.mapError_eq_ok {α : Type} (f : GoError → GoError) (o : Outcome α) (a : α) :
    Outcome.mapError f o = .ok a ↔ o = .ok a := by
  rcases o with (e | e) | b <;> simp [Outcome.mapError]

inductive InstructionWord where
  | env | maintainer | label | add | copy | «from» | onbuild | workdir | run | cmd
  | healthcheck | entrypoint | expose | user | volume | stopSignal | arg | shell
deriving DecidableEq, Repr

/-- Modelled from the spec: the lower-case command words and what they stand for. -/
def commandWords : List (List Char × InstructionWord) :=
  [("env".toList, .env), ("maintainer".toList, .maintainer), ("label".toList, .label),
    ("add".toList, .add), ("copy".toList, .copy), ("from".toList, .from),
    ("onbuild".toList, .onbuild), ("workdir".toList, .workdir), ("run".toList, .run),
    ("cmd".toList, .cmd), ("healthcheck".toList, .healthcheck),
    ("entrypoint".toList, .entrypoint), ("expose".toList, .expose), ("user".toList, .user),
    ("volume".toList, .volume), ("stopsignal".toList, .stopSignal), ("arg".toList, .arg),
    ("shell".toList, .shell)]

def validateDefinitionDescription (instruction : List Char) (argKeys descComments : List (List Char))
    (location : List Range) : Linted Unit := do
  if descComments.length = 0 ∨ argKeys.length = 0 then return
  let last ← Linted.lift (index descComments ((descComments.length : Int) - 1))
  let descCommentParts := split last ' '
  let first ← Linted.lift (index descCommentParts 0)
  if first ∈ argKeys then return
  let exampleKey ← Linted.lift (index argKeys 0)
  let exampleKey := if argKeys.length > 1 then "<arg_key>".toList else exampleKey
  Linted.run .invalidDefinitionDescription location [instruction, exampleKey]

def stageNameCasingLint (node : Node) (req : ParseRequest) : Linted Unit := do
  if !(← Linted.lift (isLowerCaseStageName req.args)) then
    let a2 ← Linted.lift (index req.args 2)
    Linted.run .stageNameCasing node.location [a2]

def fromAsCasingLint (node : Node) (req : ParseRequest) : Linted Unit := do
  if !(← Linted.lift (doesFromCaseMatchAsCase req)) then
    let a1 ← Linted.lift (index req.args 1)
    Linted.run .fromAsCasing node.location [req.command, a1]

def stageDescriptionLint (node : Node) (name : List Char) : Linted Unit :=
  if name ≠ [] then validateDefinitionDescription "FROM".toList [name] node.prevComment node.location
  else pure ()

def parseFromWithLinter (node : Node) (req : ParseRequest) : Linted Instruction := do
  stageNameCasingLint node req
  fromAsCasingLint node req
  let fromCmd ← Linted.lift (parseFrom req)
  stageDescriptionLint node fromCmd.name
  pure (.stage fromCmd)

def parseArgWithLinter (node : Node) (req : ParseRequest) : Linted Instruction := do
  let argCmd ← Linted.lift (parseArg req)
  validateDefinitionDescription "ARG".toList (argCmd.args.map KeyValuePairOptional.key)
    node.prevComment node.location
  pure (.command (.arg argCmd))

def parseWord (hs : Externals) (node : Node) (req : ParseRequest) :
    InstructionWord → Linted Instruction
  | .env => Linted.lift ((parseEnv req).map (.command ∘ .env))
  | .maintainer => do
    Linted.run .maintainerDeprecated node.location []
    Linted.lift ((parseMaintainer req).map (.command ∘ .maintainer))
  | .label => Linted.lift ((parseLabel req).map (.command ∘ .label))
  | .add => Linted.lift ((parseAdd hs req).map .command)
  | .copy => Linted.lift ((parseCopy hs req).map (.command ∘ .copy))
  | .from => parseFromWithLinter node req
  | .onbuild => Linted.lift ((parseOnBuild req).map (.command ∘ .onbuild))
  | .workdir => Linted.lift ((parseWorkdir req).map (.command ∘ .workdir))
  | .run => Linted.lift ((parseRun hs.runFeatures req).map (.command ∘ .run))
  | .cmd => Linted.lift ((parseCmd req).map (.command ∘ .cmd))
  | .healthcheck => Linted.lift ((parseHealthcheck req).map (.command ∘ .healthcheck))
  | .entrypoint => Linted.lift ((parseEntrypoint req).map (.command ∘ .entrypoint))
  | .expose => Linted.lift ((parseExpose req).map (.command ∘ .expose))
  | .user => Linted.lift ((parseUser req).map (.command ∘ .user))
  | .volume => Linted.lift ((parseVolume req).map (.command ∘ .volume))
  | .stopSignal => Linted.lift ((parseStopSignal req).map (.command ∘ .stopSignal))
  | .arg => parseArgWithLinter node req
  | .shell => Linted.lift ((parseShell req).map (.command ∘ .shell))

/-- `ParseInstructionWithLinter`: an unknown word is an `UnknownInstructionError`, and the
deferred `WithLocation` locates every returned error at the node. -/
def parseInstructionWithLinter (hs : Externals) (node : Node) : Linted Instruction :=
  Linted.mapError (fun e => .withLocation e node.location) <|
    match commandWords.lookup (toLower node.value) with
    | some word => parseWord hs node (newParseRequestFromNode node) word
    | none => Linted.lift (Outcome.fail (.unknownInstruction node.value node.startLine))

def parseInstruction (hs : Externals) (node : Node) : Outcome Instruction :=
  (parseInstructionWithLinter hs node).outcome

/-- `ParseCommand`: the instruction of a node, which must be a command; `%T` prints the Go type
of the stage `FROM` returns. -/
def parseCommand (hs : Externals) (node : Node) : Outcome Command := do
  match ← parseInstruction hs node with
  | .command c => pure c
  | .stage _ => Outcome.fail (.withLocation
      (.errorf "%T is not a command type" [.str "*instructions.Stage".toList]) node.location)

theorem ok_of_except_map {α β : Type} {x : Outcome α} {f : α → β} {b : β}
    (h : x.map f = .ok b) : ∃ a, x = .ok a ∧ f a = b := by
  rcases x with e | a
  · cases h
  · exact ⟨a, rfl, Except.ok.inj h⟩

theorem parseAdd_cases {hs : Externals} {req : ParseRequest} {c : Command}
    (h : parseAdd hs req = .ok c) : (∃ p, c = .package p) ∨ ∃ a, c = .add a := by
  obtain ⟨bf, -, h⟩ := Outcome.ok_of_bind h
  split at h
  · exact .inl ⟨_, (Except.ok.inj h).symm⟩
  · split at h
    · cases h
    · obtain ⟨_, -, h⟩ := Outcome.ok_of_bind h
      exact .inr ⟨_, (Except.ok.inj h).symm⟩

theorem parseFromWithLinter_ok {node : Node} {req : ParseRequest} {i : Instruction}
    (h : (parseFromWithLinter node req).outcome = .ok i) : ∃ s, parseFrom req = .ok s ∧ i = .stage s := by
  obtain ⟨_, -, h⟩ := Linted.ok_of_bind h
  obtain ⟨_, -, h⟩ := Linted.ok_of_bind h
  obtain ⟨s, hs, h⟩ := Linted.ok_of_bind h
  obtain ⟨_, -, h⟩ := Linted.ok_of_bind h
  exact ⟨s, hs, (Except.ok.inj h).symm⟩

theorem parseArgWithLinter_ok {node : Node} {req : ParseRequest} {i : Instruction}
    (h : (parseArgWithLinter node req).outcome = .ok i) :
    ∃ a, parseArg req = .ok a ∧ i = .command (.arg a) := by
  obtain ⟨a, ha, h⟩ := Linted.ok_of_bind h
  obtain ⟨_, _, h⟩ := Linted.ok_of_bind h
  exact ⟨a, ha, (Except.ok.inj h).symm⟩

/-- What each word returns: a `FROM` its stage, an `ARG` or a `RUN` its command, and every
other word a command of another kind. -/
theorem parseWord_ok {hs : Externals} {node : Node} {req : ParseRequest} {w : InstructionWord}
    {i : Instruction} (h : (parseWord hs node req w).outcome = .ok i) :
    (∃ s, w = .from ∧ parseFrom req = .ok s ∧ i = .stage s) ∨
    (∃ a, w = .arg ∧ parseArg req = .ok a ∧ i = .command (.arg a)) ∨
    (∃ c, w = .run ∧ parseRun hs.runFeatures req = .ok c ∧ i = .command (.run c)) ∨
    (∃ c, i = .command c ∧ (∀ a, c ≠ .arg a) ∧ ∀ r, c ≠ .run r) := by
  cases w <;> simp only [parseWord, Linted.lift_outcome] at h
  case «from» =>
    obtain ⟨s, hs, rfl⟩ := parseFromWithLinter_ok h
    exact .inl ⟨s, rfl, hs, rfl⟩
  case arg =>
    obtain ⟨a, ha, rfl⟩ := parseArgWithLinter_ok h
    exact .inr (.inl ⟨a, rfl, ha, rfl⟩)
  case run =>
    obtain ⟨c, hc, rfl⟩ := ok_of_except_map h
    exact .inr (.inr (.inl ⟨c, rfl, hc, rfl⟩))
  case add =>
    obtain ⟨c, hc, rfl⟩ := ok_of_except_map h
    refine .inr (.inr (.inr ⟨c, rfl, ?_⟩))
    rcases parseAdd_cases hc with ⟨p, rfl⟩ | ⟨a, rfl⟩ <;> simp
  case maintainer =>
    obtain ⟨_, -, h⟩ := Linted.ok_of_bind h
    obtain ⟨c, -, rfl⟩ := ok_of_except_map h
    exact .inr (.inr (.inr ⟨_, rfl, by simp, by simp⟩))
  all_goals
    obtain ⟨c, -, rfl⟩ := ok_of_except_map h
    exact .inr (.inr (.inr ⟨_, rfl, by simp, by simp⟩))

theorem parseInstructionWithLinter_ok {hs : Externals} {node : Node} {i : Instruction}
    (h : (parseInstructionWithLinter hs node).outcome = .ok i) :
    ∃ word, commandWords.lookup (toLower node.value) = some word ∧
      (parseWord hs node (newParseRequestFromNode node) word).outcome = .ok i := by
  unfold parseInstructionWithLinter at h
  split at h
  · exact ⟨_, ‹_›, by simpa using h⟩
  · simp [Outcome.fail] at h

theorem mem_of_lookup_commandWords {w : List Char} {word : InstructionWord}
    (h : commandWords.lookup w = some word) : (w, word) ∈ commandWords := by
  obtain ⟨l₁, l₂, hl, -⟩ := List.lookup_eq_some_iff.mp h
  exact hl ▸ List.mem_append_right _ (List.mem_cons_self _ _)

/-- Modelled from the spec: `CurrentStage`, the last stage begun. -/
def currentStage (stages : List Stage) : Except GoError Stage :=
  match stages.getLast? with
  | some s => .ok s
  | none => .error (.new "no build stage in current context".toList)

/-- Modelled from the spec: `stage.AddCommand(c)`. -/
def Stage.addCommand (s : Stage) (c : Command) : Stage :=
  { s with commands := s.commands ++ [c] }

/-- The body of `Parse`'s loop once the child at `location` has parsed to `cmd`: the stages and
the meta `ARG`s so far become the next ones. -/
def parseStep (location : List Range) (acc : List Stage × List ArgCommand) (cmd : Instruction) :
    Except GoError (List Stage × List ArgCommand) :=
  match acc.1, cmd with
  | [], .command (.arg a) => .ok ([], acc.2 ++ [a])
  | stages, .stage s => .ok (stages ++ [s], acc.2)
  | stages, .command c =>
    match currentStage stages with
    | .error err => .error (.withLocation err location)
    | .ok stage => .ok (stages.dropLast ++ [stage.addCommand c], acc.2)

def parseLoop (hs : Externals) :
    List Stage × List ArgCommand → List Node → Linted (List Stage × List ArgCommand)
  | acc, [] => pure acc
  | acc, n :: ns =>
    ((parseInstructionWithLinter hs n).mapError fun e => .parseError e n.startLine).bind fun cmd =>
      match parseStep n.location acc cmd with
      | .ok acc => parseLoop hs acc ns
      | .error e => Linted.lift (Outcome.fail e)

def parse (hs : Externals) (ast : Node) : Linted (List Stage × List ArgCommand) :=
  parseLoop hs ([], []) ast.children

end DockerfileFrontend.Instructions
