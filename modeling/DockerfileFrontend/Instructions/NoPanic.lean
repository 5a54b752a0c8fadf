import DockerfileFrontend.Instructions.Instruction
import DockerfileFrontend.Instructions.Run

/-! # `ParseInstructionWithLinter` never panics

Every index and slice of the instruction parsers is guarded by a length check made before it,
and whatever features of `RUN` the build compiles in, each post-hook finds the state and the
flag its pre-hook left. So whatever the node, the parse returns an instruction or an error,
never a runtime panic, and every `RUN` it returns carries a valid network mode.
-/

namespace DockerfileFrontend.Instructions

open Go

namespace Linted

variable {α β : Type}

@[simp] theorem noPanic_bind {x : Linted α} {f : α → Linted β} :
    (x >>= f).outcome.NoPanic ↔ x.outcome.NoPanic ∧ ∀ a, x.outcome = .ok a → (f a).outcome.NoPanic := by
  show (Linted.bind x f).outcome.NoPanic ↔ _
  unfold Linted.bind
  rcases x.outcome with (e | e) | a <;> simp [Outcome.NoPanic]

@[simp] theorem noPanic_ite {c : Prop} [Decidable c] {x y : Linted α} :
    (if c then x else y).outcome.NoPanic ↔ (c → x.outcome.NoPanic) ∧ (¬c → y.outcome.NoPanic) := by
  split <;> simp [*]

@[simp] theorem noPanic_run (rule : LintRule) (location : List Range) (args : List (List Char)) :
    (run rule location args).outcome.NoPanic := trivial

end Linted

@[simp] theorem Outcome.noPanic_mapError {α : Type} (f : GoError → GoError) (o : Outcome α) :
    (Outcome.mapError f o).NoPanic ↔ o.NoPanic := by
  rcases o with (e | e) | a <;> simp [Outcome.mapError, Outcome.NoPanic]

@[simp] theorem noPanic_ofExcept {α : Type} (x : Except GoError α) :
    (Outcome.ofExcept x).NoPanic := by
  cases x <;> trivial

theorem noPanic_parseKvpsLoop (args : List (List Char)) (cmdName : List Char)
    (res : List KeyValuePair) (j : Nat) (h3 : args.length % 3 = 0) (hj : j % 3 = 0) :
    (parseKvpsLoop args cmdName res j).NoPanic := by
  induction res, j using parseKvpsLoop.induct args cmdName with
  | case1 res j hlt ih =>
    rw [parseKvpsLoop, dif_pos hlt]
    simp only [Outcome.noPanic_bind, noPanic_index]
    refine ⟨by omega, fun _ _ => ?_⟩
    split
    · simp
    · simp only [Outcome.noPanic_bind, noPanic_index]
      refine ⟨by omega, fun _ _ => ⟨by omega, fun _ _ => ⟨by omega, fun _ _ => ih _ _ _ (by omega)⟩⟩⟩
  | case2 res j hge => rw [parseKvpsLoop, dif_neg hge]; trivial

theorem noPanic_parseKvps (args : List (List Char)) (cmdName : List Char) :
    (parseKvps args cmdName).NoPanic := by
  unfold parseKvps
  split
  · simp
  · split
    · simp
    · exact noPanic_parseKvpsLoop _ _ _ _ (by omega) rfl

theorem noPanic_parseSourcesAndDest (hs : Externals) (req : ParseRequest) (command : List Char)
    (h : 0 < req.args.length) : (parseSourcesAndDest hs req command).NoPanic := by
  simp only [parseSourcesAndDest, Outcome.noPanic_bind, noPanic_sliceTo, noPanic_index]
  refine ⟨by omega, fun _ _ => ⟨by omega, fun _ _ => ?_⟩⟩
  split <;> simp

theorem noPanic_parseAdd (hs : Externals) (req : ParseRequest) :
    (parseAdd hs req).NoPanic := by
  simp only [parseAdd, Outcome.noPanic_bind, noPanic_ofExcept, true_and]
  intro bf _
  split
  · simp
  · split
    · simp
    · simp only [Outcome.noPanic_bind]
      exact ⟨noPanic_parseSourcesAndDest hs req _ (by omega), fun _ _ => trivial⟩

theorem noPanic_parseCopy (hs : Externals) (req : ParseRequest) :
    (parseCopy hs req).NoPanic := by
  unfold parseCopy
  split
  · simp
  · simp only [Outcome.noPanic_bind, noPanic_ofExcept, true_and]
    exact fun _ _ => ⟨noPanic_parseSourcesAndDest hs req _ (by omega), fun _ _ => trivial⟩

theorem noPanic_parseEnv (req : ParseRequest) : (parseEnv req).NoPanic := by
  simp [parseEnv, noPanic_parseKvps]

theorem noPanic_parseLabel (req : ParseRequest) : (parseLabel req).NoPanic := by
  simp [parseLabel, noPanic_parseKvps]

theorem noPanic_parseMaintainer (req : ParseRequest) : (parseMaintainer req).NoPanic := by
  simp +contextual [parseMaintainer]

theorem noPanic_parseBuildStageName (args : List (List Char)) :
    (parseBuildStageName args).NoPanic := by
  simp only [parseBuildStageName, Outcome.noPanic_bind, Outcome.noPanic_ite, noPanic_index,
    Outcome.noPanic_pure, Outcome.noPanic_fail, implies_true, and_true, true_and]
  intro h
  exact ⟨by omega, fun _ _ _ => by omega⟩

theorem length_of_parseBuildStageName {args : List (List Char)} {name : List Char}
    (h : parseBuildStageName args = .ok name) : 0 < args.length := by
  by_contra hn
  have h0 : args.length = 0 := by omega
  simp [parseBuildStageName, h0, Outcome.fail] at h

theorem noPanic_parseFrom (req : ParseRequest) : (parseFrom req).NoPanic := by
  simp only [parseFrom, Outcome.noPanic_bind, noPanic_parseBuildStageName, noPanic_ofExcept,
    noPanic_index, true_and]
  intro _ h _ _
  exact ⟨by have := length_of_parseBuildStageName h; omega, fun _ _ => trivial⟩

theorem noPanic_parseOnBuild (req : ParseRequest) : (parseOnBuild req).NoPanic := by
  simp only [parseOnBuild, Outcome.noPanic_bind, Outcome.noPanic_ite, noPanic_index,
    Outcome.noPanic_pure, Outcome.noPanic_fail, noPanic_ofExcept, implies_true, and_true, true_and]
  intros
  omega

theorem noPanic_parseHealthcheck (req : ParseRequest) : (parseHealthcheck req).NoPanic := by
  unfold parseHealthcheck
  split
  · simp
  · simp only [Outcome.noPanic_bind, noPanic_index, noPanic_sliceFrom]
    refine ⟨by omega, fun _ _ => ⟨by omega, fun _ _ => ?_⟩⟩
    simp only [Outcome.noPanic_bind, noPanic_ofExcept, Outcome.noPanic_ite, Outcome.noPanic_fail,
      Outcome.noPanic_pure, implies_true, and_self, true_and]

theorem noPanic_parseWorkdir (req : ParseRequest) : (parseWorkdir req).NoPanic := by
  simp +contextual [parseWorkdir]

theorem noPanic_parseUser (req : ParseRequest) : (parseUser req).NoPanic := by
  simp +contextual [parseUser]

theorem noPanic_parseStopSignal (req : ParseRequest) : (parseStopSignal req).NoPanic := by
  simp +contextual [parseStopSignal]

theorem noPanic_parseCmd (req : ParseRequest) : (parseCmd req).NoPanic := by
  simp [parseCmd]

theorem noPanic_parseEntrypoint (req : ParseRequest) : (parseEntrypoint req).NoPanic := by
  simp [parseEntrypoint]

theorem noPanic_parseExpose (req : ParseRequest) : (parseExpose req).NoPanic := by
  simp [parseExpose]

theorem noPanic_parseVolume (req : ParseRequest) : (parseVolume req).NoPanic := by
  simp [parseVolume]

theorem noPanic_parseShell (req : ParseRequest) : (parseShell req).NoPanic := by
  simp [parseShell]

theorem noPanic_parseArgToken (comments : List (List Char)) (arg : List Char) :
    (parseArgToken comments arg).NoPanic := by
  simp only [parseArgToken, Outcome.noPanic_bind, Outcome.noPanic_ite, noPanic_index,
    Outcome.noPanic_pure, Outcome.noPanic_fail, implies_true, and_true, true_and]
  intro h
  have hLen : (splitN2 arg '=').length = 2 := by
    rw [splitN2, if_pos (show arg.contains '=' = true from h)]
    rfl
  rw [hLen]
  exact ⟨by omega, fun _ _ _ => by omega⟩

theorem noPanic_mapM {α β : Type} (f : α → Outcome β) (hf : ∀ a, (f a).NoPanic) :
    ∀ xs : List α, (xs.mapM f).NoPanic
  | [] => trivial
  | x :: xs => by
    rw [List.mapM_cons]
    simp only [Outcome.noPanic_bind, hf, true_and]
    exact fun _ _ => ⟨noPanic_mapM f hf xs, fun _ _ => trivial⟩

theorem noPanic_parseArg (req : ParseRequest) : (parseArg req).NoPanic := by
  unfold parseArg
  split
  · simp
  · simp only [Outcome.noPanic_bind]
    exact ⟨noPanic_mapM _ (noPanic_parseArgToken req.comments) _, fun _ _ => trivial⟩

theorem isLowerCaseStageName_length {args : List (List Char)}
    (h : isLowerCaseStageName args = .ok false) : args.length = 3 := by
  by_contra hn
  simp [isLowerCaseStageName, hn, pure, Except.pure] at h

theorem noPanic_isLowerCaseStageName (args : List (List Char)) :
    (isLowerCaseStageName args).NoPanic := by
  simp +contextual [isLowerCaseStageName]

theorem noPanic_doesFromCaseMatchAsCase (req : ParseRequest) :
    (doesFromCaseMatchAsCase req).NoPanic := by
  simp only [doesFromCaseMatchAsCase, Outcome.noPanic_bind, Outcome.noPanic_ite, noPanic_index,
    Outcome.noPanic_pure, implies_true, and_true, true_and]
  intros
  omega

theorem noPanic_parseRun (features : RunFeatures) (req : ParseRequest) :
    (parseRun features req).NoPanic := by
  rcases parseRun_cases features req with ⟨e, he⟩ | ⟨_, _, he, -⟩ <;> simp [he]

/-- Every `RUN` that parses holds the network state of the pre-hook, with a valid mode. -/
theorem parseRun_network {features : RunFeatures} {req : ParseRequest} {cmd : RunCommand}
    (h : parseRun features req = .ok cmd) :
    ∃ mode, cmd.getExternalValue networkKey = some (.networkState ⟨"network".toList, mode⟩) ∧
      isValidNetwork mode := by
  rcases parseRun_cases features req with ⟨e, he⟩ | ⟨cmd', mode, he, hNet, hv⟩
  · simp [he, Outcome.fail] at h
  · rw [he] at h
    cases h
    exact ⟨mode, hNet, hv⟩

theorem noPanic_validateDefinitionDescription (instruction : List Char)
    (argKeys descComments : List (List Char)) (location : List Range) :
    (validateDefinitionDescription instruction argKeys descComments location).outcome.NoPanic := by
  simp only [validateDefinitionDescription, Linted.noPanic_bind, Linted.noPanic_ite,
    Linted.lift_outcome, Linted.pure_outcome, noPanic_index, Linted.noPanic_run,
    Outcome.noPanic_pure, Outcome.noPanic_ok, true_and, implies_true, and_true, not_or]
  intro ⟨hComments, hKeys⟩ _ _
  exact ⟨by omega, fun _ _ => ⟨⟨le_rfl, by simp [List.length_pos]⟩, fun _ _ _ _ _ => ⟨le_rfl, by omega⟩⟩⟩

theorem doesFromCaseMatchAsCase_length {req : ParseRequest}
    (h : doesFromCaseMatchAsCase req = .ok false) : 3 ≤ req.args.length := by
  by_contra hn
  simp [doesFromCaseMatchAsCase, show req.args.length < 3 by omega, pure, Except.pure] at h

theorem noPanic_stageNameCasingLint (node : Node) (req : ParseRequest) :
    (stageNameCasingLint node req).outcome.NoPanic := by
  simp +contextual [stageNameCasingLint, noPanic_isLowerCaseStageName]
  intro h
  have := isLowerCaseStageName_length h
  omega

theorem noPanic_fromAsCasingLint (node : Node) (req : ParseRequest) :
    (fromAsCasingLint node req).outcome.NoPanic := by
  simp +contextual [fromAsCasingLint, noPanic_doesFromCaseMatchAsCase]
  intro h
  have := doesFromCaseMatchAsCase_length h
  omega

theorem noPanic_parseFromWithLinter (node : Node) (req : ParseRequest) :
    (parseFromWithLinter node req).outcome.NoPanic := by
  simp [parseFromWithLinter, stageDescriptionLint, noPanic_stageNameCasingLint,
    noPanic_fromAsCasingLint, noPanic_parseFrom, noPanic_validateDefinitionDescription]

theorem noPanic_parseArgWithLinter (node : Node) (req : ParseRequest) :
    (parseArgWithLinter node req).outcome.NoPanic := by
  simp [parseArgWithLinter, noPanic_parseArg, noPanic_validateDefinitionDescription]

theorem noPanic_parseWord (hs : Externals) (node : Node) (req : ParseRequest)
    (w : InstructionWord) : (parseWord hs node req w).outcome.NoPanic := by
  cases w <;> simp [parseWord, noPanic_parseEnv, noPanic_parseMaintainer, noPanic_parseLabel,
    noPanic_parseAdd, noPanic_parseCopy, noPanic_parseFromWithLinter, noPanic_parseOnBuild,
    noPanic_parseWorkdir, noPanic_parseRun, noPanic_parseCmd, noPanic_parseHealthcheck,
    noPanic_parseEntrypoint, noPanic_parseExpose, noPanic_parseUser, noPanic_parseVolume,
    noPanic_parseStopSignal, noPanic_parseArgWithLinter, noPanic_parseShell]

theorem noPanic_parseInstructionWithLinter (hs : Externals) (node : Node) :
    (parseInstructionWithLinter hs node).outcome.NoPanic := by
  unfold parseInstructionWithLinter
  split <;> simp [noPanic_parseWord]

/-- For every node, `ParseInstructionWithLinter` returns an instruction or an error, never a
panic; a `RUN` it returns holds the pre-hook's network state, which `GetNetwork` reads as one
of the three valid modes. -/
theorem parseInstructionWithLinter_never_panics (hs : Externals) (node : Node) :
    (parseInstructionWithLinter hs node).outcome.NoPanic ∧
    ∀ cmd, (parseInstructionWithLinter hs node).outcome = .ok (.command (.run cmd)) →
      ∃ mode, cmd.getExternalValue networkKey = some (.networkState ⟨"network".toList, mode⟩) ∧
        getNetwork cmd = .ok mode ∧ mode ∈ [networkDefault, networkNone, networkHost] := by
  refine ⟨noPanic_parseInstructionWithLinter hs node, fun cmd h => ?_⟩
  obtain ⟨_, -, h⟩ := parseInstructionWithLinter_ok h
  obtain ⟨mode, hExt, hValid⟩ : ∃ mode, _ ∧ _ := by
    rcases parseWord_ok h with ⟨_, -, -, h⟩ | ⟨_, -, -, h⟩ | ⟨_, -, hRun, h⟩ | ⟨_, h, -, hNot⟩
    · cases h
    · cases h
    · cases h
      exact parseRun_network hRun
    · cases h
      exact absurd rfl (hNot cmd)
  exact ⟨mode, hExt, by simp [getNetwork, hExt], by simpa [isValidNetwork] using hValid⟩

end DockerfileFrontend.Instructions
