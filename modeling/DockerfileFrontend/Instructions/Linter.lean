import DockerfileFrontend.Instructions.Arguments

/-! # What the linter is told, and the parse without it

`ParseInstructionWithLinter` reports to the linter for `MAINTAINER`, `FROM` and `ARG`, and no
check it makes can fail: every report sits beside the parse and leaves its outcome alone. A
`FROM` is checked for the casing of its stage name and of its `AS` before it is parsed, so a
`FROM` that the parse refuses is still reported; a named stage and an `ARG` are then checked
for a last comment line above them that begins with one of their names. `ParseInstruction` is
the same parse with no linter, and `ParseCommand` refuses what it returns for a `FROM`.
-/

namespace DockerfileFrontend.Instructions

open Go

theorem validateDefinitionDescription_eq (instruction : List Char)
    (argKeys descComments : List (List Char)) (location : List Range) :
    validateDefinitionDescription instruction argKeys descComments location =
      ⟨match descComments.getLast?, argKeys with
        | some last, key :: keys =>
          if last.takeWhile (· ≠ ' ') ∈ key :: keys then []
          else [⟨.invalidDefinitionDescription, location,
            [instruction, if keys = [] then key else "<arg_key>".toList]⟩]
        | _, _ => [], .ok ()⟩ := by
  rcases List.eq_nil_or_concat descComments with rfl | ⟨L, last, rfl⟩
  · rfl
  cases argKeys with
  | nil => simp [validateDefinitionDescription]; rfl
  | cons key keys =>
    have hLast := index_length_sub_one (L ++ [last]) (by simp)
    simp only [validateDefinitionDescription, List.concat_eq_append, hLast, index_split_zero]
    simp [Linted.bind_eq, Linted.bind, Linted.lift, index, Linted.run]
    split <;> simp [List.length_pos]

theorem stageNameCasingLint_eq (node : Node) (req : ParseRequest) :
    stageNameCasingLint node req =
      ⟨match req.args with
        | [_, _, name] =>
          if name = toLower name then [] else [⟨.stageNameCasing, node.location, [name]⟩]
        | _ => [], .ok ()⟩ := by
  rcases h : req.args with _ | ⟨a, _ | ⟨b, _ | ⟨c, _ | ⟨d, rest⟩⟩⟩⟩ <;>
    simp [stageNameCasingLint, isLowerCaseStageName, h, Linted.bind_eq, Linted.bind, Linted.lift,
      index, Linted.run, pure, Except.pure, bind, Except.bind]

theorem fromAsCasingLint_eq (node : Node) (req : ParseRequest) :
    fromAsCasingLint node req =
      ⟨match req.args with
        | _ :: a1 :: _ :: _ =>
          if req.command = toLower req.command ∧ a1 ≠ toLower a1 ∨
              req.command ≠ toLower req.command ∧ req.command = toUpper req.command ∧
                a1 ≠ toUpper a1
          then [⟨.fromAsCasing, node.location, [req.command, a1]⟩] else []
        | _ => [], .ok ()⟩ := by
  rcases h : req.args with _ | ⟨a, _ | ⟨b, _ | ⟨c, rest⟩⟩⟩ <;>
    simp [fromAsCasingLint, doesFromCaseMatchAsCase, h, Linted.bind_eq, Linted.bind, Linted.lift,
      index, Linted.run, pure, Except.pure, bind, Except.bind]
  rw [if_neg (by omega)]
  by_cases hLower : req.command = toLower req.command
  · simp [eq_true hLower]
  · by_cases hUpper : req.command = toUpper req.command
    · simp [eq_false hLower, eq_true hUpper]
    · simp [eq_false hLower, eq_false hUpper]

theorem parseFromWithLinter_eq (node : Node) (req : ParseRequest) :
    parseFromWithLinter node req =
      ⟨(stageNameCasingLint node req).warnings ++ (fromAsCasingLint node req).warnings ++
        (match parseFrom req with
          | .ok s => (stageDescriptionLint node s.name).warnings
          | .error _ => []),
       (parseFrom req).map .stage⟩ := by
  have hDesc : ∀ name, (stageDescriptionLint node name).outcome = .ok () := fun name => by
    unfold stageDescriptionLint
    split
    · rw [validateDefinitionDescription_eq]
    · rfl
  rw [parseFromWithLinter, Linted.bind_eq, Linted.bind_of_ok _ (by rw [stageNameCasingLint_eq]),
    Linted.bind_eq, Linted.bind_of_ok _ (by rw [fromAsCasingLint_eq])]
  cases parseFrom req with
  | error e => simp [Linted.bind_eq, Linted.bind, Linted.lift, Except.map]
  | ok s =>
    rw [Linted.bind_eq, Linted.bind_of_ok _ rfl, Linted.bind_eq, Linted.bind_of_ok _ (hDesc s.name)]
    simp [Except.map]

theorem parseInstructionWithLinter_of_word {hs : Externals} {node : Node} {word : List Char}
    {w : InstructionWord} (hWord : toLower node.value = word)
    (hLookup : commandWords.lookup word = some w) :
    parseInstructionWithLinter hs node =
      (parseWord hs node (newParseRequestFromNode node) w).mapError
        fun e => .withLocation e node.location := by
  rw [parseInstructionWithLinter, hWord, hLookup]

/-- What the linter is told about a `FROM`, in order: `StageNameCasing` when it has exactly
three arguments and the stage name is not lower case; `FromAsCasing` when it has at least three,
its word is lower or upper case and its second argument is not in the same case. Both come
before the parse, so a `FROM` the parse refuses is reported too. Then, for a named stage,
`InvalidDefinitionDescription` when the last comment line above it does not begin with the
lower-cased name. The outcome is `parseFrom`'s, its error located at the node. -/
theorem parseInstructionWithLinter_from (hs : Externals) (node : Node)
    (hWord : toLower node.value = "from".toList) :
    parseInstructionWithLinter hs node =
      ⟨(match nodeArgs node with
          | [_, _, name] =>
            if name = toLower name then [] else [⟨.stageNameCasing, node.location, [name]⟩]
          | _ => []) ++
        (match nodeArgs node with
          | _ :: a1 :: _ :: _ =>
            if node.value = toLower node.value ∧ a1 ≠ toLower a1 ∨
                node.value ≠ toLower node.value ∧ node.value = toUpper node.value ∧
                  a1 ≠ toUpper a1
            then [⟨.fromAsCasing, node.location, [node.value, a1]⟩] else []
          | _ => []) ++
        (match parseFrom (newParseRequestFromNode node), node.prevComment.getLast? with
          | .ok s, some last =>
            if s.name = [] ∨ last.takeWhile (· ≠ ' ') = s.name then []
            else [⟨.invalidDefinitionDescription, node.location, ["FROM".toList, s.name]⟩]
          | _, _ => []),
       Outcome.mapError (fun e => .withLocation e node.location)
        ((parseFrom (newParseRequestFromNode node)).map .stage)⟩ := by
  rw [parseInstructionWithLinter_of_word hWord rfl]
  simp only [parseWord, parseFromWithLinter_eq, stageNameCasingLint_eq, fromAsCasingLint_eq]
  cases parseFrom (newParseRequestFromNode node) with
  | error e => rfl
  | ok s =>
    have hDesc : (stageDescriptionLint node s.name).warnings =
        match node.prevComment.getLast? with
        | some last =>
          if s.name = [] ∨ last.takeWhile (· ≠ ' ') = s.name then []
          else [⟨.invalidDefinitionDescription, node.location, ["FROM".toList, s.name]⟩]
        | none => [] := by
      unfold stageDescriptionLint
      by_cases hName : s.name = []
      · cases node.prevComment.getLast? <;> simp [hName]
      · rw [if_pos hName, validateDefinitionDescription_eq]
        cases node.prevComment.getLast? <;> simp [hName, eq_comm]
    simp only [Linted.mapError, hDesc]
    cases node.prevComment.getLast? <;> rfl

theorem parseInstructionWithLinter_from_casing :
    let arg (v : List Char) (next : Option Node) : Node := ⟨v, next, [], [], [], [], [], 3, 3, []⟩
    let node : Node := ⟨"FROM".toList,
      some (arg "base".toList (some (arg "as".toList (some (arg "Build".toList none))))), [], [], [],
      "FROM base as Build".toList, [], 3, 3, ["the base".toList]⟩
    toLower node.value = "from".toList ∧
      (parseInstructionWithLinter ⟨fun _ => none, id, .networkOnly⟩ node).warnings =
        [⟨.stageNameCasing, node.location, ["Build".toList]⟩,
          ⟨.fromAsCasing, node.location, ["FROM".toList, "as".toList]⟩,
          ⟨.invalidDefinitionDescription, node.location, ["FROM".toList, "build".toList]⟩] := by
  intro arg node
  refine ⟨by decide, ?_⟩
  rw [parseInstructionWithLinter_from _ node (by decide)]
  rfl

theorem parseArg_described {req : ParseRequest} {cmd : ArgCommand} (h : parseArg req = .ok cmd) :
    cmd.args ≠ [] ∧ ∀ kv ∈ cmd.args, kv.comment = getComment req.comments kv.key := by
  rw [parseArg] at h
  split at h
  · cases h
  rename_i hLen
  obtain ⟨pairs, hPairs, h⟩ := Outcome.ok_of_bind h
  obtain rfl : (⟨pairs, newWithNameAndCode req⟩ : ArgCommand) = cmd := Except.ok.inj h
  obtain ⟨hLen', hAll⟩ := @mapM_ok_forall _ _ _
    (fun kv : KeyValuePairOptional => kv.comment = getComment req.comments kv.key) (fun a kv hkv => by
      rw [parseArgToken_eq] at hkv
      split at hkv
      · cases hkv
      · cases hkv; rfl) _ _ hPairs
  exact ⟨fun hNil => hLen (by simp only [show pairs = [] from hNil, List.length_nil] at hLen'; omega),
    hAll⟩

/-- For an `ARG` that parses, the linter is told `InvalidDefinitionDescription` exactly when
there are comment lines above it and the first word of the last one is none of its keys; the
report names the key, or `<arg_key>` when there are several. Each key's own description comes
from the same comment lines. -/
theorem parseInstructionWithLinter_arg (hs : Externals) (node : Node) (cmd : ArgCommand)
    (hWord : toLower node.value = "arg".toList)
    (hParse : parseArg (newParseRequestFromNode node) = .ok cmd) :
    parseInstructionWithLinter hs node =
      ⟨match node.prevComment.getLast? with
        | some last =>
          if last.takeWhile (· ≠ ' ') ∈ cmd.args.map KeyValuePairOptional.key then []
          else [⟨.invalidDefinitionDescription, node.location,
            ["ARG".toList, match cmd.args with | [kv] => kv.key | _ => "<arg_key>".toList]⟩]
        | none => [],
       .ok (.command (.arg cmd))⟩ ∧
    ∀ kv ∈ cmd.args, kv.comment = getComment node.prevComment kv.key := by
  obtain ⟨hNe, hComments⟩ := parseArg_described hParse
  refine ⟨?_, hComments⟩
  rw [parseInstructionWithLinter_of_word hWord rfl, parseWord, parseArgWithLinter, Linted.bind_eq,
    Linted.bind_of_ok _ hParse, Linted.bind_eq, validateDefinitionDescription_eq,
    Linted.bind_of_ok _ rfl]
  obtain ⟨kv, kvs, hArgs⟩ := List.exists_cons_of_ne_nil hNe
  rw [hArgs]
  cases node.prevComment.getLast? <;> cases kvs <;> simp [Linted.mapError]

theorem parseInstructionWithLinter_arg_undescribed :
    let node : Node := ⟨"ARG".toList, some ⟨"X=1".toList, none, [], [], [], [], [], 2, 2, []⟩, [], [],
      [], "ARG X=1".toList, [], 2, 2, ["the version".toList]⟩
    let cmd : ArgCommand := ⟨[⟨"X".toList, some "1".toList, []⟩],
      ⟨"ARG X=1".toList, "ARG".toList, node.location⟩⟩
    toLower node.value = "arg".toList ∧ parseArg (newParseRequestFromNode node) = .ok cmd ∧
      parseInstructionWithLinter ⟨fun _ => none, id, .networkOnly⟩ node =
        ⟨[⟨.invalidDefinitionDescription, node.location, ["ARG".toList, "X".toList]⟩],
          .ok (.command (.arg cmd))⟩ := by
  intro node cmd
  have hParse : parseArg (newParseRequestFromNode node) = .ok cmd := by decide
  exact ⟨by decide, hParse,
    (parseInstructionWithLinter_arg _ node cmd (by decide) hParse).1.trans rfl⟩

/-- Only `MAINTAINER`, `FROM` and `ARG` are reported on: a `MAINTAINER` always once, as
deprecated, whether it parses or not, and every other word never. -/
theorem parseInstructionWithLinter_quiet (hs : Externals) (node : Node) :
    (toLower node.value = "maintainer".toList →
      (parseInstructionWithLinter hs node).warnings =
        [⟨.maintainerDeprecated, node.location, []⟩]) ∧
    (toLower node.value ∉ ["maintainer".toList, "from".toList, "arg".toList] →
      (parseInstructionWithLinter hs node).warnings = []) := by
  constructor
  · intro hWord
    rw [parseInstructionWithLinter_of_word hWord rfl]
    rfl
  · intro hWord
    unfold parseInstructionWithLinter
    split
    · rename_i word hLookup
      have hMem := mem_of_lookup_commandWords hLookup
      cases word <;> first
        | rfl
        | (simp [commandWords] at hMem
           simp [hMem] at hWord)
    · rfl

/-- `ParseCommand` gives every word but `FROM` the outcome `ParseInstruction` gives it, errors
included. A `FROM` never yields a command: it fails with `parseFrom`'s error, or, when the stage
parses, with the type error; either is located at the node. -/
theorem parseCommand_from_refused (hs : Externals) (node : Node) :
    (toLower node.value ≠ "from".toList →
      (parseCommand hs node).map .command = parseInstruction hs node) ∧
    (toLower node.value = "from".toList →
      parseCommand hs node = Outcome.mapError (fun e => .withLocation e node.location)
        (parseFrom (newParseRequestFromNode node) >>= fun _ =>
          Outcome.fail (.errorf "%T is not a command type" [.str "*instructions.Stage".toList]))) := by
  constructor
  · intro hWord
    rcases hInst : parseInstruction hs node with f | i
    · simp [parseCommand, hInst, bind, Except.bind, Except.map]
    · obtain ⟨w, hLookup, hParse⟩ := parseInstructionWithLinter_ok hInst
      rcases parseWord_ok hParse with ⟨s, rfl, -, -⟩ | ⟨_, -, -, rfl⟩ | ⟨_, -, -, rfl⟩ | ⟨_, rfl, -, -⟩
      · exact absurd (by simpa [commandWords] using mem_of_lookup_commandWords hLookup) hWord
      all_goals simp [parseCommand, hInst, bind, Except.bind, Except.map, pure, Except.pure]
  · intro hWord
    have hInst : parseInstruction hs node = Outcome.mapError (fun e => .withLocation e node.location)
        ((parseFrom (newParseRequestFromNode node)).map .stage) := by
      rw [parseInstruction, parseInstructionWithLinter_of_word hWord rfl, parseWord,
        parseFromWithLinter_eq]
      rfl
    simp only [parseCommand, hInst]
    rcases parseFrom (newParseRequestFromNode node) with (e | e) | s <;> rfl

theorem parseCommand_from_refused_alpine :
    let node : Node := ⟨"FROM".toList, some ⟨"alpine".toList, none, [], [], [], [], [], 1, 1, []⟩,
      [], [], [], "FROM alpine".toList, [], 1, 1, []⟩
    toLower node.value = "from".toList ∧
      parseCommand ⟨fun _ => none, id, .networkOnly⟩ node = Outcome.fail
        (.withLocation (.errorf "%T is not a command type" [.str "*instructions.Stage".toList])
          node.location) := by
  intro node
  have hWord : toLower node.value = "from".toList := by decide
  exact ⟨hWord, ((parseCommand_from_refused _ node).2 hWord).trans rfl⟩

end DockerfileFrontend.Instructions
