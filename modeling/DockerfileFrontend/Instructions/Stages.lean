import DockerfileFrontend.Instructions.Instruction

/-! # `Parse` partitions the instructions at each `FROM`

What `Parse` returns is stated through `layout`: the meta `ARG`s, then every stage as its
`FROM` followed by its commands. A run of the loop extends the layout of the stages built so
far by one instruction per child; it stops at the first child that fails to parse or that is a
command other than `ARG` before any `FROM`.
-/

namespace DockerfileFrontend.Instructions

open Go

def Instruction.isStage : Instruction → Bool
  | .stage _ => true
  | .command _ => false

def Stage.instructions (s : Stage) : List Instruction :=
  .stage { s with commands := [] } :: s.commands.map .command

/-- The instructions that meta `ARG`s followed by stages account for. -/
def layout (metaArgs : List ArgCommand) (stages : List Stage) : List Instruction :=
  metaArgs.map (fun a => .command (.arg a)) ++ stages.flatMap Stage.instructions

def reportChild (n : Node) : Fault → Fault
  | .error e => .error (.parseError e n.startLine)
  | .panic p => .panic p

def ParsesTo (hs : Externals) (ns : List Node) (is : List Instruction) : Prop :=
  ns.map (fun n => (parseInstructionWithLinter hs n).outcome) = is.map .ok

/-- How `Parse` rejects the child `n`, `noStage` saying that no `FROM` came before it: the
child fails to parse, or it is a command other than `ARG` and there is no stage to add it to. -/
def Rejects (hs : Externals) (n : Node) (noStage : Prop) (f : Fault) : Prop :=
  (∃ e, (parseInstructionWithLinter hs n).outcome = .error e ∧ f = reportChild n e) ∨
  (∃ c, (parseInstructionWithLinter hs n).outcome = .ok (.command c) ∧ (∀ a, c ≠ .arg a) ∧
    noStage ∧ f = .error (.withLocation (.new "no build stage in current context".toList) n.location))

/-- `n` is the first child that `Parse` rejects, after the children `pre`, with the fault `f`:
the children before it parse, none of them before the first `FROM` is anything but an `ARG`, and
`n` is rejected. -/
def FirstRejected (hs : Externals) (ns : List Node) (f : Fault) (pre : List Node) (n : Node) :
    Prop :=
  ∃ post is, ns = pre ++ n :: post ∧ ParsesTo hs pre is ∧
    (∀ i ∈ is.takeWhile (!·.isStage), ∃ a, i = .command (.arg a)) ∧
    Rejects hs n (∀ i ∈ is, i.isStage = false) f

section Layout

variable {metaArgs : List ArgCommand} {stages : List Stage}

@[simp] theorem layout_nil_nil : layout [] [] = [] := rfl

theorem layout_append_arg (metaArgs : List ArgCommand) (a : ArgCommand) :
    layout (metaArgs ++ [a]) [] = layout metaArgs [] ++ [.command (.arg a)] := by
  simp [layout]

theorem layout_append_stage (metaArgs : List ArgCommand) (stages : List Stage) (s : Stage)
    (hs : s.commands = []) : layout metaArgs (stages ++ [s]) = layout metaArgs stages ++ [.stage s] := by
  cases s
  subst hs
  simp [layout, Stage.instructions]

theorem layout_addCommand (metaArgs : List ArgCommand) (stages : List Stage) (s : Stage)
    (c : Command) : layout metaArgs (stages ++ [s.addCommand c]) =
      layout metaArgs (stages ++ [s]) ++ [.command c] := by
  simp [layout, Stage.instructions, Stage.addCommand]

theorem layout_takeWhile (metaArgs : List ArgCommand) (stages : List Stage) :
    (layout metaArgs stages).takeWhile (!·.isStage) = metaArgs.map fun a => .command (.arg a) := by
  rw [layout, List.takeWhile_append_of_pos (by simp [Instruction.isStage])]
  cases stages <;> simp [Stage.instructions, Instruction.isStage]

theorem layout_noStage_iff :
    (∀ i ∈ layout metaArgs stages, i.isStage = false) ↔ stages = [] := by
  constructor
  · intro h
    cases stages with
    | nil => rfl
    | cons s _ =>
      have := h (.stage { s with commands := [] }) (by simp [layout, Stage.instructions])
      simp [Instruction.isStage] at this
  · rintro rfl
    simp [layout, Instruction.isStage]

theorem map_command_append_inj {cs cs' : List Command} {l l' : List Instruction}
    (hl : ∀ i ∈ l.head?, i.isStage) (hl' : ∀ i ∈ l'.head?, i.isStage)
    (h : cs.map .command ++ l = cs'.map .command ++ l') : cs = cs' ∧ l = l' := by
  induction cs generalizing cs' with
  | nil =>
    cases cs' with
    | nil => exact ⟨rfl, h⟩
    | cons c' _ => subst h; simp [Instruction.isStage] at hl
  | cons c cs ih =>
    cases cs' with
    | nil => subst h; simp [Instruction.isStage] at hl'
    | cons c' cs' =>
      simp only [List.map_cons, List.cons_append, List.cons.injEq, Instruction.command.injEq] at h
      obtain ⟨rfl, h⟩ := h
      exact (ih h).imp (congrArg _) id

theorem head_flatMap_instructions (stages : List Stage) :
    ∀ i ∈ (stages.flatMap Stage.instructions).head?, i.isStage := by
  cases stages <;> simp [Stage.instructions, Instruction.isStage]

theorem flatMap_instructions_inj {stages stages' : List Stage}
    (h : stages.flatMap Stage.instructions = stages'.flatMap Stage.instructions) :
    stages = stages' := by
  induction stages generalizing stages' with
  | nil => cases stages' with
    | nil => rfl
    | cons => simp [Stage.instructions] at h
  | cons s stages ih =>
    cases stages' with
    | nil => simp [Stage.instructions] at h
    | cons s' stages' =>
      simp only [List.flatMap_cons, Stage.instructions, List.cons_append, List.cons.injEq,
        Instruction.stage.injEq] at h
      obtain ⟨hHead, hTail⟩ := h
      obtain ⟨hCmds, hRest⟩ := map_command_append_inj (head_flatMap_instructions _)
        (head_flatMap_instructions _) hTail
      cases s
      cases s'
      simp only [Stage.mk.injEq, true_and, and_true] at hHead hCmds
      obtain ⟨rfl, rfl, rfl, rfl, rfl, rfl, rfl⟩ := hHead
      rw [hCmds, ih hRest]

theorem layout_inj {metaArgs' : List ArgCommand} {stages' : List Stage}
    (h : layout metaArgs stages = layout metaArgs' stages') :
    metaArgs = metaArgs' ∧ stages = stages' := by
  have hArgs : ∀ m : List ArgCommand, m.map (fun a => Instruction.command (.arg a)) =
      (m.map Command.arg).map .command := fun m => by simp
  rw [layout, layout, hArgs, hArgs] at h
  obtain ⟨hm, hs⟩ := map_command_append_inj (head_flatMap_instructions _)
    (head_flatMap_instructions _) h
  exact ⟨List.map_injective_iff.mpr (fun _ _ h => Command.arg.inj h) hm, flatMap_instructions_inj hs⟩

end Layout

theorem parseFrom_commands {req : ParseRequest} {s : Stage} (h : parseFrom req = .ok s) :
    s.commands = [] := by
  obtain ⟨_, -, h⟩ := Outcome.ok_of_bind h
  obtain ⟨_, -, h⟩ := Outcome.ok_of_bind h
  obtain ⟨_, -, h⟩ := Outcome.ok_of_bind h
  cases h
  rfl

theorem parseInstructionWithLinter_fresh {hs : Externals} {n : Node} {s : Stage}
    (h : (parseInstructionWithLinter hs n).outcome = .ok (.stage s)) : s.commands = [] := by
  obtain ⟨_, -, h⟩ := parseInstructionWithLinter_ok h
  rcases parseWord_ok h with ⟨_, -, hFrom, h⟩ | ⟨_, -, -, h⟩ | ⟨_, -, -, h⟩ | ⟨_, h, -⟩
  · cases h
    exact parseFrom_commands hFrom
  all_goals cases h

theorem currentStage_ok {stages : List Stage} {s : Stage} (h : currentStage stages = .ok s) :
    stages.getLast? = some s := by
  unfold currentStage at h
  split at h <;> cases h
  assumption

theorem currentStage_error {stages : List Stage} {e : GoError} (h : currentStage stages = .error e) :
    stages = [] ∧ e = .new "no build stage in current context".toList := by
  unfold currentStage at h
  split at h <;> cases h
  exact ⟨List.getLast?_eq_none_iff.mp ‹_›, rfl⟩

theorem parseStep_ok {location : List Range} {acc acc' : List Stage × List ArgCommand}
    {i : Instruction} (hFresh : ∀ s, i = .stage s → s.commands = [])
    (h : parseStep location acc i = .ok acc') :
    layout acc'.2 acc'.1 = layout acc.2 acc.1 ++ [i] := by
  obtain ⟨stages, metaArgs⟩ := acc
  unfold parseStep at h
  split at h
  · rename_i hNil
    cases h
    dsimp only at hNil ⊢
    rw [hNil]
    exact layout_append_arg _ _
  · cases h
    exact layout_append_stage _ _ _ (hFresh _ rfl)
  · split at h
    · cases h
    · rename_i stage hStage
      cases h
      have hLast : stages = stages.dropLast ++ [stage] :=
        (List.dropLast_append_getLast? _ (currentStage_ok hStage)).symm
      dsimp only
      conv_rhs => rw [hLast]
      exact layout_addCommand _ _ _ _

theorem parseStep_error {location : List Range} {acc : List Stage × List ArgCommand}
    {i : Instruction} {e : GoError} (h : parseStep location acc i = .error e) :
    acc.1 = [] ∧ (∃ c, i = .command c ∧ ∀ a, c ≠ .arg a) ∧
      e = .withLocation (.new "no build stage in current context".toList) location := by
  unfold parseStep at h
  split at h
  · cases h
  · cases h
  · rename_i c hNotArg
    split at h
    · rename_i err hErr
      cases h
      obtain ⟨hNil, rfl⟩ := currentStage_error hErr
      exact ⟨hNil, ⟨c, rfl, fun a hc => hNotArg a hNil hc⟩, rfl⟩
    · cases h

section Loop

variable {hs : Externals}

theorem parsesTo_cons {n : Node} {ns : List Node} {i : Instruction} {is : List Instruction}
    (hn : (parseInstructionWithLinter hs n).outcome = .ok i) (h : ParsesTo hs ns is) :
    ParsesTo hs (n :: ns) (i :: is) := by
  unfold ParsesTo at h ⊢
  rw [List.map_cons, List.map_cons, hn, h]

theorem mapError_parseError (n : Node) (e : Fault) :
    Outcome.mapError (fun e => .parseError e n.startLine) (.error e : Outcome Instruction) =
      .error (reportChild n e) := by
  cases e <;> rfl

/-- A loop that returns has parsed every child, and the layout of what it returns extends the
layout it started from by their instructions; the linter ran on every child. -/
theorem parseLoop_ok {acc r : List Stage × List ArgCommand} {ns : List Node}
    (h : (parseLoop hs acc ns).outcome = .ok r) :
    ∃ is, ParsesTo hs ns is ∧ layout r.2 r.1 = layout acc.2 acc.1 ++ is ∧
      (parseLoop hs acc ns).warnings = ns.flatMap fun n => (parseInstructionWithLinter hs n).warnings := by
  induction ns generalizing acc with
  | nil => cases h; exact ⟨[], rfl, by simp, rfl⟩
  | cons n ns ih =>
    rcases hn : (parseInstructionWithLinter hs n).outcome with e | i
    · rw [parseLoop, Linted.bind_of_error _
        (show _ = .error (reportChild n e) by simp [hn, mapError_parseError])] at h
      simp at h
    · rw [parseLoop, Linted.bind_of_ok _ (show _ = .ok i by simp [hn])] at h ⊢
      rcases hStep : parseStep n.location acc i with e | acc₁
      · simp [hStep, Outcome.fail] at h
      · simp only [hStep] at h ⊢
        obtain ⟨is, hIs, hLayout, hWarn⟩ := ih h
        refine ⟨i :: is, parsesTo_cons hn hIs, ?_, by simp [hWarn]⟩
        rw [hLayout, parseStep_ok (fun s hs => parseInstructionWithLinter_fresh (hs ▸ hn)) hStep,
          List.append_assoc, List.singleton_append]

theorem parseLoop_error {acc : List Stage × List ArgCommand} {ns : List Node} {f : Fault}
    (h : (parseLoop hs acc ns).outcome = .error f) :
    ∃ pre n post is, ∃ acc' : List Stage × List ArgCommand, ns = pre ++ n :: post ∧ ParsesTo hs pre is ∧
      layout acc'.2 acc'.1 = layout acc.2 acc.1 ++ is ∧ Rejects hs n (acc'.1 = []) f ∧
      (parseLoop hs acc ns).warnings =
        (pre ++ [n]).flatMap fun n => (parseInstructionWithLinter hs n).warnings := by
  induction ns generalizing acc with
  | nil => cases h
  | cons n ns ih =>
    rcases hn : (parseInstructionWithLinter hs n).outcome with e | i
    · rw [parseLoop, Linted.bind_of_error _
        (show _ = .error (reportChild n e) by simp [hn, mapError_parseError])] at h ⊢
      cases h
      exact ⟨[], n, ns, [], acc, rfl, rfl, by simp, .inl ⟨e, hn, rfl⟩, by simp⟩
    · rw [parseLoop, Linted.bind_of_ok _ (show _ = .ok i by simp [hn])] at h ⊢
      rcases hStep : parseStep n.location acc i with e | acc₁
      · simp only [hStep, Linted.lift_outcome, Linted.lift_warnings, List.append_nil] at h ⊢
        cases h
        obtain ⟨hNil, ⟨c, rfl, hc⟩, rfl⟩ := parseStep_error hStep
        exact ⟨[], n, ns, [], acc, rfl, rfl, by simp, .inr ⟨c, hn, hc, hNil, rfl⟩, by simp⟩
      · simp only [hStep] at h ⊢
        obtain ⟨pre, n', post, is, acc', rfl, hIs, hLayout, hRejects, hWarn⟩ := ih h
        refine ⟨n :: pre, n', post, i :: is, acc', rfl, parsesTo_cons hn hIs, ?_, hRejects,
          by simp [hWarn]⟩
        rw [hLayout, parseStep_ok (fun s hs => parseInstructionWithLinter_fresh (hs ▸ hn)) hStep,
          List.append_assoc, List.singleton_append]

end Loop

section Rejection

variable {hs : Externals}

theorem ParsesTo.unique {ns : List Node} {is is' : List Instruction} (h : ParsesTo hs ns is)
    (h' : ParsesTo hs ns is') : is = is' :=
  List.map_injective_iff.mpr (fun _ _ => Except.ok.inj) (h.symm.trans h')

theorem ParsesTo.split {pre post : List Node} {n : Node} {is' : List Instruction}
    (h : ParsesTo hs (pre ++ n :: post) is') :
    ∃ is i is₂, is' = is ++ i :: is₂ ∧ ParsesTo hs pre is ∧
      (parseInstructionWithLinter hs n).outcome = .ok i := by
  unfold ParsesTo at h
  rw [List.map_append, List.map_cons] at h
  obtain ⟨is, l₂, rfl, hIs, hl₂⟩ := List.map_eq_append_iff.mp h.symm
  obtain ⟨i, is₂, rfl, hi, -⟩ := List.map_eq_cons_iff.mp hl₂
  exact ⟨is, i, is₂, rfl, hIs.symm, hi.symm⟩

theorem Rejects.mono {n : Node} {p q : Prop} {f : Fault} (h : Rejects hs n p f) (hpq : p → q) :
    Rejects hs n q f :=
  h.imp_right fun ⟨c, hc, hArg, hp, hf⟩ => ⟨c, hc, hArg, hpq hp, hf⟩

theorem Rejects.unique {n : Node} {p q : Prop} {f f' : Fault} (h : Rejects hs n p f)
    (h' : Rejects hs n q f') : f = f' := by
  rcases h with ⟨e, he, rfl⟩ | ⟨c, hc, -, -, rfl⟩ <;>
    rcases h' with ⟨e', he', rfl⟩ | ⟨c', hc', -, -, rfl⟩
  · rw [he] at he'
    cases he'
    rfl
  · rw [he] at hc'
    cases hc'
  · rw [hc] at he'
    cases he'
  · rfl

theorem Rejects.not_within {pre mid : List Node} {n : Node} {is is' : List Instruction} {f : Fault}
    (hPre : ParsesTo hs pre is) (h : Rejects hs n (∀ i ∈ is, i.isStage = false) f)
    (h' : ParsesTo hs (pre ++ n :: mid) is')
    (hArgs : ∀ i ∈ is'.takeWhile (!·.isStage), ∃ a, i = .command (.arg a)) : False := by
  obtain ⟨is₁, i, is₂, rfl, hIs₁, hi⟩ := h'.split
  obtain rfl := hPre.unique hIs₁
  rcases h with ⟨e, he, -⟩ | ⟨c, hc, hNotArg, hNoStage, -⟩
  · rw [he] at hi
    cases hi
  · rw [hc] at hi
    cases hi
    have hMem : Instruction.command c ∈ (is ++ .command c :: is₂).takeWhile (!·.isStage) := by
      rw [List.takeWhile_append_of_pos (by simpa using hNoStage)]
      simp [Instruction.isStage]
    obtain ⟨a, ha⟩ := hArgs _ hMem
    exact hNotArg a (Instruction.command.inj ha)

theorem FirstRejected.unique {ns pre pre' : List Node} {n n' : Node} {f f' : Fault}
    (h : FirstRejected hs ns f pre n) (h' : FirstRejected hs ns f' pre' n') :
    pre = pre' ∧ n = n' ∧ f = f' := by
  obtain ⟨post, is, rfl, hIs, hArgs, hR⟩ := h
  obtain ⟨post', is', hEq, hIs', hArgs', hR'⟩ := h'
  rcases List.append_eq_append_iff.mp hEq with ⟨_ | ⟨x, a⟩, rfl, hRest⟩ | ⟨_ | ⟨x, c⟩, rfl, hRest⟩
  · simp only [List.nil_append, List.cons.injEq] at hRest
    obtain ⟨rfl, -⟩ := hRest
    obtain rfl := hIs.unique (by simpa using hIs')
    exact ⟨by simp, rfl, hR.unique hR'⟩
  · simp only [List.cons_append, List.cons.injEq] at hRest
    obtain ⟨rfl, -⟩ := hRest
    exact (hR.not_within hIs hIs' hArgs').elim
  · simp only [List.nil_append, List.cons.injEq] at hRest
    obtain ⟨rfl, -⟩ := hRest
    obtain rfl := hIs'.unique (by simpa using hIs)
    exact ⟨by simp, rfl, hR.unique hR'⟩
  · simp only [List.cons_append, List.cons.injEq] at hRest
    obtain ⟨rfl, -⟩ := hRest
    exact (hR'.not_within hIs' hIs hArgs).elim

end Rejection

section Parse

variable {hs : Externals}

theorem parse_ok_iff (ast : Node) (stages : List Stage) (metaArgs : List ArgCommand) :
    (parse hs ast).outcome = .ok (stages, metaArgs) ↔
      ParsesTo hs ast.children (layout metaArgs stages) := by
  constructor
  · intro h
    obtain ⟨is, hIs, hLayout, -⟩ := parseLoop_ok h
    simpa [hLayout] using hIs
  · intro h
    rcases hParse : (parse hs ast).outcome with f | r
    · obtain ⟨pre, n, post, is, acc', hSplit, hIs, hLayout, hR, -⟩ := parseLoop_error hParse
      simp only [layout_nil_nil, List.nil_append] at hLayout
      rw [hSplit] at h
      refine (Rejects.not_within hIs (hR.mono fun hNil => ?_) h ?_).elim
      · exact hLayout ▸ layout_noStage_iff.mpr hNil
      · simp [layout_takeWhile]
    · obtain ⟨is, hIs, hLayout, -⟩ := parseLoop_ok hParse
      simp only [layout_nil_nil, List.nil_append] at hLayout
      obtain ⟨hm, hs⟩ := layout_inj (hLayout.trans (hIs.unique h))
      rw [← hm, ← hs]

theorem parse_error_firstRejected {ast : Node} {f : Fault} (h : (parse hs ast).outcome = .error f) :
    ∃ pre n, FirstRejected hs ast.children f pre n ∧
      (parse hs ast).warnings = (pre ++ [n]).flatMap fun n => (parseInstructionWithLinter hs n).warnings := by
  obtain ⟨pre, n, post, is, acc', hSplit, hIs, hLayout, hR, hWarn⟩ := parseLoop_error h
  simp only [layout_nil_nil, List.nil_append] at hLayout
  refine ⟨pre, n, ⟨post, is, hSplit, hIs, ?_, hR.mono fun hNil => ?_⟩, hWarn⟩
  · simp [← hLayout, layout_takeWhile]
  · exact hLayout ▸ layout_noStage_iff.mpr hNil

theorem parse_error_of_firstRejected {ast : Node} {f : Fault} {pre : List Node} {n : Node}
    (h : FirstRejected hs ast.children f pre n) : (parse hs ast).outcome = .error f := by
  rcases hParse : (parse hs ast).outcome with f' | ⟨stages, metaArgs⟩
  · obtain ⟨pre', n', h', -⟩ := parse_error_firstRejected hParse
    rw [(h.unique h').2.2]
  · obtain ⟨post, is, hSplit, hIs, -, hR⟩ := h
    have hAll := (parse_ok_iff ast stages metaArgs).mp hParse
    rw [hSplit] at hAll
    exact (hR.not_within hIs hAll (by simp [layout_takeWhile])).elim

/-- `Parse` partitions the children at each `FROM`. It returns the meta `ARG`s and the stages
exactly when the children parse to their layout: the `ARG`s before the first `FROM`, then each
`FROM` followed by the commands up to the next one. It fails exactly at the first child that
fails to parse or is a command other than `ARG` before any `FROM`, with the linter run on every
child up to that one. -/
theorem parse_partitions_at_from (hs : Externals) (ast : Node) :
    (∀ stages metaArgs, (parse hs ast).outcome = .ok (stages, metaArgs) ↔
      ParsesTo hs ast.children (layout metaArgs stages)) ∧
    (∀ f, (parse hs ast).outcome = .error f ↔ ∃ pre n, FirstRejected hs ast.children f pre n) ∧
    (∀ f pre n, FirstRejected hs ast.children f pre n →
      (parse hs ast).warnings =
        (pre ++ [n]).flatMap fun n => (parseInstructionWithLinter hs n).warnings) ∧
    (∀ r, (parse hs ast).outcome = .ok r →
      (parse hs ast).warnings = ast.children.flatMap fun n => (parseInstructionWithLinter hs n).warnings) := by
  refine ⟨parse_ok_iff ast, fun f => ⟨fun h => ?_, fun ⟨_, _, h⟩ => parse_error_of_firstRejected h⟩,
    fun f pre n h => ?_, fun r h => (parseLoop_ok h).choose_spec.2.2⟩
  · obtain ⟨pre, n, h, -⟩ := parse_error_firstRejected h
    exact ⟨pre, n, h⟩
  · obtain ⟨pre', n', h', hWarn⟩ := parse_error_firstRejected (parse_error_of_firstRejected h)
    obtain ⟨rfl, rfl, -⟩ := h.unique h'
    exact hWarn

end Parse



end DockerfileFrontend.Instructions
