import DockerfileFrontend.Instructions.Parse

/-! # The hooks of `RUN`

`parseRun` runs the pre-hooks of the build's features and of `--network`, reads the flags, and
runs the post-hooks in the same order. Each feature writes only under its own key and reads
back only its own flag, so the post-hooks find what the pre-hooks left: none of them panics,
the first feature to refuse its flag decides the error, and a `RUN` that parses holds the
network mode read. In a build's own configuration, `RunFeatures.ofBuild`, a `--device` or
`--mount` value refused by its parser thus fails the `RUN` before the network mode is checked.
-/

namespace DockerfileFrontend.Instructions

open Go

theorem lookup_filter_key_ne {α : Type} {k k' : List Char} (h : k ≠ k') (l : List (List Char × α)) :
    (l.filter fun e => !decide (e.1 = k)).lookup k' = l.lookup k' := by
  induction l with
  | nil => rfl
  | cons e l ih =>
    obtain ⟨k₂, v₂⟩ := e
    by_cases hk : k₂ = k
    · subst hk
      simp [List.lookup_cons, ih, beq_false_of_ne h.symm]
    · by_cases hk' : k' = k₂ <;> simp [List.lookup_cons, hk, hk', ih]

namespace RunCommand

@[simp] theorem getExternalValue_set_self (cmd : RunCommand) (k : List Char) (v : ExternalValue) :
    (cmd.setExternalValue k v).getExternalValue k = some v := by
  simp [getExternalValue, setExternalValue]

theorem getExternalValue_set_of_ne (cmd : RunCommand) {k k' : List Char} (v : ExternalValue)
    (h : k ≠ k') : (cmd.setExternalValue k v).getExternalValue k' = cmd.getExternalValue k' := by
  simp [getExternalValue, setExternalValue, List.lookup_cons, beq_false_of_ne h.symm,
    lookup_filter_key_ne h]

/-- The command keeps the state of the feature under its key, naming the feature's flag. -/
def HoldsState (cmd : RunCommand) (f : RunFeature) : Prop :=
  ∃ read, cmd.getExternalValue f.key = some (.featureState ⟨f.flag, read⟩)

end RunCommand

theorem runHooks_append (l₁ l₂ : List RunHook) (x : RunCommand × BFlags) :
    runHooks (l₁ ++ l₂) x = runHooks l₁ x >>= runHooks l₂ := by
  induction l₁ generalizing x with
  | nil => rfl
  | cons fn fns ih =>
    show (fn x >>= fun y => runHooks (fns ++ l₂) y) = (fn x >>= runHooks fns) >>= runHooks l₂
    cases fn x with
    | error e => rfl
    | ok y => exact ih y

def RunFeature.refusal (flags : BFlags) (f : RunFeature) : Option GoError :=
  (flags.lookup f.flag).bind f.check

def RunFeatures.registerFlags (features : RunFeatures) (flags : BFlags) : BFlags :=
  features.afterNetwork.foldl RunFeature.register
    ((features.beforeNetwork.foldl RunFeature.register flags).addString "network".toList
      networkDefault)

section Features

variable {fs : List RunFeature}

/-- The pre-hooks of features never fail: each keeps its state and registers its flag, and
no other key changes. -/
theorem runHooks_preHooks (hNodup : (fs.map RunFeature.key).Nodup) (rest : List RunHook)
    (cmd : RunCommand) (flags : BFlags) :
    ∃ cmd', (∀ f ∈ fs, cmd'.HoldsState f) ∧
      (∀ k ∉ fs.map RunFeature.key, cmd'.getExternalValue k = cmd.getExternalValue k) ∧
      runHooks (fs.map RunFeature.preHook ++ rest) (cmd, flags) =
        runHooks rest (cmd', fs.foldl RunFeature.register flags) := by
  induction fs generalizing cmd flags with
  | nil => exact ⟨cmd, nofun, fun _ _ => rfl, rfl⟩
  | cons f fs ih =>
    rw [List.map_cons, List.nodup_cons] at hNodup
    obtain ⟨cmd', hHolds, hFrame, hRun⟩ := ih hNodup.2
      (cmd.setExternalValue f.key (.featureState ⟨f.flag, none⟩)) (RunFeature.register flags f)
    refine ⟨cmd', ?_, fun k hk => ?_, hRun⟩
    · rintro g (_ | ⟨_, hg⟩)
      · exact ⟨none, by rw [hFrame _ hNodup.1, RunCommand.getExternalValue_set_self]⟩
      · exact hHolds g hg
    · simp only [List.map_cons, List.mem_cons, not_or] at hk
      rw [hFrame k hk.2, RunCommand.getExternalValue_set_of_ne _ _ (Ne.symm hk.1)]

theorem postHook_eq {f : RunFeature} {cmd : RunCommand} {flags : BFlags} {flag : Flag}
    {read : Option Flag} (hState : cmd.getExternalValue f.key = some (.featureState ⟨f.flag, read⟩))
    (hFlag : flags.lookup f.flag = some flag) :
    f.postHook (cmd, flags) = match f.check flag with
      | some e => Outcome.fail e
      | none => .ok (cmd.setExternalValue f.key (.featureState ⟨f.flag, some flag⟩), flags) := by
  cases h : f.check flag <;> simp only [RunFeature.postHook, hState, hFlag, h]

theorem runNetworkPostHook_eq {cmd : RunCommand} {flags : BFlags} {n m : List Char} {flag : Flag}
    (hNet : cmd.getExternalValue networkKey = some (.networkState ⟨n, m⟩))
    (hFlag : flags.lookup n = some flag) :
    runNetworkPostHook (cmd, flags) = if isValidNetwork flag.value then
      .ok (cmd.setExternalValue networkKey (.networkState ⟨n, flag.value⟩), flags)
      else Outcome.fail (.errorf "invalid network mode %q" [.str flag.value]) := by
  by_cases hv : isValidNetwork flag.value <;> simp [runNetworkPostHook, hNet, hFlag, hv]

/-- The post-hooks of features, on the states and flags their pre-hooks left: the first to
refuse its flag decides the error, and otherwise the hooks after them run on a command changed
only under the features' keys. -/
theorem runHooks_postHooks (hNodup : (fs.map RunFeature.key).Nodup) (rest : List RunHook)
    {cmd : RunCommand} {flags : BFlags} (hState : ∀ f ∈ fs, cmd.HoldsState f)
    (hFlag : ∀ f ∈ fs, (flags.lookup f.flag).isSome) :
    ∃ cmd', (∀ k ∉ fs.map RunFeature.key, cmd'.getExternalValue k = cmd.getExternalValue k) ∧
      runHooks (fs.map RunFeature.postHook ++ rest) (cmd, flags) =
        match fs.findSome? (RunFeature.refusal flags) with
        | some e => Outcome.fail e
        | none => runHooks rest (cmd', flags) := by
  induction fs generalizing cmd with
  | nil => exact ⟨cmd, fun _ _ => rfl, rfl⟩
  | cons f fs ih =>
    rw [List.map_cons, List.nodup_cons] at hNodup
    obtain ⟨read, hSt⟩ := hState f (List.mem_cons_self _ _)
    obtain ⟨flag, hFl⟩ := Option.isSome_iff_exists.mp (hFlag f (List.mem_cons_self _ _))
    have hRefusal : RunFeature.refusal flags f = f.check flag := by
      simp [RunFeature.refusal, hFl]
    have hStep : runHooks ((f :: fs).map RunFeature.postHook ++ rest) (cmd, flags) =
        f.postHook (cmd, flags) >>= runHooks (fs.map RunFeature.postHook ++ rest) := rfl
    rw [hStep, postHook_eq hSt hFl, List.findSome?_cons, hRefusal]
    cases f.check flag with
    | some e => exact ⟨cmd, fun _ _ => rfl, rfl⟩
    | none =>
      have hState' : ∀ g ∈ fs,
          (cmd.setExternalValue f.key (.featureState ⟨f.flag, some flag⟩)).HoldsState g := by
        intro g hg
        obtain ⟨r, hr⟩ := hState g (List.mem_cons_of_mem _ hg)
        refine ⟨r, ?_⟩
        rw [RunCommand.getExternalValue_set_of_ne _ _ fun hEq : f.key = g.key =>
          hNodup.1 (hEq ▸ List.mem_map_of_mem RunFeature.key hg), hr]
      obtain ⟨cmd', hFrame, hRun⟩ := ih hNodup.2 hState' fun g hg => hFlag g (List.mem_cons_of_mem _ hg)
      refine ⟨cmd', fun k hk => ?_, hRun⟩
      simp only [List.map_cons, List.mem_cons, not_or] at hk
      rw [hFrame k hk.2, RunCommand.getExternalValue_set_of_ne _ _ (Ne.symm hk.1)]

theorem names_subset_foldl_register (fs : List RunFeature) (bf : BFlags) :
    fs.map RunFeature.flag ++ bf.flags.map Flag.name ⊆
      (fs.foldl RunFeature.register bf).flags.map Flag.name := by
  induction fs generalizing bf with
  | nil => simp
  | cons f fs ih =>
    intro n hn
    apply ih
    simp only [List.map_cons, List.cons_append, List.mem_cons, List.mem_append] at hn ⊢
    have hSub := BFlags.names_subset_addFlag bf f.flag f.flagType f.default
    rcases hn with rfl | hn | hn
    · exact .inr (hSub (List.mem_cons_self _ _))
    · exact .inl hn
    · exact .inr (hSub (List.mem_cons_of_mem _ hn))

@[simp] theorem args_foldl_register (fs : List RunFeature) (bf : BFlags) :
    (fs.foldl RunFeature.register bf).args = bf.args := by
  induction fs generalizing bf with
  | nil => rfl
  | cons f fs ih => rw [List.foldl_cons, ih, RunFeature.register, BFlags.args_addFlag]

theorem foldl_register_err {bf : BFlags} (h : (fs.foldl RunFeature.register bf).err = none) :
    bf.err = none ∧ ∀ n, (bf.lookup n).isSome → (fs.foldl RunFeature.register bf).lookup n = bf.lookup n := by
  induction fs generalizing bf with
  | nil => exact ⟨h, fun _ _ => rfl⟩
  | cons f fs ih =>
    obtain ⟨hErr, hKeep⟩ := ih h
    obtain ⟨hErr', hNew, -⟩ := BFlags.addFlag_err hErr
    refine ⟨hErr', fun n hn => ?_⟩
    have hne : f.flag ≠ n := by
      rintro rfl
      simp [hNew] at hn
    have hSame := BFlags.lookup_addFlag_of_ne bf f.flagType f.default hne
    rw [List.foldl_cons, hKeep n (by rw [RunFeature.register, hSame]; exact hn), RunFeature.register,
      hSame]

end Features

namespace RunFeatures

variable (features : RunFeatures)

theorem keys_nodup_split : (features.beforeNetwork.map RunFeature.key).Nodup ∧
    (features.afterNetwork.map RunFeature.key).Nodup ∧
    ∀ a ∈ features.beforeNetwork.map RunFeature.key,
      ∀ b ∈ features.afterNetwork.map RunFeature.key, a ≠ b := by
  have h := features.keys_nodup
  rwa [List.map_append, List.Nodup, List.pairwise_append] at h

theorem key_not_mem_afterNetwork {f : RunFeature} (hf : f ∈ features.beforeNetwork) :
    f.key ∉ features.afterNetwork.map RunFeature.key := fun hMem =>
  features.keys_nodup_split.2.2 _ (List.mem_map_of_mem _ hf) _ hMem rfl

theorem networkKey_not_mem {fs : List RunFeature}
    (hfs : fs = features.beforeNetwork ∨ fs = features.afterNetwork) :
    networkKey ∉ fs.map RunFeature.key := by
  simp only [List.mem_map, not_exists, not_and]
  intro f hf hKey
  refine features.key_ne_network f ?_ hKey
  rcases hfs with rfl | rfl
  · exact List.mem_append_left _ hf
  · exact List.mem_append_right _ hf

theorem runHooks_parseRunPreHooks (cmd : RunCommand) (flags : BFlags) :
    ∃ cmd', (∀ f ∈ features.beforeNetwork ++ features.afterNetwork, cmd'.HoldsState f) ∧
      cmd'.getExternalValue networkKey = some (.networkState ⟨"network".toList, []⟩) ∧
      runHooks (parseRunPreHooks features) (cmd, flags) = .ok (cmd', features.registerFlags flags) := by
  obtain ⟨cmd₁, hHolds₁, hFrame₁, hRun₁⟩ := runHooks_preHooks features.keys_nodup_split.1
    (runNetworkPreHook :: features.afterNetwork.map RunFeature.preHook) cmd flags
  obtain ⟨cmd₂, hHolds₂, hFrame₂, hRun₂⟩ := runHooks_preHooks features.keys_nodup_split.2.1 []
    (cmd₁.setExternalValue networkKey (.networkState ⟨"network".toList, []⟩))
    ((features.beforeNetwork.foldl RunFeature.register flags).addString "network".toList
      networkDefault)
  have hNet := features.networkKey_not_mem (.inr rfl)
  refine ⟨cmd₂, fun f hf => ?_, by rw [hFrame₂ _ hNet]; simp, ?_⟩
  · rcases List.mem_append.mp hf with hf | hf
    · obtain ⟨r, hr⟩ := hHolds₁ f hf
      refine ⟨r, ?_⟩
      rw [hFrame₂ _ (features.key_not_mem_afterNetwork hf),
        RunCommand.getExternalValue_set_of_ne _ _ (features.key_ne_network f (List.mem_append_left _ hf)).symm,
        hr]
    · exact hHolds₂ f hf
  · rw [parseRunPreHooks, hRun₁]
    simpa only [List.append_nil] using hRun₂

theorem key_not_mem_beforeNetwork {f : RunFeature} (hf : f ∈ features.afterNetwork) :
    f.key ∉ features.beforeNetwork.map RunFeature.key := fun hMem =>
  features.keys_nodup_split.2.2 _ hMem _ (List.mem_map_of_mem _ hf) rfl

variable {features}

@[simp] theorem args_registerFlags (bf : BFlags) : (features.registerFlags bf).args = bf.args := by
  simp [registerFlags, BFlags.addString]

theorem lookup_network_registerFlags {bf : BFlags} (h : (features.registerFlags bf).err = none) :
    (features.registerFlags bf).lookup "network".toList =
      some ⟨"network".toList, .stringType, networkDefault, []⟩ := by
  unfold registerFlags at h ⊢
  obtain ⟨hErr, hKeep⟩ := foldl_register_err h
  obtain ⟨-, -, hNet⟩ := BFlags.addFlag_err hErr
  rw [hKeep _ (by rw [BFlags.addString, hNet]; rfl), BFlags.addString, hNet]

theorem lookup_registered {bf flags : BFlags} (hp : (features.registerFlags bf).parse = .ok flags) :
    (∀ f ∈ features.beforeNetwork ++ features.afterNetwork, (flags.lookup f.flag).isSome) ∧
      (flags.lookup "network".toList).isSome := by
  have hNames : ∀ n, n ∈ features.beforeNetwork.map RunFeature.flag ∨
      n ∈ features.afterNetwork.map RunFeature.flag ∨ n = "network".toList →
      (flags.lookup n).isSome := by
    intro n hn
    rw [BFlags.lookup_isSome_iff, BFlags.parse_names hp]
    apply names_subset_foldl_register
    have hNet := BFlags.names_subset_addFlag (features.beforeNetwork.foldl RunFeature.register bf)
      "network".toList .stringType networkDefault
    rcases hn with hn | hn | rfl
    · exact List.mem_append_right _ (hNet (List.mem_cons_of_mem _
        (names_subset_foldl_register _ _ (List.mem_append_left _ hn))))
    · exact List.mem_append_left _ hn
    · exact List.mem_append_right _ (hNet (List.mem_cons_self _ _))
  refine ⟨fun f hf => hNames _ ?_, hNames _ (.inr (.inr rfl))⟩
  rcases List.mem_append.mp hf with hf | hf
  · exact .inl (List.mem_map_of_mem _ hf)
  · exact .inr (.inl (List.mem_map_of_mem _ hf))

/-- The post-hooks of `RUN`, on the states and flags the pre-hooks and `Parse` left: the first
feature before the network hooks to refuse its flag decides the error; then an invalid network
mode is refused by name; then the first feature after them to refuse its flag decides the
error, and otherwise the command holds the network mode read. -/
theorem runHooks_parseRunPostHooks {cmd : RunCommand} {flags : BFlags} {flag : Flag}
    (hHolds : ∀ f ∈ features.beforeNetwork ++ features.afterNetwork, cmd.HoldsState f)
    (hNet : cmd.getExternalValue networkKey = some (.networkState ⟨"network".toList, []⟩))
    (hFlags : ∀ f ∈ features.beforeNetwork ++ features.afterNetwork, (flags.lookup f.flag).isSome)
    (hFlag : flags.lookup "network".toList = some flag) :
    ∃ cmd', cmd'.getExternalValue networkKey =
        some (.networkState ⟨"network".toList, flag.value⟩) ∧
      runHooks (parseRunPostHooks features) (cmd, flags) =
        match features.beforeNetwork.findSome? (RunFeature.refusal flags) with
        | some e => Outcome.fail e
        | none =>
          if isValidNetwork flag.value then
            match features.afterNetwork.findSome? (RunFeature.refusal flags) with
            | some e => Outcome.fail e
            | none => .ok (cmd', flags)
          else Outcome.fail (.errorf "invalid network mode %q" [.str flag.value]) := by
  obtain ⟨cmd₁, hFrame₁, hRun₁⟩ := runHooks_postHooks features.keys_nodup_split.1
    (runNetworkPostHook :: features.afterNetwork.map RunFeature.postHook)
    (fun f hf => hHolds f (List.mem_append_left _ hf))
    (fun f hf => hFlags f (List.mem_append_left _ hf))
  have hNet₁ : cmd₁.getExternalValue networkKey = some (.networkState ⟨"network".toList, []⟩) := by
    rw [hFrame₁ _ (features.networkKey_not_mem (.inl rfl)), hNet]
  let cmd₂ := cmd₁.setExternalValue networkKey (.networkState ⟨"network".toList, flag.value⟩)
  have hHolds₂ : ∀ f ∈ features.afterNetwork, cmd₂.HoldsState f := fun f hf => by
    obtain ⟨r, hr⟩ := hHolds f (List.mem_append_right _ hf)
    refine ⟨r, ?_⟩
    rw [RunCommand.getExternalValue_set_of_ne _ _
        (features.key_ne_network f (List.mem_append_right _ hf)).symm,
      hFrame₁ _ (features.key_not_mem_beforeNetwork hf), hr]
  obtain ⟨cmd₃, hFrame₃, hRun₃⟩ := runHooks_postHooks features.keys_nodup_split.2.1 [] hHolds₂
    (fun f hf => hFlags f (List.mem_append_right _ hf))
  refine ⟨cmd₃, by rw [hFrame₃ _ (features.networkKey_not_mem (.inr rfl))]; simp [cmd₂], ?_⟩
  rw [parseRunPostHooks, hRun₁]
  cases features.beforeNetwork.findSome? (RunFeature.refusal flags) with
  | some e => rfl
  | none =>
    show runNetworkPostHook (cmd₁, flags) >>= runHooks (features.afterNetwork.map RunFeature.postHook) = _
    rw [runNetworkPostHook_eq hNet₁ hFlag]
    split
    · rw [List.append_nil] at hRun₃
      exact hRun₃
    · rfl

end RunFeatures

section ParseRun

variable {features : RunFeatures} {req : ParseRequest}

theorem parseRun_of_parse_error {e : GoError}
    (hp : (features.registerFlags req.flags).parse = .error e) :
    parseRun features req = Outcome.fail e := by
  obtain ⟨cmd, -, -, hPre⟩ := features.runHooks_parseRunPreHooks RunCommand.empty req.flags
  rw [parseRun, hPre]
  simp only [bind, Except.bind]
  rw [hp]
  rfl

theorem parseRun_of_parse {flags : BFlags} (hp : (features.registerFlags req.flags).parse = .ok flags) :
    ∃ cmd, (∀ f ∈ features.beforeNetwork ++ features.afterNetwork, cmd.HoldsState f) ∧
      cmd.getExternalValue networkKey = some (.networkState ⟨"network".toList, []⟩) ∧
      parseRun features req = (runHooks (parseRunPostHooks features) (cmd, flags)).map Prod.fst := by
  obtain ⟨cmd, hHolds, hNet, hPre⟩ := features.runHooks_parseRunPreHooks RunCommand.empty req.flags
  refine ⟨{ cmd with
    flagsUsed := flags.usedFlags
    shellDependantCmdLine := parseShellDependentCommand req false
    withNameAndCode := newWithNameAndCode req }, hHolds, hNet, ?_⟩
  rw [parseRun, hPre]
  simp only [bind, Except.bind]
  rw [hp]
  simp only [Outcome.ofExcept]
  cases runHooks (parseRunPostHooks features) _ <;> rfl

theorem parseRun_of_refusal {flags : BFlags} {e : GoError}
    (hp : (features.registerFlags req.flags).parse = .ok flags)
    (hr : features.beforeNetwork.findSome? (RunFeature.refusal flags) = some e) :
    parseRun features req = Outcome.fail e := by
  obtain ⟨cmd, hHolds, hNet, hRun⟩ := parseRun_of_parse hp
  obtain ⟨hFlags, hNetFlag⟩ := RunFeatures.lookup_registered hp
  obtain ⟨flag, hFlag⟩ := Option.isSome_iff_exists.mp hNetFlag
  obtain ⟨_, -, hPost⟩ := RunFeatures.runHooks_parseRunPostHooks hHolds hNet hFlags hFlag
  rw [hRun, hPost, hr]
  rfl

theorem parseRun_of_accepted {flags : BFlags}
    (hp : (features.registerFlags req.flags).parse = .ok flags)
    (hr : features.beforeNetwork.findSome? (RunFeature.refusal flags) = none) :
    ∃ flag, flags.lookup "network".toList = some flag ∧
      if isValidNetwork flag.value then
        (∃ e, parseRun features req = Outcome.fail e) ∨
          ∃ cmd, parseRun features req = .ok cmd ∧
            cmd.getExternalValue networkKey = some (.networkState ⟨"network".toList, flag.value⟩)
      else parseRun features req = Outcome.fail (.errorf "invalid network mode %q" [.str flag.value]) := by
  obtain ⟨cmd, hHolds, hNet, hRun⟩ := parseRun_of_parse hp
  obtain ⟨hFlags, hNetFlag⟩ := RunFeatures.lookup_registered hp
  obtain ⟨flag, hFlag⟩ := Option.isSome_iff_exists.mp hNetFlag
  obtain ⟨cmd', hNet', hPost⟩ := RunFeatures.runHooks_parseRunPostHooks hHolds hNet hFlags hFlag
  refine ⟨flag, hFlag, ?_⟩
  rw [hRun, hPost, hr]
  split
  · cases features.afterNetwork.findSome? (RunFeature.refusal flags) with
    | some e => exact .inl ⟨e, rfl⟩
    | none => exact .inr ⟨cmd', rfl, hNet'⟩
  · rfl

theorem parseRun_ok_network {flags : BFlags} {flag : Flag} {cmd : RunCommand}
    (hp : (features.registerFlags req.flags).parse = .ok flags)
    (hFlag : flags.lookup "network".toList = some flag) (h : parseRun features req = .ok cmd) :
    cmd.getExternalValue networkKey = some (.networkState ⟨"network".toList, flag.value⟩) := by
  cases hr : features.beforeNetwork.findSome? (RunFeature.refusal flags) with
  | some e => simp [parseRun_of_refusal hp hr, Outcome.fail] at h
  | none =>
    obtain ⟨flag', hFlag', hAcc⟩ := parseRun_of_accepted hp hr
    rw [hFlag] at hFlag'
    cases hFlag'
    split at hAcc
    · rcases hAcc with ⟨e, hFail⟩ | ⟨cmd', hOk, hNet⟩
      · simp [hFail, Outcome.fail] at h
      · rw [hOk] at h
        cases h
        exact hNet
    · simp [hAcc, Outcome.fail] at h

/-- What `parseRun` can return: an error, or a command holding the network state of the
pre-hook with the valid mode read. -/
theorem parseRun_cases (features : RunFeatures) (req : ParseRequest) :
    (∃ e, parseRun features req = Outcome.fail e) ∨
    ∃ cmd mode, parseRun features req = .ok cmd ∧
      cmd.getExternalValue networkKey = some (.networkState ⟨"network".toList, mode⟩) ∧
      isValidNetwork mode := by
  rcases hp : (features.registerFlags req.flags).parse with e | flags
  · exact .inl ⟨e, parseRun_of_parse_error hp⟩
  cases hr : features.beforeNetwork.findSome? (RunFeature.refusal flags) with
  | some e => exact .inl ⟨e, parseRun_of_refusal hp hr⟩
  | none =>
    obtain ⟨flag, -, hAcc⟩ := parseRun_of_accepted hp hr
    split at hAcc
    · rcases hAcc with hFail | ⟨cmd, hOk, hNet⟩
      · exact .inl hFail
      · exact .inr ⟨cmd, flag.value, hOk, hNet, ‹_›⟩
    · exact .inl ⟨_, hAcc⟩

/-- In a build's configuration, a `--device` or `--mount` value that its parser refuses fails
the `RUN` with that parser's error, the first such value deciding, before the network mode is
looked at. -/
theorem parseRun_ofBuild_refused {parseDevice parseMount : List Char → Option GoError}
    {dfrunsecurity : Bool} {flags : BFlags} {e : GoError}
    (hp : ((RunFeatures.ofBuild parseDevice parseMount dfrunsecurity).registerFlags req.flags).parse =
      .ok flags)
    (he : ((flags.stringValues "device".toList).findSome? parseDevice).or
      ((flags.stringValues "mount".toList).findSome? parseMount) = some e) :
    parseRun (.ofBuild parseDevice parseMount dfrunsecurity) req = Outcome.fail e := by
  apply parseRun_of_refusal hp
  have hReg := (RunFeatures.lookup_registered hp).1
  obtain ⟨device, hDevice⟩ := Option.isSome_iff_exists.mp (hReg _ (List.mem_cons_self _ _))
  obtain ⟨mount, hMount⟩ :=
    Option.isSome_iff_exists.mp (hReg _ (List.mem_cons_of_mem _ (List.mem_cons_self _ _)))
  simp only [RunFeatures.ofBuild, runDeviceFeature, runMountFeature] at hDevice hMount
  simp only [BFlags.stringValues, hDevice, hMount, Option.map_some', Option.getD_some] at he
  simp only [RunFeatures.ofBuild, List.findSome?_cons, List.findSome?_nil, RunFeature.refusal,
    runDeviceFeature, runMountFeature, hDevice, hMount, Option.some_bind]
  cases h : device.stringValues.findSome? parseDevice <;> simp_all

example : parseRun (.ofBuild (fun _ => none)
      (fun v => if v = "bad".toList then some (.errorf "bad mount" []) else none) true)
    ⟨"RUN".toList, ["true".toList], [], [],
      BFlags.ofArgs ["--mount=bad".toList, "--network=bogus".toList], [], [], []⟩ =
    Outcome.fail (.errorf "bad mount" []) := by
  decide

end ParseRun

end DockerfileFrontend.Instructions
