import DockerfileFrontend.Instructions.Arguments

/-! # What the flags written on `COPY`, `ADD` and `RUN` become

An instruction registers its flags, then `Parse` reads the words written on it. A word that
names a flag the instruction did not register is refused, so the `COPY` flags whose features
are switched off (`--parents`, `--exclude`) are never accepted. A string flag holds the text
written after its `=`, or its default when no word names it; `COPY` copies its three string
flags and its `--link` into the command. `ADD` tells an `--unpack` that is not written from one
written false, by the flags `Parse` marks used. The network hooks of `RUN` read `--network` back
into the command's network state, refusing a mode that is not `default`, `none` or `host`
unless a feature whose hooks run first has refused its own flag.
-/

namespace DockerfileFrontend.Instructions

open Go

section Registered

variable {bf bf' : BFlags} {written : List (List Char)} {n : List Char}

theorem parseLoop_string_flag (h : bf.parseLoop written = .ok bf')
    (hReg : bf.lookup n = some ⟨n, .stringType, [], []⟩) (hn : '=' ∉ n) :
    (∀ v, "--".toList ++ n ++ '=' :: v ∈ written.takeWhile (· ≠ "--".toList) →
      bf'.value n = v) ∧
    ((∀ w ∈ written, (w.drop 2).takeWhile (· ≠ '=') ≠ n) → bf'.value n = []) :=
  ⟨fun _ hMem => BFlags.parseLoop_string_written h (by rw [hReg]; rfl) hn hMem,
    fun hNone => by simp only [BFlags.value, BFlags.parseLoop_lookup_of_forall h hNone, hReg]; rfl⟩

theorem parseLoop_bool_flag (h : bf.parseLoop written = .ok bf')
    (hReg : bf.lookup n = some ⟨n, .boolType, "false".toList, []⟩) (hn : '=' ∉ n) :
    ("--".toList ++ n ∈ written.takeWhile (· ≠ "--".toList) → bf'.value n = "true".toList) ∧
    ((∀ w ∈ written, (w.drop 2).takeWhile (· ≠ '=') ≠ n) → bf'.value n = "false".toList) :=
  ⟨fun hMem => BFlags.parseLoop_bool_written h (by rw [hReg]; rfl) hn hMem,
    fun hNone => by simp only [BFlags.value, BFlags.parseLoop_lookup_of_forall h hNone, hReg]; rfl⟩

end Registered

theorem parseCopy_registers (written : List (List Char)) :
    (((((if excludePatternsEnabled then (BFlags.ofArgs written).addStrings "exclude".toList
      else BFlags.ofArgs written).addString "chown".toList []).addString "from".toList
      []).addString "chmod".toList []).addBool "link".toList false) =
      ⟨written, [⟨"chown".toList, .stringType, [], []⟩, ⟨"from".toList, .stringType, [], []⟩,
        ⟨"chmod".toList, .stringType, [], []⟩, ⟨"link".toList, .boolType, "false".toList, []⟩],
        [], none⟩ := by
  simp [excludePatternsEnabled, BFlags.addBool, BFlags.addString, BFlags.addFlag, BFlags.ofArgs]

/-- What a `COPY` that parses holds of the words written on it: each of `--from`, `--chown` and
`--chmod` the text written after its `=`, empty when not written; `--link` true when written
bare, false when not written; never `--parents` nor an exclude pattern, and every word read
before any `--` names one of the four flags `COPY` registers, so `--parents` and `--exclude` are
refused. -/
theorem parseCopy_flags (hs : Externals) (req : ParseRequest) (written : List (List Char))
    (hFlags : req.flags = BFlags.ofArgs written) (c : CopyCommand)
    (hCopy : parseCopy hs req = .ok c) :
    (∀ name field, (name, field) ∈ [("from".toList, c.from), ("chown".toList, c.chown),
        ("chmod".toList, c.chmod)] →
      (∀ v, "--".toList ++ name ++ '=' :: v ∈ written.takeWhile (· ≠ "--".toList) → field = v) ∧
      ((∀ w ∈ written, (w.drop 2).takeWhile (· ≠ '=') ≠ name) → field = [])) ∧
    ("--link".toList ∈ written.takeWhile (· ≠ "--".toList) → c.link = true) ∧
    ((∀ w ∈ written, (w.drop 2).takeWhile (· ≠ '=') ≠ "link".toList) → c.link = false) ∧
    c.parents = false ∧ c.excludePatterns = [] ∧
    ∀ w ∈ written.takeWhile (· ≠ "--".toList), (w.drop 2).takeWhile (· ≠ '=') ∈
      ["chown".toList, "from".toList, "chmod".toList, "link".toList] := by
  unfold parseCopy at hCopy
  simp only [hFlags, parentsEnabled, Bool.false_eq_true, if_false, parseCopy_registers] at hCopy
  split at hCopy
  · cases hCopy
  obtain ⟨bf, hP, hCopy⟩ := Outcome.ok_of_bind hCopy
  obtain ⟨_, -, hCopy⟩ := Outcome.ok_of_bind hCopy
  cases hCopy
  have hLoop := (Outcome.ofExcept_eq_ok _ _).mp hP
  have hLink := @parseLoop_bool_flag _ _ _ "link".toList hLoop rfl (by decide)
  refine ⟨?_, fun hMem => ?_, fun hNone => ?_, rfl, rfl, fun w hw => ?_⟩
  · intro name field hMem
    simp only [List.mem_cons, Prod.mk.injEq, List.mem_nil_iff, or_false] at hMem
    rcases hMem with ⟨rfl, rfl⟩ | ⟨rfl, rfl⟩ | ⟨rfl, rfl⟩
    all_goals exact parseLoop_string_flag hLoop (by rfl) (by decide)
  · simp only [hLink.1 hMem]
    rfl
  · simp only [hLink.2 hNone]
    rfl
  · have hSome := BFlags.parseLoop_registered hLoop hw
    rw [BFlags.lookup_isSome_iff] at hSome
    simpa using hSome

theorem parseCopy_flags_from_build :
    let req : ParseRequest := ⟨"COPY".toList, ["app".toList, "/srv".toList], [], [],
      BFlags.ofArgs ["--from=build".toList, "--link".toList],
      "COPY --from=build --link app /srv".toList, [], []⟩
    ∃ c, parseCopy ⟨fun _ => none, id, .networkOnly⟩ req = .ok c ∧ c.from = "build".toList ∧ c.link = true := by
  intro req
  have hCopy : parseCopy ⟨fun _ => none, id, .networkOnly⟩ req = .ok ⟨newWithNameAndCode req,
      ⟨"/srv".toList, ["app".toList], []⟩, "build".toList, [], [], true, false, []⟩ := by decide
  have h := parseCopy_flags _ req _ rfl _ hCopy
  exact ⟨_, hCopy, (h.1 _ _ (List.mem_cons_self _ _)).1 "build".toList (by decide),
    h.2.1 (by decide)⟩

/-- The `Unpack` of an `ADD` is `nil` exactly when no word read names `unpack`, and true when
`--unpack` is written. -/
theorem parseAdd_unpack (hs : Externals) (req : ParseRequest) (written : List (List Char))
    (hFlags : req.flags = BFlags.ofArgs written) (a : AddCommand)
    (hAdd : parseAdd hs req = .ok (.add a)) :
    (a.unpack = none ↔ ∀ w ∈ written.takeWhile (· ≠ "--".toList),
      (w.drop 2).takeWhile (· ≠ '=') ≠ "unpack".toList) ∧
    ("--unpack".toList ∈ written.takeWhile (· ≠ "--".toList) → a.unpack = some true) := by
  unfold parseAdd at hAdd
  simp only [hFlags, parseAdd_registers] at hAdd
  obtain ⟨bf, hP, hAdd⟩ := Outcome.ok_of_bind hAdd
  have hLoop := (Outcome.ofExcept_eq_ok _ _).mp hP
  split at hAdd
  · cases hAdd
  split at hAdd
  · cases hAdd
  obtain ⟨_, -, hAdd⟩ := Outcome.ok_of_bind hAdd
  cases hAdd
  have hUsed := @BFlags.parseLoop_used _ _ _ "unpack".toList hLoop
  simp only [List.not_mem_nil, false_or] at hUsed
  refine ⟨?_, fun hMem => ?_⟩
  · by_cases hIn : "unpack".toList ∈ bf.used
    · obtain ⟨w, hw, hName⟩ := hUsed.mp hIn
      simp only [hIn, if_true]
      exact ⟨nofun, fun hNone => absurd hName (hNone w hw)⟩
    · simp only [hIn, if_false]
      exact ⟨fun _ w hw hName => hIn (hUsed.mpr ⟨w, hw, hName⟩), fun _ => trivial⟩
  · have hIn : "unpack".toList ∈ bf.used := hUsed.mpr ⟨_, hMem, rfl⟩
    simp only [hIn, if_true,
      @BFlags.parseLoop_bool_written _ _ _ "unpack".toList hLoop rfl (by decide) hMem]
    rfl

theorem parseAdd_unpack_bare :
    let req : ParseRequest := ⟨"ADD".toList, ["app.tar".toList, "/srv".toList], [], [],
      BFlags.ofArgs ["--unpack".toList], "ADD --unpack app.tar /srv".toList, [], []⟩
    ∃ a, parseAdd ⟨fun _ => none, id, .networkOnly⟩ req = .ok (.add a) ∧ a.unpack = some true := by
  intro req
  have hAdd : parseAdd ⟨fun _ => none, id, .networkOnly⟩ req = .ok (.add ⟨newWithNameAndCode req,
      ⟨"/srv".toList, ["app.tar".toList], []⟩, [], [], false, false, [], [], some true⟩) := by
    decide
  exact ⟨_, hAdd, (parseAdd_unpack _ req _ rfl _ hAdd).2 (by decide)⟩

/-- The network mode of a `RUN` is the one written with `--network=`, `default` when no word
names the flag. A `RUN` whose mode is not `default`, `none` or `host` is refused: with the error
of its flags when they cannot be read, then with that of the first feature of the build before
the network hooks to refuse its flag, and otherwise with the mode in the message. -/
theorem parseRun_network_flag (features : RunFeatures) (req : ParseRequest)
    (written : List (List Char)) (hFlags : req.flags = BFlags.ofArgs written) :
    ((∀ w ∈ written, (w.drop 2).takeWhile (· ≠ '=') ≠ "network".toList) →
      ∀ cmd, parseRun features req = .ok cmd → getNetwork cmd = .ok networkDefault) ∧
    ∀ v, "--network=".toList ++ v ∈ written.takeWhile (· ≠ "--".toList) →
      (∀ cmd, parseRun features req = .ok cmd → getNetwork cmd = .ok v) ∧
      (isValidNetwork v = false →
        (∃ e, (features.registerFlags req.flags).parse = .error e ∧
          parseRun features req = Outcome.fail e) ∨
        ∃ flags, (features.registerFlags req.flags).parse = .ok flags ∧
          ((∃ e, features.beforeNetwork.findSome? (RunFeature.refusal flags) = some e ∧
              parseRun features req = Outcome.fail e) ∨
            features.beforeNetwork.findSome? (RunFeature.refusal flags) = none ∧
              parseRun features req = Outcome.fail (.errorf "invalid network mode %q" [.str v]))) := by
  rcases hp : (features.registerFlags req.flags).parse with e | flags
  case error =>
    have hRun := parseRun_of_parse_error hp
    refine ⟨fun _ cmd h => ?_, fun v _ => ⟨fun cmd h => ?_, fun _ => .inl ⟨e, rfl, hRun⟩⟩⟩
    all_goals simp [hRun, Outcome.fail] at h
  case ok =>
    obtain ⟨hErr, hLoop⟩ := BFlags.parseLoop_of_parse hp
    have hReg := RunFeatures.lookup_network_registerFlags hErr
    have hArgs : req.flags.args = written := by rw [hFlags]; rfl
    rw [RunFeatures.args_registerFlags, hArgs] at hLoop
    obtain ⟨flag, hFlag⟩ := Option.isSome_iff_exists.mp (RunFeatures.lookup_registered hp).2
    -- a `RUN` that parses holds the mode its flags hold
    have hNet : ∀ cmd, parseRun features req = .ok cmd → getNetwork cmd = .ok flag.value :=
      fun cmd h => by simp [getNetwork, parseRun_ok_network hp hFlag h]
    refine ⟨fun hNone => ?_, fun v hMem => ?_⟩
    · rw [BFlags.parseLoop_lookup_of_forall hLoop hNone, hReg] at hFlag
      cases hFlag
      exact hNet
    · have hValue : flag.value = v := by
        have h := BFlags.parseLoop_string_written hLoop (by rw [hReg]; rfl) (by decide)
          (by simpa using hMem)
        rwa [BFlags.value, hFlag] at h
      subst hValue
      refine ⟨hNet, fun hInvalid => .inr ⟨flags, rfl, ?_⟩⟩
      cases hr : features.beforeNetwork.findSome? (RunFeature.refusal flags) with
      | some e => exact .inl ⟨e, rfl, parseRun_of_refusal hp hr⟩
      | none =>
        obtain ⟨flag', hFlag', hAcc⟩ := parseRun_of_accepted hp hr
        rw [hFlag] at hFlag'
        cases hFlag'
        rw [if_neg (by simp [hInvalid])] at hAcc
        exact .inr ⟨rfl, hAcc⟩

theorem parseRun_network_flag_bridge :
    let req : ParseRequest := ⟨"RUN".toList, ["true".toList], [], [],
      BFlags.ofArgs ["--network=bridge".toList], "RUN --network=bridge true".toList, [], []⟩
    (∃ e, (RunFeatures.networkOnly.registerFlags req.flags).parse = .error e ∧
      parseRun .networkOnly req = Outcome.fail e) ∨
    ∃ flags, (RunFeatures.networkOnly.registerFlags req.flags).parse = .ok flags ∧
      ((∃ e, RunFeatures.networkOnly.beforeNetwork.findSome? (RunFeature.refusal flags) = some e ∧
          parseRun .networkOnly req = Outcome.fail e) ∨
        RunFeatures.networkOnly.beforeNetwork.findSome? (RunFeature.refusal flags) = none ∧
          parseRun .networkOnly req =
            Outcome.fail (.errorf "invalid network mode %q" [.str "bridge".toList])) := by
  intro req
  exact ((parseRun_network_flag .networkOnly req _ rfl).2 "bridge".toList (by decide)).2 (by decide)

end DockerfileFrontend.Instructions
