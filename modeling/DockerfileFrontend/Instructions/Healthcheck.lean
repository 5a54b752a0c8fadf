import DockerfileFrontend.Instructions.NoPanic

/-! # The bounds of `HEALTHCHECK`

A `HEALTHCHECK CMD` that parses has a test of `CMD` or `CMD-SHELL` and a command, durations
that are `0` or at least one millisecond, and a retry count that a 32-bit `int` holds and that
is not negative. A duration below a millisecond, or a negative or out-of-range count, is
rejected.
-/

namespace DockerfileFrontend.Instructions

open Go

theorem parseOptInterval_range {flags : BFlags} {name : List Char} {d : Int}
    (h : parseOptInterval flags name = .ok d) : d = 0 ∨ minimumDuration ≤ d ∧ d < 2 ^ 63 := by
  dsimp only [parseOptInterval] at h
  split at h
  · cases h
    exact .inl rfl
  split at h
  · cases h
  rename_i d' hd
  split at h
  · cases h
    exact .inl rfl
  split at h
  · cases h
  · cases h
    exact .inr ⟨by omega, (parseDuration_bounds hd).2⟩

theorem parseOptInterval_rejects {flags : BFlags} {name : List Char} {d : Int}
    (hd : parseDuration (flags.value name) = .ok d) (h0 : d ≠ 0) (hMin : d < minimumDuration) :
    ∀ d', parseOptInterval flags name ≠ .ok d' := by
  intro d' h
  dsimp only [parseOptInterval] at h
  split at h
  · rename_i hEmpty
    rw [hEmpty] at hd
    cases hd
  rw [hd] at h
  simp only [if_neg h0, if_pos hMin] at h
  cases h

theorem parseRetries_range {flags : BFlags} {r : Int} (h : parseRetries flags = .ok r) :
    0 ≤ r ∧ r ≤ 2 ^ 31 - 1 := by
  dsimp only [parseRetries] at h
  split at h
  · cases h
    exact ⟨le_rfl, by norm_num⟩
  split at h
  · cases h
  rename_i r' hr
  split at h
  · cases h
  · cases h
    have := parseInt_bounds hr
    norm_num at this
    omega

theorem parseRetries_rejects {flags : BFlags} (hGiven : flags.value "retries".toList ≠ [])
    (hBad : ∀ r, parseInt (flags.value "retries".toList) 32 = .ok r → r < 0) :
    ∀ r, parseRetries flags ≠ .ok r := by
  intro r h
  dsimp only [parseRetries] at h
  rw [if_neg hGiven] at h
  split at h
  · cases h
  rename_i r' hr
  split at h
  · cases h
  · rename_i hNeg
    exact hNeg (hBad r' hr)

theorem args_of_parseHealthcheck {req : ParseRequest} {cmd : HealthCheckCommand}
    (h : parseHealthcheck req = .ok cmd) : ∃ a0 rest, req.args = a0 :: rest := by
  cases hArgs : req.args with
  | nil => simp [parseHealthcheck, hArgs, Outcome.fail] at h
  | cons a0 rest => exact ⟨a0, rest, rfl⟩

theorem parseHealthcheck_ok {req : ParseRequest} {a0 : List Char} {rest : List (List Char)}
    {cmd : HealthCheckCommand} (hArgs : req.args = a0 :: rest) (hNotNone : toUpper a0 ≠ "NONE".toList)
    (h : parseHealthcheck req = .ok cmd) :
    ∃ flags, (healthcheckFlags req.flags).parse = .ok flags ∧ toUpper a0 = "CMD".toList ∧
      handleJSONArgs rest req.attributes ≠ [] ∧
      cmd.health.test = (if req.attribute "json".toList then "CMD".toList else "CMD-SHELL".toList) ::
        handleJSONArgs rest req.attributes ∧
      parseOptInterval flags "interval".toList = .ok cmd.health.interval ∧
      parseOptInterval flags "timeout".toList = .ok cmd.health.timeout ∧
      parseOptInterval flags "start-period".toList = .ok cmd.health.startPeriod ∧
      parseOptInterval flags "start-interval".toList = .ok cmd.health.startInterval ∧
      parseRetries flags = .ok cmd.health.retries := by
  unfold parseHealthcheck at h
  rw [if_neg (by simp [hArgs])] at h
  obtain ⟨a, ha, h⟩ := Outcome.ok_of_bind h
  obtain ⟨args, hSlice, h⟩ := Outcome.ok_of_bind h
  obtain rfl : a = a0 := by simpa [hArgs, index] using ha.symm
  obtain rfl : args = rest := by simpa [hArgs, sliceFrom] using hSlice.symm
  rw [if_neg hNotNone] at h
  dsimp only at h
  obtain ⟨flags, hFlags, h⟩ := Outcome.ok_of_bind h
  split at h
  · cases h
  rename_i hCmd
  split at h
  · cases h
  rename_i hSlice
  obtain ⟨interval, hInterval, h⟩ := Outcome.ok_of_bind h
  obtain ⟨timeout, hTimeout, h⟩ := Outcome.ok_of_bind h
  obtain ⟨startPeriod, hStartPeriod, h⟩ := Outcome.ok_of_bind h
  obtain ⟨startInterval, hStartInterval, h⟩ := Outcome.ok_of_bind h
  obtain ⟨retries, hRetries, h⟩ := Outcome.ok_of_bind h
  cases h
  simp only [Outcome.ofExcept_eq_ok] at hFlags hInterval hTimeout hStartPeriod hStartInterval hRetries
  have hCmd : toUpper a = "CMD".toList := not_not.mp hCmd
  refine ⟨flags, hFlags, hCmd, by simpa using hSlice, ?_, hInterval, hTimeout, hStartPeriod,
    hStartInterval, hRetries⟩
  cases req.attribute "json".toList <;> simp [hCmd]

/-- A `HEALTHCHECK` other than `NONE` that parses has a `CMD` test for the JSON form and a
`CMD-SHELL` test for the shell form, followed by a command; each duration is `0` or at least a
millisecond, and the retry count is in `[0, 2^31 - 1]`. A `HEALTHCHECK` with a duration below a
millisecond other than `0`, or with a retry count that is negative or does not parse as a
32-bit integer, fails. -/
theorem parseHealthcheck_bounds (req : ParseRequest)
    (hNotNone : ∀ a0 ∈ req.args.head?, toUpper a0 ≠ "NONE".toList) :
    (∀ cmd, parseHealthcheck req = .ok cmd →
      (∃ c, cmd.health.test =
          (if req.attribute "json".toList then "CMD".toList else "CMD-SHELL".toList) :: c ∧ c ≠ []) ∧
      (∀ d ∈ [cmd.health.interval, cmd.health.timeout, cmd.health.startPeriod,
          cmd.health.startInterval], d = 0 ∨ minimumDuration ≤ d) ∧
      0 ≤ cmd.health.retries ∧ cmd.health.retries ≤ 2 ^ 31 - 1) ∧
    (∀ flags, (healthcheckFlags req.flags).parse = .ok flags →
      ((∃ name ∈ ["interval".toList, "timeout".toList, "start-period".toList,
            "start-interval".toList],
          ∃ d, parseDuration (flags.value name) = .ok d ∧ d ≠ 0 ∧ d < minimumDuration) ∨
        (flags.value "retries".toList ≠ [] ∧
          ∀ r, parseInt (flags.value "retries".toList) 32 = .ok r → r < 0)) →
      ∃ e, parseHealthcheck req = Outcome.fail e) := by
  refine ⟨fun cmd h => ?_, fun flags hFlags hBad => ?_⟩
  · obtain ⟨a0, rest, hArgs⟩ := args_of_parseHealthcheck h
    obtain ⟨flags, -, -, hSlice, hTest, hI, hT, hSP, hSI, hR⟩ :=
      parseHealthcheck_ok hArgs (hNotNone a0 (by simp [hArgs])) h
    refine ⟨⟨_, hTest, hSlice⟩, ?_, parseRetries_range hR⟩
    simp only [List.mem_cons, List.mem_singleton, List.not_mem_nil, or_false]
    rintro d (rfl | rfl | rfl | rfl)
    exacts [(parseOptInterval_range hI).imp_right And.left,
      (parseOptInterval_range hT).imp_right And.left, (parseOptInterval_range hSP).imp_right And.left,
      (parseOptInterval_range hSI).imp_right And.left]
  · refine Outcome.eq_fail_of_noPanic (noPanic_parseHealthcheck req) fun cmd h => ?_
    obtain ⟨a0, rest, hArgs⟩ := args_of_parseHealthcheck h
    obtain ⟨flags', hFlags', -, -, -, hI, hT, hSP, hSI, hR⟩ :=
      parseHealthcheck_ok hArgs (hNotNone a0 (by simp [hArgs])) h
    obtain rfl : flags = flags' := Except.ok.inj (hFlags.symm.trans hFlags')
    rcases hBad with ⟨name, hName, d, hd, h0, hMin⟩ | ⟨hGiven, hNeg⟩
    · simp only [List.mem_cons, List.mem_singleton, List.not_mem_nil, or_false] at hName
      rcases hName with rfl | rfl | rfl | rfl
      exacts [parseOptInterval_rejects hd h0 hMin _ hI, parseOptInterval_rejects hd h0 hMin _ hT,
        parseOptInterval_rejects hd h0 hMin _ hSP, parseOptInterval_rejects hd h0 hMin _ hSI]
    · exact parseRetries_rejects hGiven hNeg _ hR

theorem parseHealthcheck_negative_retries :
    (∀ a0 ∈ ["CMD".toList, "true".toList].head?, toUpper a0 ≠ "NONE".toList) ∧
      ∃ e, parseHealthcheck ⟨"healthcheck".toList, ["CMD".toList, "true".toList], [], [],
        BFlags.ofArgs ["--retries=-1".toList], [], [], []⟩ = Outcome.fail e := by
  have hNotNone : ∀ a0 ∈ ["CMD".toList, "true".toList].head?, toUpper a0 ≠ "NONE".toList := by
    decide
  exact ⟨hNotNone, (parseHealthcheck_bounds ⟨"healthcheck".toList, ["CMD".toList, "true".toList],
    [], [], BFlags.ofArgs ["--retries=-1".toList], [], [], []⟩ hNotNone).2 _ rfl
    (.inr ⟨by decide, fun r hr => by cases hr; decide⟩)⟩

end DockerfileFrontend.Instructions
