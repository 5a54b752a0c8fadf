import DockerfileFrontend.Instructions.Parse

/-! # `ONBUILD`, `EXPOSE`, `VOLUME` and the one-argument instructions: what they keep

Instructions that only change the image configuration, most of which rewrite what they were
given. `ONBUILD` keeps its source text with the keyword cut off by `(?i)^\s*ONBUILD\s*`;
`EXPOSE` sorts its ports in Go's string order; `VOLUME` trims every volume and refuses a blank
one. `WORKDIR`, `USER`, `MAINTAINER` and `STOPSIGNAL` keep their one argument, but `STOPSIGNAL`
alone never reads the flags written on it.
-/

namespace DockerfileFrontend.Instructions

open Go Regexp

section Onbuild

variable {α : Type} {len : Nat} {caps : Captures} {cont : List Char → Captures → Option α}

theorem matchAt_caseFold {kw word : List Char} (hWord : ∀ c ∈ word, c.toUpper = c)
    (hKw : List.Forall₂ (fun d c => d = c ∨ d = c.toLower) kw word) (rs : List Regexp)
    (s : List Char) :
    (seq (word.map caseFoldLetter ++ rs)).matchAt len (kw ++ s) caps cont =
      (seq rs).matchAt len s caps cont := by
  induction hKw with
  | nil => rfl
  | @cons d c kw word hdc _ ih =>
    have hc : c.toUpper = c := hWord c (List.mem_cons_self _ _)
    have hMatch : (caseFoldLetter c).matchAt len (d :: (kw ++ s)) caps
        (fun s' caps' => (seq (word.map caseFoldLetter ++ rs)).matchAt len s' caps' cont) =
        (seq (word.map caseFoldLetter ++ rs)).matchAt len (kw ++ s) caps cont := by
      rw [caseFoldLetter, matchAt_charClass, if_pos]
      rcases hdc with rfl | rfl <;> simp [CharClass.matches, hc]
    rw [List.map_cons, List.cons_append, List.cons_append, matchAt_seq_cons, hMatch]
    exact ih fun c hc => hWord c (List.mem_cons_of_mem _ hc)

theorem deleteLeadingMatch_onbuildPrefix (ws kw ws' rest : List Char)
    (hws : ∀ c ∈ ws ++ ws', perlSpaceClass.matches c)
    (hKw : List.Forall₂ (fun d c => d = c ∨ d = c.toLower) kw "ONBUILD".toList)
    (hRest : ∀ c ∈ rest.head?, perlSpaceClass.matches c = false) :
    onbuildPrefix.deleteLeadingMatch (ws ++ kw ++ ws' ++ rest) = rest := by
  obtain ⟨k, kw', rfl⟩ : ∃ k kw', kw = k :: kw' := by
    cases hKw with
    | cons _ _ => exact ⟨_, _, rfl⟩
  have hk : perlSpaceClass.matches k = false := by
    cases hKw with
    | cons hk _ => rcases hk with rfl | rfl <;> decide
  have hList : [Regexp.beginText, .star perlSpaceClass] ++ "ONBUILD".toList.map caseFoldLetter ++
      [.star perlSpaceClass] = .beginText :: .star perlSpaceClass ::
        ("ONBUILD".toList.map caseFoldLetter ++ [.star perlSpaceClass]) := rfl
  have hRun : onbuildPrefix.matchAt (ws ++ k :: kw' ++ ws' ++ rest).length
      (ws ++ k :: kw' ++ ws' ++ rest) .none (fun rest _ => some rest) = some rest := by
    rw [onbuildPrefix, hList, matchAt_seq_cons, matchAt_beginText _ rfl, matchAt_seq_cons,
      List.append_assoc, List.append_assoc]
    refine matchAt_star_greedy _ ws _ (fun c hc => hws c (List.mem_append_left _ hc))
      (by simpa using hk) ?_
    rw [← List.append_assoc, matchAt_caseFold (by decide) hKw, matchAt_seq_cons]
    exact matchAt_star_greedy _ ws' _ (fun c hc => hws c (List.mem_append_right _ hc)) hRest rfl
  rw [deleteLeadingMatch, hRun]
  rfl

end Onbuild

theorem foldl_heredocText (heredocs : List Heredoc) (o : List Char) :
    heredocs.foldl (fun o heredoc => o ++ ['\n'] ++ heredoc.content ++ heredoc.name) o =
      o ++ heredocs.flatMap fun heredoc => '\n' :: (heredoc.content ++ heredoc.name) := by
  induction heredocs generalizing o with
  | nil => simp
  | cons h hs ih =>
    rw [List.foldl_cons, ih]
    simp

theorem parseOnBuild_eq {req : ParseRequest} {a0 : List Char} {args : List (List Char)}
    {bf : BFlags} (hArgs : req.args = a0 :: args) (hFlags : req.flags.parse = .ok bf) :
    parseOnBuild req =
      if toUpper (trimSpace a0) = "ONBUILD".toList then
        Outcome.fail (.new "Chaining ONBUILD via `ONBUILD ONBUILD` isn't allowed".toList)
      else if toUpper (trimSpace a0) ∈ ["MAINTAINER".toList, "FROM".toList] then
        Outcome.fail (.errorf "%s isn't allowed as an ONBUILD trigger" [.str (toUpper (trimSpace a0))])
      else .ok ⟨onbuildPrefix.deleteLeadingMatch req.original ++
        req.heredocs.flatMap fun heredoc => '\n' :: (heredoc.content ++ heredoc.name),
        newWithNameAndCode req⟩ := by
  have hOnbuild (s : List Char) : toUpper (toUpper s) = "ONBUILD".toList ↔
      toUpper s = "ONBUILD".toList := toUpper_toUpper_eq_iff (by decide)
  have hRefused (s : List Char) : toUpper (toUpper s) ∈ ["MAINTAINER".toList, "FROM".toList] ↔
      toUpper s ∈ ["MAINTAINER".toList, "FROM".toList] := toUpper_toUpper_mem_iff (by decide)
  simp only [parseOnBuild, hArgs, hFlags, index, hOnbuild, hRefused, foldl_heredocText]
  rfl

/-- `ONBUILD` refuses `ONBUILD`, `MAINTAINER` and `FROM` as the trigger, in any case and with
blanks around it, naming the refused trigger in upper case. Any other trigger is kept as the
source text without its keyword: blanks, `ONBUILD` in any case and the blanks after it are cut
off, and the newline, content and name of each heredoc follow. -/
theorem parseOnBuild_trigger (req : ParseRequest) (a0 : List Char) (args : List (List Char))
    (bf : BFlags) (hArgs : req.args = a0 :: args) (hFlags : req.flags.parse = .ok bf) :
    (toUpper (trimSpace a0) = "ONBUILD".toList →
      parseOnBuild req = Outcome.fail (.new "Chaining ONBUILD via `ONBUILD ONBUILD` isn't allowed".toList)) ∧
    (toUpper (trimSpace a0) ∈ ["MAINTAINER".toList, "FROM".toList] →
      parseOnBuild req = Outcome.fail
        (.errorf "%s isn't allowed as an ONBUILD trigger" [.str (toUpper (trimSpace a0))])) ∧
    (toUpper (trimSpace a0) ∉ ["ONBUILD".toList, "MAINTAINER".toList, "FROM".toList] →
      ∀ ws kw ws' rest, req.original = ws ++ kw ++ ws' ++ rest →
        (∀ c ∈ ws ++ ws', perlSpaceClass.matches c) →
        List.Forall₂ (fun d c => d = c ∨ d = c.toLower) kw "ONBUILD".toList →
        (∀ c ∈ rest.head?, perlSpaceClass.matches c = false) →
        parseOnBuild req = .ok ⟨rest ++
          req.heredocs.flatMap (fun heredoc => '\n' :: (heredoc.content ++ heredoc.name)),
          newWithNameAndCode req⟩) := by
  rw [parseOnBuild_eq hArgs hFlags]
  refine ⟨fun h => if_pos h, fun h => ?_, fun h ws kw ws' rest hOrig hws hKw hRest => ?_⟩
  · have hNe : toUpper (trimSpace a0) ≠ "ONBUILD".toList := by
      rintro hEq
      simp [hEq] at h
    rw [if_neg hNe, if_pos h]
  · simp only [List.mem_cons, List.not_mem_nil, or_false, not_or] at h
    rw [if_neg h.1, if_neg (by simpa only [List.mem_cons, List.not_mem_nil, or_false, not_or] using h.2),
      hOrig,
      deleteLeadingMatch_onbuildPrefix ws kw ws' rest hws hKw hRest]

theorem parseOnBuild_trigger_run :
    let req : ParseRequest := ⟨"ONBUILD".toList, ["RUN".toList, "echo".toList], [], [],
      BFlags.ofArgs [], "ONBUILD RUN echo".toList, [], []⟩
    req.args = "RUN".toList :: ["echo".toList] ∧ req.flags.parse = .ok (BFlags.ofArgs []) ∧
      (toUpper (trimSpace "RUN".toList) = "ONBUILD".toList →
        parseOnBuild req = Outcome.fail (.new "Chaining ONBUILD via `ONBUILD ONBUILD` isn't allowed".toList)) ∧
      (toUpper (trimSpace "RUN".toList) ∈ ["MAINTAINER".toList, "FROM".toList] →
        parseOnBuild req = Outcome.fail
          (.errorf "%s isn't allowed as an ONBUILD trigger" [.str (toUpper (trimSpace "RUN".toList))])) ∧
      (toUpper (trimSpace "RUN".toList) ∉ ["ONBUILD".toList, "MAINTAINER".toList, "FROM".toList] →
        ∀ ws kw ws' rest, req.original = ws ++ kw ++ ws' ++ rest →
          (∀ c ∈ ws ++ ws', perlSpaceClass.matches c) →
          List.Forall₂ (fun d c => d = c ∨ d = c.toLower) kw "ONBUILD".toList →
          (∀ c ∈ rest.head?, perlSpaceClass.matches c = false) →
          parseOnBuild req = .ok ⟨rest ++
            req.heredocs.flatMap (fun heredoc => '\n' :: (heredoc.content ++ heredoc.name)),
            newWithNameAndCode req⟩) := by
  intro req
  have hArgs : req.args = "RUN".toList :: ["echo".toList] := rfl
  have hFlags : req.flags.parse = .ok (BFlags.ofArgs []) := rfl
  exact ⟨hArgs, hFlags, parseOnBuild_trigger req _ _ _ hArgs hFlags⟩

/-- `EXPOSE` keeps every port it was given, none twice, in Go's string order, so that `443`
comes before `80`; the order the ports were written in does not matter. -/
theorem parseExpose_ports (req : ParseRequest) (cmd : ExposeCommand)
    (h : parseExpose req = .ok cmd) :
    cmd.ports.Perm req.args ∧ cmd.ports.Pairwise (fun a b => lessString b a = false) ∧
      ∀ args, args.Perm req.args → parseExpose { req with args := args } = .ok cmd := by
  have hSorted : ∀ l : List (List Char),
      (l.mergeSort fun a b => !lessString b a).Pairwise fun a b => lessString b a = false := by
    intro l
    simpa using @List.sorted_mergeSort _ (fun a b => !lessString b a)
      (fun a b c hab hbc => by simpa using not_lessString_trans (by simpa using hab) (by simpa using hbc))
      not_lessString_total l
  unfold parseExpose at h
  split at h
  · cases h
  rename_i hLen
  obtain ⟨bf, hbf, h⟩ := Outcome.ok_of_bind h
  cases h
  refine ⟨List.mergeSort_perm _ _, hSorted _, fun args hPerm => ?_⟩
  have hSame : args.mergeSort (fun a b => !lessString b a) =
      req.args.mergeSort (fun a b => !lessString b a) :=
    List.Perm.eq_of_sorted (fun a b _ _ hab hba => eq_of_not_lessString hab hba)
      (hSorted args) (hSorted req.args)
      (((List.mergeSort_perm _ _).trans hPerm).trans (List.mergeSort_perm _ _).symm)
  simp only [parseExpose, hPerm.length_eq, hLen, if_false, hbf]
  rw [hSame]
  rfl

theorem parseExpose_ports_sorted :
    let req : ParseRequest := ⟨"EXPOSE".toList, ["80".toList, "443".toList], [], [],
      BFlags.ofArgs [], "EXPOSE 80 443".toList, [], []⟩
    let cmd : ExposeCommand := ⟨["443".toList, "80".toList], newWithNameAndCode req⟩
    parseExpose req = .ok cmd ∧ cmd.ports.Perm req.args ∧
      cmd.ports.Pairwise (fun a b => lessString b a = false) ∧
      ∀ args, args.Perm req.args → parseExpose { req with args := args } = .ok cmd := by
  intro req cmd
  have h : parseExpose req = .ok cmd := by
    simp [req, cmd, parseExpose, List.mergeSort, List.splitInTwo, List.merge, lessString,
      BFlags.parse, BFlags.parseLoop, BFlags.ofArgs, Outcome.ofExcept]
  exact ⟨h, parseExpose_ports req cmd h⟩

theorem trimVolumes_eq (args : List (List Char)) :
    trimVolumes args = if ∀ a ∈ args, trimSpace a ≠ [] then .ok (args.map trimSpace)
      else .error (.new "VOLUME specified can not be an empty string".toList) := by
  induction args with
  | nil => rfl
  | cons a args ih =>
    rw [trimVolumes, ih]
    by_cases ha : trimSpace a = []
    · simp [ha]
    · by_cases hAll : ∀ a ∈ args, trimSpace a ≠ []
      · rw [if_neg ha, if_pos hAll, if_pos (by simpa [ha] using hAll)]
        rfl
      · rw [if_neg ha, if_neg hAll, if_neg (by simpa [ha] using hAll)]
        rfl

/-- Once its flags are read, `VOLUME` keeps every volume trimmed, and refuses the whole
instruction when one of them is blank. -/
theorem parseVolume_trims (req : ParseRequest) (bf : BFlags) (hArgs : req.args ≠ [])
    (hFlags : req.flags.parse = .ok bf) :
    parseVolume req =
      if ∀ a ∈ req.args, trimSpace a ≠ [] then .ok ⟨newWithNameAndCode req, req.args.map trimSpace⟩
      else Outcome.fail (.new "VOLUME specified can not be an empty string".toList) := by
  have hLen : req.args.length ≠ 0 := by simpa using hArgs
  simp only [parseVolume, hLen, if_false, hFlags, trimVolumes_eq]
  split <;> rfl

theorem parseVolume_trims_blank :
    let req : ParseRequest := ⟨"VOLUME".toList, [" /data ".toList, " ".toList], [], [],
      BFlags.ofArgs [], "VOLUME /data".toList, [], []⟩
    req.args ≠ [] ∧ req.flags.parse = .ok (BFlags.ofArgs []) ∧
      parseVolume req =
        if ∀ a ∈ req.args, trimSpace a ≠ [] then .ok ⟨newWithNameAndCode req, req.args.map trimSpace⟩
        else Outcome.fail (.new "VOLUME specified can not be an empty string".toList) := by
  intro req
  have hArgs : req.args ≠ [] := by simp [req]
  have hFlags : req.flags.parse = .ok (BFlags.ofArgs []) := rfl
  exact ⟨hArgs, hFlags, parseVolume_trims req _ hArgs hFlags⟩

theorem parse_ofArgs_cons (w : List Char) (rest : List (List Char)) (hw : w ≠ "--".toList) :
    ∃ e, (BFlags.ofArgs (w :: rest)).parse = .error e := by
  simp only [BFlags.parse, BFlags.ofArgs, BFlags.parseLoop, if_neg hw]
  split
  · exact ⟨_, rfl⟩
  · simp [BFlags.parseOne, BFlags.lookup]

/-- `STOPSIGNAL` never reads its flags, where `WORKDIR`, `USER` and `MAINTAINER` do. With one
argument and no flag registered, `STOPSIGNAL` keeps the argument whatever is written on it, while
the other three keep it only when no flag is written and refuse any written flag but the
terminator `--`. -/
theorem parseStopSignal_ignores_flags (req : ParseRequest) (a : List Char)
    (written : List (List Char)) (hArgs : req.args = [a]) (hFlags : req.flags = BFlags.ofArgs written) :
    parseStopSignal req = .ok ⟨a, newWithNameAndCode req⟩ ∧
    (written = [] →
      parseWorkdir req = .ok ⟨a, newWithNameAndCode req⟩ ∧
        parseUser req = .ok ⟨a, newWithNameAndCode req⟩ ∧
        parseMaintainer req = .ok ⟨a, newWithNameAndCode req⟩) ∧
    (∀ w rest, written = w :: rest → w ≠ "--".toList →
      (∃ e, parseWorkdir req = Outcome.fail e) ∧ (∃ e, parseUser req = Outcome.fail e) ∧
        ∃ e, parseMaintainer req = Outcome.fail e) := by
  have hOne : req.args.length = 1 := by simp [hArgs]
  refine ⟨by simp [parseStopSignal, hOne, hArgs, index, pure, Except.pure, bind, Except.bind],
    fun hNil => ?_, fun w rest hw hNe => ?_⟩
  · subst hNil
    simp [parseWorkdir, parseUser, parseMaintainer, hOne, hArgs, hFlags, index, BFlags.parse,
      BFlags.ofArgs, BFlags.parseLoop, Outcome.ofExcept, pure, Except.pure, bind, Except.bind]
  · obtain ⟨e, he⟩ := parse_ofArgs_cons w rest hNe
    subst hw
    refine ⟨⟨e, ?_⟩, ⟨e, ?_⟩, ⟨e, ?_⟩⟩ <;>
      simp [parseWorkdir, parseUser, parseMaintainer, hOne, hFlags, he, Outcome.ofExcept,
        Outcome.fail, bind, Except.bind]

theorem parseStopSignal_ignores_flags_unknown :
    let req : ParseRequest := ⟨"STOPSIGNAL".toList, ["SIGKILL".toList], [], [],
      BFlags.ofArgs ["--x".toList], "STOPSIGNAL --x SIGKILL".toList, [], []⟩
    req.args = ["SIGKILL".toList] ∧ req.flags = BFlags.ofArgs ["--x".toList] ∧
      parseStopSignal req = .ok ⟨"SIGKILL".toList, newWithNameAndCode req⟩ ∧
      (∃ e, parseWorkdir req = Outcome.fail e) ∧ (∃ e, parseUser req = Outcome.fail e) ∧
        ∃ e, parseMaintainer req = Outcome.fail e := by
  intro req
  obtain ⟨hStop, -, hFlag⟩ := parseStopSignal_ignores_flags req _ _ rfl rfl
  exact ⟨rfl, rfl, hStop, hFlag _ _ rfl (by decide)⟩

end DockerfileFrontend.Instructions
