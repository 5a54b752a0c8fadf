import DockerfileFrontend.Instructions.NoPanic

/-! # How `ADD`, `COPY`, `ARG`, `ENV` and `LABEL` split their arguments

`parseSourcesAndDest` takes the last argument as the destination and sorts the others into
paths and heredoc contents, each kept in order, unless `ADD` is given `--apt`, which keeps all
its arguments as package names; `parseArg` cuts every token at its first `=`; `parseKvps` reads
the key-value triples of `ENV` and `LABEL` in order.
-/

namespace DockerfileFrontend.Instructions

open Go

/-- The entry of `SourceContents` for a heredoc marker: the marker's name, the content of the
last attached heredoc of that name (empty if there is none), chomped when the marker asks for
it, and the marker's expansion. -/
def heredocSource (hs : Externals) (heredocs : List Heredoc) (marker : Heredoc) :
    SourceContent :=
  let content := (((heredocs.filter (·.name = marker.name)).getLast?).map Heredoc.content).getD []
  ⟨marker.name, if marker.chomp then hs.chompHeredocContent content else content, marker.expand⟩

theorem heredocLookupOf_eq (heredocs : List Heredoc) (name : List Char) :
    heredocLookupOf heredocs name = (heredocs.filter (·.name = name)).getLast? := by
  induction heredocs using List.reverseRecOn with
  | nil => rfl
  | append_singleton heredocs h ih =>
    simp only [heredocLookupOf, List.foldl_append, List.foldl_cons, List.foldl_nil] at ih ⊢
    rw [List.filter_append]
    by_cases hName : name = h.name
    · simp [hName]
    · simp [hName, ih, Ne.symm hName]

theorem foldl_splitSources (hs : Externals) (heredocs : List Heredoc) (srcs : List (List Char))
    (paths : List (List Char)) (contents : List SourceContent) :
    srcs.foldl (splitSources hs (heredocLookupOf heredocs)) (paths, contents) =
      (paths ++ srcs.filter (fun src => (hs.mustParseHeredoc src).isNone),
        contents ++ srcs.filterMap fun src => (hs.mustParseHeredoc src).map (heredocSource hs heredocs)) := by
  induction srcs generalizing paths contents with
  | nil => simp
  | cons src srcs ih =>
    rw [List.foldl_cons]
    cases hMarker : hs.mustParseHeredoc src with
    | none => simp [splitSources, hMarker, ih]
    | some marker => simp [splitSources, hMarker, ih, heredocSource, heredocLookupOf_eq]

theorem parseSourcesAndDest_eq (hs : Externals) (req : ParseRequest) (command : List Char)
    (srcs : List (List Char)) (dest : List Char) (hArgs : req.args = srcs ++ [dest]) :
    parseSourcesAndDest hs req command =
      if (hs.mustParseHeredoc dest).isSome then Outcome.fail (errBadHeredoc command "a destination".toList)
      else .ok ⟨dest, srcs.filter (fun src => (hs.mustParseHeredoc src).isNone),
        srcs.filterMap fun src => (hs.mustParseHeredoc src).map (heredocSource hs req.heredocs)⟩ := by
  obtain ⟨_, args, heredocs, _, _, _, _, _⟩ := req
  dsimp only at hArgs ⊢
  subst hArgs
  have hLen : (((srcs ++ [dest]).length : Int) - 1) = (srcs.length : Nat) := by simp
  rw [parseSourcesAndDest, hLen, sliceTo_of_le _ _ (by simp), index_of_lt _ _ (by simp)]
  simp [bind, Except.bind, pure, Except.pure, foldl_splitSources]

theorem length_filter_add_length_filterMap {α β γ : Type} (f : α → Option β) (g : β → γ)
    (l : List α) : (l.filter fun a => (f a).isNone).length + (l.filterMap fun a => (f a).map g).length =
      l.length := by
  induction l with
  | nil => rfl
  | cons a l ih =>
    cases h : f a <;> simp [h, List.filter_cons, List.filterMap_cons] <;> omega

theorem parseSourcesAndDest_count {hs : Externals} {req : ParseRequest} {command : List Char}
    {sd : SourcesAndDest} (h : parseSourcesAndDest hs req command = .ok sd) :
    sd.sourcePaths.length + sd.sourceContents.length = req.args.length - 1 := by
  rcases List.eq_nil_or_concat req.args with hNil | ⟨srcs, dest, hArgs⟩
  · simp [parseSourcesAndDest, hNil, sliceTo, bind, Except.bind] at h
  · rw [List.concat_eq_append] at hArgs
    rw [parseSourcesAndDest_eq hs req command srcs dest hArgs] at h
    split at h
    · cases h
    · cases h
      simp [hArgs, length_filter_add_length_filterMap]

theorem parseAdd_sources {hs : Externals} {req : ParseRequest} {c : AddCommand}
    (h : parseAdd hs req = .ok (.add c)) :
    parseSourcesAndDest hs req "ADD".toList = .ok c.sourcesAndDest := by
  obtain ⟨bf, -, h⟩ := Outcome.ok_of_bind h
  split at h
  · cases h
  split at h
  · cases h
  obtain ⟨sd, hSd, h⟩ := Outcome.ok_of_bind h
  cases h
  exact hSd

theorem parseCopy_sources {hs : Externals} {req : ParseRequest} {c : CopyCommand}
    (h : parseCopy hs req = .ok c) : parseSourcesAndDest hs req "COPY".toList = .ok c.sourcesAndDest := by
  unfold parseCopy at h
  split at h
  · cases h
  obtain ⟨bf, -, h⟩ := Outcome.ok_of_bind h
  obtain ⟨sd, hSd, h⟩ := Outcome.ok_of_bind h
  cases h
  exact hSd

/-- `parseSourcesAndDest` fails exactly when the destination is a heredoc marker; otherwise the
destination is the last argument, and the others are the paths that are not markers, in order,
and one content per marker, in order. So every `ADD` without `--apt` and every `COPY` that
parses keeps all its arguments but the destination as paths or contents. -/
theorem parseSourcesAndDest_splits (hs : Externals) (req : ParseRequest) (command : List Char) :
    (∀ srcs dest, req.args = srcs ++ [dest] →
      parseSourcesAndDest hs req command =
        if (hs.mustParseHeredoc dest).isSome then Outcome.fail (errBadHeredoc command "a destination".toList)
        else .ok ⟨dest, srcs.filter (fun src => (hs.mustParseHeredoc src).isNone),
          srcs.filterMap fun src => (hs.mustParseHeredoc src).map (heredocSource hs req.heredocs)⟩) ∧
    (∀ c, parseAdd hs req = .ok (.add c) →
      c.sourcesAndDest.sourcePaths.length + c.sourcesAndDest.sourceContents.length =
        req.args.length - 1) ∧
    (∀ c, parseCopy hs req = .ok c →
      c.sourcesAndDest.sourcePaths.length + c.sourcesAndDest.sourceContents.length =
        req.args.length - 1) :=
  ⟨parseSourcesAndDest_eq hs req command, fun _ h => parseSourcesAndDest_count (parseAdd_sources h),
    fun _ h => parseSourcesAndDest_count (parseCopy_sources h)⟩

theorem parseSourcesAndDest_splits_copy :
    let hs : Externals := ⟨fun _ => none, id, .networkOnly⟩
    let req : ParseRequest := ⟨"COPY".toList, ["a".toList, "b".toList, "/dst".toList], [], [],
      BFlags.ofArgs [], "COPY a b /dst".toList, [], []⟩
    parseSourcesAndDest hs req "COPY".toList = .ok ⟨"/dst".toList, ["a".toList, "b".toList], []⟩ ∧
      ∀ c, parseCopy hs req = .ok c →
        c.sourcesAndDest.sourcePaths.length + c.sourcesAndDest.sourceContents.length = 2 := by
  intro hs req
  have h := parseSourcesAndDest_splits hs req "COPY".toList
  exact ⟨by rw [h.1 ["a".toList, "b".toList] "/dst".toList rfl]; rfl, h.2.2⟩

theorem parseAdd_registers (written : List (List Char)) :
    addFlags (BFlags.ofArgs written) =
      ⟨written, [⟨"chown".toList, .stringType, [], []⟩, ⟨"chmod".toList, .stringType, [], []⟩,
        ⟨"link".toList, .boolType, "false".toList, []⟩,
        ⟨"keep-git-dir".toList, .boolType, "false".toList, []⟩,
        ⟨"checksum".toList, .stringType, [], []⟩, ⟨"unpack".toList, .boolType, "false".toList, []⟩,
        ⟨"apt".toList, .boolType, "false".toList, []⟩], [], none⟩ := by
  simp [addFlags, excludePatternsEnabled, BFlags.addBool, BFlags.addString, BFlags.addFlag,
    BFlags.ofArgs]

theorem apt_named_of_parseAdd_package {hs : Externals} {req : ParseRequest}
    {written : List (List Char)} {p : PackageCommand} (hFlags : req.flags = BFlags.ofArgs written)
    (h : parseAdd hs req = .ok (.package p)) :
    ∃ w ∈ written, (w.drop 2).takeWhile (· ≠ '=') = "apt".toList := by
  by_contra hNone
  push_neg at hNone
  unfold parseAdd at h
  simp only [hFlags, parseAdd_registers] at h
  obtain ⟨bf, hP, h⟩ := Outcome.ok_of_bind h
  have hFalse : bf.value "apt".toList = "false".toList := by
    simp only [BFlags.value, BFlags.parseLoop_lookup_of_forall
      ((Outcome.ofExcept_eq_ok _ _).mp hP) hNone]
    rfl
  rw [hFalse, if_neg (by decide)] at h
  split at h
  · cases h
  · obtain ⟨_, -, h⟩ := Outcome.ok_of_bind h
    cases h

/-- `ADD` is the package extension exactly when `--apt` is written: an `ADD` that writes
`--apt` before any `--` fails with the error of its flags when they cannot be read, and
otherwise is the `PackageCommand` of all its arguments, whatever their number, with no
destination check; an `ADD` with no word naming the `apt` flag is never one. -/
theorem parseAdd_apt (hs : Externals) (req : ParseRequest) (written : List (List Char))
    (hFlags : req.flags = BFlags.ofArgs written) :
    ("--apt".toList ∈ written.takeWhile (· ≠ "--".toList) →
      (∀ e, (addFlags req.flags).parse = .error e → parseAdd hs req = Outcome.fail e) ∧
      ∀ bf, (addFlags req.flags).parse = .ok bf →
        parseAdd hs req = .ok (.package ⟨newWithNameAndCode req, req.args⟩)) ∧
    ((∀ w ∈ written, (w.drop 2).takeWhile (· ≠ '=') ≠ "apt".toList) →
      ∀ c, parseAdd hs req = .ok c → ∃ a, c = .add a) := by
  refine ⟨fun hMem => ⟨fun e hP => ?_, fun bf hP => ?_⟩, fun hNone c hc => ?_⟩
  · simp only [parseAdd, hP]
    rfl
  · have hTrue : bf.value "apt".toList = "true".toList := by
      rw [hFlags, parseAdd_registers] at hP
      exact BFlags.parseLoop_bool_written hP rfl (by decide) hMem
    simp only [parseAdd, hP, Outcome.ofExcept, bind, Except.bind, hTrue, if_true]
    rfl
  · rcases parseAdd_cases hc with ⟨p, rfl⟩ | hAdd
    · obtain ⟨w, hw, hName⟩ := apt_named_of_parseAdd_package hFlags hc
      exact absurd hName (hNone w hw)
    · exact hAdd

theorem parseAdd_apt_no_packages :
    let req : ParseRequest := ⟨"ADD".toList, [], [], [], BFlags.ofArgs ["--apt".toList],
      "ADD --apt".toList, [], []⟩
    req.flags = BFlags.ofArgs ["--apt".toList] ∧
      "--apt".toList ∈ ["--apt".toList].takeWhile (· ≠ "--".toList) ∧
      (addFlags req.flags).parse = .ok ⟨["--apt".toList],
        [⟨"chown".toList, .stringType, [], []⟩, ⟨"chmod".toList, .stringType, [], []⟩,
          ⟨"link".toList, .boolType, "false".toList, []⟩,
          ⟨"keep-git-dir".toList, .boolType, "false".toList, []⟩,
          ⟨"checksum".toList, .stringType, [], []⟩, ⟨"unpack".toList, .boolType, "false".toList, []⟩,
          ⟨"apt".toList, .boolType, "true".toList, []⟩], ["apt".toList], none⟩ ∧
      parseAdd ⟨fun _ => none, id, .networkOnly⟩ req = .ok (.package ⟨newWithNameAndCode req, []⟩) := by
  intro req
  have hMem : "--apt".toList ∈ ["--apt".toList].takeWhile (· ≠ "--".toList) := by decide
  have hParse : (addFlags req.flags).parse = .ok ⟨["--apt".toList],
      [⟨"chown".toList, .stringType, [], []⟩, ⟨"chmod".toList, .stringType, [], []⟩,
        ⟨"link".toList, .boolType, "false".toList, []⟩,
        ⟨"keep-git-dir".toList, .boolType, "false".toList, []⟩,
        ⟨"checksum".toList, .stringType, [], []⟩, ⟨"unpack".toList, .boolType, "false".toList, []⟩,
        ⟨"apt".toList, .boolType, "true".toList, []⟩], ["apt".toList], none⟩ := by
    decide
  exact ⟨rfl, hMem, hParse, ((parseAdd_apt _ req _ rfl).1 hMem).2 _ hParse⟩

/-- An `ARG` token read as a key and an optional value: a token without `=` is a key alone;
otherwise the key is the text before its first `=` and the value all the text after it. -/
def argTokenSpec (a : List Char) : List Char × Option (List Char) :=
  if '=' ∈ a then (a.takeWhile (· ≠ '='), some ((a.dropWhile (· ≠ '=')).drop 1)) else (a, none)

def renderArg : List Char × Option (List Char) → List Char
  | (k, none) => k
  | (k, some v) => k ++ '=' :: v

theorem parseArgToken_eq (comments : List (List Char)) (a : List Char) :
    parseArgToken comments a =
      if a.head? = some '=' then Outcome.fail (errBlankCommandNames "ARG".toList)
      else .ok ⟨(argTokenSpec a).1, (argTokenSpec a).2, getComment comments (argTokenSpec a).1⟩ := by
  cases a with
  | nil => simp [parseArgToken, argTokenSpec, containsChar, pure, Except.pure]
  | cons c t =>
    by_cases hc : c = '='
    · subst hc
      simp [parseArgToken, containsChar, splitN2, index, bind, Except.bind]
    · by_cases hIn : '=' ∈ t
      · simp [parseArgToken, argTokenSpec, containsChar, splitN2, index, bind, Except.bind, hc,
          Ne.symm hc, hIn, pure, Except.pure]
      · simp [parseArgToken, argTokenSpec, containsChar, hc, Ne.symm hc, hIn, pure, Except.pure]

theorem mapM_eq_ok_map {α β : Type} {f : α → Outcome β} {g : α → β} :
    ∀ xs : List α, (∀ x ∈ xs, f x = .ok (g x)) → xs.mapM f = .ok (xs.map g)
  | [], _ => rfl
  | x :: xs, h => by
    rw [List.mapM_cons, h x (by simp), mapM_eq_ok_map xs fun y hy => h y (by simp [hy])]
    rfl

theorem ok_of_mapM_eq_ok {α β : Type} {f : α → Outcome β} :
    ∀ {xs : List α} {ys : List β}, xs.mapM f = .ok ys → ∀ x ∈ xs, ∃ y, f x = .ok y
  | [], _, _ => by simp
  | x :: xs, ys, h => by
    rw [List.mapM_cons] at h
    obtain ⟨y, hy, h⟩ := Outcome.ok_of_bind h
    obtain ⟨zs, hzs, -⟩ := Outcome.ok_of_bind h
    intro z hz
    rcases List.mem_cons.mp hz with rfl | hz
    · exact ⟨y, hy⟩
    · exact ok_of_mapM_eq_ok hzs z hz

theorem mapM_ok_forall {α β : Type} {f : α → Outcome β} {P : β → Prop}
    (hf : ∀ a b, f a = .ok b → P b) :
    ∀ {xs : List α} {ys : List β}, xs.mapM f = .ok ys → ys.length = xs.length ∧ ∀ y ∈ ys, P y
  | [], ys, h => by
    obtain rfl : [] = ys := Except.ok.inj h
    simp
  | x :: xs, ys, h => by
    rw [List.mapM_cons] at h
    obtain ⟨y, hy, h⟩ := Outcome.ok_of_bind h
    obtain ⟨zs, hzs, h⟩ := Outcome.ok_of_bind h
    obtain rfl : y :: zs = ys := Except.ok.inj h
    obtain ⟨hLen, hAll⟩ := mapM_ok_forall hf hzs
    exact ⟨by simp [hLen], by simpa [hf x y hy] using hAll⟩

theorem argTokenSpec_renderArg {p : List Char × Option (List Char)} (hKey : '=' ∉ p.1) :
    argTokenSpec (renderArg p) = p := by
  obtain ⟨k, _ | v⟩ := p
  · simp [renderArg, argTokenSpec, hKey]
  · have hAll : ∀ c ∈ k, (!decide (c = '=')) = true := fun c hc => by
      have : c ≠ '=' := fun h => hKey (h ▸ hc)
      simpa using this
    simp [renderArg, argTokenSpec, List.takeWhile_append_of_pos hAll,
      List.dropWhile_append_of_pos hAll]

theorem renderArg_head {p : List Char × Option (List Char)} (hNe : p.1 ≠ []) (hKey : '=' ∉ p.1) :
    (renderArg p).head? ≠ some '=' := by
  obtain ⟨_ | ⟨c, k⟩, _ | v⟩ := p <;> simp_all [renderArg, eq_comm]

theorem parseArg_ok {req : ParseRequest} (hNe : req.args ≠ [])
    (hNoEq : ∀ a ∈ req.args, a.head? ≠ some '=') :
    ∃ cmd, parseArg req = .ok cmd ∧
      cmd.args.map (fun kv => (kv.key, kv.value)) = req.args.map argTokenSpec := by
  have hLen : ¬ req.args.length < 1 := by simpa [List.length_pos] using hNe
  refine ⟨⟨req.args.map fun a => ⟨(argTokenSpec a).1, (argTokenSpec a).2,
    getComment req.comments (argTokenSpec a).1⟩, newWithNameAndCode req⟩, ?_, by simp⟩
  rw [parseArg, if_neg hLen, mapM_eq_ok_map _ fun a ha => by
    rw [parseArgToken_eq, if_neg (hNoEq a ha)]]
  rfl

/-- `parseArg` fails on a non-empty token list exactly when some token begins with `=`.
Otherwise each token gives, in order, its key and its value as `argTokenSpec` reads them; so
pairs whose keys are non-empty and hold no `=`, written as `KEY` or `KEY=VALUE`, parse back to
themselves. -/
theorem parseArg_splits_tokens (req : ParseRequest) :
    (req.args ≠ [] →
      ((∃ a ∈ req.args, a.head? = some '=') ↔ ∃ e, parseArg req = Outcome.fail e)) ∧
    (req.args ≠ [] → (∀ a ∈ req.args, a.head? ≠ some '=') →
      ∃ cmd, parseArg req = .ok cmd ∧
        cmd.args.map (fun kv => (kv.key, kv.value)) = req.args.map argTokenSpec) ∧
    (∀ pairs : List (List Char × Option (List Char)), pairs ≠ [] →
      (∀ p ∈ pairs, p.1 ≠ [] ∧ '=' ∉ p.1) →
      ∃ cmd, parseArg { req with args := pairs.map renderArg } = .ok cmd ∧
        cmd.args.map (fun kv => (kv.key, kv.value)) = pairs) := by
  refine ⟨fun hNe => ⟨fun ⟨a, ha, hEq⟩ => ?_, fun ⟨e, he⟩ => ?_⟩, fun hNe => parseArg_ok hNe,
    fun pairs hNe hKeys => ?_⟩
  · refine Outcome.eq_fail_of_noPanic (noPanic_parseArg req) fun cmd h => ?_
    rw [parseArg, if_neg (by simpa [List.length_pos] using hNe)] at h
    obtain ⟨pairs, hPairs, -⟩ := Outcome.ok_of_bind h
    obtain ⟨_, hTok⟩ := ok_of_mapM_eq_ok hPairs a ha
    rw [parseArgToken_eq, if_pos hEq] at hTok
    cases hTok
  · by_contra hNone
    push_neg at hNone
    obtain ⟨cmd, hCmd, -⟩ := parseArg_ok hNe hNone
    rw [hCmd] at he
    cases he
  · obtain ⟨cmd, hCmd, hMap⟩ := @parseArg_ok { req with args := pairs.map renderArg }
      (by simpa using hNe) (fun a ha => by
        obtain ⟨p, hp, rfl⟩ := List.mem_map.mp ha
        exact renderArg_head (hKeys p hp).1 (hKeys p hp).2)
    refine ⟨cmd, hCmd, hMap.trans ?_⟩
    rw [List.map_map]
    exact (List.map_congr_left fun p hp => argTokenSpec_renderArg (hKeys p hp).2).trans (List.map_id _)

theorem parseArg_splits_tokens_two :
    let req : ParseRequest := ⟨"ARG".toList, ["a=b=c".toList, "d".toList], [], [],
      BFlags.ofArgs [], "ARG a=b=c d".toList, [], []⟩
    req.args ≠ [] ∧ (∀ a ∈ req.args, a.head? ≠ some '=') ∧
      ∃ cmd, parseArg req = .ok cmd ∧
        cmd.args.map (fun kv => (kv.key, kv.value)) =
          [("a".toList, some "b=c".toList), ("d".toList, none)] := by
  intro req
  have hNe : req.args ≠ [] := by decide
  have hHead : ∀ a ∈ req.args, a.head? ≠ some '=' := by decide
  obtain ⟨cmd, hCmd, hMap⟩ := (parseArg_splits_tokens req).2.1 hNe hHead
  exact ⟨hNe, hHead, cmd, hCmd, hMap.trans (by decide)⟩

/-- The pairs an argument list stands for, read three at a time: the key, the value, and
whether the delimiter is empty. -/
def kvpsOf : List (List Char) → List KeyValuePair
  | k :: v :: d :: rest => ⟨k, v, d = []⟩ :: kvpsOf rest
  | _ => []

theorem length_kvpsOf : ∀ args : List (List Char), args.length % 3 = 0 →
    3 * (kvpsOf args).length = args.length
  | k :: v :: d :: rest, h => by
    have := length_kvpsOf rest (by simp only [List.length_cons] at h; omega)
    show 3 * ((kvpsOf rest).length + 1) = rest.length + 1 + 1 + 1
    omega
  | [], _ => rfl
  | [_], h | [_, _], h => by simp at h

theorem getElem_kvpsOf : ∀ (args : List (List Char)) (j : Nat) (hj : j < (kvpsOf args).length),
    ∃ k v d, args[3 * j]? = some k ∧ args[3 * j + 1]? = some v ∧ args[3 * j + 2]? = some d ∧
      (kvpsOf args)[j] = ⟨k, v, d = []⟩
  | k :: v :: d :: rest, 0, _ => ⟨k, v, d, by simp, by simp, by simp, rfl⟩
  | k :: v :: d :: rest, j + 1, hj => by
    obtain ⟨k', v', d', h1, h2, h3, h4⟩ := getElem_kvpsOf rest j (Nat.lt_of_succ_lt_succ hj)
    have hShift : ∀ n, (k :: v :: d :: rest)[3 * (j + 1) + n]? = rest[3 * j + n]? := fun n => by
      rw [show 3 * (j + 1) + n = 3 * j + n + 1 + 1 + 1 by omega]
      simp only [List.getElem?_cons_succ]
    exact ⟨k', v', d', (hShift 0).trans h1, (hShift 1).trans h2, (hShift 2).trans h3, h4⟩
  | [], _, hj | [_], _, hj | [_, _], _, hj => by simp [kvpsOf] at hj

theorem parseKvpsLoop_triple {args : List (List Char)} {cmdName : List Char}
    {res : List KeyValuePair} {j : Nat} (h : j + 2 < args.length) :
    parseKvpsLoop args cmdName res j =
      if args[j] = [] then Outcome.fail (errBlankCommandNames cmdName)
      else parseKvpsLoop args cmdName (res ++ [⟨args[j], args[j + 1], args[j + 2] = []⟩]) (j + 3) := by
  have hk := index_of_lt args j (by omega)
  have hv : index args ((j : Int) + 1) = .ok args[j + 1] := by
    simpa using index_of_lt args (j + 1) (by omega)
  have hd : index args ((j : Int) + 2) = .ok args[j + 2] := by
    simpa using index_of_lt args (j + 2) h
  rw [parseKvpsLoop, dif_pos (by omega)]
  by_cases hKey : args[j] = [] <;> simp [hk, hv, hd, bind, Except.bind, hKey]

theorem parseKvpsLoop_ok (args : List (List Char)) (cmdName : List Char) (res : List KeyValuePair)
    (j : Nat) (h3 : args.length % 3 = 0) (hj : j % 3 = 0)
    (hKeys : ∀ i, j ≤ 3 * i → ∀ k, args[3 * i]? = some k → k ≠ []) :
    parseKvpsLoop args cmdName res j = .ok (res ++ kvpsOf (args.drop j)) := by
  induction res, j using parseKvpsLoop.induct args cmdName with
  | case1 res j hlt ih =>
    have hKey : args[j] ≠ [] := hKeys (j / 3) (by omega) _ (by
      rw [show 3 * (j / 3) = j by omega]
      exact List.getElem?_eq_getElem hlt)
    have h1 : j + 1 < args.length := by omega
    have h2 : j + 2 < args.length := by omega
    rw [parseKvpsLoop_triple h2, if_neg hKey, ih _ _ _ (by omega) fun i hi => hKeys i (by omega),
      List.drop_eq_getElem_cons hlt, List.drop_eq_getElem_cons h1, List.drop_eq_getElem_cons h2]
    exact congrArg _ (List.append_assoc _ _ _)
  | case2 res j hge =>
    rw [parseKvpsLoop, dif_neg hge, List.drop_eq_nil_of_le (by omega)]
    exact congrArg _ (List.append_nil res).symm

theorem parseKvpsLoop_blank (args : List (List Char)) (cmdName : List Char)
    (res : List KeyValuePair) (j : Nat) (h3 : args.length % 3 = 0) (hj : j % 3 = 0)
    (hBlank : ∃ i, j ≤ 3 * i ∧ args[3 * i]? = some []) :
    parseKvpsLoop args cmdName res j = Outcome.fail (errBlankCommandNames cmdName) := by
  induction res, j using parseKvpsLoop.induct args cmdName with
  | case1 res j hlt ih =>
    rw [parseKvpsLoop_triple (by omega)]
    split
    · rfl
    · rename_i hKey
      obtain ⟨i, hi, hk⟩ := hBlank
      have hji : j + 3 ≤ 3 * i := by
        by_contra hNot
        rw [show 3 * i = j by omega, List.getElem?_eq_getElem hlt] at hk
        exact hKey (Option.some.inj hk)
      exact ih _ _ _ (by omega) ⟨i, hji, hk⟩
  | case2 res j hge =>
    obtain ⟨i, hi, hk⟩ := hBlank
    have := (List.getElem?_eq_some_iff.mp hk).1
    omega

/-- `parseKvps` fails on an empty list, on a length that is not a multiple of 3, and on an
empty key at some `3j`; otherwise it returns one pair per triple, in order, its key, value and
empty delimiter read at `3j`, `3j + 1` and `3j + 2`. It never indexes past the end of the list,
and `ENV` and `LABEL` keep the pairs it returns. -/
theorem parseKvps_triples (args : List (List Char)) (cmdName : List Char) :
    (args = [] → parseKvps args cmdName = Outcome.fail (errAtLeastOneArgument cmdName)) ∧
    (args.length % 3 ≠ 0 → parseKvps args cmdName = Outcome.fail (errTooManyArguments cmdName)) ∧
    (args ≠ [] → args.length % 3 = 0 → (∃ j, args[3 * j]? = some []) →
      parseKvps args cmdName = Outcome.fail (errBlankCommandNames cmdName)) ∧
    (args ≠ [] → args.length % 3 = 0 → (∀ j, args[3 * j]? ≠ some []) →
      ∃ res, parseKvps args cmdName = .ok res ∧ 3 * res.length = args.length ∧
        ∀ j (hj : j < res.length), ∃ k v d, args[3 * j]? = some k ∧
          args[3 * j + 1]? = some v ∧ args[3 * j + 2]? = some d ∧ res[j] = ⟨k, v, d = []⟩) ∧
    (parseKvps args cmdName).NoPanic ∧
    (∀ req cmd, parseEnv req = .ok cmd → parseKvps req.args "ENV".toList = .ok cmd.env) ∧
    (∀ req cmd, parseLabel req = .ok cmd → parseKvps req.args "LABEL".toList = .ok cmd.labels) := by
  have hLen : args ≠ [] → ¬ args.length = 0 := fun h => by simpa using h
  refine ⟨fun h => by simp [parseKvps, h], fun h => ?_, fun hNe h3 ⟨j, hj⟩ => ?_,
    fun hNe h3 hKeys => ?_, noPanic_parseKvps args cmdName, fun req cmd h => ?_, fun req cmd h => ?_⟩
  · rw [parseKvps, if_neg (fun h0 => h (by simp [h0])), if_pos h]
  · rw [parseKvps, if_neg (hLen hNe), if_neg (not_not.mpr h3)]
    exact parseKvpsLoop_blank args cmdName [] 0 h3 rfl ⟨j, Nat.zero_le _, hj⟩
  · refine ⟨kvpsOf args, ?_, length_kvpsOf args h3, getElem_kvpsOf args⟩
    rw [parseKvps, if_neg (hLen hNe), if_neg (not_not.mpr h3),
      parseKvpsLoop_ok args cmdName [] 0 h3 rfl fun i _ k hk hk0 => hKeys i (hk0 ▸ hk)]
    rfl
  · obtain ⟨_, -, h⟩ := Outcome.ok_of_bind h
    obtain ⟨envs, hEnvs, h⟩ := Outcome.ok_of_bind h
    cases h
    exact hEnvs
  · obtain ⟨_, -, h⟩ := Outcome.ok_of_bind h
    obtain ⟨labels, hLabels, h⟩ := Outcome.ok_of_bind h
    cases h
    exact hLabels

theorem parseKvps_triples_path :
    let args := ["PATH".toList, "/bin".toList, "=".toList]
    args ≠ [] ∧ args.length % 3 = 0 ∧ (∀ j, args[3 * j]? ≠ some []) ∧
      ∃ res, parseKvps args "ENV".toList = .ok res ∧ 3 * res.length = args.length ∧
        ∀ j (hj : j < res.length), ∃ k v d, args[3 * j]? = some k ∧
          args[3 * j + 1]? = some v ∧ args[3 * j + 2]? = some d ∧ res[j] = ⟨k, v, d = []⟩ := by
  intro args
  have hNe : args ≠ [] := by decide
  have h3 : args.length % 3 = 0 := by decide
  have hKeys : ∀ j, args[3 * j]? ≠ some [] := fun
    | 0 => by decide
    | j + 1 => by rw [List.getElem?_eq_none (by simp [args])]; simp
  exact ⟨hNe, h3, hKeys, (parseKvps_triples args _).2.2.2.1 hNe h3 hKeys⟩

end DockerfileFrontend.Instructions
