import DockerfileFrontend.Package.ParseURIs

/-! # What `ParseURIs` accepts

The other direction of the listing format. `ParseURIs` reads a listing one line at a time, so
two listings joined by a newline read as the downloads of the first and then those of the
second, and a bad line of the first is the error. Every download it returns was read off one
line by `aptRegex`, and it is one that apt's line format can print: a URI without a quote, a
non-empty filename without a space, a size that fits an `int`, a hash of hexadecimal digits, and
no newline in any of them. The first line that is neither blank nor such a download refuses the
whole listing, whatever follows it.
-/

namespace DockerfileFrontend.Package

open Go Regexp

theorem parseURIsLoop_acc (acc acc' : List PackageDownload) (lines : List (List Char)) :
    parseURIsLoop (acc ++ acc') lines = (parseURIsLoop acc' lines).map (acc ++ ·) := by
  induction lines generalizing acc' with
  | nil => rfl
  | cons line lines ih =>
    simp only [parseURIsLoop]
    split
    · exact ih acc'
    · split
      · rfl
      · split
        · rfl
        · rw [List.append_assoc]
          exact ih _

theorem parseURIsLoop_append (acc : List PackageDownload) (lines lines' : List (List Char)) :
    parseURIsLoop acc (lines ++ lines') =
      parseURIsLoop acc lines >>= fun rs => parseURIsLoop rs lines' := by
  induction lines generalizing acc with
  | nil => rfl
  | cons line lines ih =>
    simp only [List.cons_append, parseURIsLoop]
    split
    · exact ih acc
    · split
      · rfl
      · split
        · rfl
        · exact ih _

/-- Two listings joined by a newline read as the downloads of the first, then those of the
second; when both have a bad line, the error is that of the first. -/
theorem parseURIs_append (a b : List Char) :
    PackageInvocation.parseURIs (a ++ '\n' :: b) = (do
      let xs ← PackageInvocation.parseURIs a
      let ys ← PackageInvocation.parseURIs b
      pure (xs ++ ys)) := by
  simp only [PackageInvocation.parseURIs, split_append_sep, parseURIsLoop_append]
  cases parseURIsLoop [] (split a '\n') with
  | error e => rfl
  | ok xs =>
    have hAcc := parseURIsLoop_acc xs [] (split b '\n')
    rw [List.append_nil] at hAcc
    show parseURIsLoop xs _ = _
    rw [hAcc]
    cases parseURIsLoop [] (split b '\n') <;> rfl

theorem aptRegex_fields {len : Nat} {t rest : List Char} {caps : Captures}
    (h : Matches len aptRegex t .none rest caps) :
    ∃ uri filename size, caps 1 = some uri ∧ caps 2 = some filename ∧ caps 3 = some size ∧
      (∀ c ∈ uri ++ filename ++ size, c ∈ t) ∧ quoteChar ∉ uri ∧ filename ≠ [] ∧
      ' ' ∉ filename ∧ size ≠ [] ∧ ∀ c ∈ size, isDigit c := by
  obtain ⟨s₁, c₁, hBegin, h⟩ := h.concat_inv
  obtain ⟨s₂, c₂, hOpen, h⟩ := h.concat_inv
  obtain ⟨s₃, c₃, hUri, h⟩ := h.concat_inv
  obtain ⟨s₄, c₄, hClose, h⟩ := h.concat_inv
  obtain ⟨s₅, c₅, hBlank, h⟩ := h.concat_inv
  obtain ⟨s₆, c₆, hFile, h⟩ := h.concat_inv
  obtain ⟨s₇, c₇, hBlank', h⟩ := h.concat_inv
  obtain ⟨s₈, c₈, hSize, hHash⟩ := h.concat_inv
  cases hBegin
  cases hOpen
  obtain ⟨_, hUriRun, rfl⟩ := hUri.capture_inv
  obtain ⟨uri, rfl, hu, rfl⟩ := hUriRun.star_inv
  cases hClose
  obtain ⟨w₁, rfl, -, -, rfl⟩ := hBlank.plus_inv
  obtain ⟨_, hFileRun, rfl⟩ := hFile.capture_inv
  obtain ⟨filename, rfl, hFileNe, hf, rfl⟩ := hFileRun.plus_inv
  obtain ⟨w₂, rfl, -, -, rfl⟩ := hBlank'.plus_inv
  obtain ⟨_, hSizeRun, rfl⟩ := hSize.capture_inv
  obtain ⟨size, rfl, hSizeNe, hs, rfl⟩ := hSizeRun.plus_inv
  refine ⟨uri, filename, size, ?_, ?_, ?_, ?_, ?_, hFileNe, ?_, hSizeNe, ?_⟩
  · rw [hHash.frame 1 (by decide)]
    simp [Captures.set]
  · rw [hHash.frame 2 (by decide)]
    simp [Captures.set]
  · rw [hHash.frame 3 (by decide)]
    simp [Captures.set]
  · intro c hc
    rcases List.mem_append.mp hc with hc | hc
    · rcases List.mem_append.mp hc with hc | hc <;> simp [hc]
    · simp [hc]
  · exact fun hq => by simpa [notQuoteClass_matches, quoteChar] using hu _ hq
  · exact fun hs' => by simpa [notSpaceClass_matches] using hf _ hs'
  · exact fun c hc => by simpa [digitClass_matches] using hs c hc

theorem printable_of_line {line : List Char} {m : List (List Char)} {size : Int}
    (hLine : '\n' ∉ line) (hm : aptRegex.findStringSubmatch (trimSpace line) = some m)
    (hSize : atoi (m.getD 3 []) = .ok size) :
    PackageDownload.Printable
      ⟨m.getD 1 [], m.getD 2 [], size, if 5 < m.length then m.getD 5 [] else []⟩ := by
  obtain ⟨t, rest, caps, hSuf, hMatch, rfl⟩ := findStringSubmatch_suffix _ _ _ hm
  obtain ⟨uri, filename, digits, h1, h2, h3, hIn, hUri, hFile, hSpace, hDigitsNe, hDigits⟩ :=
    aptRegex_fields hMatch
  have hNoNewline : ∀ c ∈ uri ++ filename ++ digits, c ≠ '\n' := fun c hc hEq =>
    hLine (hEq ▸ mem_of_mem_trimSpace (hSuf.subset (hIn c hc)))
  have hGroups : ∀ i, i < 5 → (consumed t rest :: (List.range aptRegex.numSubexp).map
      fun i => (caps (i + 1)).getD []).getD (i + 1) [] = (caps (i + 1)).getD [] := by
    intro i hi
    simp [show aptRegex.numSubexp = 5 from rfl, hi]
  rw [hGroups 2 (by decide), h3] at hSize
  obtain ⟨d, ds, rfl⟩ := List.exists_cons_of_ne_nil hDigitsNe
  obtain ⟨hNonneg, hLt⟩ := atoi_range (by simpa using hDigits d (by simp)) hSize
  rw [hGroups 0 (by decide), hGroups 1 (by decide), h1, h2]
  simp only [Option.getD_some]
  refine ⟨hUri, fun h => hNoNewline '\n' (by simp [h]) rfl, hFile, hSpace,
    fun h => hNoNewline '\n' (by simp [h]) rfl, hNonneg, Int.le_sub_one_of_lt hLt, ?_⟩
  have hHex := aptRegex_hash_capture hMatch
  simp only [show aptRegex.numSubexp = 5 from rfl]
  intro c hc
  cases h5 : caps 5 with
  | none => simp [h5, List.range_succ] at hc
  | some v => exact hHex v h5 c (by simpa [h5, List.range_succ] using hc)

theorem parseURIsLoop_records {acc : List PackageDownload} {lines : List (List Char)}
    {rs : List PackageDownload} (h : parseURIsLoop acc lines = .ok rs) :
    ∀ r ∈ rs, r ∈ acc ∨ ∃ line ∈ lines, ∃ m size,
      aptRegex.findStringSubmatch (trimSpace line) = some m ∧ atoi (m.getD 3 []) = .ok size ∧
      r = ⟨m.getD 1 [], m.getD 2 [], size, if 5 < m.length then m.getD 5 [] else []⟩ := by
  induction lines generalizing acc with
  | nil =>
    obtain rfl : acc = rs := by simpa [parseURIsLoop] using h
    exact fun r hr => .inl hr
  | cons line lines ih =>
    simp only [parseURIsLoop] at h
    split at h
    · exact fun r hr => (ih h r hr).imp_right
        fun ⟨l, hl, hRead⟩ => ⟨l, List.mem_cons_of_mem _ hl, hRead⟩
    split at h
    · cases h
    rename_i m hm
    split at h
    · cases h
    rename_i size hSize
    intro r hr
    rcases ih h r hr with hr | ⟨l, hl, hRead⟩
    · rcases List.mem_append.mp hr with hr | hr
      · exact .inl hr
      · exact .inr ⟨line, List.mem_cons_self _ _, m, size, hm, hSize, List.mem_singleton.mp hr⟩
    · exact .inr ⟨l, List.mem_cons_of_mem _ hl, hRead⟩

/-- Every download `ParseURIs` returns is one that apt's format can print: its URI has no quote
and no newline, its filename is not empty and has no space and no newline, its size lies between
0 and the largest `int`, and its hash is made of hexadecimal digits. -/
theorem parseURIs_printable (uris : List Char) (rs : List PackageDownload)
    (h : PackageInvocation.parseURIs uris = .ok rs) : ∀ r ∈ rs, r.Printable := by
  intro r hr
  rcases parseURIsLoop_records h r hr with hr | ⟨line, hLine, m, size, hm, hSize, rfl⟩
  · simp at hr
  · exact printable_of_line (not_mem_of_mem_split uris '\n' line hLine) hm hSize

theorem parseURIs_printable_one :
    PackageInvocation.parseURIs (quoteChar :: 'u' :: quoteChar :: " f 1 SHA256:aF".toList) =
        .ok [⟨['u'], ['f'], 1, ['a', 'F']⟩] ∧
      ∀ r ∈ [(⟨['u'], ['f'], 1, ['a', 'F']⟩ : PackageDownload)], r.Printable := by
  have hParse : PackageInvocation.parseURIs (quoteChar :: 'u' :: quoteChar :: " f 1 SHA256:aF".toList) =
      .ok [⟨['u'], ['f'], 1, ['a', 'F']⟩] := by decide
  exact ⟨hParse, parseURIs_printable _ _ hParse⟩

theorem parseURIsLoop_ok_of_good (acc : List PackageDownload) (lines : List (List Char))
    (hGood : ∀ l ∈ lines, trimSpace l = [] ∨
      ∃ m size, aptRegex.findStringSubmatch (trimSpace l) = some m ∧ atoi (m.getD 3 []) = .ok size) :
    ∃ rs, parseURIsLoop acc lines = .ok rs := by
  induction lines generalizing acc with
  | nil => exact ⟨acc, rfl⟩
  | cons line lines ih =>
    have hRest := fun l hl => hGood l (List.mem_cons_of_mem _ hl)
    simp only [parseURIsLoop]
    split
    · exact ih acc hRest
    · rename_i hNe
      obtain ⟨m, size, hm, hSize⟩ := (hGood line (List.mem_cons_self _ _)).resolve_left
        fun h => hNe (by rw [h]; rfl)
      rw [hm]
      dsimp only
      rw [hSize]
      exact ih _ hRest

/-- `ParseURIs` stops at the first bad line: one that is not blank once trimmed and that
`aptRegex` does not match, or whose size `strconv.Atoi` refuses. Whatever follows it, the listing
is refused, and an unmatched line is named, trimmed, in the error. -/
theorem parseURIs_first_bad_line (uris : List Char) (pre post : List (List Char)) (line : List Char)
    (hSplit : split uris '\n' = pre ++ line :: post)
    (hPre : ∀ l ∈ pre, trimSpace l = [] ∨
      ∃ m size, aptRegex.findStringSubmatch (trimSpace l) = some m ∧ atoi (m.getD 3 []) = .ok size)
    (hLine : trimSpace line ≠ [])
    (hBad : ∀ m size, aptRegex.findStringSubmatch (trimSpace line) = some m →
      atoi (m.getD 3 []) ≠ .ok size) :
    ∃ e, PackageInvocation.parseURIs uris = .error e ∧
      (aptRegex.findStringSubmatch (trimSpace line) = none →
        e = .errorf "could not parse apt uri line: %q" [.str (trimSpace line)]) := by
  obtain ⟨rs, hRs⟩ := parseURIsLoop_ok_of_good [] pre hPre
  rw [PackageInvocation.parseURIs, hSplit, parseURIsLoop_append, hRs]
  show ∃ e, parseURIsLoop rs (line :: post) = .error e ∧ _
  simp only [parseURIsLoop]
  rw [if_neg (fun h => hLine (List.eq_nil_of_length_eq_zero h))]
  cases hm : aptRegex.findStringSubmatch (trimSpace line) with
  | none => exact ⟨_, rfl, fun _ => rfl⟩
  | some m =>
    dsimp only
    cases hSize : atoi (m.getD 3 []) with
    | error e => exact ⟨e, rfl, fun h => nomatch h⟩
    | ok size => exact absurd hSize (hBad m size hm)

theorem parseURIs_first_bad_line_apt_error :
    let uris := "E: Unable to locate package foo".toList
    split uris '\n' = [] ++ uris :: [] ∧ trimSpace uris ≠ [] ∧
      aptRegex.findStringSubmatch (trimSpace uris) = none ∧
      ∃ e, PackageInvocation.parseURIs uris = .error e ∧
        (aptRegex.findStringSubmatch (trimSpace uris) = none →
          e = .errorf "could not parse apt uri line: %q" [.str (trimSpace uris)]) := by
  intro uris
  have hSplit : split uris '\n' = [] ++ uris :: [] := by decide
  have hNone : aptRegex.findStringSubmatch (trimSpace uris) = none := by decide
  exact ⟨hSplit, by decide, hNone, parseURIs_first_bad_line uris [] [] uris hSplit (by simp)
    (by decide) fun m size h => by rw [hNone] at h; cases h⟩

end DockerfileFrontend.Package
