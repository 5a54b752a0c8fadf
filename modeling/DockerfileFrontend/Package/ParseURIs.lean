import DockerfileFrontend.Go.Regexp
import DockerfileFrontend.Go.Strconv

/-! # Reading apt's `--print-uris` listing

`PackageInvocation.ParseURIs` splits the listing at newlines, trims each line, skips the empty
ones and reads every other line with `aptRegex`; a line that does not match is an error, and so
is a size that `strconv.Atoi` rejects.
-/

namespace DockerfileFrontend.Package

open Go Regexp

structure PackageDownload where
  uri : List Char
  filename : List Char
  size : Int
  sha256 : List Char
deriving DecidableEq, Repr

def quoteChar : Char := Char.ofNat 39

def notQuoteClass : CharClass := ⟨true, [(39, 39)]⟩

def notSpaceClass : CharClass := ⟨true, [(32, 32)]⟩

def digitClass : CharClass := ⟨false, [(48, 57)]⟩

def hexClass : CharClass := ⟨false, [(48, 57), (65, 70), (97, 102)]⟩

/-- `^'([^']*)'\s+([^ ]+)\s+([0-9]+)(\s+SHA256:([0-9a-fA-F]+))?` -/
def aptRegex : Regexp :=
  seq [.beginText, .literal quoteChar, .capture 1 (.star notQuoteClass), .literal quoteChar,
    plus perlSpaceClass, .capture 2 (plus notSpaceClass), plus perlSpaceClass,
    .capture 3 (plus digitClass),
    quest (.capture 4 (seq [plus perlSpaceClass, str "SHA256:".toList, .capture 5 (plus hexClass)]))]

def parseURIsLoop (results : List PackageDownload) :
    List (List Char) → Except GoError (List PackageDownload)
  | [] => .ok results
  | line :: lines =>
    let line := trimSpace line
    if line.length = 0 then parseURIsLoop results lines else
    match aptRegex.findStringSubmatch line with
    | none => .error (.errorf "could not parse apt uri line: %q" [.str line])
    | some m =>
      match atoi (m.getD 3 []) with
      | .error e => .error e
      | .ok size =>
        let sha256 := if 5 < m.length then m.getD 5 [] else []
        parseURIsLoop (results ++ [⟨m.getD 1 [], m.getD 2 [], size, sha256⟩]) lines

def PackageInvocation.parseURIs (uris : List Char) : Except GoError (List PackageDownload) :=
  parseURIsLoop [] (split uris '\n')

def isHexDigit (c : Char) : Bool :=
  isDigit c || (65 ≤ c.toNat && c.toNat ≤ 70) || (97 ≤ c.toNat && c.toNat ≤ 102)

def shaSuffix (sha256 : List Char) : List Char :=
  if sha256 = [] then [] else ' ' :: "SHA256:".toList ++ sha256

/-- The line apt prints for a download: `'uri' filename size`, then ` SHA256:hash` when
there is a hash. -/
def renderLine (r : PackageDownload) : List Char :=
  quoteChar :: (r.uri ++ quoteChar :: ' ' ::
    (r.filename ++ ' ' :: (decimal r.size.toNat ++ shaSuffix r.sha256)))

/-- The downloads a listing can carry. -/
structure PackageDownload.Printable (r : PackageDownload) : Prop where
  uri_no_quote : quoteChar ∉ r.uri
  uri_no_newline : '\n' ∉ r.uri
  filename_ne_nil : r.filename ≠ []
  filename_no_space : ' ' ∉ r.filename
  filename_no_newline : '\n' ∉ r.filename
  size_nonneg : 0 ≤ r.size
  size_le : r.size ≤ 2 ^ 63 - 1
  sha256_hex : ∀ c ∈ r.sha256, isHexDigit c

/-- The filename does not begin with a tab, a form feed or a carriage return, the characters
of `\s` other than the space and the newline. -/
def PackageDownload.FilenameStartsClear (r : PackageDownload) : Prop :=
  ∀ c ∈ r.filename.head?, c.toNat ≠ 9 ∧ c.toNat ≠ 12 ∧ c.toNat ≠ 13

def IsPadding (ws : List Char) : Prop := ∀ c ∈ ws, isSpace c ∧ c ≠ '\n'

/-- A line of a listing: whitespace only, or a download with whitespace around it. -/
inductive ListingLine where
  | blank (ws : List Char)
  | entry (pre : List Char) (r : PackageDownload) (post : List Char)

def ListingLine.text : ListingLine → List Char
  | .blank ws => ws
  | .entry pre r post => pre ++ renderLine r ++ post

def ListingLine.download? : ListingLine → Option PackageDownload
  | .blank _ => none
  | .entry _ r _ => some r

def ListingLine.Valid (good : PackageDownload → Prop) : ListingLine → Prop
  | .blank ws => IsPadding ws
  | .entry pre r post => IsPadding pre ∧ IsPadding post ∧ good r

def listing (ls : List ListingLine) : List Char := join (ls.map ListingLine.text) ['\n']

theorem toNat_ne_of_ne {c d : Char} (h : c ≠ d) : c.toNat ≠ d.toNat :=
  fun he => h (by rw [← Char.ofNat_toNat c, he, Char.ofNat_toNat])

theorem notQuoteClass_matches (c : Char) : notQuoteClass.matches c = true ↔ c.toNat ≠ 39 := by
  simp [CharClass.matches, notQuoteClass]

theorem perlSpaceClass_matches (c : Char) :
    perlSpaceClass.matches c = true ↔
      c.toNat = 9 ∨ c.toNat = 10 ∨ c.toNat = 12 ∨ c.toNat = 13 ∨ c.toNat = 32 := by
  simp [CharClass.matches, perlSpaceClass]
  omega

theorem notSpaceClass_matches (c : Char) : notSpaceClass.matches c = true ↔ c.toNat ≠ 32 := by
  simp [CharClass.matches, notSpaceClass]

theorem digitClass_matches (c : Char) : digitClass.matches c = isDigit c := by
  simp [CharClass.matches, digitClass, isDigit]

theorem hexClass_matches (c : Char) : hexClass.matches c = isHexDigit c := by
  simp [CharClass.matches, hexClass, isHexDigit, isDigit, Bool.or_assoc]

def lineCaptures (r : PackageDownload) : Captures :=
  let caps := ((Captures.none.set 1 r.uri).set 2 r.filename).set 3 (decimal r.size.toNat)
  if r.sha256 = [] then caps else (caps.set 5 r.sha256).set 4 (shaSuffix r.sha256)

theorem shaSuffix_cases (sha256 : List Char) :
    (sha256 = [] ∧ shaSuffix sha256 = []) ∨
      (sha256 ≠ [] ∧ shaSuffix sha256 = ' ' :: ("SHA256:".toList ++ sha256)) := by
  by_cases h : sha256 = [] <;> simp [shaSuffix, h]

theorem aptRegex_matchAt_renderLine {α : Type} (r : PackageDownload) (hr : r.Printable)
    (hClear : r.FilenameStartsClear) (cont : List Char → Captures → Option α) (a : α)
    (hCont : cont [] (lineCaptures r) = some a) :
    aptRegex.matchAt (renderLine r).length (renderLine r) .none cont = some a := by
  obtain ⟨hne, hDigits, -⟩ := decimal_spec r.size.toNat
  obtain ⟨d, ds, hds⟩ := List.exists_cons_of_ne_nil hne
  obtain ⟨f, fs, hfs⟩ := List.exists_cons_of_ne_nil hr.filename_ne_nil
  have hQuote : quoteChar.toNat = 39 := rfl
  have hSp : (' ' : Char).toNat = 32 := rfl
  have hNl : ('\n' : Char).toNat = 10 := rfl
  have hf : f.toNat ≠ 32 ∧ f.toNat ≠ 10 :=
    ⟨hSp ▸ toNat_ne_of_ne fun h => hr.filename_no_space (by simp [hfs, h]),
      hNl ▸ toNat_ne_of_ne fun h => hr.filename_no_newline (by simp [hfs, h])⟩
  have hfClear := hClear f (by simp [hfs])
  simp only [aptRegex, matchAt_seq_cons]
  rw [matchAt_beginText _ rfl, renderLine, matchAt_literal]
  rw [matchAt_capture]
  refine matchAt_star_greedy _ r.uri _ ?_ (stops_cons _ (by decide)) ?_
  · intro c hc
    exact (notQuoteClass_matches c).mpr
      (hQuote ▸ toNat_ne_of_ne fun h => hr.uri_no_quote (h ▸ hc))
  simp only [consumed_append, matchAt_literal]
  refine matchAt_plus_greedy _ ' ' [] (r.filename ++ ' ' :: (decimal r.size.toNat ++
    shaSuffix r.sha256)) (by decide) (by simp) ?_ ?_
  · rw [hfs]
    refine stops_cons _ ?_
    have : ¬ perlSpaceClass.matches f = true := by rw [perlSpaceClass_matches]; omega
    simpa using this
  rw [hfs]
  rw [matchAt_capture]
  refine matchAt_plus_greedy _ f fs _ ?_ ?_ (stops_cons _ (by decide)) ?_
  · exact (notSpaceClass_matches f).mpr hf.1
  · intro c hc
    exact (notSpaceClass_matches c).mpr
      (hSp ▸ toNat_ne_of_ne fun h => hr.filename_no_space (hfs ▸ h ▸ List.mem_cons_of_mem _ hc))
  simp only [← List.cons_append, consumed_append, ← hfs]
  refine matchAt_plus_greedy _ ' ' [] (decimal r.size.toNat ++ shaSuffix r.sha256) (by decide)
    (by simp) ?_ ?_
  · rw [hds]
    refine stops_cons _ ?_
    have := hDigits d (by simp [hds])
    simp only [isDigit, Bool.and_eq_true, decide_eq_true_eq] at this
    have : ¬ perlSpaceClass.matches d = true := by rw [perlSpaceClass_matches]; omega
    simpa using this
  rw [hds, matchAt_capture]
  refine matchAt_plus_greedy _ d ds _ ?_ ?_ ?_ ?_
  · rw [digitClass_matches]
    exact hDigits d (by simp [hds])
  · intro c hc
    rw [digitClass_matches]
    exact hDigits c (by simp [hds, hc])
  · rcases shaSuffix_cases r.sha256 with ⟨-, hs⟩ | ⟨-, hs⟩
    · simp [hs]
    · rw [hs]
      exact stops_cons _ (by decide)
  simp only [← List.cons_append, consumed_append, ← hds]
  rcases shaSuffix_cases r.sha256 with ⟨h0, hs⟩ | ⟨h0, hs⟩
  · rw [hs, matchAt_quest_right _ _ (by rfl)]
    simpa [lineCaptures, h0] using hCont
  · rw [hs]
    apply matchAt_quest_left
    rw [matchAt_capture, matchAt_seq_cons]
    refine matchAt_plus_greedy _ ' ' [] ("SHA256:".toList ++ r.sha256) (by decide) (by simp)
      (stops_cons _ (by decide)) ?_
    simp only [matchAt_seq_cons, matchAt_str]
    obtain ⟨h, hs', hh⟩ := List.exists_cons_of_ne_nil h0
    have hHex : ∀ c ∈ h :: hs', hexClass.matches c := fun c hc => by
      rw [hexClass_matches]
      exact hr.sha256_hex c (hh ▸ hc)
    rw [hh, matchAt_capture]
    refine matchAt_plus_all _ h hs' (hHex h (by simp)) (fun c hc => hHex c (by simp [hc])) ?_
    simpa [lineCaptures, h0, hh, matchAt_seq_nil, shaSuffix] using hCont

theorem findStringSubmatch_renderLine (r : PackageDownload) (hr : r.Printable)
    (hClear : r.FilenameStartsClear) :
    aptRegex.findStringSubmatch (renderLine r) =
      some [renderLine r, r.uri, r.filename, decimal r.size.toNat, shaSuffix r.sha256, r.sha256] := by
  rw [findStringSubmatch, findAt_of_matchAt _ _ _ _
    (aptRegex_matchAt_renderLine r hr hClear _ (renderLine r, lineCaptures r) (by simp))]
  rcases shaSuffix_cases r.sha256 with ⟨h0, hs⟩ | ⟨h0, hs⟩ <;>
    simp [lineCaptures, h0, hs, show aptRegex.numSubexp = 5 from rfl, List.range_succ,
      Captures.none, shaSuffix]

theorem isSpace_of_isHexDigit {c : Char} (h : isHexDigit c) : isSpace c = false := by
  simp only [isHexDigit, isDigit, Bool.or_eq_true, Bool.and_eq_true, decide_eq_true_eq] at h
  simp only [isSpace, Bool.or_eq_false_iff]
  simp
  constructor <;> omega

theorem renderLine_last (r : PackageDownload) (hr : r.Printable) :
    ∃ ys c, renderLine r = ys ++ [c] ∧ isHexDigit c := by
  obtain ⟨hne, hDigits, -⟩ := decimal_spec r.size.toNat
  rcases shaSuffix_cases r.sha256 with ⟨-, hs⟩ | ⟨h0, hs⟩
  · rcases List.eq_nil_or_concat (decimal r.size.toNat) with h | ⟨ds, d, hds⟩
    · exact absurd h hne
    · refine ⟨quoteChar :: (r.uri ++ quoteChar :: ' ' :: (r.filename ++ ' ' :: ds)), d, ?_, ?_⟩
      · simp [renderLine, hs, hds]
      · simp [isHexDigit, hDigits d (by simp [hds])]
  · rcases List.eq_nil_or_concat r.sha256 with h | ⟨hs', h, hh⟩
    · exact absurd h h0
    · refine ⟨quoteChar :: (r.uri ++ quoteChar :: ' ' :: (r.filename ++ ' ' ::
        (decimal r.size.toNat ++ ' ' :: ("SHA256:".toList ++ hs')))), h, ?_, ?_⟩
      · simp [renderLine, shaSuffix, hh]
      · exact hr.sha256_hex h (by simp [hh])

theorem newline_not_mem_renderLine (r : PackageDownload) (hr : r.Printable) :
    '\n' ∉ renderLine r := by
  have hDigits := (decimal_spec r.size.toNat).2.1
  have hDec : '\n' ∉ decimal r.size.toNat := fun h => by simpa [isDigit] using hDigits _ h
  have hHex : '\n' ∉ r.sha256 := fun h => by
    simpa [isHexDigit, isDigit] using hr.sha256_hex _ h
  rcases shaSuffix_cases r.sha256 with ⟨-, hs⟩ | ⟨-, hs⟩ <;>
    simp [renderLine, hs, hr.uri_no_newline, hr.filename_no_newline, hDec, hHex, quoteChar]

theorem parseURIsLoop_entry (acc : List PackageDownload) (pre : List Char) (r : PackageDownload)
    (post : List Char) (lines : List (List Char)) (hPre : IsPadding pre) (hPost : IsPadding post)
    (hr : r.Printable) (hClear : r.FilenameStartsClear) :
    parseURIsLoop acc ((pre ++ renderLine r ++ post) :: lines) = parseURIsLoop (acc ++ [r]) lines := by
  obtain ⟨ys, c, hLast, hc⟩ := renderLine_last r hr
  have hTrim : trimSpace (pre ++ renderLine r ++ post) = renderLine r :=
    trimSpace_pad _ _ _ (by simp [renderLine]) (fun c hc => (hPre c hc).1)
      (fun c hc => (hPost c hc).1) (by simp [renderLine, quoteChar]; decide)
      (by simp [hLast, isSpace_of_isHexDigit hc])
  have hSize : r.size.toNat < 2 ^ 63 := by have := hr.size_le; omega
  simp only [parseURIsLoop, hTrim, findStringSubmatch_renderLine r hr hClear]
  simp [renderLine, atoi_decimal _ hSize, Int.toNat_of_nonneg hr.size_nonneg]

theorem parseURIsLoop_blank (acc : List PackageDownload) (ws : List Char)
    (lines : List (List Char)) (hws : IsPadding ws) :
    parseURIsLoop acc (ws :: lines) = parseURIsLoop acc lines := by
  have : trimSpace ws = [] := (trimSpace_eq_nil_iff ws).mpr fun c hc => (hws c hc).1
  simp [parseURIsLoop, this]

/-- `ParseURIs` reads back, in order, every download of a listing whose filenames do not start
with a tab, a form feed or a carriage return. -/
theorem parseURIs_listing (ls : List ListingLine)
    (h : ∀ l ∈ ls, l.Valid fun r => r.Printable ∧ r.FilenameStartsClear) :
    PackageInvocation.parseURIs (listing ls) = .ok (ls.filterMap ListingLine.download?) := by
  have hLoop : ∀ acc, parseURIsLoop acc (ls.map ListingLine.text) =
      .ok (acc ++ ls.filterMap ListingLine.download?) := by
    induction ls with
    | nil => simp [parseURIsLoop]
    | cons l ls ih =>
      intro acc
      have hl := h l (by simp)
      have ih := ih fun l hl => h l (by simp [hl])
      cases l with
      | blank ws => simp [ListingLine.text, parseURIsLoop_blank _ _ _ hl, ih, ListingLine.download?]
      | entry pre r post =>
        obtain ⟨hPre, hPost, hr, hClear⟩ := hl
        rw [List.map_cons, ListingLine.text, parseURIsLoop_entry _ _ _ _ _ hPre hPost hr hClear, ih]
        simp [ListingLine.download?]
  by_cases hne : ls = []
  · subst hne
    rfl
  · have hSplit : split (listing ls) '\n' = ls.map ListingLine.text := by
      refine List.splitOn_intercalate _ _ (fun t ht => ?_) (by simpa using hne)
      obtain ⟨l, hl, rfl⟩ := List.mem_map.mp ht
      cases l with
      | blank ws => exact fun hn => ((h _ hl) _ hn).2 rfl
      | entry pre r post =>
        obtain ⟨hPre, hPost, hr, -⟩ := h _ hl
        simp only [ListingLine.text, List.mem_append, not_or]
        exact ⟨⟨fun hn => (hPre _ hn).2 rfl, newline_not_mem_renderLine r hr⟩,
          fun hn => (hPost _ hn).2 rfl⟩
    rw [PackageInvocation.parseURIs, hSplit, hLoop]
    rfl

theorem parseURIs_listing_one_entry :
    (∀ l ∈ [ListingLine.entry [' '] ⟨['u'], ['f'], 1, ['a', 'F']⟩ []],
        l.Valid fun r => r.Printable ∧ r.FilenameStartsClear) ∧
      PackageInvocation.parseURIs (listing [ListingLine.entry [' '] ⟨['u'], ['f'], 1, ['a', 'F']⟩ []]) =
        .ok [⟨['u'], ['f'], 1, ['a', 'F']⟩] := by
  have hValid : ∀ l ∈ [ListingLine.entry [' '] ⟨['u'], ['f'], 1, ['a', 'F']⟩ []],
      l.Valid fun r => r.Printable ∧ r.FilenameStartsClear := by
    simp only [List.mem_singleton, forall_eq, ListingLine.Valid, IsPadding]
    exact ⟨by decide, by simp, ⟨by decide, by decide, by simp, by decide, by decide, by decide,
      by decide, by decide⟩, by simp [PackageDownload.FilenameStartsClear]⟩
  exact ⟨hValid, parseURIs_listing _ hValid⟩

/-- A filename that starts with a tab comes back without it: `\s+` before the filename takes the
tab, and `[^ ]+` the rest. -/
theorem parseURIs_listing_tab_filename :
    (∀ l ∈ [ListingLine.entry [] ⟨['u'], [Char.ofNat 9, 'f'], 0, []⟩ []],
        l.Valid PackageDownload.Printable) ∧
      PackageInvocation.parseURIs (listing [ListingLine.entry [] ⟨['u'], [Char.ofNat 9, 'f'], 0, []⟩ []]) ≠
        .ok ([ListingLine.entry [] ⟨['u'], [Char.ofNat 9, 'f'], 0, []⟩ []].filterMap
          ListingLine.download?) := by
  refine ⟨?_, by decide⟩
  simp only [List.mem_singleton, forall_eq, ListingLine.Valid, IsPadding]
  exact ⟨by simp, by simp, ⟨by decide, by decide, by simp, by decide, by decide, by decide,
    by decide, by simp⟩⟩

theorem aptRegex_hash_capture {len : Nat} {t rest : List Char} {caps : Captures}
    (h : Matches len aptRegex t .none rest caps) : ∀ v ∈ caps 5, ∀ c ∈ v, isHexDigit c := by
  obtain ⟨s₁, caps₁, hFields, hTail⟩ := Matches.seq_append_inv [.beginText, .literal quoteChar,
    .capture 1 (.star notQuoteClass), .literal quoteChar, plus perlSpaceClass,
    .capture 2 (plus notSpaceClass), plus perlSpaceClass, .capture 3 (plus digitClass)] h
  have hNone : caps₁ 5 = none := hFields.frame 5 (by decide)
  obtain ⟨s₂, caps₂, hQuest, hEnd⟩ := hTail.concat_inv
  obtain ⟨-, rfl⟩ := hEnd.seq_nil_inv
  rcases hQuest.alternate_inv with hGroup | hEmpty
  · obtain ⟨caps₃, hBody, rfl⟩ := hGroup.capture_inv
    obtain ⟨s₄, caps₄, hLead, hHash⟩ := Matches.seq_append_inv
      [plus perlSpaceClass, str "SHA256:".toList] hBody
    obtain ⟨s₅, caps₅, hCap, hEnd⟩ := hHash.concat_inv
    obtain ⟨-, rfl⟩ := hEnd.seq_nil_inv
    obtain ⟨caps₆, hPlus, rfl⟩ := hCap.capture_inv
    obtain ⟨u, rfl, -, hu, -⟩ := hPlus.plus_inv
    intro v hv c hc
    simp only [Captures.set_ne _ _ (show 5 ≠ 4 by decide), Captures.set_self, consumed_append,
      Option.mem_def, Option.some.injEq] at hv
    subst hv
    rw [← hexClass_matches]
    exact hu c hc
  · cases hEmpty
    simp [hNone]

theorem parseURIsLoop_sha256_hex (acc : List PackageDownload) (lines : List (List Char))
    (rs : List PackageDownload) (h : parseURIsLoop acc lines = .ok rs)
    (hAcc : ∀ r ∈ acc, ∀ c ∈ r.sha256, isHexDigit c) : ∀ r ∈ rs, ∀ c ∈ r.sha256, isHexDigit c := by
  induction lines generalizing acc with
  | nil =>
    obtain rfl : acc = rs := by simpa [parseURIsLoop] using h
    exact hAcc
  | cons line lines ih =>
    simp only [parseURIsLoop] at h
    split at h
    · exact ih acc h hAcc
    · split at h
      · cases h
      · rename_i m hm
        split at h
        · cases h
        · refine ih _ h fun r hr => ?_
          rcases List.mem_append.mp hr with hr | hr
          · exact hAcc r hr
          · obtain rfl := List.mem_singleton.mp hr
            obtain ⟨t, rest, caps, hMatch, rfl⟩ := findStringSubmatch_sound _ _ _ hm
            intro c hc
            split at hc
            · have hc5 : c ∈ (caps 5).getD [] := by
                simpa [show aptRegex.numSubexp = 5 from rfl, List.range_succ] using hc
              cases h5 : caps 5 with
              | none => simp [h5] at hc5
              | some v => exact aptRegex_hash_capture hMatch v (by simp [h5]) c (by simpa [h5] using hc5)
            · simp at hc

/-- On every listing it reads, `ParseURIs` yields hashes made of hexadecimal digits only: empty,
or `[0-9a-fA-F]+` of any length and either case. -/
theorem parseURIs_sha256_hex (uris : List Char) (rs : List PackageDownload)
    (h : PackageInvocation.parseURIs uris = .ok rs) : ∀ r ∈ rs, ∀ c ∈ r.sha256, isHexDigit c :=
  parseURIsLoop_sha256_hex [] _ rs h (by simp)

end DockerfileFrontend.Package
