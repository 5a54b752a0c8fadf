import DockerfileFrontend.Go.Basic

/-! # Go's `regexp`: leftmost-first matching with submatches

`matchAt` is the backtracking reference semantics of RE2's leftmost-first mode: at a choice
the preferred branch is tried first, and the first way to finish the whole expression wins.
Greedy repetition prefers the longest run. `findStringSubmatch` tries the start positions from
the left. Only the operators of the frontend's expressions are present; `star` repeats a
character class, which is the only repetition they use.

`Matches` is the relational meaning of an expression. `matchAt_sound` says that every result
of the matcher comes from a relational match, and `starMatch_greedy` that a greedy run which
can be continued is the one taken.
-/

namespace DockerfileFrontend.Go

structure CharClass where
  negated : Bool
  ranges : List (Nat × Nat)
deriving DecidableEq, Repr

def CharClass.matches (k : CharClass) (c : Char) : Bool :=
  k.ranges.any (fun r => r.1 ≤ c.toNat && c.toNat ≤ r.2) != k.negated

/-- `\s`, which RE2 reads as `[\t\n\f\r ]`. -/
def perlSpaceClass : CharClass := ⟨false, [(9, 10), (12, 13), (32, 32)]⟩

/-- The operators of `regexp/syntax` that the frontend's expressions use. -/
inductive Regexp where
  | emptyMatch
  | beginText
  | endText
  | literal (c : Char)
  | charClass (k : CharClass)
  | star (k : CharClass)
  | concat (r s : Regexp)
  | alternate (r s : Regexp)
  | capture (index : Nat) (r : Regexp)
deriving DecidableEq, Repr

namespace Regexp

def plus (k : CharClass) : Regexp := .concat (.charClass k) (.star k)

/-- Greedy `r?`: matching `r` is preferred to matching nothing. -/
def quest (r : Regexp) : Regexp := .alternate r .emptyMatch

def str : List Char → Regexp
  | [] => .emptyMatch
  | c :: s => .concat (.literal c) (str s)

def seq : List Regexp → Regexp
  | [] => .emptyMatch
  | r :: rs => .concat r (seq rs)

def captureIndices : Regexp → List Nat
  | .concat r s | .alternate r s => r.captureIndices ++ s.captureIndices
  | .capture i r => i :: r.captureIndices
  | _ => []

def numSubexp (r : Regexp) : Nat := r.captureIndices.length

end Regexp

def Captures := Nat → Option (List Char)

def Captures.none : Captures := fun _ => Option.none

def Captures.set (caps : Captures) (i : Nat) (v : List Char) : Captures :=
  fun j => if j = i then some v else caps j

@[simp] theorem Captures.set_self (caps : Captures) (i : Nat) (v : List Char) :
    caps.set i v i = some v := by simp [Captures.set]

@[simp] theorem Captures.set_ne (caps : Captures) {i j : Nat} (v : List Char) (h : j ≠ i) :
    caps.set i v j = caps j := by simp [Captures.set, h]

def consumed (s rest : List Char) : List Char := s.take (s.length - rest.length)

@[simp] theorem consumed_append (u rest : List Char) : consumed (u ++ rest) rest = u := by
  simp [consumed]

@[simp] theorem consumed_nil (s : List Char) : consumed s [] = s := by
  simp [consumed]

/-- Greedy `k*`: the longest run first, then one character less, and so on. -/
def starMatch {α : Type} (k : CharClass) (cont : List Char → Option α) : List Char → Option α
  | [] => cont []
  | c :: s => ((if k.matches c then starMatch k cont s else none) <|> cont (c :: s))

namespace Regexp

/-- Leftmost-first matching at the start of `s`, in continuation-passing style; `len` is the
length of the whole input, which `^` compares against. -/
def matchAt {α : Type} (len : Nat) :
    Regexp → List Char → Captures → (List Char → Captures → Option α) → Option α
  | .emptyMatch, s, caps, cont => cont s caps
  | .beginText, s, caps, cont => if s.length = len then cont s caps else none
  | .endText, s, caps, cont => if s = [] then cont s caps else none
  | .literal c, s, caps, cont =>
    match s with
    | d :: s => if d = c then cont s caps else none
    | [] => none
  | .charClass k, s, caps, cont =>
    match s with
    | d :: s => if k.matches d then cont s caps else none
    | [] => none
  | .star k, s, caps, cont => starMatch k (cont · caps) s
  | .concat r t, s, caps, cont => r.matchAt len s caps (fun s' caps' => t.matchAt len s' caps' cont)
  | .alternate r t, s, caps, cont => (r.matchAt len s caps cont <|> t.matchAt len s caps cont)
  | .capture i r, s, caps, cont =>
    r.matchAt len s caps (fun s' caps' => cont s' (caps'.set i (consumed s s')))

def findAt (re : Regexp) (len : Nat) : List Char → Option (List Char × Captures)
  | [] => re.matchAt len [] .none fun rest caps => some (consumed [] rest, caps)
  | c :: s => (re.matchAt len (c :: s) .none (fun rest caps => some (consumed (c :: s) rest, caps)) <|>
      findAt re len s)

/-- `Regexp.FindStringSubmatch`: the whole match, then every group, `""` when it did not take
part; `none` (Go's `nil`) when there is no match. -/
def findStringSubmatch (re : Regexp) (s : List Char) : Option (List (List Char)) :=
  (re.findAt s.length s).map fun (whole, caps) =>
    whole :: (List.range re.numSubexp).map fun i => (caps (i + 1)).getD []

theorem findAt_of_matchAt (re : Regexp) (len : Nat) (s : List Char) (x : List Char × Captures)
    (h : re.matchAt len s .none (fun rest caps => some (consumed s rest, caps)) = some x) :
    re.findAt len s = some x := by
  cases s <;> simp [findAt, h]

def matchString (re : Regexp) (s : List Char) : Bool := (re.findAt s.length s).isSome

/-- `ReplaceAllString(src, "")` for an expression that begins with `^`: such an expression can
only match at the start of the text, and that match, if any, is removed. -/
def deleteLeadingMatch (re : Regexp) (src : List Char) : List Char :=
  (re.matchAt src.length src .none fun rest _ => some rest).getD src

/-- `Matches len r s caps rest caps'`: `r` matches a prefix of `s`, leaving `rest`, and turns the
submatches `caps` into `caps'`. -/
inductive Matches (len : Nat) : Regexp → List Char → Captures → List Char → Captures → Prop
  | emptyMatch (s caps) : Matches len .emptyMatch s caps s caps
  | beginText (s caps) (h : s.length = len) : Matches len .beginText s caps s caps
  | endText (caps) : Matches len .endText [] caps [] caps
  | literal (c s caps) : Matches len (.literal c) (c :: s) caps s caps
  | charClass (k c s caps) (h : k.matches c) : Matches len (.charClass k) (c :: s) caps s caps
  | star (k u s caps) (h : ∀ c ∈ u, k.matches c) : Matches len (.star k) (u ++ s) caps s caps
  | concat {r t s s' s'' caps caps' caps''} :
      Matches len r s caps s' caps' → Matches len t s' caps' s'' caps'' →
      Matches len (.concat r t) s caps s'' caps''
  | alternateLeft {r s caps rest caps'} (t) :
      Matches len r s caps rest caps' → Matches len (.alternate r t) s caps rest caps'
  | alternateRight {t s caps rest caps'} (r) :
      Matches len t s caps rest caps' → Matches len (.alternate r t) s caps rest caps'
  | capture {r s caps rest caps'} (i) :
      Matches len r s caps rest caps' →
      Matches len (.capture i r) s caps rest (caps'.set i (consumed s rest))

end Regexp

theorem starMatch_sound {α : Type} (k : CharClass) (cont : List Char → Option α) (a : α) :
    ∀ s, starMatch k cont s = some a →
      ∃ u rest, s = u ++ rest ∧ (∀ c ∈ u, k.matches c) ∧ cont rest = some a
  | [], h => ⟨[], [], rfl, by simp, h⟩
  | c :: s, h => by
    simp only [starMatch] at h
    cases hs : (if k.matches c then starMatch k cont s else none) with
    | some b =>
      rw [hs] at h
      obtain rfl : b = a := by simpa using h
      split at hs
      · obtain ⟨u, rest, rfl, hu, hr⟩ := starMatch_sound k cont _ s hs
        exact ⟨c :: u, rest, rfl, by simpa [*] using hu, hr⟩
      · cases hs
    | none =>
      rw [hs] at h
      exact ⟨[], c :: s, rfl, by simp, h⟩

theorem starMatch_greedy {α : Type} (k : CharClass) (cont : List Char → Option α) (a : α)
    (u rest : List Char) (hu : ∀ c ∈ u, k.matches c) (hStop : ∀ c ∈ rest.head?, k.matches c = false)
    (hCont : cont rest = some a) : starMatch k cont (u ++ rest) = some a := by
  induction u with
  | nil =>
    cases rest with
    | nil => exact hCont
    | cons c rest => simp [starMatch, hStop c rfl, hCont]
  | cons c u ih =>
    simp [starMatch, hu c (by simp), ih (fun d hd => hu d (by simp [hd]))]

namespace Regexp

theorem matchAt_sound {α : Type} (len : Nat) (a : α) :
    ∀ (r : Regexp) (s : List Char) (caps : Captures) (cont : List Char → Captures → Option α),
      r.matchAt len s caps cont = some a →
        ∃ rest caps', Matches len r s caps rest caps' ∧ cont rest caps' = some a
  | .emptyMatch, s, caps, cont, h => ⟨s, caps, .emptyMatch s caps, h⟩
  | .beginText, s, caps, cont, h => by
    simp only [matchAt] at h
    split at h
    · exact ⟨s, caps, .beginText s caps ‹_›, h⟩
    · cases h
  | .endText, s, caps, cont, h => by
    simp only [matchAt] at h
    split at h
    · subst s
      exact ⟨[], caps, .endText caps, h⟩
    · cases h
  | .literal c, s, caps, cont, h => by
    cases s with
    | nil => cases h
    | cons d s =>
      simp only [matchAt] at h
      split at h
      · subst d
        exact ⟨s, caps, .literal c s caps, h⟩
      · cases h
  | .charClass k, s, caps, cont, h => by
    cases s with
    | nil => cases h
    | cons d s =>
      simp only [matchAt] at h
      split at h
      · exact ⟨s, caps, .charClass k d s caps ‹_›, h⟩
      · cases h
  | .star k, s, caps, cont, h => by
    obtain ⟨u, rest, rfl, hu, hr⟩ := starMatch_sound k _ a s h
    exact ⟨rest, caps, .star k u rest caps hu, hr⟩
  | .concat r t, s, caps, cont, h => by
    obtain ⟨s', caps', hr, ht⟩ := matchAt_sound len a r s caps _ h
    obtain ⟨rest, caps'', ht, hc⟩ := matchAt_sound len a t s' caps' cont ht
    exact ⟨rest, caps'', .concat hr ht, hc⟩
  | .alternate r t, s, caps, cont, h => by
    simp only [matchAt] at h
    cases hr : r.matchAt len s caps cont with
    | some b =>
      rw [hr] at h
      obtain rfl : b = a := by simpa using h
      obtain ⟨rest, caps', hm, hc⟩ := matchAt_sound len _ r s caps cont hr
      exact ⟨rest, caps', .alternateLeft t hm, hc⟩
    | none =>
      rw [hr] at h
      obtain ⟨rest, caps', hm, hc⟩ := matchAt_sound len a t s caps cont h
      exact ⟨rest, caps', .alternateRight r hm, hc⟩
  | .capture i r, s, caps, cont, h => by
    obtain ⟨rest, caps', hm, hc⟩ := matchAt_sound len a r s caps _ h
    exact ⟨rest, _, .capture i hm, hc⟩

section Steps

variable {α : Type} {len : Nat} {caps : Captures} {cont : List Char → Captures → Option α} {a : α}

theorem stops_cons {k : CharClass} {c : Char} (s : List Char) (h : k.matches c = false) :
    ∀ d ∈ (c :: s).head?, k.matches d = false := by
  simpa using h

theorem matchAt_beginText (s : List Char) (h : s.length = len) :
    beginText.matchAt len s caps cont = cont s caps := by
  simp [matchAt, h]

theorem matchAt_literal (c : Char) (s : List Char) :
    (literal c).matchAt len (c :: s) caps cont = cont s caps := by
  simp [matchAt]

theorem matchAt_charClass (k : CharClass) (c : Char) (s : List Char) :
    (charClass k).matchAt len (c :: s) caps cont = if k.matches c then cont s caps else none :=
  rfl

theorem matchAt_concat (r t : Regexp) (s : List Char) :
    (concat r t).matchAt len s caps cont =
      r.matchAt len s caps fun s' caps' => t.matchAt len s' caps' cont := rfl

theorem matchAt_seq_cons (r : Regexp) (rs : List Regexp) (s : List Char) :
    (seq (r :: rs)).matchAt len s caps cont =
      r.matchAt len s caps fun s' caps' => (seq rs).matchAt len s' caps' cont := rfl

theorem matchAt_seq_nil (s : List Char) : (seq []).matchAt len s caps cont = cont s caps := rfl

theorem matchAt_str (lit rest : List Char) :
    (str lit).matchAt len (lit ++ rest) caps cont = cont rest caps := by
  induction lit generalizing caps cont with
  | nil => rfl
  | cons c lit ih => simp [str, matchAt_concat, matchAt_literal, ih]

theorem matchAt_capture (i : Nat) (r : Regexp) (s : List Char) :
    (capture i r).matchAt len s caps cont =
      r.matchAt len s caps fun s' caps' => cont s' (caps'.set i (consumed s s')) := rfl

theorem matchAt_star_greedy (k : CharClass) (u rest : List Char) (hu : ∀ c ∈ u, k.matches c)
    (hStop : ∀ c ∈ rest.head?, k.matches c = false) (h : cont rest caps = some a) :
    (star k).matchAt len (u ++ rest) caps cont = some a :=
  starMatch_greedy k (cont · caps) a u rest hu hStop h

theorem matchAt_plus_greedy (k : CharClass) (c : Char) (u rest : List Char) (hc : k.matches c)
    (hu : ∀ d ∈ u, k.matches d) (hStop : ∀ d ∈ rest.head?, k.matches d = false)
    (h : cont rest caps = some a) : (plus k).matchAt len (c :: (u ++ rest)) caps cont = some a := by
  simp only [plus, matchAt_concat]
  simp only [matchAt, hc, if_true]
  exact starMatch_greedy k (cont · caps) a u rest hu hStop h

theorem matchAt_plus_all (k : CharClass) (c : Char) (u : List Char) (hc : k.matches c)
    (hu : ∀ d ∈ u, k.matches d) (h : cont [] caps = some a) :
    (plus k).matchAt len (c :: u) caps cont = some a := by
  simpa using matchAt_plus_greedy k c u [] hc hu (by simp) h

theorem matchAt_plus_nil (k : CharClass) : (plus k).matchAt len [] caps cont = none := rfl

theorem matchAt_star_endText (k : CharClass) (s : List Char) :
    (seq [.star k, .endText]).matchAt len s caps cont =
      if s.all k.matches then cont [] caps else none := by
  induction s with
  | nil => simp [seq, matchAt, starMatch]
  | cons c s ih =>
    simp only [seq, matchAt] at ih
    by_cases hc : k.matches c <;> simp [seq, matchAt, starMatch, hc, ih]

theorem matchAt_quest_left (r : Regexp) (s : List Char) (h : r.matchAt len s caps cont = some a) :
    (quest r).matchAt len s caps cont = some a := by
  simp [quest, matchAt, h]

theorem matchAt_quest_right (r : Regexp) (s : List Char) (h : r.matchAt len s caps cont = none) :
    (quest r).matchAt len s caps cont = cont s caps := by
  simp [quest, matchAt, h]

end Steps

theorem findAt_beginText_of_lt (r : Regexp) (len : Nat) :
    ∀ s : List Char, s.length < len → (concat .beginText r).findAt len s = none
  | [], h => by simp only [findAt, matchAt_concat, matchAt, if_neg (Nat.ne_of_lt h)]
  | c :: s, h => by
    simp only [findAt, matchAt_concat, matchAt, if_neg (Nat.ne_of_lt h),
      findAt_beginText_of_lt r len s (Nat.lt_of_succ_lt h)]
    rfl

theorem matchString_beginText (r : Regexp) (s : List Char) :
    (concat .beginText r).matchString s =
      (r.matchAt s.length s .none fun rest caps => some (consumed s rest, caps)).isSome := by
  cases s with
  | nil => simp [matchString, findAt, matchAt_concat, matchAt]
  | cons c s =>
    simp [matchString, findAt, matchAt_concat, matchAt,
      findAt_beginText_of_lt r (s.length + 1) s (Nat.lt_succ_self _)]

theorem Matches.frame {len : Nat} {r : Regexp} {s rest : List Char} {caps caps' : Captures}
    (h : Matches len r s caps rest caps') (i : Nat) (hi : i ∉ r.captureIndices) :
    caps' i = caps i := by
  induction h with
  | concat _ _ ih₁ ih₂ =>
    simp only [captureIndices, List.mem_append, not_or] at hi
    rw [ih₂ hi.2, ih₁ hi.1]
  | alternateLeft _ _ ih => exact ih (by simp_all [captureIndices])
  | alternateRight _ _ ih => exact ih (by simp_all [captureIndices])
  | capture j _ ih =>
    simp only [captureIndices, List.mem_cons, not_or] at hi
    rw [Captures.set_ne _ _ hi.1, ih hi.2]
  | _ => rfl

theorem Matches.concat_inv {len : Nat} {r t : Regexp} {s rest : List Char} {caps caps' : Captures}
    (h : Matches len (.concat r t) s caps rest caps') :
    ∃ s' caps'', Matches len r s caps s' caps'' ∧ Matches len t s' caps'' rest caps' := by
  cases h with
  | concat h₁ h₂ => exact ⟨_, _, h₁, h₂⟩

theorem Matches.seq_nil_inv {len : Nat} {s rest : List Char} {caps caps' : Captures}
    (h : Matches len (seq []) s caps rest caps') : rest = s ∧ caps' = caps := by
  cases h
  exact ⟨rfl, rfl⟩

theorem Matches.alternate_inv {len : Nat} {r t : Regexp} {s rest : List Char} {caps caps' : Captures}
    (h : Matches len (.alternate r t) s caps rest caps') :
    Matches len r s caps rest caps' ∨ Matches len t s caps rest caps' := by
  cases h with
  | alternateLeft _ h => exact .inl h
  | alternateRight _ h => exact .inr h

theorem Matches.capture_inv {len i : Nat} {r : Regexp} {s rest : List Char} {caps caps' : Captures}
    (h : Matches len (.capture i r) s caps rest caps') :
    ∃ caps'', Matches len r s caps rest caps'' ∧ caps' = caps''.set i (consumed s rest) := by
  cases h with
  | capture _ h => exact ⟨_, h, rfl⟩

theorem Matches.star_inv {len : Nat} {k : CharClass} {s rest : List Char} {caps caps' : Captures}
    (h : Matches len (.star k) s caps rest caps') :
    ∃ u, s = u ++ rest ∧ (∀ c ∈ u, k.matches c) ∧ caps' = caps := by
  cases h with
  | star _ u _ _ hu => exact ⟨u, rfl, hu, rfl⟩

theorem Matches.plus_inv {len : Nat} {k : CharClass} {s rest : List Char} {caps caps' : Captures}
    (h : Matches len (plus k) s caps rest caps') :
    ∃ u, s = u ++ rest ∧ u ≠ [] ∧ (∀ c ∈ u, k.matches c) ∧ caps' = caps := by
  obtain ⟨s', caps'', h₁, h₂⟩ := h.concat_inv
  cases h₁ with
  | charClass _ c _ _ hc =>
    cases h₂ with
    | star _ u _ _ hu => exact ⟨c :: u, rfl, by simp, by simpa [hc] using hu, rfl⟩

theorem Matches.seq_append_inv {len : Nat} (xs : List Regexp) {ys : List Regexp}
    {s rest : List Char} {caps caps' : Captures} (h : Matches len (seq (xs ++ ys)) s caps rest caps') :
    ∃ s' caps'', Matches len (seq xs) s caps s' caps'' ∧ Matches len (seq ys) s' caps'' rest caps' := by
  induction xs generalizing s caps with
  | nil => exact ⟨s, caps, .emptyMatch s caps, h⟩
  | cons x xs ih =>
    obtain ⟨s₁, caps₁, hx, hRest⟩ := h.concat_inv
    obtain ⟨s₂, caps₂, hxs, hys⟩ := ih hRest
    exact ⟨s₂, caps₂, .concat hx hxs, hys⟩

theorem findAt_sound (re : Regexp) (len : Nat) :
    ∀ (s : List Char) (x : List Char × Captures), re.findAt len s = some x →
      ∃ t rest caps, t <:+ s ∧ Matches len re t .none rest caps ∧ x = (consumed t rest, caps)
  | [], x, hx => by
    obtain ⟨rest, caps, hm, hc⟩ := matchAt_sound _ _ re [] .none _ hx
    exact ⟨[], rest, caps, List.suffix_refl _, hm, by simpa [eq_comm] using hc⟩
  | c :: t, x, hx => by
    simp only [findAt] at hx
    cases hc : re.matchAt len (c :: t) .none
        (fun rest caps => some (consumed (c :: t) rest, caps)) with
    | some y =>
      rw [hc] at hx
      obtain rfl : y = x := by simpa using hx
      obtain ⟨rest, caps, hm, hc⟩ := matchAt_sound _ _ re _ .none _ hc
      exact ⟨c :: t, rest, caps, List.suffix_refl _, hm, by simpa [eq_comm] using hc⟩
    | none =>
      rw [hc] at hx
      obtain ⟨t', rest, caps, hSuf, hm, rfl⟩ := findAt_sound re len t x (by simpa using hx)
      exact ⟨t', rest, caps, hSuf.trans (List.suffix_cons c t), hm, rfl⟩

theorem findStringSubmatch_suffix (re : Regexp) (s : List Char) (m : List (List Char))
    (h : re.findStringSubmatch s = some m) :
    ∃ t rest caps, t <:+ s ∧ Matches s.length re t .none rest caps ∧
      m = consumed t rest :: (List.range re.numSubexp).map fun i => (caps (i + 1)).getD [] := by
  obtain ⟨x, hx, rfl⟩ := Option.map_eq_some'.mp h
  obtain ⟨t, rest, caps, hSuf, hm, rfl⟩ := findAt_sound re s.length s x hx
  exact ⟨t, rest, caps, hSuf, hm, rfl⟩

/-- Every result of `findStringSubmatch` is read off a relational match at some suffix. -/
theorem findStringSubmatch_sound (re : Regexp) (s : List Char) (m : List (List Char))
    (h : re.findStringSubmatch s = some m) :
    ∃ t rest caps, Matches s.length re t .none rest caps ∧
      m = consumed t rest :: (List.range re.numSubexp).map fun i => (caps (i + 1)).getD [] := by
  obtain ⟨t, rest, caps, -, hm, hEq⟩ := findStringSubmatch_suffix re s m h
  exact ⟨t, rest, caps, hm, hEq⟩

end Regexp

end DockerfileFrontend.Go
