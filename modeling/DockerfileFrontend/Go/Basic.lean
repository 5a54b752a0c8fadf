import Mathlib.Data.List.DropRight
import DockerfileFrontend.Go.Unicode

/-! # The Go runtime and the `strings` functions the frontend calls

A Go `string` is a list of characters (runes) here. Errors are data: `errors.New` keeps its
text and `errors.Errorf` its format and arguments, so that a statement about a message is a
statement about the code. A runtime panic (an index out of range, a failed type assertion) is
an outcome of its own, kept apart from returned errors, so that "never panics" can be stated.
-/

namespace DockerfileFrontend.Go

structure Position where
  line : Nat
  character : Nat
deriving DecidableEq, Repr

structure Range where
  start : Position
  «end» : Position
deriving DecidableEq, Repr

inductive FmtArg where
  | str (s : List Char)
  | int (n : Int)
deriving DecidableEq, Repr

inductive NumErr where
  | errSyntax
  | errRange
deriving DecidableEq, Repr

inductive GoError where
  | new (text : List Char)
  | errorf (format : String) (args : List FmtArg)
  /-- `errors.Wrap(inner, message)`. -/
  | wrap (inner : GoError) (message : String)
  /-- `strconv.NumError`: the function, its input and the cause. -/
  | num (func : String) (input : List Char) (err : NumErr)
  /-- `parser.WithLocation`. -/
  | withLocation (inner : GoError) (location : List Range)
  /-- `instructions.parseError`, reported on the node's start line. -/
  | parseError (inner : GoError) (startLine : Nat)
  /-- `UnknownInstructionError`, wrapped with spelling suggestions by `suggest.WrapError`. -/
  | unknownInstruction (instruction : List Char) (line : Nat)
deriving DecidableEq, Repr

inductive RuntimePanic where
  | indexOutOfRange (index : Int) (length : Nat)
  | sliceBoundsOutOfRange (bound : Int) (length : Nat)
  | typeAssertion (expected : String)
  | nilDereference
deriving DecidableEq, Repr

inductive Fault where
  | error (e : GoError)
  | panic (p : RuntimePanic)
deriving DecidableEq, Repr

instance decEqExcept {ε α : Type} [DecidableEq ε] [DecidableEq α] : DecidableEq (Except ε α)
  | .ok a, .ok b => decidable_of_iff (a = b) ⟨congrArg _, Except.ok.inj⟩
  | .error a, .error b => decidable_of_iff (a = b) ⟨congrArg _, Except.error.inj⟩
  | .ok _, .error _ => isFalse Except.noConfusion
  | .error _, .ok _ => isFalse Except.noConfusion

/-- A Go computation: a value, a returned error, or a runtime panic. -/
abbrev Outcome := Except Fault

def Outcome.fail {α : Type} (e : GoError) : Outcome α := .error (.error e)

def Outcome.NoPanic {α : Type} : Outcome α → Prop
  | .error (.panic _) => False
  | _ => True

namespace Outcome

variable {α β : Type}

@[simp] theorem noPanic_ok (a : α) : Outcome.NoPanic (.ok a : Outcome α) := trivial

@[simp] theorem noPanic_pure (a : α) : Outcome.NoPanic (pure a : Outcome α) := trivial

@[simp] theorem noPanic_fail (e : GoError) : (Outcome.fail e : Outcome α).NoPanic := trivial

@[simp] theorem noPanic_error (e : GoError) : Outcome.NoPanic (.error (.error e) : Outcome α) :=
  trivial

@[simp] theorem noPanic_ite {c : Prop} [Decidable c] {x y : Outcome α} :
    (if c then x else y).NoPanic ↔ (c → x.NoPanic) ∧ (¬c → y.NoPanic) := by
  split <;> simp [*]

@[simp] theorem noPanic_bind {x : Outcome α} {f : α → Outcome β} :
    (x >>= f).NoPanic ↔ x.NoPanic ∧ ∀ a, x = .ok a → (f a).NoPanic := by
  rcases x with (e | e) | a <;> simp [NoPanic, bind, Except.bind]

theorem ok_of_bind {x : Outcome α} {f : α → Outcome β} {b : β} (h : (x >>= f) = .ok b) :
    ∃ a, x = .ok a ∧ f a = .ok b := by
  rcases x with e | a
  · cases h
  · exact ⟨a, rfl, h⟩

theorem eq_fail_of_noPanic {x : Outcome α} (h : x.NoPanic) (hNotOk : ∀ a, x ≠ .ok a) :
    ∃ e, x = Outcome.fail e := by
  rcases x with (e | p) | a
  · exact ⟨e, rfl⟩
  · exact h.elim
  · exact (hNotOk a rfl).elim

@[simp] theorem noPanic_map {x : Outcome α} {f : α → β} : (f <$> x).NoPanic ↔ x.NoPanic := by
  rcases x with (e | e) | a <;> simp [NoPanic, Functor.map, Except.map]

@[simp] theorem noPanic_except_map {x : Outcome α} {f : α → β} :
    Outcome.NoPanic (x.map f) ↔ x.NoPanic := by
  rcases x with (e | e) | a <;> simp [NoPanic, Except.map]

end Outcome

/-- `xs[i]`. -/
def index {α : Type} (xs : List α) (i : Int) : Outcome α :=
  match xs.get? i.toNat with
  | some a => if 0 ≤ i then .ok a else .error (.panic (.indexOutOfRange i xs.length))
  | none => .error (.panic (.indexOutOfRange i xs.length))

def sliceTo {α : Type} (xs : List α) (j : Int) : Outcome (List α) :=
  if 0 ≤ j ∧ j ≤ xs.length then .ok (xs.take j.toNat)
  else .error (.panic (.sliceBoundsOutOfRange j xs.length))

def sliceFrom {α : Type} (xs : List α) (i : Int) : Outcome (List α) :=
  if 0 ≤ i ∧ i ≤ xs.length then .ok (xs.drop i.toNat)
  else .error (.panic (.sliceBoundsOutOfRange i xs.length))

theorem index_of_lt {α : Type} (xs : List α) (i : Nat) (h : i < xs.length) :
    index xs i = .ok (xs.get ⟨i, h⟩) := by
  simp [index, List.getElem?_eq_getElem h, Int.ofNat_nonneg]

theorem index_length_sub_one {α : Type} (xs : List α) (h : xs ≠ []) :
    index xs ((xs.length : Int) - 1) = .ok (xs.getLast h) := by
  have hLen : 0 < xs.length := List.length_pos.mpr h
  rw [show (xs.length : Int) - 1 = ((xs.length - 1 : Nat) : Int) by omega,
    index_of_lt _ _ (by omega), List.getLast_eq_getElem]
  rfl

theorem sliceTo_of_le {α : Type} (xs : List α) (j : Nat) (h : j ≤ xs.length) :
    sliceTo xs j = .ok (xs.take j) := by
  simp [sliceTo, h, Int.ofNat_nonneg]

theorem sliceFrom_of_le {α : Type} (xs : List α) (i : Nat) (h : i ≤ xs.length) :
    sliceFrom xs i = .ok (xs.drop i) := by
  simp [sliceFrom, h, Int.ofNat_nonneg]

@[simp] theorem noPanic_index {α : Type} (xs : List α) (i : Int) :
    (index xs i).NoPanic ↔ 0 ≤ i ∧ i < xs.length := by
  unfold index
  split
  · rename_i a ha
    have := (List.get?_eq_some.mp ha).1
    split
    · simp [Outcome.NoPanic, *]
      omega
    · simp [Outcome.NoPanic, *]
  · rename_i ha
    have := List.get?_eq_none.mp ha
    simp [Outcome.NoPanic]
    omega

@[simp] theorem noPanic_sliceTo {α : Type} (xs : List α) (j : Int) :
    (sliceTo xs j).NoPanic ↔ 0 ≤ j ∧ j ≤ xs.length := by
  unfold sliceTo
  split <;> simp [Outcome.NoPanic, *]

@[simp] theorem noPanic_sliceFrom {α : Type} (xs : List α) (i : Int) :
    (sliceFrom xs i).NoPanic ↔ 0 ≤ i ∧ i ≤ xs.length := by
  unfold sliceFrom
  split <;> simp [Outcome.NoPanic, *]

/-- `unicode.IsSpace`: the Latin-1 spaces and the Unicode `White_Space` property above them. -/
def isSpace (c : Char) : Bool :=
  [9, 10, 11, 12, 13, 32, 0x85, 0xA0, 0x1680, 0x2028, 0x2029, 0x202F, 0x205F, 0x3000].contains
      c.toNat ||
    (0x2000 ≤ c.toNat && c.toNat ≤ 0x200A)

/-- `strings.TrimSpace`, that is `TrimRightFunc (TrimLeftFunc s unicode.IsSpace) unicode.IsSpace`. -/
def trimSpace (s : List Char) : List Char :=
  (s.dropWhile isSpace).rdropWhile isSpace

/-- `strings.Split(s, sep)` for a one-character separator. -/
def split (s : List Char) (sep : Char) : List (List Char) :=
  s.splitOn sep

@[simp] theorem split_ne_nil (s : List Char) (sep : Char) : split s sep ≠ [] :=
  List.splitOnP_ne_nil _ _

theorem split_append_sep (a b : List Char) (sep : Char) :
    split (a ++ sep :: b) sep = split a sep ++ split b sep := by
  induction a with
  | nil => simp [split, List.splitOn]
  | cons x a ih =>
    simp only [split, List.splitOn, List.cons_append, List.splitOnP_cons] at ih ⊢
    rw [ih]
    by_cases hx : (x == sep) = true
    · simp [hx]
    · obtain ⟨l, ls, hl⟩ := List.exists_cons_of_ne_nil (List.splitOnP_ne_nil (· == sep) a)
      simp [hx, hl]

theorem not_mem_of_mem_split (s : List Char) (sep : Char) : ∀ l ∈ split s sep, sep ∉ l := by
  induction s with
  | nil => simp [split, List.splitOn]
  | cons x s ih =>
    simp only [split, List.splitOn, List.splitOnP_cons] at ih ⊢
    obtain ⟨l, ls, hl⟩ := List.exists_cons_of_ne_nil (List.splitOnP_ne_nil (· == sep) s)
    rw [hl] at ih ⊢
    by_cases hx : (x == sep) = true
    · simpa [hx] using ih
    · have hne : x ≠ sep := by simpa using hx
      simp only [hx, Bool.false_eq_true, if_false, List.modifyHead_cons, List.mem_cons,
        forall_eq_or_imp] at ih ⊢
      exact ⟨by simpa [Ne.symm hne] using ih.1, ih.2⟩

theorem index_split_zero (s : List Char) (sep : Char) :
    index (split s sep) 0 = .ok (s.takeWhile (· ≠ sep)) := by
  obtain ⟨rest, h⟩ : ∃ rest, split s sep = s.takeWhile (· ≠ sep) :: rest := by
    induction s with
    | nil => exact ⟨[], rfl⟩
    | cons x s ih =>
      obtain ⟨rest, h⟩ := ih
      simp only [split, List.splitOn] at h ⊢
      by_cases hx : x = sep
      · exact ⟨List.splitOnP (· == sep) s, by simp [hx]⟩
      · exact ⟨rest, by simp [hx, h]⟩
  rw [h]
  rfl

def join (elems : List (List Char)) (sep : List Char) : List Char :=
  sep.intercalate elems

/-- Go's `<` on strings: lexicographic on bytes, which UTF-8 makes the order of code points. -/
def lessString : List Char → List Char → Bool
  | [], [] => false
  | [], _ :: _ => true
  | _ :: _, [] => false
  | c :: cs, d :: ds => c.toNat < d.toNat || (c = d && lessString cs ds)

theorem char_eq_iff_toNat {c d : Char} : c = d ↔ c.toNat = d.toNat :=
  ⟨congrArg _, fun h => by rw [← Char.ofNat_toNat c, h, Char.ofNat_toNat]⟩

@[simp] theorem lessString_self : ∀ s, lessString s s = false
  | [] => rfl
  | c :: cs => by simp [lessString, lessString_self cs]

theorem lessString_trichotomy : ∀ a b, lessString a b ∨ a = b ∨ lessString b a
  | [], [] => .inr (.inl rfl)
  | [], _ :: _ => .inl rfl
  | _ :: _, [] => .inr (.inr rfl)
  | c :: cs, d :: ds => by
    simp only [lessString, Bool.or_eq_true, decide_eq_true_eq, Bool.and_eq_true, List.cons.injEq]
    rcases Nat.lt_trichotomy c.toNat d.toNat with h | h | h
    · exact .inl (.inl h)
    · obtain rfl : c = d := char_eq_iff_toNat.mpr h
      rcases lessString_trichotomy cs ds with h' | h' | h'
      · exact .inl (.inr ⟨rfl, h'⟩)
      · exact .inr (.inl ⟨rfl, h'⟩)
      · exact .inr (.inr (.inr ⟨rfl, h'⟩))
    · exact .inr (.inr (.inl h))

theorem lessString_trans : ∀ {a b c : List Char}, lessString a b → lessString b c → lessString a c
  | [], [], _, h, _ => by simp [lessString] at h
  | [], _ :: _, [], _, h => by simp [lessString] at h
  | [], _ :: _, _ :: _, _, _ => rfl
  | _ :: _, [], _, h, _ => by simp [lessString] at h
  | _ :: _, _ :: _, [], _, h => by simp [lessString] at h
  | a :: as, b :: bs, c :: cs, hab, hbc => by
    simp only [lessString, Bool.or_eq_true, decide_eq_true_eq, Bool.and_eq_true] at hab hbc ⊢
    rcases hab with hab | ⟨rfl, hab⟩ <;> rcases hbc with hbc | ⟨rfl, hbc⟩
    · exact .inl (by omega)
    · exact .inl hab
    · exact .inl hbc
    · exact .inr ⟨rfl, lessString_trans hab hbc⟩

/-- "Not after" in Go's string order, the order `slices.Sort` leaves strings in, is transitive. -/
theorem not_lessString_trans {a b c : List Char} (hab : lessString b a = false)
    (hbc : lessString c b = false) : lessString c a = false := by
  rcases lessString_trichotomy a b with h | rfl | h
  · cases hca : lessString c a
    · rfl
    · simpa [hbc] using lessString_trans hca h
  · exact hbc
  · simp [h] at hab

theorem not_lessString_total (a b : List Char) : (!lessString b a || !lessString a b) = true := by
  rcases lessString_trichotomy a b with h | rfl | h
  · cases hba : lessString b a
    · rfl
    · simpa using lessString_trans h hba
  · simp
  · cases hab : lessString a b
    · simp
    · simpa using lessString_trans h hab

theorem eq_of_not_lessString {a b : List Char} (hab : lessString b a = false)
    (hba : lessString a b = false) : a = b := by
  rcases lessString_trichotomy a b with h | h | h
  · simp [h] at hba
  · exact h
  · simp [h] at hab

def containsChar (s : List Char) (c : Char) : Bool := s.contains c

/-- `strings.SplitN(s, string(sep), 2)`: the text before the first separator and the rest. -/
def splitN2 (s : List Char) (sep : Char) : List (List Char) :=
  if s.contains sep then [s.takeWhile (· ≠ sep), (s.dropWhile (· ≠ sep)).drop 1] else [s]

def cutPrefix (s pre : List Char) : List Char × Bool :=
  if pre.isPrefixOf s then (s.drop pre.length, true) else (s, false)

theorem mem_of_mem_trimSpace {s : List Char} {c : Char} (h : c ∈ trimSpace s) : c ∈ s :=
  (List.dropWhile_suffix isSpace).subset ((List.rdropWhile_prefix isSpace _).subset h)

theorem trimSpace_eq_nil_iff (s : List Char) : trimSpace s = [] ↔ ∀ c ∈ s, isSpace c := by
  rw [trimSpace, List.rdropWhile_eq_nil_iff]
  constructor
  · intro h c hc
    by_contra hn
    obtain ⟨x, hx, hpx⟩ : ∃ x ∈ s.dropWhile isSpace, isSpace x = false := by
      induction s with
      | nil => simp at hc
      | cons d s ih =>
        by_cases hd : isSpace d
        · rcases List.mem_cons.mp hc with rfl | hc
          · exact absurd hd hn
          · simpa [List.dropWhile_cons, hd] using ih (fun x hx => h x (by simpa [hd] using hx)) hc
        · exact ⟨d, by simp [List.dropWhile_cons, hd], by simpa using hd⟩
    simpa [hpx] using h x hx
  · intro h c hc
    exact h c ((List.dropWhile_suffix isSpace).subset hc)

theorem rdropWhile_space_append (m post : List Char) (hPost : ∀ c ∈ post, isSpace c)
    (hLast : ∀ c ∈ m.getLast?, isSpace c = false) : (m ++ post).rdropWhile isSpace = m := by
  induction post using List.reverseRecOn with
  | nil =>
    cases m using List.reverseRecOn with
    | nil => simp
    | append_singleton m c _ =>
      simpa using List.rdropWhile_concat_neg isSpace m c (by simpa using hLast c (by simp))
  | append_singleton post c ih =>
    rw [← List.append_assoc, List.rdropWhile_concat_pos isSpace _ c (hPost c (by simp))]
    exact ih (fun d hd => hPost d (by simp [hd]))

theorem trimSpace_pad (pre m post : List Char) (hm : m ≠ []) (hPre : ∀ c ∈ pre, isSpace c)
    (hPost : ∀ c ∈ post, isSpace c) (hHead : ∀ c ∈ m.head?, isSpace c = false)
    (hLast : ∀ c ∈ m.getLast?, isSpace c = false) : trimSpace (pre ++ m ++ post) = m := by
  have hDrop : (pre ++ m ++ post).dropWhile isSpace = m ++ post := by
    induction pre with
    | nil =>
      obtain ⟨c, m, rfl⟩ := List.exists_cons_of_ne_nil hm
      simp [List.dropWhile_cons, hHead c rfl]
    | cons c pre ih =>
      simp only [List.cons_append, List.dropWhile_cons, hPre c (by simp), if_true]
      exact ih (fun d hd => hPre d (by simp [hd]))
  rw [trimSpace, hDrop, rdropWhile_space_append m post hPost hLast]

end DockerfileFrontend.Go
