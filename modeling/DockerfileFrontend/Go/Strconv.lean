import DockerfileFrontend.Go.Basic
import Mathlib.Tactic.IntervalCases

/-! # Numbers in text: `strconv` and `time.ParseDuration`

`parseUint` and `parseInt` follow `strconv.ParseUint` and `strconv.ParseInt` in base 10: the
digit loop stops at the first character that is not a digit with a syntax error, and at the
first digit that takes the value past `1<<bitSize - 1` with a range error. `atoi` is
`strconv.Atoi` on a 64-bit platform, and it reads back every `int` that `decimal` prints as
`strconv.Itoa` does.

`parseDuration` follows `time.ParseDuration`, its total kept in a `uint64` that wraps, and
the fraction of a component converted to nanoseconds through `float64` as Go does: each
operation rounds to the nearest `float64`, ties to even (`Binary64`, `roundBinary64`), and the
conversion back truncates. Every value met there is a positive normal number, so subnormals,
infinities and signs are left out.
-/

namespace DockerfileFrontend.Go

def isDigit (c : Char) : Bool := 48 ≤ c.toNat && c.toNat ≤ 57

def digitValue (c : Char) : Nat := c.toNat - '0'.toNat

def parseUintLoop (func : String) (s0 : List Char) (maxVal : Nat) :
    Nat → List Char → Except GoError Nat
  | n, [] => .ok n
  | n, c :: s =>
    if !isDigit c then .error (.num func s0 .errSyntax)
    else if (2 ^ 64 - 1) / 10 + 1 ≤ n then .error (.num func s0 .errRange)
    else if maxVal < n * 10 + digitValue c then .error (.num func s0 .errRange)
    else parseUintLoop func s0 maxVal (n * 10 + digitValue c) s

def parseUint (s : List Char) (bitSize : Nat) : Except GoError Nat :=
  if s = [] then .error (.num "ParseUint" s .errSyntax)
  else parseUintLoop "ParseUint" s (2 ^ bitSize - 1) 0 s

def splitSign : List Char → Bool × List Char
  | '+' :: t => (false, t)
  | '-' :: t => (true, t)
  | t => (false, t)

/-- `strconv.ParseInt(s, 10, bitSize)`. A range error of the unsigned part stands for its
largest value, which the signed range check then rejects. -/
def parseInt (s : List Char) (bitSize : Nat) : Except GoError Int :=
  if s = [] then .error (.num "ParseInt" s .errSyntax) else
  let neg := (splitSign s).1
  let body := (splitSign s).2
  let un? : Except GoError Nat :=
    match parseUint body bitSize with
    | .ok un => .ok un
    | .error (.num _ _ .errRange) => .ok (2 ^ bitSize - 1)
    | .error (.num _ _ e) => .error (.num "ParseInt" s e)
    | .error e => .error e
  match un? with
  | .error e => .error e
  | .ok un =>
    match parseUint body bitSize with
    | .error (.num _ _ .errRange) => .error (.num "ParseInt" s .errRange)
    | _ =>
      if !neg && 2 ^ (bitSize - 1) ≤ un then .error (.num "ParseInt" s .errRange)
      else if neg && 2 ^ (bitSize - 1) < un then .error (.num "ParseInt" s .errRange)
      else .ok (if neg then -(un : Int) else un)

/-- What `strconv.ParseInt` returns lies in the range of its bit size. -/
theorem parseInt_bounds {s : List Char} {bitSize : Nat} {r : Int} (h : parseInt s bitSize = .ok r) :
    -(2 ^ (bitSize - 1) : Int) ≤ r ∧ r < 2 ^ (bitSize - 1) := by
  unfold parseInt at h
  generalize (splitSign s).1 = neg at h
  split at h
  · cases h
  dsimp only at h
  split at h
  · cases h
  rename_i un _
  split at h
  · cases h
  split at h
  · cases h
  rename_i hPos
  split at h
  · cases h
  rename_i hNeg
  cases h
  have hCast : ((2 ^ (bitSize - 1) : Nat) : Int) = 2 ^ (bitSize - 1) := by push_cast; rfl
  have hPow : (0 : Int) < 2 ^ (bitSize - 1) := by positivity
  cases neg <;> simp at hPos hNeg ⊢ <;> omega

theorem parseInt_nonneg {s : List Char} {bitSize : Nat} {r : Int}
    (hSign : (splitSign s).1 = false) (h : parseInt s bitSize = .ok r) : 0 ≤ r := by
  unfold parseInt at h
  generalize hNeg : (splitSign s).1 = neg at h
  rw [hSign] at hNeg
  subst hNeg
  split at h
  · cases h
  dsimp only at h
  split at h
  · cases h
  split at h
  · cases h
  split at h
  · cases h
  split at h
  · cases h
  cases h
  simp

/-- `strconv.Atoi` with a 64-bit `int`; its fast path for short inputs computes the same. -/
def atoi (s : List Char) : Except GoError Int :=
  match parseInt s 64 with
  | .error (.num _ input e) => .error (.num "Atoi" input e)
  | r => r

theorem atoi_range {s : List Char} {r : Int} (hHead : ∀ c ∈ s.head?, isDigit c)
    (h : atoi s = .ok r) : 0 ≤ r ∧ r < 2 ^ 63 := by
  have hInt : parseInt s 64 = .ok r := by
    unfold atoi at h
    split at h
    · cases h
    · exact h
  have hSign : (splitSign s).1 = false := by
    match s, hHead with
    | [], _ => rfl
    | c :: t, hHead =>
      have hc := hHead c rfl
      unfold splitSign
      split <;> simp_all [isDigit]
  exact ⟨parseInt_nonneg hSign hInt, (parseInt_bounds hInt).2⟩

def decimalAux : Nat → Nat → List Char → List Char
  | 0, _, acc => acc
  | fuel + 1, n, acc =>
    if n < 10 then Nat.digitChar n :: acc
    else decimalAux fuel (n / 10) (Nat.digitChar (n % 10) :: acc)

/-- The decimal digits of `n`, as `strconv.Itoa` and apt print it. -/
def decimal (n : Nat) : List Char := decimalAux (n + 1) n []

def digitsValue (s : List Char) : Nat := s.foldl (fun n c => n * 10 + digitValue c) 0

theorem digitChar_spec (d : Nat) (h : d < 10) :
    isDigit (Nat.digitChar d) ∧ digitValue (Nat.digitChar d) = d := by
  interval_cases d <;> decide

theorem decimalAux_spec (fuel n : Nat) (acc : List Char) (h : n < fuel) :
    ∃ ds, decimalAux fuel n acc = ds ++ acc ∧ ds ≠ [] ∧ (∀ c ∈ ds, isDigit c) ∧
      digitsValue ds = n := by
  induction fuel generalizing n acc with
  | zero => omega
  | succ fuel ih =>
    rw [decimalAux]
    split
    · have := digitChar_spec n ‹_›
      exact ⟨[Nat.digitChar n], rfl, by simp, by simp [this], by simp [digitsValue, this]⟩
    · have hLow := digitChar_spec (n % 10) (Nat.mod_lt _ (by decide))
      obtain ⟨ds, hds, -, hDigits, hValue⟩ := ih (n / 10) (Nat.digitChar (n % 10) :: acc) (by omega)
      refine ⟨ds ++ [Nat.digitChar (n % 10)], by simp [hds], by simp, fun c hc => ?_, ?_⟩
      · rcases List.mem_append.mp hc with hc | hc
        · exact hDigits c hc
        · simp_all
      · simp only [digitsValue, List.foldl_append, List.foldl_cons, List.foldl_nil] at hValue ⊢
        rw [hValue, hLow.2]
        omega

theorem decimal_spec (n : Nat) :
    decimal n ≠ [] ∧ (∀ c ∈ decimal n, isDigit c) ∧ digitsValue (decimal n) = n := by
  obtain ⟨ds, hds, hne, hDigits, hValue⟩ := decimalAux_spec (n + 1) n [] (by omega)
  rw [decimal, hds, List.append_nil]
  exact ⟨hne, hDigits, hValue⟩

theorem le_foldl_digitValue (s : List Char) (m : Nat) :
    m ≤ s.foldl (fun n c => n * 10 + digitValue c) m := by
  induction s generalizing m with
  | nil => exact le_rfl
  | cons d s ih => exact le_trans (show m ≤ m * 10 + digitValue d by omega) (ih _)

theorem parseUintLoop_digits (func : String) (s0 : List Char) (maxVal : Nat) (hMax : maxVal < 2 ^ 64)
    (s : List Char) (hs : ∀ c ∈ s, isDigit c) (n : Nat)
    (hv : s.foldl (fun n c => n * 10 + digitValue c) n ≤ maxVal) :
    parseUintLoop func s0 maxVal n s = .ok (s.foldl (fun n c => n * 10 + digitValue c) n) := by
  induction s generalizing n with
  | nil => rfl
  | cons c s ih =>
    have hc := hs c (by simp)
    have hStep := le_foldl_digitValue s (n * 10 + digitValue c)
    simp only [List.foldl_cons] at hv ⊢
    simp only [parseUintLoop, hc, Bool.not_true, Bool.false_eq_true, if_false]
    rw [if_neg (by omega), if_neg (by omega)]
    exact ih (fun d hd => hs d (by simp [hd])) _ hv

/-- `strconv.Atoi` reads back every `int` that `decimal` prints. -/
theorem atoi_decimal (n : Nat) (hn : n < 2 ^ 63) : atoi (decimal n) = .ok n := by
  obtain ⟨hne, hDigits, hValue⟩ := decimal_spec n
  have hUint : parseUint (decimal n) 64 = .ok n := by
    rw [parseUint, if_neg hne, parseUintLoop_digits _ _ _ (by norm_num) _ hDigits 0
      (by rw [← digitsValue, hValue]; omega)]
    rw [← digitsValue, hValue]
  have hBody : splitSign (decimal n) = (false, decimal n) := by
    obtain ⟨c, t, hct⟩ := List.exists_cons_of_ne_nil hne
    have hc := hDigits c (by simp [hct])
    rw [hct]
    unfold splitSign
    split <;> simp_all [isDigit]
  have hSmall : ¬ 9223372036854775808 ≤ n := by omega
  simp [atoi, parseInt, hne, hBody, hUint, hSmall]

def unitMap : List (List Char × Nat) :=
  [("ns".toList, 1), ("us".toList, 1000), ("µs".toList, 1000), ("μs".toList, 1000),
    ("ms".toList, 1000000), ("s".toList, 1000000000), ("m".toList, 60000000000),
    ("h".toList, 3600000000000)]

def leadingInt : Nat → List Char → Option Nat
  | x, c :: s =>
    if !isDigit c then some x
    else if 2 ^ 63 / 10 < x then none
    else if 2 ^ 63 < x * 10 + digitValue c then none
    else leadingInt (x * 10 + digitValue c) s
  | x, [] => some x

def leadingFraction : Nat → Nat → Bool → List Char → Nat × Nat
  | x, scale, overflow, c :: s =>
    if !isDigit c then (x, scale)
    else if overflow || (2 ^ 63 - 1) / 10 < x then leadingFraction x scale true s
    else if 2 ^ 63 < x * 10 + digitValue c then leadingFraction x scale true s
    else leadingFraction (x * 10 + digitValue c) (scale * 10) false s
  | x, scale, _, [] => (x, scale)

def isUnitChar (c : Char) : Bool := !(c = '.' || isDigit c)

theorem length_dropWhile_le {α : Type} (p : α → Bool) (s : List α) :
    (s.dropWhile p).length ≤ s.length :=
  (List.dropWhile_suffix p).length_le

theorem length_dropWhile_lt {α : Type} (p : α → Bool) (s : List α) (h : s.takeWhile p ≠ []) :
    (s.dropWhile p).length < s.length := by
  have := congrArg List.length (List.takeWhile_append_dropWhile p s)
  rw [List.length_append] at this
  have := List.length_pos.mpr h
  omega

def fractionPart (s1 : List Char) : Nat × Nat × List Char × Bool :=
  match s1 with
  | '.' :: r =>
    let (f, scale) := leadingFraction 0 1 false r
    (f, scale, r.dropWhile isDigit, (r.dropWhile isDigit).length != r.length)
  | _ => (0, 1, s1, false)

theorem fractionPart_rest_length (s1 : List Char) :
    (fractionPart s1).2.2.1.length ≤ s1.length := by
  unfold fractionPart
  split
  · exact le_trans (length_dropWhile_le _ _) (by simp)
  · exact le_rfl

def binaryLength : Nat → Nat → Nat → Nat
  | 0, _, len => len
  | fuel + 1, n, len => if n = 0 then len else binaryLength fuel (n / 2) (len + 1)

structure Binary64 where
  mant : Nat
  exp : Int
deriving DecidableEq, Repr

/-- The `float64` nearest to `n / d`, ties to even: the exponent puts the quotient in
`[2 ^ 52, 2 ^ 53)`, where the significand is rounded. -/
def roundBinary64 (n d : Nat) : Binary64 :=
  let e0 : Int := (binaryLength n n 0 : Int) - binaryLength d d 0 - 52
  let e := if n * 2 ^ (-e0).toNat < 2 ^ 52 * (d * 2 ^ e0.toNat) then e0 - 1 else e0
  let num := n * 2 ^ (-e).toNat
  let den := d * 2 ^ e.toNat
  let q := num / den
  let r := num % den
  ⟨if den < 2 * r || den = 2 * r && q % 2 = 1 then q + 1 else q, e⟩

def Binary64.mul (x y : Binary64) : Binary64 :=
  roundBinary64 (x.mant * y.mant * 2 ^ (x.exp + y.exp).toNat) (2 ^ (-(x.exp + y.exp)).toNat)

def Binary64.toUint64 (x : Binary64) : Nat := x.mant * 2 ^ x.exp.toNat / 2 ^ (-x.exp).toNat

/-- `uint64(float64(f) * (float64(unit) / scale))`, the nanoseconds of a fraction `f / scale`
of `unit`; `scale` is a power of ten that `float64` holds exactly. -/
def fractionNanos (f unit scale : Nat) : Nat :=
  ((roundBinary64 f 1).mul (roundBinary64 unit scale)).toUint64

example : fractionNanos 5750054735000 3600000000000 (10 ^ 14) = 207001970459 ∧
    5750054735000 * 3600000000000 / 10 ^ 14 = 207001970460 := by
  constructor <;> rfl

theorem length_durationRest_lt {s : List Char}
    (hu : (fractionPart (s.dropWhile isDigit)).2.2.1.takeWhile isUnitChar ≠ []) :
    ((fractionPart (s.dropWhile isDigit)).2.2.1.dropWhile isUnitChar).length < s.length :=
  Nat.lt_of_lt_of_le (length_dropWhile_lt _ _ hu)
    (le_trans (fractionPart_rest_length _) (length_dropWhile_le isDigit s))

def durationLoop (orig : List Char) (d : Nat) (s : List Char) : Except GoError Nat :=
  let invalid : Except GoError Nat := .error (.errorf "time: invalid duration %q" [.str orig])
  match s with
  | [] => .ok d
  | c :: t =>
    if !(c = '.' || isDigit c) then invalid else
    match leadingInt 0 (c :: t) with
    | none => invalid
    | some v =>
      let s1 := (c :: t).dropWhile isDigit
      let pre := s1.length != (c :: t).length
      let fp := fractionPart s1
      let f := fp.1
      let scale := fp.2.1
      let s2 := fp.2.2.1
      if !pre && !fp.2.2.2 then invalid else
      let u := s2.takeWhile isUnitChar
      if hu : u = [] then .error (.errorf "time: missing unit in duration %q" [.str orig]) else
      match unitMap.lookup u with
      | none => .error (.errorf "time: unknown unit %q in duration %q" [.str u, .str orig])
      | some unit =>
        if 2 ^ 63 / unit < v then invalid else
        let v := v * unit
        let v := if 0 < f then v + fractionNanos f unit scale else v
        if 0 < f && 2 ^ 63 < v then invalid else
        let d := (d + v) % 2 ^ 64
        if 2 ^ 63 < d then invalid else
        have : (s2.dropWhile isUnitChar).length < (c :: t).length := length_durationRest_lt hu
        durationLoop orig d (s2.dropWhile isUnitChar)
termination_by s.length

def parseDuration (orig : List Char) : Except GoError Int :=
  let (neg, s) : Bool × List Char :=
    match orig with
    | '-' :: t => (true, t)
    | '+' :: t => (false, t)
    | t => (false, t)
  if s = ['0'] then .ok 0
  else if s = [] then .error (.errorf "time: invalid duration %q" [.str orig])
  else match durationLoop orig 0 s with
    | .error e => .error e
    | .ok d =>
      if neg then .ok (-(d : Int))
      else if 2 ^ 63 - 1 < d then .error (.errorf "time: invalid duration %q" [.str orig])
      else .ok d

theorem ok_of_ite_error {ε α : Type} {p : Prop} [Decidable p] {e : ε} {x : Except ε α} {a : α}
    (h : (if p then .error e else x) = .ok a) : ¬p ∧ x = .ok a := by
  by_cases hp : p
  · rw [if_pos hp] at h
    cases h
  · rw [if_neg hp] at h
    exact ⟨hp, h⟩

theorem ok_of_dite_error {ε α : Type} {p : Prop} [Decidable p] {e : ε} {x : ¬p → Except ε α}
    {a : α} (h : (if hp : p then .error e else x hp) = .ok a) : ∃ hp : ¬p, x hp = .ok a := by
  by_cases hp : p
  · rw [dif_pos hp] at h
    cases h
  · rw [dif_neg hp] at h
    exact ⟨hp, h⟩

/-- One pass of the components loop either ends it on an empty text or reads one component and
goes on with a shorter text and a total that the `1 << 63` check let through. -/
theorem durationLoop_step {orig : List Char} {d : Nat} {s : List Char} {r : Nat}
    (h : durationLoop orig d s = .ok r) :
    (s = [] ∧ r = d) ∨
      ∃ d' s', d' ≤ 2 ^ 63 ∧ s'.length < s.length ∧ durationLoop orig d' s' = .ok r := by
  rcases s with _ | ⟨c, t⟩
  · unfold durationLoop at h
    exact .inl ⟨rfl, by cases h; rfl⟩
  right
  unfold durationLoop at h
  dsimp only at h
  obtain ⟨-, h⟩ := ok_of_ite_error h
  rcases hv : leadingInt 0 (c :: t) with _ | v <;> rw [hv] at h
  · cases h
  obtain ⟨-, h⟩ := ok_of_ite_error h
  obtain ⟨hu, h⟩ := ok_of_dite_error h
  split at h
  · cases h
  obtain ⟨-, h⟩ := ok_of_ite_error h
  obtain ⟨-, h⟩ := ok_of_ite_error h
  obtain ⟨hd, h⟩ := ok_of_ite_error h
  exact ⟨_, _, by omega, length_durationRest_lt hu, h⟩

theorem durationLoop_le {orig : List Char} {d r : Nat} (s : List Char) (hd : d ≤ 2 ^ 63)
    (h : durationLoop orig d s = .ok r) : r ≤ 2 ^ 63 := by
  induction' hn : s.length using Nat.strong_induction_on with n ih generalizing s d
  rcases durationLoop_step h with ⟨-, rfl⟩ | ⟨d', s', hd', hLen, h'⟩
  · exact hd
  · exact ih _ (hn ▸ hLen) s' hd' h' rfl

/-- `time.ParseDuration` returns an `int64`: the `uint64` total it keeps never passes `1 << 63`,
wrapping included, and is refused above the largest `int64` unless it is negated. -/
theorem parseDuration_bounds {orig : List Char} {n : Int} (h : parseDuration orig = .ok n) :
    -2 ^ 63 ≤ n ∧ n < 2 ^ 63 := by
  unfold parseDuration at h
  split at h
  split at h
  · cases h
    norm_num
  split at h
  · cases h
  split at h
  · cases h
  rename_i d hLoop
  have hd := durationLoop_le _ (Nat.zero_le _) hLoop
  split at h
  · cases h
    omega
  split at h
  · cases h
  · cases h
    omega

end DockerfileFrontend.Go
