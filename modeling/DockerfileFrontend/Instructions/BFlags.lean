import DockerfileFrontend.Instructions.Commands

/-! # The flags of an instruction

`BFlags` lives in the instructions package next to the parser, but its source is not part of
this development's sources; it is modelled from the specification: long flags `--name`,
`--name=value`, repeated string flags and boolean flags, each registered by the parser of the
instruction before `Parse` reads the flags written on it.

Reading the flags keeps the registered ones, by name. What a step of `Parse` can do is said
once, by `parseOne_ok`; what the parsers rely on follows from it by induction over the written
words: a flag that no word names keeps its registration, a flag that takes one value holds what
the word naming it sets, and the flags used are those the words before any `--` name.
-/

namespace DockerfileFrontend.Instructions

open Go

namespace BFlags

/-- Modelled from the spec: `NewBFlagsWithArgs`, the flags written on the instruction. -/
def ofArgs (args : List (List Char)) : BFlags := ⟨args, [], [], none⟩

/-- Modelled from the spec: registering a flag; a second registration of a name is an error
that `Parse` reports. -/
def addFlag (bf : BFlags) (name : List Char) (flagType : FlagType) (value : List Char) : BFlags :=
  if bf.flags.any (·.name == name) then
    { bf with err := some (.errorf "Duplicate flag defined: %s" [.str name]) }
  else { bf with flags := bf.flags ++ [⟨name, flagType, value, []⟩] }

def addBool (bf : BFlags) (name : List Char) (def? : Bool) : BFlags :=
  bf.addFlag name .boolType (if def? then "true".toList else "false".toList)

def addString (bf : BFlags) (name def? : List Char) : BFlags :=
  bf.addFlag name .stringType def?

def addStrings (bf : BFlags) (name : List Char) : BFlags :=
  bf.addFlag name .stringsType []

def lookup (bf : BFlags) (name : List Char) : Option Flag :=
  bf.flags.find? (·.name == name)

def value (bf : BFlags) (name : List Char) : List Char :=
  ((bf.lookup name).map Flag.value).getD []

def stringValues (bf : BFlags) (name : List Char) : List (List Char) :=
  ((bf.lookup name).map Flag.stringValues).getD []

def setFlag (bf : BFlags) (f : Flag) : BFlags :=
  { bf with flags := bf.flags.map fun g => if g.name = f.name then f else g }

/-- `bf.Used()`: the names of the flags written. Go collects them from a map, in no fixed
order; here they come in the order first written. -/
def usedFlags (bf : BFlags) : List (List Char) := bf.used

/-- Modelled from the spec: reading one written flag `a`, a word that starts with `--`. An
unknown or repeated flag is reported as written; the other errors name the flag. -/
def parseOne (bf : BFlags) (a : List Char) : Except GoError BFlags :=
  let arg := a.drop 2
  let hasValue := arg.contains '='
  let name := arg.takeWhile (· ≠ '=')
  let value := (arg.dropWhile (· ≠ '=')).drop 1
  match bf.lookup name with
  | none => .error (.errorf "unknown flag: %s" [.str a])
  | some flag =>
    if name ∈ bf.used ∧ flag.flagType ≠ .stringsType then
      .error (.errorf "duplicate flag specified: %s" [.str a])
    else
      let bf := if name ∈ bf.used then bf else { bf with used := bf.used ++ [name] }
      match flag.flagType with
      | .boolType =>
        if hasValue ∧ value = [] then .error (.errorf "missing a value on flag: %s" [.str name])
        else if toLower value = [] ∨ toLower value = "true".toList then
          .ok (bf.setFlag { flag with value := "true".toList })
        else if toLower value = "false".toList then
          .ok (bf.setFlag { flag with value := "false".toList })
        else .error (.errorf "expecting boolean value for flag %s, not: %s" [.str name, .str value])
      | .stringType =>
        if !hasValue then .error (.errorf "missing a value on flag: %s" [.str name])
        else .ok (bf.setFlag { flag with value := value })
      | .stringsType =>
        if !hasValue then .error (.errorf "missing a value on flag: %s" [.str name])
        else .ok (bf.setFlag { flag with stringValues := flag.stringValues ++ [value] })

def parseLoop (bf : BFlags) : List (List Char) → Except GoError BFlags
  | [] => .ok bf
  | arg :: rest =>
    if !"--".toList.isPrefixOf arg then
      .error (.errorf "arg should start with -- : %s" [.str arg])
    else if arg = "--".toList then .ok bf
    else
      match bf.parseOne arg with
      | .error e => .error e
      | .ok bf => parseLoop bf rest

/-- Modelled from the spec: `bf.Parse()`. -/
def parse (bf : BFlags) : Except GoError BFlags :=
  match bf.err with
  | some e => .error (.wrap e "error setting up flags")
  | none => bf.parseLoop bf.args

@[simp] theorem setFlag_names (bf : BFlags) (f : Flag) :
    (bf.setFlag f).flags.map Flag.name = bf.flags.map Flag.name := by
  simp only [setFlag, List.map_map]
  exact List.map_congr_left fun g _ => by by_cases h : g.name = f.name <;> simp [h]

theorem parseOne_names {bf bf' : BFlags} {arg : List Char} (h : bf.parseOne arg = .ok bf') :
    bf'.flags.map Flag.name = bf.flags.map Flag.name := by
  have hSet : ∀ b : BFlags, b.flags = bf.flags → ∀ f,
      (b.setFlag f).flags.map Flag.name = bf.flags.map Flag.name := by
    intro b hb f
    rw [setFlag_names, hb]
  dsimp only [parseOne] at h
  split at h
  · cases h
  split at h
  · cases h
  split at h
  all_goals (repeat' split at h)
  all_goals cases h
  all_goals exact hSet _ rfl _

theorem parseLoop_names {bf bf' : BFlags} {args : List (List Char)} (h : bf.parseLoop args = .ok bf') :
    bf'.flags.map Flag.name = bf.flags.map Flag.name := by
  induction args generalizing bf with
  | nil => cases h; rfl
  | cons arg rest ih =>
    unfold parseLoop at h
    split at h
    · cases h
    · split at h
      · cases h; rfl
      · split at h
        · cases h
        · rename_i bf₁ h₁
          exact (ih h).trans (parseOne_names h₁)

theorem parse_names {bf bf' : BFlags} (h : bf.parse = .ok bf') :
    bf'.flags.map Flag.name = bf.flags.map Flag.name := by
  unfold parse at h
  split at h
  · cases h
  · exact parseLoop_names h

theorem lookup_isSome_iff (bf : BFlags) (name : List Char) :
    (bf.lookup name).isSome ↔ name ∈ bf.flags.map Flag.name := by
  simp only [lookup, List.find?_isSome, List.mem_map, beq_iff_eq]

theorem lookup_addFlag_parse {bf bf' : BFlags} {name value : List Char} {t : FlagType}
    (h : (bf.addFlag name t value).parse = .ok bf') : (bf'.lookup name).isSome := by
  rw [lookup_isSome_iff, parse_names h]
  unfold addFlag
  split
  · rename_i hAny
    simpa using hAny
  · simp

theorem lookup_addFlag_of_ne (bf : BFlags) {name n : List Char} (t : FlagType) (v : List Char)
    (h : name ≠ n) : (bf.addFlag name t v).lookup n = bf.lookup n := by
  unfold addFlag
  split
  · rfl
  · simp [lookup, List.find?_append, h]

theorem addFlag_err {bf : BFlags} {name v : List Char} {t : FlagType}
    (h : (bf.addFlag name t v).err = none) :
    bf.err = none ∧ bf.lookup name = none ∧
      (bf.addFlag name t v).lookup name = some ⟨name, t, v, []⟩ := by
  unfold addFlag at h ⊢
  split at h
  · cases h
  · rename_i hAny
    rw [if_neg hAny]
    simp only [Bool.not_eq_true, List.any_eq_false, beq_iff_eq] at hAny
    have hNone : bf.flags.find? (·.name == name) = none :=
      List.find?_eq_none.mpr fun g hg => by simpa using hAny g hg
    exact ⟨h, hNone, by simp [lookup, List.find?_append, hNone]⟩

@[simp] theorem args_addFlag (bf : BFlags) (name : List Char) (t : FlagType) (v : List Char) :
    (bf.addFlag name t v).args = bf.args := by
  unfold addFlag
  split <;> rfl

theorem parseLoop_of_parse {bf bf' : BFlags} (h : bf.parse = .ok bf') :
    bf.err = none ∧ bf.parseLoop bf.args = .ok bf' := by
  unfold parse at h
  split at h
  · cases h
  · exact ⟨‹_›, h⟩

theorem names_subset_addFlag (bf : BFlags) (name : List Char) (t : FlagType) (v : List Char) :
    name :: bf.flags.map Flag.name ⊆ (bf.addFlag name t v).flags.map Flag.name := by
  unfold addFlag
  split
  · rename_i hAny
    simpa using hAny
  · simp

theorem name_of_lookup {bf : BFlags} {n : List Char} {f : Flag} (h : bf.lookup n = some f) :
    f.name = n := by
  simpa using List.find?_some h

theorem lookup_setFlag_of_ne (bf : BFlags) (f : Flag) {n : List Char} (h : f.name ≠ n) :
    (bf.setFlag f).lookup n = bf.lookup n := by
  obtain ⟨args, flags, used, err⟩ := bf
  simp only [lookup, setFlag]
  induction flags with
  | nil => rfl
  | cons g gs ih =>
    by_cases hg : g.name = f.name
    · have hgn : g.name ≠ n := hg ▸ h
      simp [hg, h, hgn, ih]
    · simp only [List.map_cons, hg, if_false, List.find?_cons, ih]

theorem lookup_setFlag_self (bf : BFlags) (v : Flag) (h : (bf.lookup v.name).isSome) :
    (bf.setFlag v).lookup v.name = some v := by
  obtain ⟨args, flags, used, err⟩ := bf
  simp only [lookup, setFlag] at h ⊢
  induction flags with
  | nil => simp at h
  | cons g gs ih =>
    by_cases hg : g.name = v.name
    · simp [hg]
    · have hgs : (gs.find? (·.name == v.name)).isSome := by
        simpa [List.find?_cons, hg] using h
      simpa [hg] using ih hgs

theorem parseOne_ok {bf bf' : BFlags} {arg : List Char} (h : bf.parseOne arg = .ok bf') :
    ∃ flag v, bf.lookup ((arg.drop 2).takeWhile (· ≠ '=')) = some flag ∧
      ((arg.drop 2).takeWhile (· ≠ '=') ∈ bf.used → flag.flagType = .stringsType) ∧
      v.name = flag.name ∧ v.flagType = flag.flagType ∧
      (flag.flagType = .boolType → '=' ∉ arg.drop 2 → v.value = "true".toList) ∧
      (flag.flagType = .stringType → v.value = ((arg.drop 2).dropWhile (· ≠ '=')).drop 1) ∧
      bf' = (if (arg.drop 2).takeWhile (· ≠ '=') ∈ bf.used then bf
        else { bf with used := bf.used ++ [(arg.drop 2).takeWhile (· ≠ '=')] }).setFlag v := by
  dsimp only [parseOne] at h
  split at h
  · cases h
  rename_i flag hFlag
  split at h
  · cases h
  rename_i hDup
  have hUsed : (arg.drop 2).takeWhile (· ≠ '=') ∈ bf.used → flag.flagType = .stringsType := fun hIn => by
    by_contra hNe
    exact hDup ⟨hIn, hNe⟩
  split at h
  case h_1 hBool =>
    split at h
    · cases h
    have hNotString : ∀ {P : Prop}, flag.flagType = .stringType → P := fun hS =>
      absurd (hBool.symm.trans hS) nofun
    split at h
    · exact ⟨flag, { flag with value := "true".toList }, hFlag, hUsed, rfl, rfl, fun _ _ => rfl,
        hNotString, (Except.ok.inj h).symm⟩
    rename_i hTrue
    split at h
    · refine ⟨flag, { flag with value := "false".toList }, hFlag, hUsed, rfl, rfl,
        fun _ hNo => absurd (Or.inl ?_) hTrue, hNotString, (Except.ok.inj h).symm⟩
      have hDrop : (arg.drop 2).dropWhile (· ≠ '=') = [] :=
        List.dropWhile_eq_nil_iff.mpr fun c hc => by
          simpa using fun hEq : c = '=' => hNo (hEq ▸ hc)
      rw [hDrop]
      rfl
    · cases h
  all_goals
    rename_i hType
    split at h
    · cases h
    · refine ⟨flag, _, hFlag, hUsed, ?_, ?_, fun hB => ?_, fun hS => ?_, (Except.ok.inj h).symm⟩
      · rfl
      · rfl
      · exact absurd (hType.symm.trans hB) nofun
      · first
        | rfl
        | exact absurd (hType.symm.trans hS) nofun

theorem parseOne_lookup_of_ne {bf bf' : BFlags} {arg n : List Char} (h : bf.parseOne arg = .ok bf')
    (hn : (arg.drop 2).takeWhile (· ≠ '=') ≠ n) : bf'.lookup n = bf.lookup n ∧ bf.used ⊆ bf'.used := by
  obtain ⟨flag, v, hFlag, -, hName, -, -, -, rfl⟩ := parseOne_ok h
  have hv : v.name ≠ n := by rw [hName, name_of_lookup hFlag]; exact hn
  split
  · exact ⟨lookup_setFlag_of_ne _ _ hv, fun _ h => h⟩
  · exact ⟨lookup_setFlag_of_ne _ _ hv, fun _ h => List.mem_append_left _ h⟩

theorem parseOne_lookup_self {bf bf' : BFlags} {arg : List Char} (h : bf.parseOne arg = .ok bf') :
    ∃ flag v, bf.lookup ((arg.drop 2).takeWhile (· ≠ '=')) = some flag ∧
      bf'.lookup ((arg.drop 2).takeWhile (· ≠ '=')) = some v ∧ v.flagType = flag.flagType ∧
      (arg.drop 2).takeWhile (· ≠ '=') ∈ bf'.used ∧
      ((arg.drop 2).takeWhile (· ≠ '=') ∈ bf.used → flag.flagType = .stringsType) ∧
      (flag.flagType = .boolType → '=' ∉ arg.drop 2 → v.value = "true".toList) ∧
      (flag.flagType = .stringType → v.value = ((arg.drop 2).dropWhile (· ≠ '=')).drop 1) := by
  obtain ⟨flag, v, hFlag, hUsed, hName, hType, hTrue, hString, rfl⟩ := parseOne_ok h
  have hv : v.name = (arg.drop 2).takeWhile (· ≠ '=') := hName.trans (name_of_lookup hFlag)
  refine ⟨flag, v, hFlag, ?_, hType, ?_, hUsed, hTrue, hString⟩
  · rw [← hv]
    apply lookup_setFlag_self
    rw [hv]
    split <;> exact Option.isSome_iff_exists.mpr ⟨flag, hFlag⟩
  · simp only [setFlag]
    split
    · assumption
    · simp

theorem parseLoop_cons_ok {bf bf' : BFlags} {arg : List Char} {rest : List (List Char)}
    (h : bf.parseLoop (arg :: rest) = .ok bf') :
    (arg = "--".toList ∧ bf' = bf) ∨
      ((arg :: rest).takeWhile (· ≠ "--".toList) = arg :: rest.takeWhile (· ≠ "--".toList) ∧
        ∃ bf₁, bf.parseOne arg = .ok bf₁ ∧ bf₁.parseLoop rest = .ok bf') := by
  unfold parseLoop at h
  split at h
  · cases h
  split at h
  · cases h
    exact .inl ⟨‹_›, rfl⟩
  rename_i hStop
  split at h
  · cases h
  exact .inr ⟨List.takeWhile_cons_of_pos (by simpa using hStop), _, ‹_›, h⟩

theorem parseLoop_lookup_of_forall {bf bf' : BFlags} {args : List (List Char)} {n : List Char}
    (h : bf.parseLoop args = .ok bf') (hn : ∀ w ∈ args, (w.drop 2).takeWhile (· ≠ '=') ≠ n) :
    bf'.lookup n = bf.lookup n := by
  induction args generalizing bf with
  | nil => cases h; rfl
  | cons arg rest ih =>
    rcases parseLoop_cons_ok h with ⟨-, rfl⟩ | ⟨-, bf₁, h₁, hLoop⟩
    · rfl
    · exact (ih hLoop fun w hw => hn w (List.mem_cons_of_mem _ hw)).trans
        (parseOne_lookup_of_ne h₁ (hn arg (List.mem_cons_self _ _))).1

theorem parseLoop_keeps_single {bf bf' : BFlags} {args : List (List Char)} {n : List Char}
    {f : Flag} (h : bf.parseLoop args = .ok bf') (hUsed : n ∈ bf.used) (hf : bf.lookup n = some f)
    (hSingle : f.flagType ≠ .stringsType) : bf'.lookup n = some f := by
  induction args generalizing bf with
  | nil => cases h; exact hf
  | cons arg rest ih =>
    rcases parseLoop_cons_ok h with ⟨-, rfl⟩ | ⟨-, bf₁, h₁, hLoop⟩
    · exact hf
    by_cases hName : (arg.drop 2).takeWhile (· ≠ '=') = n
    · obtain ⟨flag, -, hFlag, -, -, -, hDup, -⟩ := parseOne_lookup_self h₁
      rw [hName, hf] at hFlag
      cases hFlag
      exact absurd (hDup (hName ▸ hUsed)) hSingle
    · obtain ⟨hLookup, hSub⟩ := parseOne_lookup_of_ne h₁ hName
      exact ih hLoop (hSub hUsed) (hLookup.trans hf)

/-- A flag that takes one value, named by a word read before any `--`, holds what that word
sets once the flags are read: `true` for a boolean written bare, the text after `=` for a
string. -/
theorem parseLoop_single_written {bf bf' : BFlags} {args : List (List Char)} {word : List Char}
    {t : FlagType} (h : bf.parseLoop args = .ok bf')
    (hType : (bf.lookup ((word.drop 2).takeWhile (· ≠ '='))).map Flag.flagType = some t)
    (hSingle : t ≠ .stringsType) (hMem : word ∈ args.takeWhile (· ≠ "--".toList)) :
    ∃ f, bf'.lookup ((word.drop 2).takeWhile (· ≠ '=')) = some f ∧
      (t = .boolType → '=' ∉ word.drop 2 → f.value = "true".toList) ∧
      (t = .stringType → f.value = ((word.drop 2).dropWhile (· ≠ '=')).drop 1) := by
  induction args generalizing bf with
  | nil => simp at hMem
  | cons arg rest ih =>
    rcases parseLoop_cons_ok h with ⟨rfl, -⟩ | ⟨hTake, bf₁, h₁, hLoop⟩
    · simp at hMem
    obtain ⟨flag, v, hFlag, hv, hvType, hUsed, -, hTrue, hString⟩ := parseOne_lookup_self h₁
    rw [hTake] at hMem
    rcases List.mem_cons.mp hMem with rfl | hRest
    · rw [hFlag] at hType
      have hFlagType : flag.flagType = t := Option.some.inj hType
      exact ⟨v, parseLoop_keeps_single hLoop hUsed hv (hvType.trans hFlagType ▸ hSingle),
        fun hB => hTrue (hFlagType.trans hB), fun hS => hString (hFlagType.trans hS)⟩
    · refine ih hLoop ?_ hRest
      by_cases hName : (arg.drop 2).takeWhile (· ≠ '=') = (word.drop 2).takeWhile (· ≠ '=')
      · rw [hName] at hFlag hv
        rw [hv, Option.map_some', hvType, ← Option.map_some', ← hFlag, hType]
      · rw [(parseOne_lookup_of_ne h₁ hName).1, hType]

theorem parseLoop_bool_written {bf bf' : BFlags} {args : List (List Char)} {n : List Char}
    (h : bf.parseLoop args = .ok bf') (hBool : (bf.lookup n).map Flag.flagType = some .boolType)
    (hn : '=' ∉ n) (hMem : "--".toList ++ n ∈ args.takeWhile (· ≠ "--".toList)) :
    bf'.value n = "true".toList := by
  have hName : (("--".toList ++ n).drop 2).takeWhile (· ≠ '=') = n :=
    List.takeWhile_eq_self_iff.mpr fun c hc => by
      simpa using fun hEq : c = '=' => hn (hEq ▸ by simpa using hc)
  obtain ⟨f, hf, hTrue, -⟩ :=
    @parseLoop_single_written _ _ _ _ .boolType h (by rw [hName]; exact hBool) nofun hMem
  rw [hName] at hf
  simp only [value, hf, Option.map_some', Option.getD_some, hTrue rfl (by simpa using hn)]

theorem parseLoop_string_written {bf bf' : BFlags} {args : List (List Char)} {n v : List Char}
    (h : bf.parseLoop args = .ok bf') (hString : (bf.lookup n).map Flag.flagType = some .stringType)
    (hn : '=' ∉ n) (hMem : "--".toList ++ n ++ '=' :: v ∈ args.takeWhile (· ≠ "--".toList)) :
    bf'.value n = v := by
  have hAll : ∀ c ∈ n, decide (c ≠ '=') = true := fun c hc => by
    simpa using fun hEq : c = '=' => hn (hEq ▸ hc)
  have hDrop : ("--".toList ++ n ++ '=' :: v).drop 2 = n ++ '=' :: v := by simp
  have hName : (("--".toList ++ n ++ '=' :: v).drop 2).takeWhile (· ≠ '=') = n := by
    rw [hDrop, List.takeWhile_append_of_pos hAll, List.takeWhile_cons_of_neg (by simp),
      List.append_nil]
  have hValue : ((("--".toList ++ n ++ '=' :: v).drop 2).dropWhile (· ≠ '=')).drop 1 = v := by
    rw [hDrop, List.dropWhile_append_of_pos hAll, List.dropWhile_cons_of_neg (by simp)]
    rfl
  obtain ⟨f, hf, -, hSet⟩ :=
    @parseLoop_single_written _ _ _ _ .stringType h (by rw [hName]; exact hString) nofun hMem
  rw [hName] at hf
  simp only [value, hf, Option.map_some', Option.getD_some, hSet rfl, hValue]

theorem parseLoop_registered {bf bf' : BFlags} {args : List (List Char)} {word : List Char}
    (h : bf.parseLoop args = .ok bf') (hMem : word ∈ args.takeWhile (· ≠ "--".toList)) :
    (bf.lookup ((word.drop 2).takeWhile (· ≠ '='))).isSome := by
  induction args generalizing bf with
  | nil => simp at hMem
  | cons arg rest ih =>
    rcases parseLoop_cons_ok h with ⟨rfl, -⟩ | ⟨hTake, bf₁, h₁, hLoop⟩
    · simp at hMem
    rw [hTake] at hMem
    rcases List.mem_cons.mp hMem with rfl | hRest
    · obtain ⟨flag, -, hFlag, -⟩ := parseOne_ok h₁
      rw [hFlag]
      rfl
    · have hSome := ih hLoop hRest
      rwa [lookup_isSome_iff, parseOne_names h₁, ← lookup_isSome_iff] at hSome

/-- The flags marked used once the words are read are those marked before and those the words
read before any `--` name. -/
theorem parseLoop_used {bf bf' : BFlags} {args : List (List Char)} {n : List Char}
    (h : bf.parseLoop args = .ok bf') :
    n ∈ bf'.used ↔ n ∈ bf.used ∨
      ∃ w ∈ args.takeWhile (· ≠ "--".toList), (w.drop 2).takeWhile (· ≠ '=') = n := by
  induction args generalizing bf with
  | nil => cases h; simp
  | cons arg rest ih =>
    rcases parseLoop_cons_ok h with ⟨rfl, rfl⟩ | ⟨hTake, bf₁, h₁, hLoop⟩
    · simp
    have hStep : n ∈ bf₁.used ↔ n ∈ bf.used ∨ (arg.drop 2).takeWhile (· ≠ '=') = n := by
      obtain ⟨-, v, -, -, -, -, -, -, rfl⟩ := parseOne_ok h₁
      simp only [setFlag]
      split
      · rename_i hIn
        exact ⟨.inl, fun h => h.elim id fun hEq => hEq ▸ hIn⟩
      · simp [eq_comm]
    rw [ih hLoop, hStep, hTake]
    simp only [List.mem_cons, exists_eq_or_imp, or_assoc]

end BFlags

end DockerfileFrontend.Instructions
