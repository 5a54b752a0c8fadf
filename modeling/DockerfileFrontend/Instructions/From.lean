import DockerfileFrontend.Instructions.Stages

/-! # `FROM`: the stage name

`parseBuildStageName` lower-cases the name written after `AS` and checks it with
`^[a-z][a-z0-9-_.]*$`. `IsStageName` says what that expression accepts without the matcher, so
that the names of the stages `Parse` returns can be read off directly.
-/

namespace DockerfileFrontend.Instructions

open Go Regexp

def isStageNameChar (c : Char) : Bool :=
  (97 ≤ c.toNat && c.toNat ≤ 122) || isDigit c || c = '-' || c = '_' || c = '.'

/-- The names `^[a-z][a-z0-9-_.]*$` accepts: a lower-case letter, then stage name characters. -/
def IsStageName : List Char → Bool
  | [] => false
  | c :: cs => (97 ≤ c.toNat && c.toNat ≤ 122) && cs.all isStageNameChar

theorem stageNameClass_matches (d : Char) :
    CharClass.matches ⟨false, [(97, 122), (48, 57), (45, 45), (95, 95), (46, 46)]⟩ d =
      isStageNameChar d := by
  have h1 : (d = '-') ↔ d.toNat = 45 := char_eq_iff_toNat
  have h2 : (d = '_') ↔ d.toNat = 95 := char_eq_iff_toNat
  have h3 : (d = '.') ↔ d.toNat = 46 := char_eq_iff_toNat
  rw [Bool.eq_iff_iff]
  simp only [CharClass.matches, isStageNameChar, isDigit, h1, h2, h3, List.any_cons, List.any_nil,
    Bool.or_false, Bool.bne_false, Bool.or_eq_true, Bool.and_eq_true, decide_eq_true_eq]
  constructor <;> intro h <;> omega

theorem matchString_validStageName (s : List Char) :
    validStageName.matchString s = IsStageName s := by
  rw [validStageName, seq, matchString_beginText]
  cases s with
  | nil => rfl
  | cons c s =>
    rw [matchAt_seq_cons, matchAt_charClass, matchAt_star_endText,
      show CharClass.matches _ = isStageNameChar from funext stageNameClass_matches]
    by_cases hc : 97 ≤ c.toNat ∧ c.toNat ≤ 122 <;> by_cases hs : s.all isStageNameChar <;>
      simp [IsStageName, CharClass.matches, hc, hs, matchAt_seq_cons, matchAt_seq_nil, matchAt]
    omega

theorem parseBuildStageName_eq (args : List (List Char)) :
    parseBuildStageName args =
      match args with
      | [_] => .ok []
      | [_, a1, a2] =>
        if equalFold a1 "as".toList then
          if IsStageName (toLower a2) then .ok (toLower a2)
          else Outcome.fail (.errorf
            "invalid name for build stage: %q, name can't start with a number or contain symbols"
            [.str a2])
        else Outcome.fail (.new "FROM requires either one or three arguments".toList)
      | _ => Outcome.fail (.new "FROM requires either one or three arguments".toList) := by
  rcases args with _ | ⟨a0, _ | ⟨a1, _ | ⟨a2, _ | ⟨a3, rest⟩⟩⟩⟩ <;>
    simp [parseBuildStageName, index, matchString_validStageName, bind, Except.bind, pure,
      Except.pure]
  cases IsStageName (toLower a2) <;> rfl

theorem parseBuildStageName_ok {args : List (List Char)} {name : List Char}
    (h : parseBuildStageName args = .ok name) : name = [] ∨ IsStageName name := by
  rw [parseBuildStageName_eq] at h
  split at h
  · cases h
    exact .inl rfl
  · split at h
    · split at h
      · cases h
        exact .inr ‹_›
      · cases h
    · cases h
  · cases h

theorem parseFrom_name {req : ParseRequest} {s : Stage} (h : parseFrom req = .ok s) :
    s.name = [] ∨ IsStageName s.name := by
  obtain ⟨name, hName, h⟩ := Outcome.ok_of_bind h
  obtain ⟨_, -, h⟩ := Outcome.ok_of_bind h
  obtain ⟨_, -, h⟩ := Outcome.ok_of_bind h
  cases h
  exact parseBuildStageName_ok hName

theorem ParsesTo.exists_node {hs : Externals} {ns : List Node} {is : List Instruction}
    (h : ParsesTo hs ns is) {i : Instruction} (hi : i ∈ is) :
    ∃ n ∈ ns, (parseInstructionWithLinter hs n).outcome = .ok i := by
  have hMem : Except.ok i ∈ ns.map fun n => (parseInstructionWithLinter hs n).outcome :=
    h ▸ List.mem_map_of_mem _ hi
  simpa using hMem

/-- Every stage `Parse` returns is unnamed, or named by a lower-case ASCII letter followed by
lower-case letters, digits, `-`, `_` and `.`. -/
theorem parse_stage_names (hs : Externals) (ast : Node) (stages : List Stage)
    (metaArgs : List ArgCommand) (h : (parse hs ast).outcome = .ok (stages, metaArgs)) :
    ∀ s ∈ stages, s.name = [] ∨ IsStageName s.name := by
  intro s hs'
  have hMem : Instruction.stage { s with commands := [] } ∈ layout metaArgs stages :=
    List.mem_append_right _ (List.mem_flatMap.mpr ⟨s, hs', List.mem_cons_self _ _⟩)
  obtain ⟨n, -, hn⟩ := ((parse_ok_iff ast stages metaArgs).mp h).exists_node hMem
  obtain ⟨_, -, hWord⟩ := parseInstructionWithLinter_ok hn
  rcases parseWord_ok hWord with ⟨st, -, hFrom, hEq⟩ | ⟨_, -, -, hEq⟩ | ⟨_, -, -, hEq⟩ | ⟨_, hEq, -⟩
  · cases hEq
    exact @parseFrom_name _ { s with commands := [] } hFrom
  all_goals cases hEq

theorem parse_stage_names_build :
    let arg (v : List Char) (next : Option Node) : Node := ⟨v, next, [], [], [], [], [], 1, 1, []⟩
    let ast : Node := ⟨[], none, [⟨"FROM".toList,
      some (arg "base".toList (some (arg "AS".toList (some (arg "Build".toList none))))), [], [], [],
      "FROM base AS Build".toList, [], 1, 1, []⟩], [], [], [], [], 0, 0, []⟩
    let stage : Stage := ⟨"build".toList, [], "base".toList, "FROM base AS Build".toList, [],
      [⟨⟨1, 0⟩, ⟨1, 0⟩⟩], [], "FROM".toList⟩
    (parse ⟨fun _ => none, id, .networkOnly⟩ ast).outcome = .ok ([stage], []) ∧
      ∀ s ∈ [stage], s.name = [] ∨ IsStageName s.name := by
  intro arg ast stage
  have h : (parse ⟨fun _ => none, id, .networkOnly⟩ ast).outcome = .ok ([stage], []) := rfl
  exact ⟨h, parse_stage_names _ _ _ _ h⟩

end DockerfileFrontend.Instructions
