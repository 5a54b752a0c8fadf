import DockerfileFrontend.Package.Dispatch
import DockerfileFrontend.Instructions.Arguments
import DockerfileFrontend.Instructions.From

/-! # From an `ADD --apt` line to the install step

The two halves of the package extension meet here. The parser turns an `ADD` with `--apt` into a
`PackageCommand` that holds the line's arguments as they are, and no other line makes one, so
every package command of a parsed Dockerfile is one of its `ADD --apt` lines;
`NewPackageInvocation` keeps that command and the stage as they were; and `Dispatch` runs apt on
exactly those names, once to list what to download and once to install it.
-/

namespace DockerfileFrontend.Package

open Go Llb Instructions

theorem parseAdd_package {hs : Externals} {req : ParseRequest} {p : PackageCommand}
    (h : parseAdd hs req = .ok (.package p)) : p = ⟨newWithNameAndCode req, req.args⟩ := by
  obtain ⟨bf, -, h⟩ := Outcome.ok_of_bind h
  split at h
  · exact (Command.package.inj (Except.ok.inj h)).symm
  · split at h
    · cases h
    · obtain ⟨_, -, h⟩ := Outcome.ok_of_bind h
      cases h

theorem parseWord_package {hs : Externals} {node : Node} {req : ParseRequest}
    {w : InstructionWord} {p : PackageCommand}
    (h : (parseWord hs node req w).outcome = .ok (.command (.package p))) :
    w = .add ∧ parseAdd hs req = .ok (.package p) := by
  cases w <;> simp only [parseWord, Linted.lift_outcome] at h
  case add =>
    obtain ⟨c, hc, hEq⟩ := ok_of_except_map h
    cases hEq
    exact ⟨rfl, hc⟩
  case «from» =>
    obtain ⟨_, -, h⟩ := parseFromWithLinter_ok h
    cases h
  case arg =>
    obtain ⟨_, -, h⟩ := parseArgWithLinter_ok h
    cases h
  case maintainer =>
    obtain ⟨_, -, h⟩ := Linted.ok_of_bind h
    obtain ⟨_, -, h⟩ := ok_of_except_map h
    cases h
  all_goals
    obtain ⟨_, -, h⟩ := ok_of_except_map h
    cases h

theorem package_of_node {hs : Externals} {node : Node} {c : PackageCommand}
    (h : (parseInstructionWithLinter hs node).outcome = .ok (.command (.package c))) :
    toLower node.value = "add".toList ∧
      c = ⟨newWithNameAndCode (newParseRequestFromNode node), nodeArgs node⟩ ∧
      ∃ w ∈ node.flags, (w.drop 2).takeWhile (· ≠ '=') = "apt".toList := by
  obtain ⟨w, hLookup, hWord⟩ := parseInstructionWithLinter_ok h
  obtain ⟨rfl, hAdd⟩ := parseWord_package hWord
  have hMem := mem_of_lookup_commandWords hLookup
  simp only [commandWords, List.mem_cons, Prod.mk.injEq, reduceCtorEq, and_false, and_true,
    false_or, List.mem_nil_iff, or_false] at hMem
  exact ⟨hMem, parseAdd_package hAdd, apt_named_of_parseAdd_package rfl hAdd⟩

/-- `Parse` never invents a package: every package command of every stage it returns is made of
an `ADD` line of the Dockerfile with a word naming `apt`, and holds that line's arguments, name
and code. -/
theorem parse_packages (hs : Externals) (ast : Node) (stages : List Stage)
    (metaArgs : List ArgCommand) (h : (parse hs ast).outcome = .ok (stages, metaArgs)) :
    ∀ s ∈ stages, ∀ c, Command.package c ∈ s.commands →
      ∃ node ∈ ast.children, toLower node.value = "add".toList ∧
        c = ⟨newWithNameAndCode (newParseRequestFromNode node), nodeArgs node⟩ ∧
        ∃ w ∈ node.flags, (w.drop 2).takeWhile (· ≠ '=') = "apt".toList := by
  intro s hStage c hc
  have hMem : Instruction.command (.package c) ∈ layout metaArgs stages :=
    List.mem_append_right _ (List.mem_flatMap.mpr
      ⟨s, hStage, List.mem_cons_of_mem _ (List.mem_map_of_mem _ hc)⟩)
  obtain ⟨node, hNode, hParse⟩ := ((parse_ok_iff ast stages metaArgs).mp h).exists_node hMem
  exact ⟨node, hNode, package_of_node hParse⟩

theorem parse_packages_nginx :
    let fromNode : Node := ⟨"FROM".toList, some ⟨"debian".toList, none, [], [], [], [], [], 1, 1, []⟩,
      [], [], [], "FROM debian".toList, [], 1, 1, []⟩
    let addNode : Node := ⟨"ADD".toList, some ⟨"nginx".toList, none, [], [], [], [], [], 2, 2, []⟩,
      [], [], [], "ADD --apt nginx".toList, ["--apt".toList], 2, 2, []⟩
    let ast : Node := ⟨[], none, [fromNode, addNode], [], [], [], [], 0, 0, []⟩
    let stage : Stage := ⟨[], [.package ⟨newWithNameAndCode (newParseRequestFromNode addNode),
      ["nginx".toList]⟩], "debian".toList, "FROM debian".toList, [], [⟨⟨1, 0⟩, ⟨1, 0⟩⟩], [],
      "FROM".toList⟩
    (parse ⟨fun _ => none, id, .networkOnly⟩ ast).outcome = .ok ([stage], []) ∧
      ∀ s ∈ [stage], ∀ c, Command.package c ∈ s.commands →
        ∃ node ∈ ast.children, toLower node.value = "add".toList ∧
          c = ⟨newWithNameAndCode (newParseRequestFromNode node), nodeArgs node⟩ ∧
          ∃ w ∈ node.flags, (w.drop 2).takeWhile (· ≠ '=') = "apt".toList := by
  intro fromNode addNode ast stage
  have h : (parse ⟨fun _ => none, id, .networkOnly⟩ ast).outcome = .ok ([stage], []) := by decide
  exact ⟨h, parse_packages _ _ _ _ h⟩

@[simp] theorem prefixCommand_state (d : DispatchState) (str : List Char) :
    (prefixCommand d str).2.state = d.state := by
  unfold prefixCommand; split <;> rfl

@[simp] theorem prefixCommand_image (d : DispatchState) (str : List Char) :
    (prefixCommand d str).2.image = d.image := by
  unfold prefixCommand; split <;> rfl

end DockerfileFrontend.Package
