import DockerfileFrontend.Package.Llb
import DockerfileFrontend.Package.ParseURIs
import DockerfileFrontend.Instructions.Commands

/-! # `ADD --apt`: the three package steps

`PackageInvocation.Dispatch` emits three `Exec`s and one `File` operation. Phase 1 runs
`apt-get update` over the stage root with a shared cache mount; phase 2 runs
`apt-get install --print-uris` over phase 1, has the engine solve it and reads the listing back;
phase 3a copies every listed download from its HTTP source into phase 2's output; phase 3b runs
`apt-get install --no-download` over the original root with phase 3a mounted. Only the last
step is a real layer, and only it replaces the stage root.

Go's `*dispatchState`, which `Run` and `Dispatch` update in place, is passed explicitly here and
comes back with the result. The build client and the engine that `ReadFile` calls are an
`Engine`, a record of what they answer.

The results go from one step and the names `NewPackageInvocation` gives the three, through the
copies and checksums of `DownloadFiles`, to what `Dispatch` leaves when it succeeds or fails.
-/

namespace DockerfileFrontend.Package

open Go Llb Instructions

/-- Modelled from the spec: an image history entry, with its created-by string, its comment,
its empty-layer flag and its epoch timestamp. -/
structure History where
  createdBy : List Char
  comment : List Char
  emptyLayer : Bool
  created : Option Nat
deriving DecidableEq, Repr

/-- Modelled from the spec: the parts of the image config the package steps read or write, the
operating system and shell that run a script and the history. -/
structure Image where
  os : List Char
  shell : List (List Char)
  history : List History
deriving DecidableEq, Repr

/-- Modelled from the spec: the parts of `dispatchState` the package steps read or write. -/
structure DispatchState where
  state : State
  image : Image
  ignoreCache : Bool
  epoch : Option Nat
  stageName : List Char
  cmdIndex : Nat
  cmdTotal : Nat

/-- Modelled from the spec: `prefixCommand` numbers a step `[stage i/n] ` when the build counts
its steps, and each call counts one more step. -/
def prefixCommand (d : DispatchState) (str : List Char) : List Char × DispatchState :=
  if d.cmdTotal = 0 then (str, d)
  else
    let d := { d with cmdIndex := d.cmdIndex + 1 }
    let stage := if d.stageName = [] then [] else d.stageName ++ [' ']
    let index := decimal d.cmdIndex
    let total := decimal d.cmdTotal
    ('[' :: stage ++ List.replicate (total.length - index.length) ' ' ++ index ++ '/' :: total ++
      "] ".toList ++ str, d)

/-- Modelled from the spec: the comment of every history entry the frontend writes. -/
def historyComment : List Char := "buildkit.dockerfile.v0".toList

/-- Modelled from the spec: `commitToHistory` appends a step's history entry; the entry of a
step that built a state is marked ` # buildkit`, and a step without a layer is an empty layer. -/
def commitToHistory (img : Image) (msg : List Char) (withLayer : Bool) (st : Option State)
    (tm : Option Nat) : Image :=
  let msg := if st.isSome then msg ++ " # buildkit".toList else msg
  { img with history := img.history ++ [⟨msg, historyComment, !withLayer, tm⟩] }

/-- Modelled from the spec: the shell of an image that sets none. -/
def defaultShell (os : List Char) : List (List Char) :=
  if os = "windows".toList then ["cmd".toList, "/S".toList, "/C".toList]
  else ["/bin/sh".toList, "-c".toList]

/-- Modelled from the spec: `withShell` runs the arguments, joined by spaces, with the image's
shell. -/
def withShell (img : Image) (args : List (List Char)) : List (List Char) :=
  (if img.shell ≠ [] then img.shell else defaultShell img.os) ++ [join args [' ']]

/-- Modelled from the spec: `dfCmd` describes a step by its instruction's source text. -/
def dfCmd (cmd : PackageCommand) : ConstraintsOpt :=
  .withDescription "com.docker.dockerfile.v1.command".toList cmd.withNameAndCode.code

def aptions : List Char :=
  join ["--option Acquire::ForceHash=sha256".toList, "--option Acquire::GzipIndexes=false".toList,
    "--option Dir::Cache=/btidor.syntax/cache".toList,
    "--option Dir::Cache::archives=archives/".toList,
    "--option Dir::State=/btidor.syntax/state".toList, "--option Dir::State::lists=lists/".toList,
    "--yes".toList, "--quiet".toList] [' ']

structure PackageInvocation where
  cmd : PackageCommand
  updateStage : List Char
  downloadStage : List Char
  installStage : List Char

def newPackageInvocation (d : DispatchState) (c : PackageCommand) :
    PackageInvocation × DispatchState :=
  let name (stage : List Char) (d : DispatchState) : List Char × DispatchState :=
    prefixCommand d ("ADD (apt ".toList ++ stage ++ ") ".toList ++ join c.packageNames [' '])
  let (update, d) := name "update".toList d
  let (download, d) := name "download".toList d
  let (install, d) := name "install".toList d
  (⟨c, update, download, install⟩, d)

def PackageInvocation.runOptions (i : PackageInvocation) (d : DispatchState)
    (stageName : List Char) (script : List (List Char)) : List RunOption :=
  let opts : List RunOption := [.addEnv "DEBIAN_FRONTEND".toList "noninteractive".toList,
    .constraint (dfCmd i.cmd), .constraint (.location i.cmd.withNameAndCode.location),
    .constraint (.withCustomName stageName), .args (withShell d.image [join script " && ".toList])]
  if d.ignoreCache then opts ++ [.constraint .ignoreCache] else opts

def PackageInvocation.run (i : PackageInvocation) (d : DispatchState) (state : State)
    (stageName : List Char) (withLayer : Bool) (script : List (List Char))
    (extra : List RunOption) : State × DispatchState :=
  let next := State.exec state (i.runOptions d stageName script ++ extra)
  (next, { d with image := commitToHistory d.image stageName withLayer (some next) d.epoch })

/-- Modelled from the spec: what `ReadFile` asks of the outside: the build context from the
build client, the marshalled definition of a state, and the engine's solve of it, whose single
result reads a file. -/
structure Engine where
  mainContext : Except GoError Unit
  marshal : State → Except GoError Unit
  solve : State → Except GoError (List Char → Except GoError (List Char))

def PackageInvocation.readFile (engine : Engine) (state : State) (path : List Char) :
    Except GoError (List Char) := do
  engine.mainContext
  (engine.marshal state).mapError fun err => .wrap err "failed to marshal LLB definition"
  let ref ← engine.solve state
  ref path

def downloadStep (destination : List Char) (copyOpt : CopyInfo) (action : Option FileAction)
    (file : PackageDownload) : Option FileAction :=
  let httpOpts := [HTTPOption.filename file.filename]
  let httpOpts := if file.sha256 ≠ [] then
      httpOpts ++ [.checksum (newDigestFromEncoded Llb.sha256 file.sha256)]
    else httpOpts
  let http := State.http file.uri httpOpts
  match action with
  | none => some (copy http file.filename destination copyOpt)
  | some action => some (.copy (some action) http file.filename destination copyOpt)

def PackageInvocation.downloadFiles (i : PackageInvocation) (base : State)
    (files : List PackageDownload) (destination : List Char) : State :=
  let copyOpt : CopyInfo := ⟨some 0o644, true⟩
  let action := files.foldl (downloadStep destination copyOpt) none
  .file base action [dfCmd i.cmd, .location i.cmd.withNameAndCode.location,
    .withCustomName "COPY (apt packages)".toList]

def PackageInvocation.dispatch (i : PackageInvocation) (engine : Engine) (d : DispatchState) :
    DispatchState × Except GoError Unit :=
  let (tmp, d) := i.run d d.state i.updateStage false
    ["mkdir -p /btidor.syntax/state/lists/partial".toList, "apt-get update ".toList ++ aptions,
      "cp -r /btidor.syntax/state /btidor.syntax/backup".toList]
    [.addMount "/btidor.syntax/state".toList d.state
      [.asPersistentCacheDir "btidor.syntax".toList .shared]]
  let (tmp, d) := i.run d tmp i.downloadStage false
    ["mv /btidor.syntax/backup /btidor.syntax/state".toList,
      "apt-get install -qq --print-uris ".toList ++ aptions ++ ' ' :: join i.cmd.packageNames [' '] ++
        " > /btidor.syntax/install".toList] []
  match PackageInvocation.readFile engine tmp "/btidor.syntax/install".toList with
  | .error err => (d, .error err)
  | .ok data =>
    match PackageInvocation.parseURIs data with
    | .error err => (d, .error err)
    | .ok uris =>
      let tmp := i.downloadFiles tmp uris "/btidor.syntax/cache/archives/".toList
      let (state, d) := i.run d d.state i.installStage true
        ["apt-get install --no-download ".toList ++ aptions ++ ' ' :: join i.cmd.packageNames [' ']]
        [.addMount "/btidor.syntax".toList tmp [.sourcePath "/btidor.syntax".toList]]
      ({ d with state := state }, .ok ())

section Steps

variable (i : PackageInvocation) (d : DispatchState)

@[simp] theorem withShell_history (img : Image) (history : List History)
    (args : List (List Char)) :
    withShell { img with history := history } args = withShell img args :=
  rfl

@[simp] theorem runOptions_history (history : List History) (stageName : List Char)
    (script : List (List Char)) :
    i.runOptions { d with image := { d.image with history := history } } stageName script =
      i.runOptions d stageName script :=
  rfl

@[simp] theorem run_eq (state : State) (stageName : List Char) (withLayer : Bool)
    (script : List (List Char)) (extra : List RunOption) :
    i.run d state stageName withLayer script extra =
      (.exec state (i.runOptions d stageName script ++ extra),
        { d with image := { d.image with history := d.image.history ++
          [⟨stageName ++ " # buildkit".toList, historyComment, !withLayer, d.epoch⟩] } }) :=
  rfl

end Steps

theorem prefixCommand_spec (d : DispatchState) (str : List Char) :
    ∃ p, (prefixCommand d str).1 = p ++ str ∧ (d.cmdTotal = 0 → p = []) ∧
      (prefixCommand d str).2 =
        { d with cmdIndex := if d.cmdTotal = 0 then d.cmdIndex else d.cmdIndex + 1 } := by
  by_cases h : d.cmdTotal = 0
  · exact ⟨[], by simp [prefixCommand, h], fun _ => rfl, by simp only [prefixCommand, if_pos h]⟩
  · refine ⟨'[' :: (if d.stageName = [] then [] else d.stageName ++ [' ']) ++
      List.replicate ((decimal d.cmdTotal).length - (decimal (d.cmdIndex + 1)).length) ' ' ++
      decimal (d.cmdIndex + 1) ++ '/' :: decimal d.cmdTotal ++ "] ".toList, ?_, fun h' => absurd h' h, ?_⟩ <;>
      simp [prefixCommand, h]

theorem stepNumber_eq (pad n rest : List Char) (hPad : ∀ c ∈ pad, c = ' ') (hNe : n ≠ [])
    (hDigits : ∀ c ∈ n, isDigit c) :
    ((pad ++ (n ++ '/' :: rest)).dropWhile (· = ' ')).takeWhile isDigit = n := by
  obtain ⟨d, ds, rfl⟩ := List.exists_cons_of_ne_nil hNe
  have hd : d ≠ ' ' := fun h => by simpa [h, isDigit] using hDigits d (List.mem_cons_self _ _)
  rw [List.dropWhile_append_of_pos (by simpa using hPad), List.cons_append, List.dropWhile_cons,
    if_neg (by simpa using hd), ← List.cons_append, List.takeWhile_append_of_pos hDigits]
  simp [isDigit]

theorem prefixCommand_fst_ne {d e : DispatchState} (s t : List Char)
    (hTotal : d.cmdTotal = e.cmdTotal) (hStage : d.stageName = e.stageName)
    (hCount : d.cmdTotal ≠ 0) (hIndex : d.cmdIndex ≠ e.cmdIndex) :
    (prefixCommand d s).1 ≠ (prefixCommand e t).1 := by
  intro h
  simp only [prefixCommand, hCount, ← hTotal, hStage, if_false, List.cons_append,
    List.append_assoc, List.cons.injEq, true_and, List.append_cancel_left_eq] at h
  have hNumber := congrArg (fun l => (l.dropWhile (· = ' ')).takeWhile isDigit) h
  obtain ⟨hNe₁, hDigits₁, hValue₁⟩ := decimal_spec (d.cmdIndex + 1)
  obtain ⟨hNe₂, hDigits₂, hValue₂⟩ := decimal_spec (e.cmdIndex + 1)
  simp only [stepNumber_eq _ _ _ (fun c hc => (List.mem_replicate.mp hc).2) hNe₁ hDigits₁,
    stepNumber_eq _ _ _ (fun c hc => (List.mem_replicate.mp hc).2) hNe₂ hDigits₂] at hNumber
  have := congrArg digitsValue hNumber
  rw [hValue₁, hValue₂] at this
  omega

theorem aptStep_ne (w w' packages : List Char) (hw : w ≠ []) (hw' : w' ≠ [])
    (h : w.head? ≠ w'.head?) :
    "ADD (apt ".toList ++ w ++ ") ".toList ++ packages ≠
      "ADD (apt ".toList ++ w' ++ ") ".toList ++ packages := by
  obtain ⟨a, u, rfl⟩ := List.exists_cons_of_ne_nil hw
  obtain ⟨b, u', rfl⟩ := List.exists_cons_of_ne_nil hw'
  have h9 : ∀ x v, ("ADD (apt ".toList ++ x :: v ++ ") ".toList ++ packages)[9]? = some x := by
    intro x v
    rw [List.append_assoc, List.append_assoc, List.getElem?_append_right (by simp)]
    simp
  intro hEq
  have hLetter := congrArg (fun l => l[9]?) hEq
  simp only [h9, Option.some.injEq] at hLetter
  exact h (by simp [hLetter])

theorem newPackageInvocation_steps (d : DispatchState) (c : PackageCommand) :
    (newPackageInvocation d c).1.cmd = c ∧
      (newPackageInvocation d c).2 =
        { d with cmdIndex := if d.cmdTotal = 0 then d.cmdIndex else d.cmdIndex + 3 } ∧
      (∃ p₁ p₂ p₃,
        (newPackageInvocation d c).1.updateStage =
          p₁ ++ "ADD (apt update) ".toList ++ join c.packageNames [' '] ∧
        (newPackageInvocation d c).1.downloadStage =
          p₂ ++ "ADD (apt download) ".toList ++ join c.packageNames [' '] ∧
        (newPackageInvocation d c).1.installStage =
          p₃ ++ "ADD (apt install) ".toList ++ join c.packageNames [' '] ∧
        (d.cmdTotal = 0 → p₁ = [] ∧ p₂ = [] ∧ p₃ = [])) ∧
      (newPackageInvocation d c).1.updateStage ≠ (newPackageInvocation d c).1.downloadStage ∧
      (newPackageInvocation d c).1.updateStage ≠ (newPackageInvocation d c).1.installStage ∧
      (newPackageInvocation d c).1.downloadStage ≠ (newPackageInvocation d c).1.installStage := by
  set s₁ := "ADD (apt ".toList ++ "update".toList ++ ") ".toList ++ join c.packageNames [' ']
  set s₂ := "ADD (apt ".toList ++ "download".toList ++ ") ".toList ++ join c.packageNames [' ']
  set s₃ := "ADD (apt ".toList ++ "install".toList ++ ") ".toList ++ join c.packageNames [' ']
  have hInv : newPackageInvocation d c = (⟨c, (prefixCommand d s₁).1,
      (prefixCommand (prefixCommand d s₁).2 s₂).1,
      (prefixCommand (prefixCommand (prefixCommand d s₁).2 s₂).2 s₃).1⟩,
      (prefixCommand (prefixCommand (prefixCommand d s₁).2 s₂).2 s₃).2) := rfl
  obtain ⟨p₁, h₁, hp₁, hd₁⟩ := prefixCommand_spec d s₁
  obtain ⟨p₂, h₂, hp₂, hd₂⟩ := prefixCommand_spec (prefixCommand d s₁).2 s₂
  obtain ⟨p₃, h₃, hp₃, hd₃⟩ := prefixCommand_spec (prefixCommand (prefixCommand d s₁).2 s₂).2 s₃
  rw [hInv]
  dsimp only
  rw [hd₁] at h₂ hp₂ hd₂ h₃ hp₃ hd₃ ⊢
  rw [hd₂] at h₃ hp₃ hd₃ ⊢
  rw [hd₃]
  by_cases hTotal : d.cmdTotal = 0
  · obtain rfl := hp₁ hTotal
    obtain rfl := hp₂ hTotal
    obtain rfl := hp₃ hTotal
    rw [h₁, h₂, h₃]
    refine ⟨rfl, by simp [hTotal], ⟨[], [], [], by simp [s₁], by simp [s₂], by simp [s₃],
      fun _ => ⟨rfl, rfl, rfl⟩⟩, ?_, ?_, ?_⟩ <;>
      exact aptStep_ne _ _ _ (by simp) (by simp) (by simp)
  · refine ⟨rfl, by simp [hTotal, Nat.add_assoc], ⟨p₁, p₂, p₃, by rw [h₁]; simp [s₁],
      by rw [h₂]; simp [s₂], by rw [h₃]; simp [s₃], fun h => absurd h hTotal⟩, ?_, ?_, ?_⟩ <;>
      exact prefixCommand_fst_ne _ _ rfl rfl hTotal (by simp only [hTotal, if_false]; omega)

/-- The copy of one download that the spec describes: from the HTTP source for its URI, built
with its file name and, when its hash is not empty, the checksum `sha256:` and the hash, to the
destination. -/
def PackageDownload.httpCopy (destination : List Char) (info : CopyInfo) (f : PackageDownload) :
    State × List Char × List Char × CopyInfo :=
  (.http f.uri (.filename f.filename ::
      if f.sha256 = [] then [] else [.checksum ("sha256:".toList ++ f.sha256)]),
    f.filename, destination, info)

theorem downloadStep_copies (destination : List Char) (info : CopyInfo)
    (action : Option FileAction) (f : PackageDownload) :
    ∃ a, downloadStep destination info action f = some a ∧
      a.copies = (action.map FileAction.copies).getD [] ++ [f.httpCopy destination info] := by
  by_cases hSha : f.sha256 = [] <;>
    cases action <;> simp [downloadStep, copy, FileAction.copies, PackageDownload.httpCopy,
      newDigestFromEncoded, Llb.sha256, hSha]

theorem foldl_downloadStep (destination : List Char) (info : CopyInfo) (files : List PackageDownload)
    (acc : Option FileAction) :
    ((files.foldl (downloadStep destination info) acc).map FileAction.copies).getD [] =
        (acc.map FileAction.copies).getD [] ++ files.map (PackageDownload.httpCopy destination info) ∧
      ((files.foldl (downloadStep destination info) acc).isSome ↔ acc.isSome ∨ files ≠ []) := by
  induction files generalizing acc with
  | nil => simp
  | cons f files ih =>
    obtain ⟨a, hStep, hCopies⟩ := downloadStep_copies destination info acc f
    simp [List.foldl_cons, hStep, ih, hCopies]

theorem downloadFiles_eq (i : PackageInvocation) (base : State) (files : List PackageDownload)
    (destination : List Char) :
    ∃ action : Option FileAction,
      i.downloadFiles base files destination = .file base action [dfCmd i.cmd,
        .location i.cmd.withNameAndCode.location, .withCustomName "COPY (apt packages)".toList] ∧
      (action.isSome ↔ files ≠ []) ∧
      (action.map FileAction.copies).getD [] =
        files.map (PackageDownload.httpCopy destination ⟨some 0o644, true⟩) := by
  obtain ⟨hCopies, hSome⟩ := foldl_downloadStep destination ⟨some 0o644, true⟩ files none
  exact ⟨_, rfl, by simpa using hSome, by simpa using hCopies⟩

/-- For a non-empty list of downloads, `DownloadFiles` extends its base by one `File` operation
whose chain has one copy per download, in order: from the HTTP source for the URI, built with
the file name and, exactly when the hash is not empty, the checksum `sha256:` and the hash, into
the destination with mode `0644`, creating the destination path. -/
theorem downloadFiles_copies_in_order (i : PackageInvocation) (base : State)
    (files : List PackageDownload) (destination : List Char) (hFiles : files ≠ []) :
    ∃ action : FileAction,
      i.downloadFiles base files destination = .file base (some action) [dfCmd i.cmd,
        .location i.cmd.withNameAndCode.location, .withCustomName "COPY (apt packages)".toList] ∧
      action.copies = files.map fun f =>
        (.http f.uri (.filename f.filename ::
            if f.sha256 = [] then [] else [.checksum ("sha256:".toList ++ f.sha256)]),
          f.filename, destination, ⟨some 0o644, true⟩) := by
  obtain ⟨action, hEq, hSome, hCopies⟩ := downloadFiles_eq i base files destination
  obtain ⟨a, rfl⟩ := Option.isSome_iff_exists.mp (hSome.mpr hFiles)
  exact ⟨a, hEq, hCopies⟩

theorem downloadFiles_copies_two :
    [(⟨"u1".toList, "a.deb".toList, 1, "ab".toList⟩ : PackageDownload),
        ⟨"u2".toList, "b.deb".toList, 2, []⟩] ≠ [] ∧
      ∃ action : FileAction,
        (⟨⟨⟨[], [], []⟩, []⟩, [], [], []⟩ : PackageInvocation).downloadFiles (.source [])
            [⟨"u1".toList, "a.deb".toList, 1, "ab".toList⟩, ⟨"u2".toList, "b.deb".toList, 2, []⟩]
            "/d/".toList =
          .file (.source []) (some action) [.withDescription
            "com.docker.dockerfile.v1.command".toList [], .location [],
            .withCustomName "COPY (apt packages)".toList] ∧
        action.copies =
          [(.http "u1".toList [.filename "a.deb".toList, .checksum "sha256:ab".toList],
              "a.deb".toList, "/d/".toList, ⟨some 0o644, true⟩),
            (.http "u2".toList [.filename "b.deb".toList], "b.deb".toList, "/d/".toList,
              ⟨some 0o644, true⟩)] := by
  refine ⟨by simp, ?_⟩
  simpa using downloadFiles_copies_in_order ⟨⟨⟨[], [], []⟩, []⟩, [], [], []⟩ (.source [])
    [⟨"u1".toList, "a.deb".toList, 1, "ab".toList⟩, ⟨"u2".toList, "b.deb".toList, 2, []⟩]
    "/d/".toList (by simp)

@[simp] theorem checksums_httpCopy (destination : List Char) (info : CopyInfo) (f : PackageDownload) :
    (f.httpCopy destination info).1.checksums =
      if f.sha256 = [] then [] else ["sha256:".toList ++ f.sha256] := by
  by_cases hSha : f.sha256 = [] <;>
    simp [PackageDownload.httpCopy, State.checksums, HTTPOption.checksum?, hSha]

theorem downloadFiles_checksums (i : PackageInvocation) (base : State)
    (files : List PackageDownload) (destination : List Char) :
    (i.downloadFiles base files destination).checksums = base.checksums ++
      files.flatMap fun f => if f.sha256 = [] then [] else ["sha256:".toList ++ f.sha256] := by
  obtain ⟨action, hEq, -, hCopies⟩ := downloadFiles_eq i base files destination
  rw [hEq]
  cases action with
  | none => simp_all [State.checksums]
  | some a =>
    simp only [Option.map_some', Option.getD_some] at hCopies
    simp only [State.checksums, FileAction.checksums_eq_copies, hCopies, List.flatMap_map]
    congr 2
    funext f
    exact checksums_httpCopy destination ⟨some 0o644, true⟩ f

/-- On a listing that `ParseURIs` reads, every checksum `DownloadFiles` attaches to an HTTP
source is `sha256:` and the hash of its download, which is a non-empty string of hexadecimal
digits of any length and either case; nothing checks it further. -/
theorem downloadFiles_checksums_hex (i : PackageInvocation) (base : State) (listing : List Char)
    (files : List PackageDownload) (destination : List Char)
    (hParse : PackageInvocation.parseURIs listing = .ok files) :
    ∀ dgst ∈ (i.downloadFiles base files destination).checksums, dgst ∈ base.checksums ∨
      ∃ f ∈ files, dgst = "sha256:".toList ++ f.sha256 ∧ f.sha256 ≠ [] ∧
        ∀ c ∈ f.sha256, isHexDigit c := by
  intro dgst hMem
  rw [downloadFiles_checksums, List.mem_append, List.mem_flatMap] at hMem
  refine hMem.imp id fun ⟨f, hf, hd⟩ => ⟨f, hf, ?_⟩
  by_cases hSha : f.sha256 = []
  · simp [hSha] at hd
  · simp only [hSha, if_false, List.mem_singleton] at hd
    exact ⟨hd, hSha, parseURIs_sha256_hex listing files hParse f hf⟩

theorem downloadFiles_checksums_hex_one :
    PackageInvocation.parseURIs (quoteChar :: 'u' :: quoteChar :: " f 1 SHA256:aF".toList) =
        .ok [⟨['u'], ['f'], 1, ['a', 'F']⟩] ∧
      ∀ dgst ∈ (⟨⟨⟨[], [], []⟩, []⟩, [], [], []⟩ : PackageInvocation).downloadFiles (.source [])
          [⟨['u'], ['f'], 1, ['a', 'F']⟩] [] |>.checksums,
        dgst ∈ (State.source []).checksums ∨ ∃ f ∈ [(⟨['u'], ['f'], 1, ['a', 'F']⟩ : PackageDownload)],
          dgst = "sha256:".toList ++ f.sha256 ∧ f.sha256 ≠ [] ∧ ∀ c ∈ f.sha256, isHexDigit c := by
  have hParse : PackageInvocation.parseURIs (quoteChar :: 'u' :: quoteChar :: " f 1 SHA256:aF".toList) =
      .ok [⟨['u'], ['f'], 1, ['a', 'F']⟩] := by decide
  exact ⟨hParse, downloadFiles_checksums_hex _ _ _ _ _ hParse⟩

def isSha256Encoded (s : List Char) : Bool :=
  s.length == 64 && s.all fun c => isDigit c || (97 ≤ c.toNat && c.toNat ≤ 102)

/-- A hash of two upper-case digits is read without complaint, and `DownloadFiles` asks for the
checksum `sha256:AB`, whose encoded part is not that of a sha256 digest. -/
theorem parseURIs_short_upper_hash :
    PackageInvocation.parseURIs (quoteChar :: 'u' :: quoteChar :: " f 1 SHA256:AB".toList) =
        .ok [⟨['u'], ['f'], 1, ['A', 'B']⟩] ∧
      (∀ (i : PackageInvocation) (base : State) (destination : List Char),
        "sha256:AB".toList ∈
          (i.downloadFiles base [⟨['u'], ['f'], 1, ['A', 'B']⟩] destination).checksums) ∧
      isSha256Encoded ['A', 'B'] = false := by
  refine ⟨by decide, fun i base destination => ?_, by decide⟩
  simp [downloadFiles_checksums]

def emptyListing : Engine := ⟨.ok (), fun _ => .ok (), fun _ => .ok fun _ => .ok []⟩

theorem dispatch_empty_listing (i : PackageInvocation) (d : DispatchState) :
    (i.dispatch emptyListing d).2 = .ok () ∧
      ∃ p2 opts3 fileOpts, (i.dispatch emptyListing d).1.state = .exec d.state opts3 ∧
        .addMount "/btidor.syntax".toList (.file p2 none fileOpts)
          [.sourcePath "/btidor.syntax".toList] ∈ opts3 := by
  have hRead : ∀ st path, PackageInvocation.readFile emptyListing st path = .ok [] :=
    fun _ _ => rfl
  have hEmpty : PackageInvocation.parseURIs [] = .ok [] := by decide
  simp only [PackageInvocation.dispatch, run_eq, hRead, hEmpty]
  exact ⟨trivial, _, _, _, rfl, List.mem_append_right _ (List.mem_singleton_self _)⟩

end DockerfileFrontend.Package
