import DockerfileFrontend.Go.Basic

/-! # The LLB graph the package steps build

BuildKit's `llb` client library is not part of this repository. What the package steps need
of it is the graph its constructors build: a state records the operation that made it and the
options it was given, so that which state an `Exec` runs over, which mounts it carries, or
which checksum an HTTP source asks for can be read off the value. Marshalling and solving the
graph are the build engine's work, outside this model.
-/

namespace DockerfileFrontend.Llb

open Go

inductive CacheMountSharingMode where
  | shared
  | «private»
  | locked
deriving DecidableEq, Repr

inductive MountOption where
  | asPersistentCacheDir (id : List Char) (sharing : CacheMountSharingMode)
  | sourcePath (src : List Char)
deriving DecidableEq, Repr

inductive ConstraintsOpt where
  | withDescription (key value : List Char)
  | location (ranges : List Range)
  | withCustomName (name : List Char)
  | ignoreCache
deriving DecidableEq, Repr

inductive HTTPOption where
  | filename (name : List Char)
  | checksum (dgst : List Char)
deriving DecidableEq, Repr

structure CopyInfo where
  mode : Option Nat
  createDestPath : Bool
deriving DecidableEq, Repr

mutual

/-- Modelled from the spec: `llb.State`, as the operation that produced it. -/
inductive State where
  /-- A source the stage started from (an image, the build context, scratch). -/
  | source (identifier : List Char)
  /-- `llb.HTTP`. -/
  | http (url : List Char) (opts : List HTTPOption)
  /-- `state.Run(opts...).Root()`. -/
  | exec (root : State) (opts : List RunOption)
  /-- `state.File(action, opts...)`; Go's nil action is `none`. -/
  | file (base : State) (action : Option FileAction) (opts : List ConstraintsOpt)

/-- Modelled from the spec: `llb.RunOption`, with the mount and constraint options the package
steps pass. -/
inductive RunOption where
  | addEnv (key value : List Char)
  | args (a : List (List Char))
  | constraint (c : ConstraintsOpt)
  | addMount (target : List Char) (source : State) (opts : List MountOption)

/-- Modelled from the spec: `llb.FileAction`, a chain of copies: `llb.Copy` starts one (`prev =
none`) and `(*FileAction).Copy` appends one to `prev`. -/
inductive FileAction where
  | copy (prev : Option FileAction) (input : State) (src dest : List Char) (info : CopyInfo)

end

def copy (input : State) (src dest : List Char) (info : CopyInfo) : FileAction :=
  .copy none input src dest info

/-- Modelled from the spec: `digest.NewDigestFromEncoded`, the algorithm and the encoded part,
joined by a colon and not checked. -/
def newDigestFromEncoded (alg encoded : List Char) : List Char := alg ++ ':' :: encoded

def sha256 : List Char := "sha256".toList

def FileAction.copies : FileAction → List (State × List Char × List Char × CopyInfo)
  | .copy none input src dest info => [(input, src, dest, info)]
  | .copy (some prev) input src dest info => prev.copies ++ [(input, src, dest, info)]

def HTTPOption.checksum? : HTTPOption → Option (List Char)
  | .checksum dgst => some dgst
  | .filename _ => none

mutual

/-- Every checksum an HTTP source of the graph asks for, in graph order. -/
def State.checksums : State → List (List Char)
  | .source _ => []
  | .http _ opts => opts.filterMap HTTPOption.checksum?
  | .exec root opts => root.checksums ++ RunOption.listChecksums opts
  | .file base none _ => base.checksums
  | .file base (some action) _ => base.checksums ++ action.checksums

def RunOption.listChecksums : List RunOption → List (List Char)
  | [] => []
  | .addMount _ source _ :: opts => source.checksums ++ RunOption.listChecksums opts
  | _ :: opts => RunOption.listChecksums opts

def FileAction.checksums : FileAction → List (List Char)
  | .copy none input _ _ _ => input.checksums
  | .copy (some prev) input _ _ _ => prev.checksums ++ input.checksums

end

theorem FileAction.checksums_eq_copies :
    (a : FileAction) → a.checksums = a.copies.flatMap fun c => c.1.checksums
  | .copy none input _ _ _ => by simp [FileAction.checksums, FileAction.copies]
  | .copy (some p) input _ _ _ => by
    simp [FileAction.checksums, FileAction.copies, FileAction.checksums_eq_copies p]

end DockerfileFrontend.Llb
