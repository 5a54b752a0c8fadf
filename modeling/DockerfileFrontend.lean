import DockerfileFrontend.Go.Unicode
import DockerfileFrontend.Go.Basic
import DockerfileFrontend.Go.Regexp
import DockerfileFrontend.Go.Strconv
import DockerfileFrontend.Package.ParseURIs
import DockerfileFrontend.Package.Accepted
import DockerfileFrontend.Package.Llb
import DockerfileFrontend.Package.Dispatch
import DockerfileFrontend.Package.Flow
import DockerfileFrontend.Instructions.Commands
import DockerfileFrontend.Instructions.BFlags
import DockerfileFrontend.Instructions.Parse
import DockerfileFrontend.Instructions.Run
import DockerfileFrontend.Instructions.Instruction
import DockerfileFrontend.Instructions.NoPanic
import DockerfileFrontend.Instructions.Stages
import DockerfileFrontend.Instructions.From
import DockerfileFrontend.Instructions.Config
import DockerfileFrontend.Instructions.Healthcheck
import DockerfileFrontend.Instructions.Arguments
import DockerfileFrontend.Instructions.Linter
import DockerfileFrontend.Instructions.Flags
