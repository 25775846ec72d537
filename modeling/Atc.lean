import Atc.Remote.Prog
import Atc.Go.Stdlib
import Atc.Db.Sql
import Atc.Worker.Pool
import Atc.Worker.Client
import Atc.Exec.Types
import Atc.Exec.StreamFile
import Atc.Exec.CreateContainer
import Atc.Exec.Retry
import Atc.Exec.Affinity
import Atc.Exec.Release
import Atc.Exec.TaskStep
import Atc.Exec.Outputs
import Atc.Exec.Inputs
import Atc.Exec.ImageResources
import Atc.Exec.Restart
import Atc.Api.JobServer
