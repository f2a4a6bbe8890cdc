import AiopsBundler.AiOp
import AiopsBundler.Modules.Context
import AiopsBundler.Modules.Transaction
import AiopsBundler.Modules.Builder
import AiopsBundler.Modules.Relay
import AiopsBundler.Gas.Overhead
import AiopsBundler.Gas.PackCost
import AiopsBundler.Modules.GasLimit
import AiopsBundler.Entities.Reputation
import AiopsBundler.Client.Ingress
import AiopsBundler.Simulation.StorageSlots
import AiopsBundler.Simulation.EntitySlots
import AiopsBundler.Simulation.TraceValidation
import AiopsBundler.Simulation.TraceVerdict
import AiopsBundler.Config.EnvParsing
import AiopsBundler.Bundler.Process
import AiopsBundler.Checks.OpValues
import AiopsBundler.Gas.Pvg
import AiopsBundler.Bundler.Driver
