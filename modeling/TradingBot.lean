import TradingBot.Native.Position
import TradingBot.Native.Format
import TradingBot.Native.Calculator
import TradingBot.Native.TakeProfit
import TradingBot.Native.Binary64
import TradingBot.Spec.LadderScan
import TradingBot.Spec.LadderRuns
import TradingBot.Spec.LadderOrder
import TradingBot.Native.StopLoss
import TradingBot.Spec.StopLossCalls
import TradingBot.Spec.StopLossUpdate
import TradingBot.Spec.Mirror
import TradingBot.Native.Threads
import TradingBot.Spec.Interleavings
import TradingBot.Spec.Exits
import TradingBot.Spec.StopDistance
import TradingBot.Native.Config
import TradingBot.Spec.Leverage
import TradingBot.Native.EnvFile
import TradingBot.Spec.EnvFile
import TradingBot.Native.Scheduler
import TradingBot.Spec.Scheduler
import TradingBot.Spec.Monitor
import TradingBot.Spec.History
import TradingBot.Spec.AlignedIntervals
import TradingBot.Spec.EnvSave
import TradingBot.Spec.MonitorRuns
import TradingBot.Spec.TradingParams
import TradingBot.Spec.Serial
import TradingBot.Spec.DecimalSettings
import TradingBot.Native.Agents
import TradingBot.Spec.Workflow
