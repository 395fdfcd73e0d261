import Ptvsd.JsonStream
import Ptvsd.Machine
import Ptvsd.Packet
import Ptvsd.HandlerQueue
import Ptvsd.Channel
import Ptvsd.Transition
import Ptvsd.Handlers
import Ptvsd.Sequence
import Ptvsd.Requests
import Ptvsd.Disconnect
import Ptvsd.Program
import Ptvsd.Component
import Ptvsd.Event
import Ptvsd.Servers
import Ptvsd.Sessions
import Ptvsd.Progress
import Ptvsd.Adapter
import Ptvsd.Ownership
import Ptvsd.Subprocesses
import Ptvsd.Authentication
import Ptvsd.Arguments
import Ptvsd.IDE
import Ptvsd.Dispatch
import Ptvsd.Frames
import Ptvsd.Starts
import Ptvsd.Configuration
import Ptvsd.IDERuns
import Ptvsd.ConfigurationDone
import Ptvsd.Attach
import Ptvsd.Initialize
import Ptvsd.Lifetime
import Ptvsd.Registration
import Ptvsd.EndOfStream
import Ptvsd.Writing
import Ptvsd.Association
import Ptvsd.Sending
import Ptvsd.Waiting
import Ptvsd.Closing
import Ptvsd.Accepting
import Ptvsd.LockUsage
import Ptvsd.Relay
import Ptvsd.Validators
import Ptvsd.PropertyLookup
import Ptvsd.CommandLine
import Ptvsd.LaunchRequest
import Ptvsd.LaunchAcceptance
import Ptvsd.Defaults
import Ptvsd.ServerApi
import Ptvsd.CaptureOutput
import Ptvsd.PythonSyntax
import Ptvsd.PythonSemantics
import Ptvsd.AttachPid
import Ptvsd.Injection
import Ptvsd.Idempotence
import Ptvsd.ErrorEquality
import Ptvsd.Tracing
import Ptvsd.Monitor
import Ptvsd.WatchedSession
import Ptvsd.Delegation
import Ptvsd.OutputOrder
import Ptvsd.ChildProcesses
import Ptvsd.Descendants
import Ptvsd.CodeObjects
import Ptvsd.LineTable
