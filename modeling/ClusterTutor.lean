import ClusterTutor.Arguments
import ClusterTutor.Calendar
import ClusterTutor.Catalogue.Basic
import ClusterTutor.Catalogue.Sharing
import ClusterTutor.Catalogue.Source
import ClusterTutor.CommandLine.Basic
import ClusterTutor.CommandLine.Words
import ClusterTutor.Content.Commands
import ClusterTutor.Content.Containers
import ClusterTutor.Content.Diagnostics
import ClusterTutor.Content.Fabric
import ClusterTutor.Content.Families
import ClusterTutor.Content.GpuTools
import ClusterTutor.Content.Hardware
import ClusterTutor.Content.Labs
import ClusterTutor.Content.Machines
import ClusterTutor.Content.Scheduler
import ClusterTutor.Data.Defect
import ClusterTutor.Data.Document
import ClusterTutor.Data.Field
import ClusterTutor.Data.OrderedMap
import ClusterTutor.Data.Value
import ClusterTutor.Definition.Basic
import ClusterTutor.Definition.Reader
import ClusterTutor.Definition.Token
import ClusterTutor.Family
import ClusterTutor.Help
import ClusterTutor.Hint.Basic
import ClusterTutor.Hint.Reveal
import ClusterTutor.Lab
import ClusterTutor.Main
import ClusterTutor.Number.Binary64
import ClusterTutor.Number.Decimal
import ClusterTutor.Number.Magnitude
import ClusterTutor.Number.Numeral
import ClusterTutor.Path
import ClusterTutor.Pattern.Basic
import ClusterTutor.Pattern.Matcher
import ClusterTutor.Pattern.Reader
import ClusterTutor.Privilege
import ClusterTutor.Program
import ClusterTutor.Progress.Store
import ClusterTutor.Progress.Table
import ClusterTutor.Session.Basic
import ClusterTutor.Session.Line
import ClusterTutor.Settings
import ClusterTutor.Shell.Answer
import ClusterTutor.Shell.Page
import ClusterTutor.Shell.Performance
import ClusterTutor.Shell.Screen
import ClusterTutor.Simulation.Engine
import ClusterTutor.Simulation.Invocation
import ClusterTutor.Simulation.State
import ClusterTutor.Text.Blank
import ClusterTutor.Text.Case
import ClusterTutor.Text.CaseTable
import ClusterTutor.Text.Column
import ClusterTutor.Text.Digit
import ClusterTutor.Text.EditDistance
import ClusterTutor.Text.NameSet
import ClusterTutor.Text.Order
import ClusterTutor.Text.Printable
import ClusterTutor.Text.Quoted
import ClusterTutor.Text.Ranges
import ClusterTutor.Text.Search
import ClusterTutor.Text.Suggestion
import ClusterTutor.Text.WordCharacter
import ClusterTutor.Tier.Basic
import ClusterTutor.Tracker
import ClusterTutor.Tutor
import ClusterTutor.Validation
import ClusterTutor.Proofs.Data.Same
import ClusterTutor.Proofs.Engine.Calls
import ClusterTutor.Proofs.Engine.Approval
import ClusterTutor.Proofs.Definition.Reading
import ClusterTutor.Proofs.Definition.Token
import ClusterTutor.Proofs.Engine.Executions
import ClusterTutor.Proofs.Privilege.RootWrites
import ClusterTutor.Proofs.Session.Lines
import ClusterTutor.Proofs.CommandLine.Flags
import ClusterTutor.Proofs.Engine.Delta
import ClusterTutor.Proofs.Session.UndoStack
import ClusterTutor.Proofs.Session.WriteValues
import ClusterTutor.Proofs.Session.WrittenLine
import ClusterTutor.Proofs.Session.Traces
import ClusterTutor.Proofs.Content.Commands
import ClusterTutor.Proofs.Session.WithoutSudo
import ClusterTutor.Proofs.Tier.Rules
import ClusterTutor.Proofs.Tier.Calls
import ClusterTutor.Proofs.Tier.HighWater
import ClusterTutor.Proofs.Definition.Defects
import ClusterTutor.Proofs.Catalogue.Containment
import ClusterTutor.Proofs.Catalogue.Contents
import ClusterTutor.Proofs.Catalogue.Interleaving
import ClusterTutor.Proofs.Session.Steps
import ClusterTutor.Proofs.Session.LabRun
import ClusterTutor.Proofs.Tier.Profiles
import ClusterTutor.Proofs.Shell.Turns
import ClusterTutor.Proofs.Session.Rows
import ClusterTutor.Proofs.Shell.History
import ClusterTutor.Proofs.Shell.TierGates
import ClusterTutor.Proofs.Progress.Calls
import ClusterTutor.Proofs.Progress.Folds
import ClusterTutor.Proofs.Progress.FreshProfiles
import ClusterTutor.Proofs.CommandLine.Words
import ClusterTutor.Proofs.Number.Numeral
import ClusterTutor.Proofs.Session.ShownNumbers
import ClusterTutor.Proofs.Session.Overlong
import ClusterTutor.Proofs.Session.Restart
import ClusterTutor.Proofs.Engine.ExecutionResult
import ClusterTutor.Proofs.Session.LentPrivilege
import ClusterTutor.Proofs.Service.Calls
import ClusterTutor.Proofs.Service.ToolUse
import ClusterTutor.Proofs.Number.DigitLike
import ClusterTutor.Proofs.Content.Labs
import ClusterTutor.Proofs.Shell.Faults
import ClusterTutor.Proofs.Engine.Footprint
import ClusterTutor.Proofs.Engine.Overlays
import ClusterTutor.Proofs.Engine.History
import ClusterTutor.Proofs.CommandLine.Interleaving
import ClusterTutor.Proofs.CommandLine.Pieces
import ClusterTutor.Proofs.CommandLine.AttachedValues
import ClusterTutor.Proofs.Text.Suggestion
import ClusterTutor.Proofs.Definition.Options
import ClusterTutor.Proofs.CommandLine.FlagNames
import ClusterTutor.Proofs.Tier.Progress
import ClusterTutor.Proofs.CommandLine.Scan
import ClusterTutor.Proofs.CommandLine.Cut
import ClusterTutor.Proofs.Session.SameRuns
import ClusterTutor.Proofs.Session.Sudo
import ClusterTutor.Proofs.CommandLine.FlagWords
import ClusterTutor.Proofs.Definition.Offered
import ClusterTutor.Proofs.CommandLine.Renamed
import ClusterTutor.Proofs.Privilege.Spellings
import ClusterTutor.Proofs.Session.Spellings
import ClusterTutor.Proofs.Tier.Requirements
import ClusterTutor.Proofs.Progress.Reviews
import ClusterTutor.Proofs.Calendar.Dates
import ClusterTutor.Proofs.Calendar.TextOrder
import ClusterTutor.Proofs.Progress.DueReviews
import ClusterTutor.Proofs.Hint.NextHint
import ClusterTutor.Proofs.Session.Hints
import ClusterTutor.Proofs.Definition.WellFormed
import ClusterTutor.Proofs.Text.Spacing
import ClusterTutor.Proofs.Tracker.Scores
import ClusterTutor.Proofs.Hint.Reveals
import ClusterTutor.Proofs.Shell.LabFaults
import ClusterTutor.Proofs.Text.EditDistance
import ClusterTutor.Proofs.Data.Document
